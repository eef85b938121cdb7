import Gameshelf.Proofs.Disk.Basic
import Gameshelf.Proofs.Encoding.Segments
import Gameshelf.Proofs.Path
import Mathlib.Data.Set.List

/-!
Names and the texts that stand for them. The text of a name stands for that name again, whether or not its
bytes are UTF-8 (`bytesOf?_text`), so names with a string for a text are spelled by it
(`text_eq_ofString_iff`), and names that are written with slashes between them stand for their bytes with
slashes between them (`bytesOf?_unitsOf`).
-/

namespace Gameshelf.FileName

open Text Encoding

theorem toNat_halfOfByte (b : UInt8) : (halfOfByte b).toNat = 0xDC00 + b.toNat := by
  have small : b.toNat < 0x100 := b.toNat_lt
  simp only [halfOfByte, UInt16.toNat_add, UInt8.toNat_toUInt16, UInt16.reduceToNat]
  omega

theorem isLowSurrogate_halfOfByte (b : UInt8) : isLowSurrogate (halfOfByte b) = true := by
  have small : b.toNat < 0x100 := b.toNat_lt
  simp only [isLowSurrogate, toNat_halfOfByte, Bool.and_eq_true, decide_eq_true_eq]
  omega

/-- A byte beyond ASCII comes back from its half. -/
theorem byteOfHalf?_halfOfByte {b : UInt8} (high : IsHigh b) : byteOfHalf? (halfOfByte b) = some b := by
  have small : b.toNat < 0x100 := b.toNat_lt
  have within : (0xDC80 ≤ halfOfByte b && halfOfByte b ≤ 0xDCFF) = true := by
    simp only [Bool.and_eq_true, decide_eq_true_eq, UInt16.le_iff_toNat_le, toNat_halfOfByte,
      UInt16.reduceToNat]
    exact ⟨Nat.add_le_add_left high _, by omega⟩
  have back : (halfOfByte b - 0xDC00).toUInt8 = b := by
    rw [halfOfByte, UInt16.add_comm, UInt16.add_sub_cancel]
    exact UInt8.toUInt8_toUInt16 b
  rw [byteOfHalf?, if_pos within, back]

/-- The marks of a segment in the text of a name. -/
def marksOf : Segment → List Mark
  | .scalar c => [.char c]
  | .broken bytes => bytes.map fun b => .half (halfOfByte b)

/-- The marks that the text of a name is written with come back from it. -/
theorem marks_text (name : FileName) : name.text.marks = (segments name.bytes).flatMap marksOf := by
  refine LooseText.marks_ofMarks ?_
  intro unit mem
  obtain ⟨segment, _, mem⟩ := List.mem_flatMap.mp mem
  cases segment with
  | scalar c => cases List.mem_singleton.mp mem
  | broken bytes =>
    obtain ⟨b, _, same⟩ := List.mem_map.mp mem
    cases same
    exact isLowSurrogate_halfOfByte b

section Bytes

/-- The bytes that marks stand for, one mark after the other. -/
def bytesOfMarks? (marks : List Mark) : Option Bytes :=
  (marks.mapM bytesOfMark?).map List.flatten

theorem bytesOfMarks?_append {before after : List Mark} {first second : Bytes}
    (here : bytesOfMarks? before = some first) (there : bytesOfMarks? after = some second) :
    bytesOfMarks? (before ++ after) = some (first ++ second) := by
  obtain ⟨left, leftBytes, rfl⟩ := Option.map_eq_some_iff.mp here
  obtain ⟨right, rightBytes, rfl⟩ := Option.map_eq_some_iff.mp there
  rw [bytesOfMarks?, List.mapM_append, leftBytes, rightBytes]
  exact congrArg some List.flatten_append

/-- Marks stand for bytes only if the first of them do, and the others. -/
theorem bytesOfMarks?_of_append {before after : List Mark} {bytes : Bytes}
    (stands : bytesOfMarks? (before ++ after) = some bytes) :
    ∃ first second, bytesOfMarks? before = some first ∧ bytesOfMarks? after = some second ∧
      bytes = first ++ second := by
  obtain ⟨pieces, read, rfl⟩ := Option.map_eq_some_iff.mp stands
  rw [List.mapM_append] at read
  obtain ⟨first, here, read⟩ := Option.bind_eq_some_iff.mp read
  obtain ⟨second, there, same⟩ := Option.bind_eq_some_iff.mp read
  cases same
  exact ⟨first.flatten, second.flatten, by rw [bytesOfMarks?, here]; rfl, by rw [bytesOfMarks?, there]; rfl,
    List.flatten_append⟩

/-- What the first mark stands for comes first. -/
theorem bytesOfMarks?_cons {mark : Mark} {rest : List Mark} {bytes : Bytes} :
    bytesOfMarks? (mark :: rest) = some bytes ↔
      ∃ piece others, bytesOfMark? mark = some piece ∧ bytesOfMarks? rest = some others ∧
        bytes = piece ++ others := by
  constructor
  · intro stands
    obtain ⟨pieces, read, rfl⟩ := Option.map_eq_some_iff.mp stands
    rw [List.mapM_cons] at read
    obtain ⟨piece, own, read⟩ := Option.bind_eq_some_iff.mp read
    obtain ⟨others, there, same⟩ := Option.bind_eq_some_iff.mp read
    cases same
    exact ⟨piece, others.flatten, own, by rw [bytesOfMarks?, there]; rfl, List.flatten_cons⟩
  · rintro ⟨piece, others, own, there, rfl⟩
    obtain ⟨pieces, read, rfl⟩ := Option.map_eq_some_iff.mp there
    rw [bytesOfMarks?, List.mapM_cons, own, read]
    rfl

/-- Marks stand for bytes only if each of them stands for some of them. -/
theorem bytesOfMark?_of_mem {marks : List Mark} {bytes : Bytes} (stands : bytesOfMarks? marks = some bytes)
    {mark : Mark} (mem : mark ∈ marks) : ∃ piece, bytesOfMark? mark = some piece ∧ piece ⊆ bytes := by
  obtain ⟨before, after, rfl⟩ := List.append_of_mem mem
  obtain ⟨_, rest, _, there, rfl⟩ := bytesOfMarks?_of_append stands
  obtain ⟨piece, others, own, _, rfl⟩ := bytesOfMarks?_cons.mp there
  refine ⟨piece, own, ?_⟩
  simp

/-- Each byte is one of those that some mark stands for. -/
theorem mark_of_mem {marks : List Mark} {bytes : Bytes} (stands : bytesOfMarks? marks = some bytes) {b : UInt8}
    (mem : b ∈ bytes) : ∃ mark ∈ marks, ∃ piece, bytesOfMark? mark = some piece ∧ b ∈ piece := by
  induction marks generalizing bytes with
  | nil =>
    cases stands
    cases mem
  | cons first rest ih =>
    obtain ⟨piece, others, own, there, rfl⟩ := bytesOfMarks?_cons.mp stands
    rcases List.mem_append.mp mem with here | later
    · exact ⟨first, List.mem_cons_self, piece, own, here⟩
    · obtain ⟨mark, listed, found⟩ := ih there later
      exact ⟨mark, List.mem_cons_of_mem _ listed, found⟩

/-- Only halves beyond ASCII stand for bytes, and for such bytes. -/
theorem isHigh_of_half {unit : UInt16} {piece : Bytes} (own : bytesOfMark? (.half unit) = some piece) {b : UInt8}
    (mem : b ∈ piece) : IsHigh b := by
  obtain ⟨byte, back, rfl⟩ := Option.map_eq_some_iff.mp own
  cases List.mem_singleton.mp mem
  unfold byteOfHalf? at back
  split at back
  · next within =>
    cases back
    simp only [Bool.and_eq_true, decide_eq_true_eq, UInt16.le_iff_toNat_le, UInt16.reduceToNat] at within
    simp only [IsHigh, UInt16.toNat_toUInt8, UInt16.toNat_sub, UInt16.reduceToNat]
    omega
  · cases back

theorem bytesOfMarks?_char (c : Char) : bytesOfMarks? [.char c] = some (String.utf8EncodeChar c) :=
  congrArg some (List.append_nil _)

/-- Marks that stand for bytes one by one stand for them together. -/
theorem bytesOfMarks?_flatMap {α : Type} {marks : α → List Mark} {bytes : α → Bytes} {items : List α}
    (each : ∀ item ∈ items, bytesOfMarks? (marks item) = some (bytes item)) :
    bytesOfMarks? (items.flatMap marks) = some (items.flatMap bytes) := by
  induction items with
  | nil => rfl
  | cons item rest ih =>
    obtain ⟨first, others⟩ := List.forall_mem_cons.mp each
    exact bytesOfMarks?_append first (ih others)

/-- The marks of bytes beyond ASCII stand for these bytes. -/
theorem bytesOfMarks?_halves {bytes : Bytes} (high : ∀ b ∈ bytes, IsHigh b) :
    bytesOfMarks? (bytes.map fun b => .half (halfOfByte b)) = some bytes := by
  have each : ∀ b ∈ bytes, bytesOfMarks? [.half (halfOfByte b)] = some [b] := by
    intro b mem
    have back := byteOfHalf?_halfOfByte (high b mem)
    simp [bytesOfMarks?, bytesOfMark?, back]
  simpa [List.flatMap_singleton', ← List.map_eq_flatMap] using bytesOfMarks?_flatMap each

/-- **The text of a name stands for that name.** -/
theorem bytesOf?_text (name : FileName) : bytesOf? name.text = some name.bytes := by
  have each : ∀ segment ∈ segments name.bytes,
      bytesOfMarks? (marksOf segment) = some segment.bytes := by
    intro segment mem
    cases segment with
    | scalar c => exact bytesOfMarks?_char c
    | broken bytes => exact bytesOfMarks?_halves (isBroken_of_mem mem).2
  show bytesOfMarks? name.text.marks = _
  rw [marks_text, bytesOfMarks?_flatMap each, flatMap_bytes_segments]

/-- Names are told apart by their texts. -/
theorem text_injective {a b : FileName} (same : a.text = b.text) : a = b := by
  have bytes : some a.bytes = some b.bytes := by
    rw [← bytesOf?_text, same, bytesOf?_text]
  exact congrArg mk (Option.some.inj bytes)

/-- The text of a name that a string spells is that string. -/
theorem text_ofString (s : String) : (ofString s).text = LooseText.ofString s := by
  apply LooseText.eq_ofString_of_marks
  rw [marks_text, ofString, utf8, segments_encodeUtf8, List.flatMap_map]
  exact List.map_eq_flatMap.symm

/-- A string stands for its bytes. -/
theorem bytesOf?_ofString (s : String) : bytesOf? (LooseText.ofString s) = some (utf8 s) :=
  text_ofString s ▸ bytesOf?_text (ofString s)

/-- Strings spell different names. -/
theorem ofString_injective {a b : String} (same : ofString a = ofString b) : a = b :=
  LooseText.ofString_injective (by rw [← text_ofString, same, text_ofString])

/-- **Strings that spell legal names.** -/
theorem isLegal_ofString {s : String} : (ofString s).IsLegal ↔ Path.IsComponent s.toList := by
  have other (t : String) : utf8 s ≠ utf8 t ↔ s.toList ≠ t.toList := by
    refine not_congr ⟨fun same => ?_, fun same => ?_⟩
    · exact congrArg String.toList (ofString_injective (congrArg mk same))
    · exact congrArg utf8 (String.toList_injective same)
  have slashes : slashByte ∉ utf8 s ↔ '/' ∉ s.toList := not_congr (mem_encodeUtf8 (d := '/') (by decide))
  have nuls : 0 ∉ utf8 s ↔ '\x00' ∉ s.toList := not_congr (mem_encodeUtf8 (d := '\x00') (by decide))
  exact and_congr (other "") (and_congr (other ".") (and_congr (other "..") (and_congr slashes nuls)))

end Bytes

theorem eq_map_ofString {place : Place} {pieces : List String}
    (texts : place.map text = pieces.map LooseText.ofString) : place = pieces.map ofString := by
  have same : place.map text = (pieces.map ofString).map text := by
    rw [texts, List.map_map]
    exact List.map_congr_left fun s _ => (text_ofString s).symm
  exact (List.map_inj_right fun _ _ => text_injective).mp same

/-- A text in two parts around a slash stands for the bytes of the parts around that of a slash. -/
theorem bytesOf?_append {before after : List UInt16} {first second : Bytes}
    (here : bytesOf? ⟨before⟩ = some first) (there : bytesOf? ⟨after⟩ = some second) :
    bytesOf? ⟨before ++ Path.slash :: after⟩ = some (first ++ slashByte :: second) := by
  have slashMark : Mark.ofCode Path.slash.toNat = .char '/' := rfl
  have middle : bytesOfMarks? [.char '/'] = some [slashByte] := rfl
  show bytesOfMarks? (LooseText.mk (before ++ Path.slash :: after)).marks = _
  rw [LooseText.marks_append_cons rfl rfl, slashMark]
  exact bytesOfMarks?_append here (bytesOfMarks?_append middle there)

/-- A text with a slash in it stands for bytes only if what is before the slash does, and what is after it. -/
theorem bytesOf?_of_append {before after : List UInt16} {bytes : Bytes}
    (stands : bytesOf? ⟨before ++ Path.slash :: after⟩ = some bytes) :
    ∃ first second, bytesOf? ⟨before⟩ = some first ∧ bytesOf? ⟨after⟩ = some second ∧
      bytes = first ++ slashByte :: second := by
  have slashMark : Mark.ofCode Path.slash.toNat = .char '/' := rfl
  have middle : bytesOfMarks? [.char '/'] = some [slashByte] := rfl
  have marks : bytesOfMarks? (LooseText.mk (before ++ Path.slash :: after)).marks = some bytes := stands
  rw [LooseText.marks_append_cons rfl rfl, slashMark] at marks
  obtain ⟨first, rest, here, there, rfl⟩ := bytesOfMarks?_of_append marks
  obtain ⟨slash, second, same, after, rfl⟩ :
      ∃ slash second, bytesOfMarks? [.char '/'] = some slash ∧ bytesOfMarks? (LooseText.mk after).marks = some second ∧
        rest = slash ++ second := bytesOfMarks?_of_append there
  cases middle.symm.trans same
  exact ⟨first, second, here, after, rfl⟩

/-- A text that stands for bytes of ASCII alone is the string that these spell. -/
theorem eq_ofString_of_bytesOf? {text : LooseText} {s : String} (low : ∀ b ∈ utf8 s, ¬IsHigh b)
    (stands : bytesOf? text = some (utf8 s)) : text = LooseText.ofString s := by
  have each : ∀ mark ∈ text.marks, mark ∈ Set.range Mark.char := by
    intro mark mem
    obtain ⟨piece, own, within⟩ := bytesOfMark?_of_mem stands mem
    cases mark with
    | char c => exact ⟨c, rfl⟩
    | half unit =>
      obtain ⟨b, _, rfl⟩ := Option.map_eq_some_iff.mp own
      exact absurd (isHigh_of_half own List.mem_cons_self) (low b (within List.mem_cons_self))
  obtain ⟨cs, chars⟩ : text.marks ∈ Set.range (List.map Mark.char) := by
    rw [Set.range_list_map]
    exact each
  have same : text = LooseText.ofString (String.ofList cs) :=
    LooseText.eq_ofString_of_marks (by rw [String.toList_ofList]; exact chars.symm)
  rw [same, bytesOf?_ofString] at stands
  rw [same, ofString_injective (congrArg mk (Option.some.inj stands))]

/-- A text that is not empty stands for some bytes. -/
theorem bytesOf?_ne_nil {text : LooseText} {written : Bytes} (stands : bytesOf? text = some written)
    (filled : text.units ≠ []) : written ≠ [] := by
  cases marks : text.marks with
  | nil =>
    have codes : text.codes = [] := List.map_eq_nil_iff.mp marks
    have units := flatMap_unitsOfCode_codesOfUnits text.units
    rw [show codesOfUnits text.units = [] from codes] at units
    exact absurd units.symm filled
  | cons mark rest =>
    have read : bytesOfMarks? (mark :: rest) = some written := marks ▸ stands
    obtain ⟨piece, others, own, _, rfl⟩ := bytesOfMarks?_cons.mp read
    have some : piece ≠ [] := by
      cases mark with
      | char c =>
        cases own
        exact String.utf8EncodeChar_ne_nil
      | half unit =>
        obtain ⟨b, _, rfl⟩ := Option.map_eq_some_iff.mp own
        exact List.cons_ne_nil _ _
    exact List.append_ne_nil_of_left_ne_nil some _

/-- A slash among the bytes that a text stands for is one of the text. -/
theorem slash_mem_of_bytesOf? {text : LooseText} {bytes : Bytes} (stands : bytesOf? text = some bytes)
    (mem : slashByte ∈ bytes) : Path.slash ∈ text.units := by
  obtain ⟨mark, listed, piece, own, here⟩ := mark_of_mem stands mem
  have char : mark = .char '/' := by
    cases mark with
    | half unit => exact absurd (isHigh_of_half own here) (by decide)
    | char c =>
      cases own
      have spelled : slashByte ∈ encodeUtf8 [c] := by simpa [encodeUtf8] using here
      have same := (mem_encodeUtf8 (d := '/') (by decide)).mp spelled
      rw [List.mem_singleton.mp same]
  rw [← LooseText.flatMap_units_marks]
  refine List.mem_flatMap.mpr ⟨mark, listed, ?_⟩
  rw [char]
  decide

/-- **A name of a path stands for a legal name**, but for double dots and names with a NUL. -/
theorem isLegal_of_bytesOf? {name : LooseText} {bytes : Bytes} (stands : bytesOf? name = some bytes)
    (isName : Path.IsName name) (single : name ≠ "..") (clean : 0 ∉ bytes) : (FileName.mk bytes).IsLegal := by
  obtain ⟨filled, noDot, unslashed⟩ := isName
  have other {s : String} (low : ∀ b ∈ utf8 s, ¬IsHigh b) (different : name ≠ LooseText.ofString s) :
      bytes ≠ utf8 s := by
    rintro rfl
    exact different (eq_ofString_of_bytesOf? low stands)
  have stay : bytes ≠ utf8 "." := by
    refine other (by decide +kernel) ?_
    rintro rfl
    exact noDot (by decide)
  have up : bytes ≠ utf8 ".." := other (by decide +kernel) single
  have slashes : slashByte ∉ bytes := fun mem => unslashed (slash_mem_of_bytesOf? stands mem)
  exact ⟨bytesOf?_ne_nil stands filled, stay, up, slashes, clean⟩

variable {place : Place}

/-- A string between slashes is made of strings between slashes. -/
theorem pieces_of_unitsOf {texts : List LooseText} {s : String} (some : texts ≠ [])
    (whole : LooseText.ofString s = ⟨Path.unitsOf texts⟩) :
    ∃ pieces : List String, texts = pieces.map LooseText.ofString ∧
      s.toList = joinWith ['/'] (pieces.map String.toList) := by
  induction texts generalizing s with
  | nil => exact absurd rfl some
  | cons text rest ih =>
    cases rest with
    | nil => exact ⟨[s], by rw [List.map_singleton, whole]; rfl, rfl⟩
    | cons next more =>
      have units : Path.unitsOf (text :: next :: more)
          = text.units ++ UInt16.ofNat '/'.toNat :: Path.unitsOf (next :: more) := by
        simp only [Path.unitsOf, List.map_cons, joinWith, List.append_assoc, List.singleton_append]
        rfl
      rw [units] at whole
      obtain ⟨first, second, here, there, chars⟩ :=
        LooseText.ofString_eq_append rfl rfl (by decide) whole
      obtain ⟨pieces, tail, joined⟩ := ih (List.cons_ne_nil _ _) there.symm
      refine ⟨first :: pieces, by rw [List.map_cons, ← here, ← tail], ?_⟩
      cases pieces with
      | nil => cases tail
      | cons piece others =>
        rw [chars, joined]
        simp only [List.map_cons, joinWith, List.append_assoc, List.singleton_append]

/-- Strings between slashes make a string. -/
theorem ofString_joinWith (pieces : List String) :
    LooseText.ofString (String.ofList (joinWith ['/'] (pieces.map String.toList)))
      = ⟨Path.unitsOf (pieces.map LooseText.ofString)⟩ := by
  have units (cs : List Char) : (LooseText.ofString (String.ofList cs)).units
      = cs.flatMap fun c => unitsOfCode c.toNat := by
    rw [LooseText.ofString, String.toList_ofList, LooseText.ofMarks, List.flatMap_map]
    rfl
  have slash : unitsOfCode '/'.toNat = [Path.slash] := rfl
  refine congrArg LooseText.mk ((units _).trans ?_)
  induction pieces with
  | nil => rfl
  | cons piece rest ih =>
    have here : piece.toList.flatMap (fun c => unitsOfCode c.toNat) = (LooseText.ofString piece).units := by
      rw [← units, String.ofList_toList]
    cases rest with
    | nil => exact here
    | cons next more =>
      simp only [Path.unitsOf, List.map_cons, joinWith, List.flatMap_append, List.flatMap_singleton, here,
        slash] at ih ⊢
      rw [ih]

/-- **Components with slashes between them are read as a path of these names.** -/
theorem ofText_joinWith {pieces : List String} (some : pieces ≠ [])
    (components : ∀ piece ∈ pieces, Path.IsComponent piece.toList) :
    Path.ofText (LooseText.ofString (String.ofList (joinWith ['/'] (pieces.map String.toList))))
      = ⟨.relative, pieces.map LooseText.ofString⟩ := by
  have normal : (Path.mk .relative (pieces.map LooseText.ofString)).IsNormal := by
    intro name mem
    obtain ⟨piece, listed, rfl⟩ := List.mem_map.mp mem
    exact Path.isName_ofString (components piece listed)
  have written : (Path.mk .relative (pieces.map LooseText.ofString)).text
      = ⟨Path.unitsOf (pieces.map LooseText.ofString)⟩ := by
    obtain ⟨piece, rest, rfl⟩ := List.exists_cons_of_ne_nil some
    rfl
  rw [ofString_joinWith, ← written, Path.ofText_text normal]

/-- **Names with slashes between them stand for their bytes with slashes between them.** -/
theorem bytesOf?_unitsOf (some : place ≠ []) :
    bytesOf? ⟨Path.unitsOf (place.map text)⟩
      = .some (joinWith [slashByte] (place.map FileName.bytes)) := by
  induction place with
  | nil => exact absurd rfl some
  | cons name rest ih =>
    have here : bytesOf? ⟨name.text.units⟩ = .some name.bytes := bytesOf?_text name
    cases rest with
    | nil => exact here
    | cons next more =>
      have tail := bytesOf?_append here (ih (List.cons_ne_nil _ _))
      simp only [Path.unitsOf, List.map_cons, joinWith, List.append_assoc, List.singleton_append]
        at tail ⊢
      exact tail

end Gameshelf.FileName
