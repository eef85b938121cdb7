import Gameshelf.Path
import Gameshelf.Proofs.Text.Words
import Gameshelf.Proofs.Text.Loose

/-!
Paths and their text. Every path that is read is normal (`isNormal_ofText`), and a normal path comes back
from its text (`ofText_text`).
-/

namespace Gameshelf.Path

open Text

/-- **Names that a path can have**: not empty, not a single dot, and without slashes. -/
def IsName (name : LooseText) : Prop :=
  name.units ≠ [] ∧ name.units ≠ [dot] ∧ slash ∉ name.units

/-- **A path whose names are names.** -/
def IsNormal (p : Path) : Prop :=
  ∀ name ∈ p.names, IsName name

/-- Every path that is read is normal. -/
theorem isNormal_ofText (text : LooseText) : (ofText text).IsNormal := by
  intro name mem
  obtain ⟨units, kept, rfl⟩ := List.mem_map.mp mem
  obtain ⟨piece, keeps⟩ := List.mem_filter.mp kept
  simp only [Bool.not_eq_true', Bool.or_eq_false_iff, beq_eq_false_iff_ne] at keeps
  exact ⟨keeps.1, keeps.2, fun slashed => by simpa using clean_of_mem_splitAll piece slash slashed⟩

theorem IsNormal.parent {p : Path} (normal : p.IsNormal) : p.parent.IsNormal :=
  fun name mem => normal name (List.dropLast_subset _ mem)

theorem IsNormal.join {p q : Path} (first : p.IsNormal) (second : q.IsNormal) : (p.join q).IsNormal := by
  unfold Path.join
  split
  · exact second
  · exact fun name mem => (List.mem_append.mp mem).elim (first name) (second name)

/-- **Names as strings**: not empty, neither a single nor a double dot, and without slashes and NULs. -/
def IsComponent (component : List Char) : Prop :=
  component ≠ [] ∧ component ≠ ['.'] ∧ component ≠ ['.', '.'] ∧ '/' ∉ component ∧ '\x00' ∉ component

theorem isName_ofString {s : String} (component : IsComponent s.toList) :
    IsName (LooseText.ofString s) := by
  obtain ⟨filled, more, _, unslashed, _⟩ := component
  have other {t : String} (different : s.toList ≠ t.toList) :
      (LooseText.ofString s).units ≠ (LooseText.ofString t).units := by
    intro same
    apply different
    rw [LooseText.ofString_injective (congrArg LooseText.mk same)]
  have empty : s.toList ≠ "".toList := filled
  have single : s.toList ≠ ".".toList := more
  refine ⟨other empty, other single, ?_⟩
  intro mem
  obtain ⟨before, after, units⟩ := List.append_of_mem mem
  have whole : LooseText.ofString s = ⟨before ++ UInt16.ofNat '/'.toNat :: after⟩ :=
    congrArg LooseText.mk units
  obtain ⟨first, second, _, _, chars⟩ := LooseText.ofString_eq_append rfl rfl (by decide) whole
  exact unslashed (chars ▸ List.mem_append_right _ List.mem_cons_self)

theorem isName_name {p : Path} (normal : p.IsNormal) (some : p.names ≠ []) : IsName p.name := by
  rw [name, List.getLast?_eq_some_getLast some, Option.getD_some]
  exact normal _ (List.getLast_mem some)

/-- The last name of a path that is seen from another is its own, if it has one. -/
theorem name_join {p q : Path} (some : q.names ≠ []) : (p.join q).name = q.name := by
  unfold join
  split
  · rfl
  · show (p.names ++ q.names).getLast?.getD "" = q.names.getLast?.getD ""
    rw [List.getLast?_append_of_ne_nil _ some]

variable {names : List LooseText}

/-- The units of names with slashes between them. -/
def unitsOf (names : List LooseText) : List UInt16 :=
  joinWith [slash] (names.map LooseText.units)

/-- Names with slashes between them begin with what the first name begins with. -/
theorem unitsOf_eq_cons (some : names ≠ []) (all : ∀ name ∈ names, IsName name) :
    ∃ first rest, unitsOf names = first :: rest ∧ (first == slash) = false := by
  cases names with
  | nil => exact absurd rfl some
  | cons name others =>
    obtain ⟨filled, _, unslashed⟩ := all name List.mem_cons_self
    obtain ⟨first, rest, units⟩ := List.exists_cons_of_ne_nil filled
    have plain : (first == slash) = false :=
      beq_eq_false_iff_ne.mpr fun same => unslashed (units ▸ same ▸ List.mem_cons_self)
    cases others with
    | nil => exact ⟨first, rest, units, plain⟩
    | cons next more =>
      refine ⟨first, rest ++ [slash] ++ unitsOf (next :: more), ?_, plain⟩
      simp only [unitsOf, List.map_cons, joinWith, units, List.cons_append]

/-- Names come back from their units. -/
theorem splitAll_unitsOf (some : names ≠ []) (all : ∀ name ∈ names, IsName name) :
    splitAll (· == slash) (unitsOf names) = names.map LooseText.units := by
  refine splitAll_joinWith (p := (· == slash)) rfl (fun h => some (List.map_eq_nil_iff.mp h))
    fun piece mem unit here => ?_
  obtain ⟨name, listed, rfl⟩ := List.mem_map.mp mem
  exact beq_eq_false_iff_ne.mpr fun same => (all name listed).2.2 (same ▸ here)

/-- A slash in front makes an empty piece. -/
theorem splitAll_slash (units : List UInt16) :
    splitAll (· == slash) (slash :: units) = [] :: splitAll (· == slash) units := rfl

theorem takeWhile_slash (units : List UInt16) :
    (slash :: units).takeWhile (· == slash) = slash :: units.takeWhile (· == slash) := rfl

/-- Empty pieces are dropped. -/
theorem filter_nil (pieces : List (List UInt16)) :
    ([] :: pieces).filter (fun name => !(name == [] || name == [dot]))
      = pieces.filter (fun name => !(name == [] || name == [dot])) := rfl

theorem filter_units (all : ∀ name ∈ names, IsName name) :
    (names.map LooseText.units).filter (fun name => !(name == [] || name == [dot]))
      = names.map LooseText.units := by
  refine List.filter_eq_self.mpr fun units mem => ?_
  obtain ⟨name, listed, rfl⟩ := List.mem_map.mp mem
  obtain ⟨filled, more, _⟩ := all name listed
  simp only [Bool.not_eq_true', Bool.or_eq_false_iff, beq_eq_false_iff_ne]
  exact ⟨filled, more⟩

theorem map_mk_units (names : List LooseText) : (names.map LooseText.units).map LooseText.mk = names := by
  rw [List.map_map]
  exact List.map_id names

theorem text_relative (name : LooseText) (rest : List LooseText) :
    (Path.mk .relative (name :: rest)).text = ⟨unitsOf (name :: rest)⟩ := rfl

theorem text_root (names : List LooseText) : (Path.mk .root names).text = ⟨slash :: unitsOf names⟩ := by
  have written : (LooseText.ofString "/").units = [slash] := by decide
  show (⟨(LooseText.ofString "/").units ++ unitsOf names⟩ : LooseText) = _
  rw [written]
  rfl

theorem text_doubleRoot (names : List LooseText) :
    (Path.mk .doubleRoot names).text = ⟨slash :: slash :: unitsOf names⟩ := by
  have written : (LooseText.ofString "//").units = [slash, slash] := by decide
  show (⟨(LooseText.ofString "//").units ++ unitsOf names⟩ : LooseText) = _
  rw [written]
  rfl

/-- No normal path is written as the empty text. -/
theorem text_ne_nil {p : Path} (normal : p.IsNormal) : p.text.units ≠ [] := by
  obtain ⟨anchor, names⟩ := p
  cases anchor with
  | relative =>
    cases names with
    | nil => exact List.cons_ne_nil _ _
    | cons name rest =>
      obtain ⟨first, tail, units, _⟩ := unitsOf_eq_cons (List.cons_ne_nil name rest) normal
      rw [text_relative, units]
      exact List.cons_ne_nil _ _
  | root =>
    rw [text_root]
    exact List.cons_ne_nil _ _
  | doubleRoot =>
    rw [text_doubleRoot]
    exact List.cons_ne_nil _ _

theorem unitsOf_append {more : List LooseText} (some : names ≠ []) (others : more ≠ []) :
    unitsOf (names ++ more) = unitsOf names ++ slash :: unitsOf more := by
  have filled {texts : List LooseText} (some : texts ≠ []) : texts.map LooseText.units ≠ [] :=
    fun h => some (List.map_eq_nil_iff.mp h)
  rw [unitsOf, List.map_append, joinWith_append _ (filled some) (filled others), List.append_assoc]
  rfl

/-- The text of a path with more names after its own. -/
theorem text_append {anchor : Anchor} {more : List LooseText} (some : names ≠ []) (others : more ≠ []) :
    (Path.mk anchor (names ++ more)).text
      = ⟨(Path.mk anchor names).text.units ++ slash :: unitsOf more⟩ := by
  have joined := unitsOf_append some others
  obtain ⟨name, rest, rfl⟩ := List.exists_cons_of_ne_nil some
  cases anchor with
  | relative => rw [List.cons_append, text_relative, text_relative, ← List.cons_append, joined]
  | root => rw [text_root, text_root, joined, List.cons_append]
  | doubleRoot => rw [text_doubleRoot, text_doubleRoot, joined, List.cons_append, List.cons_append]

/-- The last name of a path is written at the end, after a slash if there is something else. -/
theorem text_concat (anchor : Anchor) (names : List LooseText) (last : LooseText) :
    (Path.mk anchor (names ++ [last])).text = last ∨
      ∃ before, (Path.mk anchor (names ++ [last])).text = ⟨before ++ slash :: last.units⟩ := by
  cases names with
  | cons name rest =>
    exact .inr ⟨_, text_append (List.cons_ne_nil name rest) (List.cons_ne_nil last [])⟩
  | nil =>
    cases anchor with
    | relative => exact .inl (text_relative last [])
    | root => exact .inr ⟨[], text_root [last]⟩
    | doubleRoot => exact .inr ⟨[slash], text_doubleRoot [last]⟩

/-- **A normal path comes back from its text.** -/
theorem ofText_text {p : Path} (normal : p.IsNormal) : ofText p.text = p := by
  obtain ⟨anchor, names⟩ := p
  cases names with
  | nil => cases anchor <;> rfl
  | cons name others =>
    have all : ∀ member ∈ name :: others, IsName member := normal
    have pieces := splitAll_unitsOf (List.cons_ne_nil _ _) all
    have kept := filter_units all
    have same := map_mk_units (name :: others)
    obtain ⟨first, rest, units, plain⟩ := unitsOf_eq_cons (List.cons_ne_nil _ _) all
    have slashes : List.takeWhile (· == slash) (unitsOf (name :: others)) = [] := by
      rw [units, List.takeWhile_cons_of_neg (by rw [plain]; exact Bool.false_ne_true)]
    -- A slash in front is counted, and the empty piece before it is dropped.
    cases anchor with
    | relative =>
      simp only [ofText, text_relative, pieces, kept, same, slashes]
      rfl
    | root =>
      simp only [ofText, text_root, splitAll_slash, takeWhile_slash, slashes, pieces, filter_nil, kept, same]
      rfl
    | doubleRoot =>
      simp only [ofText, text_doubleRoot, splitAll_slash, takeWhile_slash, slashes, pieces, filter_nil, kept, same]
      rfl

end Gameshelf.Path
