import Mathlib.Data.List.Basic
import Gameshelf.Text.Loose

/-!
Strings among loose texts. A text is a string exactly if its marks are the characters of that string
(`toString?_eq_some_iff`), text around a character that is no half of a pair is read in two parts, and the
units of the marks of any text are its units (`flatMap_units_marks`).
-/

namespace Gameshelf

namespace Text

/-- A unit that is no first half is read alone, whatever follows it. -/
theorem codesOfUnits_cons {unit : UInt16} (high : isHighSurrogate unit = false) (rest : List UInt16) :
    codesOfUnits (unit :: rest) = unit.toNat :: codesOfUnits rest := by
  cases rest with
  | nil => rfl
  | cons next rest => simp only [codesOfUnits, high, Bool.false_and, Bool.false_eq_true, if_false]

/-- A second half is no first half. -/
theorem isHighSurrogate_of_isLowSurrogate {unit : UInt16} (low : isLowSurrogate unit = true) :
    isHighSurrogate unit = false := by
  simp only [isHighSurrogate, isLowSurrogate, Bool.and_eq_true, Bool.and_eq_false_iff, decide_eq_true_eq,
    decide_eq_false_iff_not] at low ⊢
  omega

/-- A unit that is no half of a pair divides units into those before and those after it. -/
theorem codesOfUnits_append_cons {sep : UInt16} (high : isHighSurrogate sep = false)
    (low : isLowSurrogate sep = false) (before after : List UInt16) :
    codesOfUnits (before ++ sep :: after) = codesOfUnits before ++ sep.toNat :: codesOfUnits after := by
  have next := codesOfUnits_cons high after
  fun_induction codesOfUnits before with
  | case1 => exact next
  | case2 unit =>
    simp only [List.cons_append, List.nil_append, codesOfUnits, low, Bool.and_false, Bool.false_eq_true,
      if_false, next]
  | case3 first second rest pair ih =>
    simp only [List.cons_append, codesOfUnits, pair, if_true, ih]
  | case4 first second rest alone ih =>
    simp only [List.cons_append, codesOfUnits, alone, Bool.false_eq_true, if_false, ← ih]

/-- A code point of units is a single unit or a character. -/
theorem codes_bounds {units : List UInt16} {code : Nat} (mem : code ∈ codesOfUnits units) :
    code < 0x10000 ∨ code.isValidChar := by
  fun_induction codesOfUnits units with
  | case1 => cases mem
  | case2 unit =>
    rw [List.mem_singleton.mp mem]
    exact .inl unit.toNat_lt
  | case3 high low rest pair ih =>
    rcases List.mem_cons.mp mem with same | mem
    · simp only [isHighSurrogate, isLowSurrogate, Bool.and_eq_true, decide_eq_true_eq] at pair
      right
      rw [same]
      unfold joinSurrogates Nat.isValidChar
      omega
    · exact ih mem
  | case4 high low rest _ ih =>
    rcases List.mem_cons.mp mem with rfl | mem
    · exact .inl high.toNat_lt
    · exact ih mem

end Text

open Text

namespace Mark

theorem units_ofCode {code : Nat} (bounds : code < 0x10000 ∨ code.isValidChar) :
    (ofCode code).units = unitsOfCode code := by
  unfold ofCode
  split
  · next valid =>
    have back : (Char.ofNat code).toNat = code := by
      rw [Char.ofNat, dif_pos valid]
      rfl
    rw [units, back]
  · next invalid =>
    have small := bounds.resolve_right invalid
    rw [units, unitsOfCode, if_pos small]

theorem ofCode_toNat (c : Char) : ofCode c.toNat = .char c := by
  have valid : c.toNat.isValidChar := c.valid
  rw [ofCode, if_pos valid, Char.ofNat_toNat]

/-- Only the code of a character is read as that character. -/
theorem ofCode_eq_char {code : Nat} {c : Char} (same : ofCode code = .char c) : code = c.toNat := by
  unfold ofCode at same
  split at same
  · next valid =>
    cases same
    rw [Char.ofNat, dif_pos valid]
    rfl
  · cases same

/-- The code of a second half is no character. -/
theorem ofCode_low {unit : UInt16} (low : isLowSurrogate unit = true) : ofCode unit.toNat = .half unit := by
  simp only [isLowSurrogate, Bool.and_eq_true, decide_eq_true_eq] at low
  have invalid : ¬unit.toNat.isValidChar := by unfold Nat.isValidChar; omega
  rw [ofCode, if_neg invalid, UInt16.ofNat_toNat]

end Mark

namespace LooseText

/-- **The units of the marks of a text are its units.** -/
theorem flatMap_units_marks (text : LooseText) : text.marks.flatMap Mark.units = text.units := by
  rw [marks, List.flatMap_map]
  calc text.codes.flatMap (fun code => (Mark.ofCode code).units)
      = text.codes.flatMap unitsOfCode := List.flatMap_congr fun _ mem => Mark.units_ofCode (codes_bounds mem)
    _ = text.units := flatMap_unitsOfCode_codesOfUnits text.units

theorem marks_ofString (s : String) : (ofString s).marks = s.toList.map Mark.char := by
  rw [marks, codes_ofString, List.map_map]
  exact List.map_congr_left fun c _ => Mark.ofCode_toNat c

/-- A text whose marks are the characters of a string is that string. -/
theorem eq_ofString_of_marks {text : LooseText} {s : String} (h : text.marks = s.toList.map Mark.char) :
    text = ofString s := by
  apply codes_injective
  rw [codes_ofString]
  unfold marks at h
  generalize text.codes = codes at h
  generalize s.toList = cs at h
  induction codes generalizing cs with
  | nil => cases cs with
    | nil => rfl
    | cons c rest => cases h
  | cons code rest ih => cases cs with
    | nil => cases h
    | cons c others =>
      obtain ⟨first, tail⟩ := List.cons.inj h
      rw [List.map_cons, Mark.ofCode_eq_char first, ih others tail]

theorem chars_of_mapM {marks : List Mark} {cs : List Char} (h : marks.mapM Mark.char? = some cs) :
    marks = cs.map Mark.char := by
  induction marks generalizing cs with
  | nil => cases h; rfl
  | cons mark rest ih =>
    rw [List.mapM_cons] at h
    cases mark with
    | half unit => cases h
    | char c =>
      cases tail : rest.mapM Mark.char? with
      | none => rw [tail] at h; cases h
      | some others =>
        rw [tail] at h
        cases h
        rw [List.map_cons, ih tail]

/-- **A text is a string exactly if no half stands alone in it.** -/
theorem toString?_eq_some_iff {text : LooseText} {s : String} :
    text.toString? = some s ↔ text = ofString s := by
  refine ⟨fun h => ?_, fun h => h ▸ toString?_ofString s⟩
  obtain ⟨cs, chars, rfl⟩ := Option.map_eq_some_iff.mp h
  exact eq_ofString_of_marks (by rw [String.toList_ofList]; exact chars_of_mapM chars)

theorem shown_ofString (s : String) : (ofString s).shown = s := by
  rw [shown, marks_ofString, List.map_map]
  exact (congrArg String.ofList (List.map_id s.toList)).trans String.ofList_toList

/-- Strings are told apart as loose texts. -/
theorem ofString_injective {a b : String} (h : ofString a = ofString b) : a = b := by
  rw [← shown_ofString a, h, shown_ofString]

theorem marks_append_cons {sep : UInt16} (high : isHighSurrogate sep = false)
    (low : isLowSurrogate sep = false) (before after : List UInt16) :
    (mk (before ++ sep :: after)).marks
      = (mk before).marks ++ Mark.ofCode sep.toNat :: (mk after).marks := by
  simp only [marks, codes, codesOfUnits_append_cons high low, List.map_append, List.map_cons]

/-- A string in two parts around a character is made of two strings. -/
theorem ofString_eq_append {s : String} {before after : List UInt16} {sep : Char}
    (high : isHighSurrogate (UInt16.ofNat sep.toNat) = false)
    (low : isLowSurrogate (UInt16.ofNat sep.toNat) = false) (small : sep.toNat < 0x10000)
    (whole : ofString s = ⟨before ++ UInt16.ofNat sep.toNat :: after⟩) :
    ∃ first second, LooseText.mk before = ofString first ∧ LooseText.mk after = ofString second ∧
      s.toList = first.toList ++ sep :: second.toList := by
  have marks := marks_append_cons high low before after
  rw [← whole, marks_ofString, toNat_unit small, Mark.ofCode_toNat] at marks
  obtain ⟨first, tail, chars, here, there⟩ := List.map_eq_append_iff.mp marks
  obtain ⟨c, second, rfl, same, rest⟩ := List.map_eq_cons_iff.mp there
  cases same
  refine ⟨String.ofList first, String.ofList second, ?_, ?_, ?_⟩
  · exact eq_ofString_of_marks (by rw [String.toList_ofList]; exact here.symm)
  · exact eq_ofString_of_marks (by rw [String.toList_ofList]; exact rest.symm)
  · rw [String.toList_ofList, String.toList_ofList, chars]

/-- Second halves alone make no pairs: the marks of a text that is written with them come back. -/
theorem marks_ofMarks {written : List Mark}
    (low : ∀ unit, Mark.half unit ∈ written → isLowSurrogate unit = true) :
    (ofMarks written).marks = written := by
  unfold marks codes ofMarks
  induction written with
  | nil => rfl
  | cons mark rest ih =>
    have tail := ih fun unit mem => low unit (List.mem_cons_of_mem _ mem)
    cases mark with
    | char c =>
      simp only [List.flatMap_cons, Mark.units, codesOfUnits_unitsOfCode_append, List.map_cons,
        Mark.ofCode_toNat, tail]
    | half unit =>
      have half := low unit List.mem_cons_self
      simp only [List.flatMap_cons, Mark.units, List.singleton_append,
        codesOfUnits_cons (isHighSurrogate_of_isLowSurrogate half), List.map_cons, Mark.ofCode_low half,
        tail]

end LooseText

end Gameshelf
