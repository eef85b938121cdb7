import Gameshelf.Text.Case
import Gameshelf.Text.Words

/-!
Loose text: 16-bit units, as the escapes of JSON name them, in which a half of a surrogate pair may
stand alone. A pair is one character: two halves that stand side by side, the first before the second, are
the same loose text as the character that they make up, and nothing tells them from it. So it is with
escapes, whose reader joins such halves, and with what it has written and reads again. Every string is loose
text, and loose text without lone halves is a string (`toString?_ofString`); the code points tell loose
texts apart (`codes_injective`) and give them their order.
-/

namespace Gameshelf

namespace Text

/-- The first half of a surrogate pair. -/
def isHighSurrogate (unit : UInt16) : Bool :=
  0xD800 ≤ unit.toNat && unit.toNat < 0xDC00

/-- The second half of a surrogate pair. -/
def isLowSurrogate (unit : UInt16) : Bool :=
  0xDC00 ≤ unit.toNat && unit.toNat < 0xE000

/-- The code point of a surrogate pair. -/
def joinSurrogates (high low : UInt16) : Nat :=
  0x10000 + (high.toNat - 0xD800) * 0x400 + (low.toNat - 0xDC00)

/-- The units of a code point: one, or a surrogate pair. -/
def unitsOfCode (code : Nat) : List UInt16 :=
  if code < 0x10000 then [UInt16.ofNat code]
  else
    [UInt16.ofNat (0xD800 + (code - 0x10000) / 0x400), UInt16.ofNat (0xDC00 + (code - 0x10000) % 0x400)]

/-- The code points of units. -/
def codesOfUnits : List UInt16 → List Nat
  | [] => []
  | [unit] => [unit.toNat]
  | high :: low :: rest =>
    if isHighSurrogate high && isLowSurrogate low then joinSurrogates high low :: codesOfUnits rest
    else high.toNat :: codesOfUnits (low :: rest)

theorem unitsOfCode_toNat (unit : UInt16) : unitsOfCode unit.toNat = [unit] := by
  simp [unitsOfCode, unit.toNat_lt]

theorem unitsOfCode_joinSurrogates {high low : UInt16} (isHigh : isHighSurrogate high = true)
    (isLow : isLowSurrogate low = true) : unitsOfCode (joinSurrogates high low) = [high, low] := by
  simp only [isHighSurrogate, isLowSurrogate, Bool.and_eq_true, decide_eq_true_eq] at isHigh isLow
  have first : 0xD800 + (joinSurrogates high low - 0x10000) / 0x400 = high.toNat := by
    unfold joinSurrogates; omega
  have second : 0xDC00 + (joinSurrogates high low - 0x10000) % 0x400 = low.toNat := by
    unfold joinSurrogates; omega
  have above : ¬joinSurrogates high low < 0x10000 := by unfold joinSurrogates; omega
  rw [unitsOfCode, if_neg above, first, second, UInt16.ofNat_toNat, UInt16.ofNat_toNat]

/-- The code points of units spell these units. -/
theorem flatMap_unitsOfCode_codesOfUnits (units : List UInt16) :
    (codesOfUnits units).flatMap unitsOfCode = units := by
  fun_induction codesOfUnits units with
  | case1 => rfl
  | case2 unit => simp [unitsOfCode_toNat]
  | case3 high low rest pair ih =>
    simp only [Bool.and_eq_true] at pair
    simp [unitsOfCode_joinSurrogates pair.1 pair.2, ih]
  | case4 high low rest _ ih => simp [unitsOfCode_toNat, ih]

/-- A unit that stands for a small enough number. -/
theorem toNat_unit {n : Nat} (h : n < 0x10000) : (UInt16.ofNat n).toNat = n :=
  UInt16.toNat_ofNat_of_lt' h

/-- The units of a character are read as that character, whatever follows them. -/
theorem codesOfUnits_unitsOfCode_append (c : Char) (rest : List UInt16) :
    codesOfUnits (unitsOfCode c.toNat ++ rest) = c.toNat :: codesOfUnits rest := by
  have valid : c.toNat < 0xD800 ∨ 0xDFFF < c.toNat ∧ c.toNat < 0x110000 := c.valid
  generalize c.toNat = code at valid
  unfold unitsOfCode
  split
  · next small =>
    have value := toNat_unit small
    generalize UInt16.ofNat code = unit at value
    have notHigh : isHighSurrogate unit = false := by
      rw [Bool.eq_false_iff]
      simp only [isHighSurrogate, value, ne_eq, Bool.and_eq_true, decide_eq_true_eq]
      omega
    cases rest with
    | nil => simp only [List.append_nil, codesOfUnits, value]
    | cons next rest =>
      simp only [List.cons_append, List.nil_append, codesOfUnits, notHigh, Bool.false_and,
        Bool.false_eq_true, if_false, value]
  · next large =>
    have high := toNat_unit (n := 0xD800 + (code - 0x10000) / 0x400) (by omega)
    have low := toNat_unit (n := 0xDC00 + (code - 0x10000) % 0x400) (by omega)
    generalize UInt16.ofNat (0xD800 + (code - 0x10000) / 0x400) = first at high
    generalize UInt16.ofNat (0xDC00 + (code - 0x10000) % 0x400) = second at low
    have pair : (isHighSurrogate first && isLowSurrogate second) = true := by
      simp only [isHighSurrogate, isLowSurrogate, high, low, Bool.and_eq_true, decide_eq_true_eq]
      omega
    have joined : joinSurrogates first second = code := by
      unfold joinSurrogates
      omega
    simp only [List.cons_append, List.nil_append, codesOfUnits, pair, if_true, joined]

end Text

open Text

/-- A mark of loose text: a character, or a half of a surrogate pair that stands alone. -/
inductive Mark where
  | char (c : Char)
  | half (unit : UInt16)
deriving DecidableEq, Repr

namespace Mark

def ofCode (code : Nat) : Mark :=
  if code.isValidChar then .char (Char.ofNat code) else .half (UInt16.ofNat code)

def units : Mark → List UInt16
  | .char c => unitsOfCode c.toNat
  | .half unit => [unit]

/-- The character that a mark is, if it is one. -/
def char? : Mark → Option Char
  | .char c => some c
  | .half _ => none

/-- A mark as it can be shown: a half becomes the replacement character. -/
def shown : Mark → Char
  | .char c => c
  | .half _ => '\uFFFD'

end Mark

/-- Text in which a half of a surrogate pair may stand alone. -/
structure LooseText where
  units : List UInt16
deriving DecidableEq, Repr

namespace LooseText

/-- The text of marks. -/
def ofMarks (marks : List Mark) : LooseText :=
  ⟨marks.flatMap Mark.units⟩

/-- A string as loose text. -/
def ofString (s : String) : LooseText :=
  ofMarks (s.toList.map .char)

instance : Coe String LooseText := ⟨ofString⟩

def codes (text : LooseText) : List Nat :=
  codesOfUnits text.units

def marks (text : LooseText) : List Mark :=
  text.codes.map Mark.ofCode

/-- The string that a text is, if no half stands alone in it. -/
def toString? (text : LooseText) : Option String :=
  (text.marks.mapM Mark.char?).map String.ofList

/-- A text as it can be shown, lone halves replaced. -/
def shown (text : LooseText) : String :=
  String.ofList (text.marks.map Mark.shown)

instance : ToString LooseText := ⟨shown⟩

def isEmpty (text : LooseText) : Bool :=
  text.units.isEmpty

instance : Append LooseText := ⟨fun a b => ⟨a.units ++ b.units⟩⟩

/-- Does a text begin with a string? -/
def beginsWith (text : LooseText) (start : String) : Bool :=
  (ofString start).units.isPrefixOf text.units

def trim (text : LooseText) : LooseText :=
  ⟨trimBy (fun unit => inRanges blankRanges unit.toNat) text.units⟩

/-- The capital form of a text; lone halves stay. -/
def upper (text : LooseText) : LooseText :=
  ofMarks <| text.marks.flatMap fun
    | .char c => (upperChar c).map .char
    | .half unit => [.half unit]

theorem codes_injective {a b : LooseText} (h : a.codes = b.codes) : a = b := by
  have units : a.units = b.units := by
    rw [← flatMap_unitsOfCode_codesOfUnits a.units, ← flatMap_unitsOfCode_codesOfUnits b.units]
    exact congrArg _ h
  cases a; cases b; simpa using units

theorem codes_ofString (s : String) : (ofString s).codes = s.toList.map Char.toNat := by
  suffices ∀ cs : List Char,
      codesOfUnits ((cs.map Mark.char).flatMap Mark.units) = cs.map Char.toNat from this s.toList
  intro cs
  induction cs with
  | nil => rfl
  | cons c rest ih =>
    simp only [List.map_cons, List.flatMap_cons, Mark.units, codesOfUnits_unitsOfCode_append, ih]

/-- A string stays what it is. -/
theorem toString?_ofString (s : String) : (ofString s).toString? = some s := by
  have marks : (ofString s).marks = s.toList.map Mark.char := by
    rw [LooseText.marks, codes_ofString, List.map_map]
    refine List.map_congr_left fun c _ => ?_
    have valid : c.toNat.isValidChar := c.valid
    simp [Mark.ofCode, valid, Char.ofNat_toNat]
  rw [toString?, marks]
  have chars : ∀ cs : List Char, (cs.map Mark.char).mapM Mark.char? = some cs := by
    intro cs
    induction cs with
    | nil => rfl
    | cons c rest ih => simp [List.mapM_cons, Mark.char?, ih]
  simp [chars, String.ofList_toList]

/-- Texts are ordered by their code points. -/
instance : Ord LooseText := ⟨compareOn codes⟩

instance : Std.TransOrd LooseText :=
  inferInstanceAs (Std.TransCmp (compareOn codes))

instance : Std.LawfulEqOrd LooseText where
  eq_of_compare h := codes_injective (Std.LawfulEqOrd.eq_of_compare h)

end LooseText

end Gameshelf
