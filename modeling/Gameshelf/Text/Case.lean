import Gameshelf.Text.CharClass
import Gameshelf.Text.CaseTable

/-!
Full case conversion of text. A letter may become several characters (the sharp s becomes two
capitals), and the small form of the capital sigma depends on whether it ends a word. Conversion is
therefore a function on texts; on single letters it is only a list of characters.
-/

namespace Gameshelf.Text

/-- The first run of a sorted list that holds a code point, applied to it. -/
def shift? : List Shift → Nat → Option Nat
  | [], _ => none
  | s :: rest, n =>
    if n < s.first then none
    else match s.apply? n with
      | some m => some m
      | none => shift? rest n

/-- The capital form of one character. -/
def upperChar (c : Char) : List Char :=
  match upperExpansions.lookup c.toNat with
  | some codes => codes.map Char.ofNat
  | none => [((shift? upperShifts c.toNat).map Char.ofNat).getD c]

def upperChars (cs : List Char) : List Char :=
  cs.flatMap upperChar

def upper (s : String) : String :=
  String.ofList (upperChars s.toList)

/-- The small form of one character other than the capital sigma. -/
def lowerChar (c : Char) : List Char :=
  if c.toNat = 0x130 then ['i', Char.ofNat 0x307]
  else [((shift? lowerShifts c.toNat).map Char.ofNat).getD c]

/-- Characters that decide whether a letter stands inside a word. -/
def isCased (c : Char) : Bool :=
  inRanges casedRanges c.toNat

/-- Characters that are passed over when a word's end is sought. -/
def isCaseIgnorable (c : Char) : Bool :=
  inRanges caseIgnorableRanges c.toNat

/-- Does a cased letter come first, after characters that are passed over? -/
def meetsCased (cs : List Char) : Bool :=
  (cs.dropWhile isCaseIgnorable).head?.any isCased

/-- The small form of a text, given the characters before it, the nearest first. A capital sigma
after a letter and not before one is the final sigma. -/
def lowerAfter : List Char → List Char → List Char
  | _, [] => []
  | before, c :: rest =>
    let small :=
      if c = 'Σ' then (if meetsCased before && !meetsCased rest then ['ς'] else ['σ'])
      else lowerChar c
    small ++ lowerAfter (c :: before) rest

def lower (s : String) : String :=
  String.ofList (lowerAfter [] s.toList)

end Gameshelf.Text
