import Gameshelf.Text.CharClass
import Gameshelf.Text.Loose

/-!
Text in quotes, as messages show a file name or an argument: single quotes unless only a single quote
occurs inside, escapes for the backslash, the quote in use and everything that cannot be shown.
-/

namespace Gameshelf.Text

/-- The digits of a number in a base, most significant first, at least `width` of them. -/
def digitsIn (base : Nat) (alphabet : Nat → Char) (width n : Nat) : List Char :=
  let digits := (Nat.toDigits base n).length
  (List.range (max width digits)).reverse.map fun i => alphabet (n / Nat.pow base i % base)

def hexDigitLower (n : Nat) : Char :=
  if n < 10 then Char.ofNat ('0'.toNat + n) else Char.ofNat ('a'.toNat + (n - 10))

def hexDigitUpper (n : Nat) : Char :=
  if n < 10 then Char.ofNat ('0'.toNat + n) else Char.ofNat ('A'.toNat + (n - 10))

/-- One character inside quotes. -/
def quoteChar (quote c : Char) : List Char :=
  if c = quote || c = '\\' then ['\\', c]
  else if c = '\t' then ['\\', 't']
  else if c = '\n' then ['\\', 'n']
  else if c = '\r' then ['\\', 'r']
  else if isPrintable c then [c]
  else if c.toNat < 0x100 then '\\' :: 'x' :: digitsIn 16 hexDigitLower 2 c.toNat
  else if c.toNat < 0x10000 then '\\' :: 'u' :: digitsIn 16 hexDigitLower 4 c.toNat
  else '\\' :: 'U' :: digitsIn 16 hexDigitLower 8 c.toNat

/-- One mark inside quotes; halves that stand alone cannot be shown. -/
def quoteMark (quote : Char) : Mark → List Char
  | .char c => quoteChar quote c
  | .half unit => '\\' :: 'u' :: digitsIn 16 hexDigitLower 4 unit.toNat

/-- A text in quotes. -/
def quoted (text : LooseText) : String :=
  let marks := text.marks
  let quote := if marks.contains (.char '\'') && !marks.contains (.char '"') then '"' else '\''
  String.ofList (quote :: marks.flatMap (quoteMark quote) ++ [quote])

end Gameshelf.Text
