import Gameshelf.Numeral
import Gameshelf.Title.Id

/-!
What the name of a content file says about it: the first sixteen hexadecimal digits in a row are its
title id, and a token such as `[v3]` or `v3` is its version.
-/

namespace Gameshelf

open Text

/-- The title id and the version found in a text. -/
structure Tokens where
  titleId : Option String
  version : Option Nat
deriving DecidableEq, Repr

namespace Tokens

/-- Versions are 32-bit numbers; a larger one counts as none. -/
def maxVersion : Nat := 0xFFFFFFFF

/-- The first sixteen hexadecimal digits in a row. -/
def firstId? : List Char → Option (List Char)
  | [] => none
  | c :: rest =>
    let window := (c :: rest).take TitleId.length
    if window.length == TitleId.length && window.all isHexDigit then some window else firstId? rest

/-- The title id in a text, in capitals. -/
def titleIdIn (cs : List Char) : Option String :=
  (firstId? cs).map fun window => String.ofList (upperChars window)

/-- The digits of a version, after its letter; none if there are none. -/
def versionDigits? : List Char → Option (List Char × List Char)
  | v :: rest =>
    if (v == 'v' || v == 'V') && !(rest.takeWhile isDigit).isEmpty then
      some (rest.takeWhile isDigit, rest.dropWhile isDigit)
    else none
  | [] => none

/-- The digits of the first version in square brackets. -/
def bracketed? : List Char → Option (List Char)
  | [] => none
  | c :: rest =>
    match c, versionDigits? rest with
    | '[', some (digits, ']' :: _) => some digits
    | _, _ => bracketed? rest

/-- The digits of the first version that no character of a word precedes. -/
def bareAfter? (insideWord : Bool) : List Char → Option (List Char)
  | [] => none
  | c :: rest =>
    match insideWord, versionDigits? (c :: rest) with
    | false, some (digits, _) => some digits
    | _, _ => bareAfter? (isWordChar c) rest

/-- The digits of the version in a text: one in brackets goes before a bare one. -/
def versionDigitsIn (cs : List Char) : Option (List Char) :=
  (bracketed? cs).or (bareAfter? false cs)

def versionIn (cs : List Char) : Except Numeral.TooLong (Option Nat) :=
  match versionDigitsIn cs with
  | none => .ok none
  | some digits => (Numeral.natOfDigits digits).map fun n => if n ≤ maxVersion then some n else none

def ofText (text : String) : Except Numeral.TooLong Tokens :=
  (versionIn text.toList).map fun version => ⟨titleIdIn text.toList, version⟩

/-- The tokens of a file: those of its name, and of its path where the name has none. -/
def ofFile (name path : String) : Except Numeral.TooLong Tokens := do
  let own ← ofText name
  let around ← ofText path
  return ⟨own.titleId.or around.titleId, own.version.or around.version⟩

end Tokens

end Gameshelf
