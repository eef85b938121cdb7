import Gameshelf.Text.Case
import Gameshelf.Text.Quoted

/-!
Title ids: sixteen hexadecimal digits. The last three tell a base game, an update and an add-on apart;
updates share the thirteen digits before them with their game, add-ons stand one step above.
-/

namespace Gameshelf

open Text

/-- What a content file holds. -/
inductive ContentKind where
  | base
  | update
  | dlc
  | unknown
deriving DecidableEq, Repr

namespace ContentKind

def word : ContentKind → String
  | .base => "base"
  | .update => "update"
  | .dlc => "dlc"
  | .unknown => "unknown"

def all : List ContentKind := [.base, .update, .dlc, .unknown]

/-- The kind that a word stands for. -/
def ofWord? (word : String) : Option ContentKind :=
  all.find? (·.word == word)

end ContentKind

namespace TitleId

/-- The number of digits of an id. -/
def length : Nat := 16

/-- The kind that an id announces by its end; without an id it is unknown. -/
def kind : Option String → ContentKind
  | none => .unknown
  | some id =>
    let digits := upperChars id.toList
    if "000".toList.isSuffixOf digits then .base
    else if "800".toList.isSuffixOf digits then .update
    else .dlc

/-- Is a text an id: exactly sixteen hexadecimal digits? -/
def isValid (id : String) : Bool :=
  id.toList.length == length && id.toList.all isHexDigit

/-- The number that hexadecimal digits stand for. -/
def ofHex (cs : List Char) : Nat :=
  cs.foldl (fun n c => n * 16 + (hexValue? c).getD 0) 0

/-- The id of the game that a content file belongs to. Nothing comes before the first block of add-on
ids, so those of that block have no game. -/
def base? (kind : ContentKind) (id : Option String) : Option String :=
  match id with
  | none => none
  | some id =>
    if !isValid id then none
    else
      let digits := upperChars id.toList
      let block := digits.take 13
      match kind with
      | .base | .unknown => some (String.ofList digits)
      | .update => some (String.ofList (block ++ "000".toList))
      | .dlc =>
        match ofHex block with
        | 0 => none
        | above + 1 => some (String.ofList (digitsIn 16 hexDigitUpper 13 above ++ "000".toList))

end TitleId

end Gameshelf
