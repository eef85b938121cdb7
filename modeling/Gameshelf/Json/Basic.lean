import Gameshelf.Number.Binary64
import Gameshelf.Text.Loose

/-!
Values of JSON. Whole numbers have no size limit and are kept apart from numbers with a fraction or an
exponent. Text is loose, since escapes can spell halves of surrogate pairs that stand alone. An object
is the list of its members in order; the readers of this library never build one with a name twice.
-/

namespace Gameshelf

/-- A value of JSON. -/
inductive Json where
  | null
  | bool (b : Bool)
  | int (n : Int)
  | real (x : Binary64)
  | str (s : LooseText)
  | arr (items : List Json)
  | obj (members : List (LooseText × Json))

namespace Json

/-- The members of an object. -/
abbrev Members := List (LooseText × Json)

def get? : Json → LooseText → Option Json
  | .obj members, name => members.lookup name
  | _, _ => none

def text? : Json → Option LooseText
  | .str s => some s
  | _ => none

/-- The text of a member, if the member is there and is text. -/
def textAt? (value : Json) (name : LooseText) : Option LooseText :=
  (value.get? name).bind text?

/-- A string or its absence. -/
def ofString? : Option String → Json
  | some s => .str s
  | none => .null

/-- A text or its absence. -/
def ofText? : Option LooseText → Json
  | some s => .str s
  | none => .null

/-- Puts a member into an object: a name that is there keeps its place and gets the new value. -/
def putMember : Members → LooseText → Json → Members
  | [], name, value => [(name, value)]
  | (first, old) :: rest, name, value =>
    if first = name then (name, value) :: rest else (first, old) :: putMember rest name value

/-- Members read one after the other, each put into the object. -/
def collect (members : Members) : Members :=
  members.foldl (fun done member => putMember done member.1 member.2) []

/-- What holds other values, and stands in brackets when it is written. -/
inductive Bracket where
  | list
  | object
deriving DecidableEq, Repr

def Bracket.word : Bracket → String
  | .list => "array"
  | .object => "object"

/-- Values that count as absent where one is optional: null, false, zero, and empty text, list or
object. -/
def isFalsy : Json → Bool
  | .null => true
  | .bool b => !b
  | .int n => n == 0
  | .real x => x.isZero
  | .str s => s.isEmpty
  | .arr items => items.isEmpty
  | .obj members => members.isEmpty

end Json

end Gameshelf
