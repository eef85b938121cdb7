import Gameshelf.Json.Read
import Gameshelf.Json.Write

/-!
Reading documents in which halves of surrogate pairs stand alone. A string takes such a half as it is, just
as it takes its escape; anywhere else the document is malformed. So a document is read once its halves are
spelled: by their escapes within strings, and by a character that nothing expects elsewhere.
-/

namespace Gameshelf.Json

/-- Where a document stands: outside its strings, in one of them, or there behind a backslash. -/
inductive Quoting where
  | outside
  | inside
  | escaped
deriving DecidableEq, Repr

/-- Where a document stands after a character. -/
def Quoting.after : Quoting → Char → Quoting
  | .outside, c => if c = '"' then .inside else .outside
  | .inside, c => if c = '"' then .outside else if c = '\\' then .escaped else .inside
  | .escaped, _ => .inside

/-- How a half is spelled that stands alone. -/
def Quoting.spell (unit : UInt16) : Quoting → List Char
  | .inside => escapeUnit unit
  | .outside | .escaped => ['\uFFFD']

/-- Spells the halves of a document. -/
def spellFrom : Quoting → List Mark → List Char
  | _, [] => []
  | quoting, .char c :: rest => c :: spellFrom (quoting.after c) rest
  | quoting, .half unit :: rest => quoting.spell unit ++ spellFrom quoting rest

/-- A document without halves that is read as one with them. -/
def spell (marks : List Mark) : List Char :=
  spellFrom .outside marks

end Gameshelf.Json
