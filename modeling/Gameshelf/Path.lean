import Gameshelf.Text.Loose

/-!
Paths as text: an optional root and the names between slashes. Reading a path drops empty names and
single dots, so a trailing slash and doubled slashes leave no trace; double dots stay, since what
they mean depends on links.
-/

namespace Gameshelf

open Text

/-- Where a path starts: where the reader stands, or at a root. Exactly two slashes are a root of
their own. -/
inductive Anchor where
  | relative
  | root
  | doubleRoot
deriving DecidableEq, Repr

def Anchor.text : Anchor → String
  | .relative => ""
  | .root => "/"
  | .doubleRoot => "//"

/-- A path: its anchor and its names, none of which is empty, a single dot or contains a slash. -/
structure Path where
  anchor : Anchor
  names : List LooseText
deriving DecidableEq, Repr

namespace Path

def slash : UInt16 := 0x2F

def dot : UInt16 := 0x2E

/-- The anchor of a path that begins with so many slashes. -/
def anchorOf (slashes : Nat) : Anchor :=
  if slashes = 0 then .relative else if slashes = 2 then .doubleRoot else .root

def ofText (text : LooseText) : Path :=
  let slashes := (text.units.takeWhile (· == slash)).length
  let names := (splitAll (· == slash) text.units).filter fun name => !(name == [] || name == [dot])
  ⟨anchorOf slashes, names.map LooseText.mk⟩

/-- Writes a path; the empty relative path is a single dot. -/
def text (p : Path) : LooseText :=
  if p.anchor = .relative && p.names.isEmpty then "."
  else (p.anchor.text : LooseText) ++ ⟨joinWith [slash] (p.names.map LooseText.units)⟩

instance : ToString Path := ⟨fun p => p.text.shown⟩

def isAbsolute (p : Path) : Bool :=
  p.anchor != .relative

/-- The second path as seen from the first. -/
def join (p q : Path) : Path :=
  if q.isAbsolute then q else { p with names := p.names ++ q.names }

instance : HDiv Path LooseText Path := ⟨fun p text => p.join (ofText text)⟩

instance : HDiv Path String Path := ⟨fun p s => p.join (ofText s)⟩

/-- The path without its last name; a root and the empty path are their own parents. -/
def parent (p : Path) : Path :=
  { p with names := p.names.dropLast }

/-- The last name, empty if there is none. -/
def name (p : Path) : LooseText :=
  p.names.getLast?.getD ""

/-- The part of a name from its last dot, if something stands on both sides of that dot. -/
def suffixOf (name : String) : String :=
  let cs := name.toList
  let tail := (cs.reverse.takeWhile (· != '.')).reverse
  let stem := (cs.reverse.dropWhile (· != '.')).tail
  if tail.isEmpty || stem.isEmpty then "" else String.ofList ('.' :: tail)

end Path

end Gameshelf
