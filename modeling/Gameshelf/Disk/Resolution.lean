import Gameshelf.Disk.Walk
import Gameshelf.Stack

/-!
Resolving a path: every link in it is replaced by what it leads to, whether or not anything stands at the
end. A path keeps its start as it goes: one that starts where the program stands is not made absolute
before a link does so. A link that leads back to itself ends the resolution, and what is left of the
path is taken as it is written.
-/

namespace Gameshelf

open Text Encoding

/-- A path without links: names below the root, or below a directory so many steps above where the
program stands. -/
structure Stand where
  /-- How far above the program; none for the root. -/
  above : Option Nat
  names : List FileName
deriving DecidableEq

namespace Stand

def root : Stand := ⟨none, []⟩

def here : Stand := ⟨some 0, []⟩

/-- One step up. The root is above itself. -/
def up (stand : Stand) : Stand :=
  if stand.names.isEmpty then { stand with above := stand.above.map (· + 1) }
  else { stand with names := stand.names.dropLast }

def down (stand : Stand) (name : FileName) : Stand :=
  { stand with names := stand.names ++ [name] }

/-- The place that a path means for a program. -/
def place (stand : Stand) (program : Place) : Place :=
  match stand.above with
  | none => stand.names
  | some steps => program.take (program.length - steps) ++ stand.names

/-- A path as it is written. -/
def written (stand : Stand) : Bytes :=
  let names := stand.names.map FileName.bytes
  match stand.above with
  | none => slashByte :: joinWith [slashByte] names
  | some steps => joinWith [slashByte] (List.replicate steps [dotByte, dotByte] ++ names)

/-- Where the steps of a written path start for one who stands at another. -/
def startOf (stand : Stand) (written : Bytes) : Stand :=
  if written.head? == some slashByte then root else stand

end Stand

/-- What a path resolves to. -/
inductive Resolution where
  | settled (stand : Stand)
  /-- A link led back to itself; the path from there on, as it is written. -/
  | circular (written : Bytes)
deriving DecidableEq

namespace Resolution

/-- The path of a resolution as it is written. -/
def written : Resolution → Bytes
  | .settled stand => stand.written
  | .circular written => written

end Resolution

/-- A written path after another; one that begins with a slash stands for itself. -/
def joinWritten (first second : Bytes) : Bytes :=
  if second.head? == some slashByte then second
  else if first.isEmpty || first.getLast? == some slashByte then first ++ second
  else first ++ slashByte :: second

namespace Disk

/-- Takes the names of a path from a stand. `follow` resolves a link, given where it stands and what it
holds; `busy` are the links that are being resolved. -/
def resolveWith (disk : Disk) (follow : Stand → Stand → Bytes → Resolution) (busy : List Stand) :
    Stand → List Bytes → Resolution
  | stand, [] => .settled stand
  | stand, name :: rest =>
    match Leg.ofName name with
    | .slash | .stay => resolveWith disk follow busy stand rest
    | .up => resolveWith disk follow busy stand.up rest
    | .down name =>
      let next := stand.down name
      match disk.at? (next.place disk.here) with
      | some (.link target) =>
        if busy.contains next then
          .circular (joinWritten next.written (joinWith [slashByte] rest))
        else match follow next stand target with
          | .settled reached => resolveWith disk follow busy reached rest
          | .circular written => .circular (joinWritten written (joinWith [slashByte] rest))
      | _ => resolveWith disk follow busy next rest

/-- Resolves links within links down to a depth. -/
def resolveDeep (disk : Disk) : Nat → List Stand → Stand → List Bytes → Resolution
  | 0, busy => resolveWith disk (fun link _ _ => .circular link.written) busy
  | depth + 1, busy =>
    resolveWith disk
      (fun link stand target =>
        resolveDeep disk depth (link :: busy) (stand.startOf target)
          (splitAll (· == slashByte) target))
      busy

def resolveWritten [Stack] (disk : Disk) (written : Bytes) : Resolution :=
  resolveDeep disk Stack.links [] (Stand.here.startOf written) (splitAll (· == slashByte) written)

/-- The absolute path that a written path names by its wording. Two slashes in front stay two. -/
def wordedOf (disk : Disk) (written : Bytes) : Path :=
  let place := wordedWalk (startOf disk.here written) (legsOf written)
  match Path.anchorOf (written.takeWhile (· == slashByte)).length with
  | .doubleRoot => { pathOf place with anchor := .doubleRoot }
  | _ => pathOf place

/-- The path that a path means when all links are resolved, whether or not anything is there. Links that
lead back to themselves crash, as does a path that cannot be looked up. -/
def resolve [Stack] (disk : Disk) (path : Path) : Except Crash Path := do
  let written ← (bytesOf path).mapError (Fault.toCrash path)
  let resolved := disk.wordedOf (disk.resolveWritten written).written
  match disk.find resolved with
  | .error (.refused .tooManyLinks) =>
    throw (.unexpected s!"Symlink loop from {quoted resolved.text}")
  | _ => return resolved

end Disk

end Gameshelf
