import Gameshelf.Disk.Basic
import Gameshelf.Failure
import Gameshelf.Path
import Gameshelf.Text.Quoted

/-!
Walking along a path. Links are followed, and a walk that follows too many is given up; what it
arrives at is a place, from which every link has been resolved.
-/

namespace Gameshelf

open Text

/-- Why a path leads nowhere. -/
inductive Fault where
  | refused (refusal : Refusal)
  /-- The path holds a NUL character and was never looked up. -/
  | embeddedNul
  /-- No bytes stand for the path, so it was never looked up. -/
  | unencodable
deriving DecidableEq, Repr

/-- A fault of a path where nobody expects one. -/
def Fault.toCrash (path : Path) : Fault → Crash
  | .refused refusal => .disk refusal path.text
  | .embeddedNul => .embeddedNul
  | .unencodable => .unencodable

/-- One step of a path. -/
inductive Leg where
  /-- No name: what stands between two slashes, before the first or after the last. -/
  | slash
  | stay
  | up
  | down (name : FileName)
deriving DecidableEq

def slashByte : UInt8 := 0x2F

def dotByte : UInt8 := 0x2E

/-- The step that the bytes between slashes mean. -/
def Leg.ofName (name : Encoding.Bytes) : Leg :=
  if name == [] then .slash
  else if name == [dotByte] then .stay
  else if name == [dotByte, dotByte] then .up
  else .down ⟨name⟩

/-- The steps of a path as it is written. A slash at the end asks for a directory, so it is a step of
its own. -/
def legsOf (written : Encoding.Bytes) : List Leg :=
  (splitAll (· == slashByte) written).map Leg.ofName

/-- The most bytes of a name. -/
def nameLimit : Nat := 255

/-- The most bytes of a path, its end mark included. -/
def pathLimit : Nat := 4096

/-- The most links that a walk follows. -/
def linkLimit : Nat := 40

/-- What a walk does at the last name of a path. -/
structure Ending where
  /-- A link is followed. -/
  follows : Bool
  /-- Nothing needs to be there. -/
  mayMiss : Bool
deriving DecidableEq, Repr

namespace Ending

/-- To what is there, links followed. -/
def target : Ending := ⟨true, false⟩

/-- To what is there, be it a link. -/
def entry : Ending := ⟨false, false⟩

/-- To where a file is written: links are followed, and it may have to be made. -/
def written : Ending := ⟨true, true⟩

/-- To where an entry is made or replaced. -/
def made : Ending := ⟨false, true⟩

end Ending

namespace Disk

/-- Where the steps of a written path start. -/
def startOf (here : Place) (written : Encoding.Bytes) : Place :=
  if written.head? == some slashByte then [] else here

/-- Do steps that are left ask for a directory, and for nothing else? -/
def asksForDirectory (rest : List Leg) : Bool :=
  !rest.isEmpty && rest.all (· == .slash)

/-- Takes steps from a place. A link on the way goes to `follow` with the place it stands at and the
steps still to take. No file is made where the path asks for a directory. -/
def walkWith (disk : Disk) (follow : Place → List Leg → Except Refusal Place) (ending : Ending) :
    Place → List Leg → Except Refusal Place
  | place, [] => .ok place
  | place, leg :: rest =>
    match disk.at? place with
    | some (.directory entries) =>
      match leg with
      | .slash | .stay => walkWith disk follow ending place rest
      | .up => walkWith disk follow ending place.dropLast rest
      | .down name =>
        if ending.mayMiss && asksForDirectory rest then .error .isDirectory
        else if nameLimit < name.bytes.length then .error .nameTooLong
        else match entries.lookup name with
          | none => if rest.isEmpty && ending.mayMiss then .ok (place ++ [name]) else .error .noEntry
          | some (.link target) =>
            if rest.isEmpty && !ending.follows then .ok (place ++ [name])
            else follow (startOf place target) (legsOf target ++ rest)
          | some _ => walkWith disk follow ending (place ++ [name]) rest
    | _ => .error .notDirectory

/-- Takes steps from a place and follows at most so many links. -/
def walk (disk : Disk) (ending : Ending) : Nat → Place → List Leg → Except Refusal Place
  | 0 => walkWith disk (fun _ _ => .error .tooManyLinks) ending
  | links + 1 => walkWith disk (walk disk ending links) ending

/-- The bytes of a path in text, if it can be looked up at all. -/
def bytesOfText (text : LooseText) : Except Fault Encoding.Bytes :=
  match FileName.bytesOf? text with
  | none => .error .unencodable
  | some written => if written.contains 0 then .error .embeddedNul else .ok written

def bytesOf (path : Path) : Except Fault Encoding.Bytes :=
  bytesOfText path.text

/-- Where a path leads. -/
def locate (disk : Disk) (ending : Ending) (path : Path) : Except Fault Place := do
  let written ← bytesOf path
  if pathLimit ≤ written.length then throw (.refused .nameTooLong)
  else (walk disk ending linkLimit (startOf disk.here written) (legsOf written)).mapError .refused

def find (disk : Disk) (path : Path) : Except Fault Node := do
  let place ← disk.locate .target path
  match disk.at? place with
  | some node => return node
  | none => throw (.refused .noEntry)

/-- The refusals that mean that nothing is there. -/
def meansAbsent : Refusal → Bool
  | .noEntry | .notDirectory | .tooManyLinks => true
  | _ => false

/-- Does a test hold of the node that a path leads to? Nothing holds of an absent one; other faults
crash. -/
def holds (disk : Disk) (test : Node → Bool) (path : Path) : Except Crash Bool :=
  match disk.find path with
  | .ok node => .ok (test node)
  | .error .embeddedNul | .error .unencodable => .ok false
  | .error (.refused refusal) =>
    if meansAbsent refusal then .ok false else .error (.disk refusal path.text)

def present (disk : Disk) (path : Path) : Except Crash Bool :=
  disk.holds (fun _ => true) path

def isDirectory (disk : Disk) (path : Path) : Except Crash Bool :=
  disk.holds Node.isDirectory path

/-- The bytes of the file that a path leads to. -/
def contentOf (disk : Disk) (path : Path) : Except Fault Encoding.Bytes := do
  match ← disk.find path with
  | .file content => return content
  | .directory _ => throw (.refused .isDirectory)
  | _ => return []

/-- The absolute path of a place. -/
def pathOf (place : Place) : Path :=
  ⟨.root, place.map FileName.text⟩

/-- Takes steps from a place by their wording alone. -/
def wordedWalk : Place → List Leg → Place
  | place, [] => place
  | place, .slash :: rest => wordedWalk place rest
  | place, .stay :: rest => wordedWalk place rest
  | place, .up :: rest => wordedWalk place.dropLast rest
  | place, .down name :: rest => wordedWalk (place ++ [name]) rest

/-- The absolute path that a path names by its wording alone. -/
def worded (disk : Disk) (path : Path) : Except Fault Path := do
  let written ← bytesOf path
  return pathOf (wordedWalk (startOf disk.here written) (legsOf written))

end Disk

end Gameshelf
