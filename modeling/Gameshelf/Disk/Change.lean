import Gameshelf.Disk.Walk

/-!
Changing the disk. A change may fail half way and then leaves what it has done so far, as directories
that were made before a file could not be.
-/

namespace Gameshelf

/-- A change of the disk that may fail. -/
abbrev Change (α : Type) := ExceptT Fault (StateM Disk) α

namespace Change

/-- Makes a change. -/
def make {α : Type} (change : Change α) (disk : Disk) : Except Fault α × Disk :=
  StateT.run (ExceptT.run change) disk

/-- A question to the disk. -/
def ask {α : Type} (question : Disk → Except Fault α) : Change α := do
  match question (← getThe Disk) with
  | .ok a => return a
  | .error fault => throw fault

/-- Where a path leads. -/
def locate (ending : Ending) (path : Path) : Change Place :=
  ask fun disk => disk.locate ending path

/-- Puts a node where a path leads, unless something is there. -/
def putNew (path : Path) (node : Node) : Change Unit := do
  let place ← locate .made path
  match (← getThe Disk).at? place with
  | some _ => throw (.refused .alreadyExists)
  | none => modifyThe Disk (·.put place node)

def makeDirectory (path : Path) : Change Unit :=
  putNew path (.directory [])

/-- What a failure to make a directory comes to: nothing, if a directory is there. Where the disk
cannot even tell, that is the failure. -/
def unlessDirectory (path : Path) (fault : Fault) : Change Unit := do
  match fault, (← getThe Disk).find path with
  | .refused _, .ok (.directory _) => return
  | .refused _, .error (.refused refusal) =>
    throw (if Disk.meansAbsent refusal then fault else .refused refusal)
  | _, _ => throw fault

/-- Makes one directory unless there is one. -/
def ensureDirectory (path : Path) : Change Unit :=
  tryCatch (makeDirectory path) (unlessDirectory path)

/-- Makes a directory and those above it, unless they are there. The names bound the steps upwards. -/
def ensureDirectories (anchor : Anchor) : List LooseText → Change Unit
  | [] => ensureDirectory ⟨anchor, []⟩
  | first :: rest => do
    let path : Path := ⟨anchor, (first :: rest).reverse⟩
    tryCatch (makeDirectory path) fun fault => do
      match fault with
      | .refused .noEntry => do
        ensureDirectories anchor rest
        ensureDirectory path
      | fault => unlessDirectory path fault

/-- Makes a directory and those above it, unless they are there. -/
def makeDirectories (path : Path) : Change Unit :=
  ensureDirectories path.anchor path.names.reverse

/-- Writes a file; one that is there gets the new content, and a link is followed. -/
def putFile (path : Path) (content : Encoding.Bytes) : Change Unit := do
  let place ← locate .written path
  match (← getThe Disk).at? place with
  | some (.directory _) => throw (.refused .isDirectory)
  | _ => modifyThe Disk (·.put place (.file content))

/-- Makes a link to a path that is written as given, whether or not it leads anywhere. -/
def makeLink (path : Path) (target : LooseText) : Change Unit := do
  let written ← ask fun _ => Disk.bytesOfText target
  if written.isEmpty then throw (.refused .noEntry)
  else if pathLimit ≤ written.length then throw (.refused .nameTooLong)
  else putNew path (.link written)

/-- Removes whatever an entry is; a link is not followed. Where a path ends in double dots, the directory
it names is emptied, and by then the path does not lead to it any more. -/
def remove (path : Path) : Change Unit := do
  let place ← locate .entry path
  if path.name == ".." then
    modifyThe Disk (·.put place (.directory []))
    throw (.refused .noEntry)
  else modifyThe Disk (·.erase place)

/-- Names for temporary files beside a file, in the order they are tried. -/
def temporaryName (name : Encoding.Bytes) (attempt : Nat) : FileName :=
  let digits := String.ofList (Text.digitsIn 10 Text.hexDigitLower 8 attempt)
  ⟨Encoding.utf8 "." ++ name ++ Encoding.utf8 s!".{digits}.tmp"⟩

/-- The first temporary name that no entry has; there are more names than entries. -/
def freshName (name : Encoding.Bytes) (entries : List (FileName × Node)) : FileName :=
  let names := (List.range (entries.length + 1)).map (temporaryName name)
  (names.find? fun candidate => (entries.lookup candidate).isNone).getD (temporaryName name 0)

/-- Makes a temporary file for a path. The directory that is to hold it is the one that the wording of
the path names: double dots undo the name before them, whatever links stand there. -/
def putTemporary (path : Path) (content : Encoding.Bytes) : Change Place := do
  let name ← ask fun _ => Disk.bytesOf ⟨.relative, [path.name]⟩
  let directory ← ask fun disk => do disk.locate .target (← disk.worded path.parent)
  match (← getThe Disk).at? directory with
  | some (.directory entries) =>
    let temporary := freshName name entries
    if nameLimit < temporary.bytes.length then throw (.refused .nameTooLong)
    else
      modifyThe Disk (·.put (directory ++ [temporary]) (.file content))
      return directory ++ [temporary]
  | _ => throw (.refused .notDirectory)

/-- Gives a file the path of another entry, which it replaces. No file takes the place of a
directory. -/
def rename (source : Place) (path : Path) (content : Encoding.Bytes) : Change Unit := do
  if path.name.isEmpty || path.name == ".." then throw (.refused .busy)
  let place ← locate .made path
  match (← getThe Disk).at? place with
  | some (.directory _) => throw (.refused .isDirectory)
  | _ =>
    modifyThe Disk (·.erase source)
    modifyThe Disk (·.put place (.file content))

/-- Puts a file in place in one step: the content goes into a temporary file, which then takes the
file's path. Where it cannot, the temporary file stays. -/
def replaceFile (path : Path) (content : Encoding.Bytes) : Change Unit := do
  let temporary ← putTemporary path content
  rename temporary path content

end Change

end Gameshelf
