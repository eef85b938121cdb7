import Gameshelf.Catalog.ContentFile
import Gameshelf.Disk.Walk

/-!
Scanning a library: the content files below a directory. The files of a directory come before those
of its subdirectories, both by name. Links are never followed, and files whose path is not text are
left out. A scan gives every file or none at all; only a directory that cannot be listed is passed over,
with all that is below it.
-/

namespace Gameshelf

/-- What may go wrong during a scan besides the root being absent. -/
structure ScanFaults where
  /-- The scan breaks off with a message before it looks at anything. -/
  interruption : Option String
  /-- The places below the root whose metadata cannot be read. -/
  unreadable : List Place

def ScanFaults.none : ScanFaults := ⟨Option.none, []⟩

/-- How deep a walk goes: it enters a directory from the one above it, so each level takes some of the
stack. -/
structure WalkBound where
  /-- The levels below the root whose directories it still enters. -/
  levels : Nat
  /-- What it breaks off with when it is to go deeper. -/
  message : String

/-- What a scan meets: faults, directories that it cannot list, and the end of the stack. -/
structure ScanConditions extends ScanFaults where
  /-- The places below the root of directories that the system does not let be listed; the root may be one. -/
  unlisted : List Place
  /-- How deep the walk goes, if it does not go on without end. -/
  bound : Option WalkBound

def ScanConditions.none : ScanConditions := ⟨.none, [], Option.none⟩

/-- What a walk breaks off with when it is to go on below a place. -/
def ScanConditions.breaksOff? (conditions : ScanConditions) (place : Place) : Option String := do
  let bound ← conditions.bound
  if bound.levels ≤ place.length then some bound.message else Option.none

instance : Coe ScanFaults ScanConditions := ⟨fun faults => ⟨faults, [], Option.none⟩⟩

/-- Why a scan gives no files. -/
inductive ScanError where
  | missingRoot (root : Path)
  | metadata (path : Path) (refusal : Refusal)
deriving DecidableEq, Repr

def ScanError.message : ScanError → String
  | .missingRoot root => s!"library root does not exist: {root}"
  | .metadata path refusal =>
    s!"failed to read metadata for {path}: {refusal.describe path.text}"

namespace Library

/-- An entry that a walk meets, other than a directory to enter. -/
structure Visit where
  /-- The names from the root. -/
  place : Place
  node : Node

/-- Elements with names, by name. -/
def byName {α : Type} (named : List (FileName × α)) : List (FileName × α) :=
  named.mergeSort fun a b => a.1.le b.1

/-- What a walk meets. -/
structure Walker where
  /-- Does a link at a place lead to a directory? -/
  leads : Place → Bool
  /-- Can the directory at a place be listed? -/
  lists : Place → Bool
  /-- What the walk breaks off with when it is to go on below a place, if it does. -/
  breaksOff? : Place → Option String

/-- Does a walk take a node at a place for a directory? -/
def Walker.branches (walker : Walker) (place : Place) : Node → Bool
  | .directory _ => true
  | .link _ => walker.leads place
  | _ => false

/-- What a walk comes to: an entry that it meets, or its end with a message. -/
inductive Step where
  | meet (visit : Visit)
  | breakOff (message : String)

/-- The entries of a directory that a walk does not take for directories. -/
def filesAmong (walker : Walker) (place : Place) (entries : List (FileName × Node)) :
    List (FileName × Visit) :=
  entries.filterMap fun (name, node) =>
    if walker.branches (place ++ [name]) node then none else some (name, ⟨place ++ [name], node⟩)

mutual

/-- The steps of a walk below a node at a place. A directory that cannot be listed is passed over with all
below it, and so is a link to a directory. -/
def stepsOf (walker : Walker) (place : Place) : Node → List Step
  | .directory entries =>
    if walker.lists place then
      (byName (filesAmong walker place entries)).map (fun file => .meet file.2)
        ++ (byName (branchesAmong walker place entries)).flatMap Prod.snd
    else []
  | _ => []

/-- The entries of a directory, each with the steps of the walk in it. The walk breaks off at the first that it
takes for a directory when it is deep enough. -/
def branchesAmong (walker : Walker) (place : Place) :
    List (FileName × Node) → List (FileName × List Step)
  | [] => []
  | (name, node) :: rest =>
    let steps := match walker.breaksOff? place with
      | none => stepsOf walker (place ++ [name]) node
      | some message => if walker.branches (place ++ [name]) node then [.breakOff message] else []
    (name, steps) :: branchesAmong walker place rest

end

/-- The path of a place below the root. -/
def relativePath (place : Place) : Path :=
  ⟨.relative, place.map FileName.text⟩

/-- The path by which a walk from a root names a place. A walk from where the program stands keeps the dot
that names it. -/
def walkedPath (root : Path) (place : Place) : Path :=
  let names := place.map FileName.text
  if root.anchor = .relative && root.names.isEmpty then ⟨.relative, "." :: names⟩
  else { root with names := root.names ++ names }

/-- Does a place below a root lead to a directory? -/
def leadsToDirectory (disk : Disk) (root : Path) (place : Place) : Bool :=
  match disk.find (walkedPath root place) with
  | .ok node => node.isDirectory
  | .error _ => false

/-- Can a walk list the directory at a place below a root? Its path is to lead there, and the system is to let it. -/
def canEnter (disk : Disk) (root : Path) (conditions : ScanConditions) (place : Place) : Bool :=
  leadsToDirectory disk root place && !conditions.unlisted.contains place

/-- What a walk meets that scans a library. -/
def walkerOf (disk : Disk) (root : Path) (conditions : ScanConditions) : Walker :=
  ⟨leadsToDirectory disk root, canEnter disk root conditions, conditions.breaksOff?⟩

/-- The content file that a walk has met, if it is one. -/
def contentFile? (disk : Disk) (root : Path) (conditions : ScanConditions) (visit : Visit) :
    Except (Failure ScanError) (Option ContentFile) :=
  let path := relativePath visit.place
  if !isContentName path.name.shown then .ok none
  else if conditions.unreadable.contains visit.place then report (.metadata (root.join path) .inputOutput)
  else match disk.locate .entry (root.join path) with
    | .error (.refused refusal) => report (.metadata (root.join path) refusal)
    | .error .embeddedNul => .error (.crash .embeddedNul)
    | .error .unencodable => .error (.crash .unencodable)
    | .ok _ =>
      match visit.node, path.text.toString? with
      | .file content, some _ =>
        match ContentFile.ofPath path content.length with
        | .ok file => .ok (some file)
        | .error .tooLong => .error (.crash .oversizedNumeral)
      | _, _ => .ok none

/-- The content files among the entries that a walk meets; the first fault ends it, and so does the walk where it
breaks off. -/
def contentFiles (disk : Disk) (root : Path) (conditions : ScanConditions) :
    List Step → Except (Failure ScanError) (List ContentFile)
  | [] => .ok []
  | .breakOff message :: _ => .error (.crash (.unexpected message))
  | .meet visit :: rest => do
    let file ← contentFile? disk root conditions visit
    let files ← contentFiles disk root conditions rest
    return file.toList ++ files

/-- Scans the directory that a path leads to. -/
def scan (disk : Disk) (conditions : ScanConditions) (root : Path) :
    Except (Failure ScanError) (List ContentFile) := do
  if let some message := conditions.interruption then throw (.crash (.unexpected message))
  let there ← orCrash (disk.isDirectory root)
  if !there then report (.missingRoot root)
  else match disk.locate .target root with
    | .error fault => throw (.crash (fault.toCrash root))
    | .ok start =>
      let steps := ((disk.at? start).map (stepsOf (walkerOf disk root conditions) [])).getD []
      contentFiles disk root conditions steps

end Library

end Gameshelf
