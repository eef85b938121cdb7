import Gameshelf.Titles.Cache
import Gameshelf.Titles.Config
import Gameshelf.Titles.Source

/-!
The directory of titles. A refresh asks every source, merges what they bring and saves it; when none
brings anything the cache stands in. A source that fails leaves the others as they are.
-/

namespace Gameshelf.Titles

open Text

/-- The directory of titles. -/
structure Directory where
  config : Config
  /-- Where the cache is kept. -/
  dataDirectory : Path
  titles : Register Info
  refreshedAt : Option Nat

namespace Directory

/-- A directory that was never refreshed. -/
def initial (config : Config) (dataDirectory : Path) : Directory :=
  ⟨config, dataDirectory, Register.empty, none⟩

def cachePath (directory : Directory) : Path :=
  directory.dataDirectory / "titledb" / directory.config.document

/-- The address below which the first source keeps its documents. -/
def firstHost : LooseText := "https://raw.githubusercontent.com/blawar/titledb/master/"

/-- The sources by name, and their addresses, in the order they are asked. -/
def sources (directory : Directory) : List (String × LooseText) :=
  let second := (directory.config.secondSource.filter (!·.isEmpty)).map ("url_override", ·)
  ("blawar_raw", firstHost ++ directory.config.document) :: second.toList

/-- What is known of a title; case does not matter. -/
def lookup (directory : Directory) (titleId : String) : Option Info :=
  directory.titles.get? (upper titleId)

def size (directory : Directory) : Nat :=
  directory.titles.size

/-- Takes in other titles at a moment. -/
def swap (directory : Directory) (titles : Register Info) (now : Nat) : Directory :=
  { directory with titles, refreshedAt := some now }

/-- Takes in the titles of the cache, if there is one that can be read, and tells whether it did. -/
def loadCached [Stack] (directory : Directory) (disk : Disk) (now : Nat) : Except Crash (Bool × Directory) := do
  let there ← disk.present directory.cachePath
  if !there then return (false, directory)
  else match loadCache disk directory.cachePath with
    | .ok titles => return (true, directory.swap titles now)
    | .error (.reported _) => return (false, directory)
    | .error (.crash crash) => throw crash

/-- What requests to sources bring. -/
abbrev Fetch := LooseText → Except (Failure SourceError) Json

/-- A source as it is asked once: its address, and what the request brings. -/
structure Asked where
  address : LooseText
  brought : Except (Failure SourceError) Json

/-- The titles that a source gives. -/
def Asked.titles (source : Asked) : Except (Failure SourceError) (List (LooseText × Info)) := do
  let value ← source.brought
  (ofPayload value).mapError fun error => .reported (.payload error)

/-- The sources, each asked once. -/
def asking (directory : Directory) (fetch : Fetch) : List Asked :=
  directory.sources.map fun (_, address) => ⟨address, fetch address⟩

/-- Asks sources in turn: the addresses asked, and the titles of those that gave any. A crash ends the
asking. -/
def askAll : List Asked → List LooseText × Except Crash (List (List (LooseText × Info)))
  | [] => ([], .ok [])
  | source :: rest =>
    match source.titles with
    | .error (.crash crash) => ([source.address], .error crash)
    | .error (.reported _) =>
      let (asked, given) := askAll rest
      (source.address :: asked, given)
    | .ok titles =>
      let (asked, given) := askAll rest
      (source.address :: asked, given.map (titles :: ·))

/-- The directory and the disk after some step, the addresses that were asked, and what the step
gave. -/
structure After (α : Type) where
  directory : Directory
  disk : Disk
  asked : List LooseText
  outcome : Except Crash α

/-- Saves titles to the cache; that the disk refuses is no matter. -/
def save (directory : Directory) (disk : Disk) : Except Crash Unit × Disk :=
  match (saveCache directory.cachePath directory.titles).make disk with
  | (.error .embeddedNul, disk) => (.error .embeddedNul, disk)
  | (.error .unencodable, disk) => (.error .unencodable, disk)
  | (_, disk) => (.ok (), disk)

/-- Refreshes the directory from sources that are asked, and gives the number of titles it holds then. -/
def refreshFrom [Stack] (directory : Directory) (disk : Disk) (sources : List Asked) (now : Nat) : After Nat :=
  if !directory.config.enabled then ⟨directory, disk, [], .ok directory.size⟩
  else
    let (asked, given) := askAll sources
    match given with
    | .error crash => ⟨directory, disk, asked, .error crash⟩
    | .ok given =>
      let titles := merge given
      if titles.isEmpty then
        match directory.loadCached disk now with
        | .ok (_, directory) => ⟨directory, disk, asked, .ok directory.size⟩
        | .error crash => ⟨directory, disk, asked, .error crash⟩
      else
        let directory := directory.swap titles now
        let (saved, disk) := directory.save disk
        ⟨directory, disk, asked, saved.map fun _ => directory.size⟩

/-- Refreshes the directory from its sources. -/
def refresh [Stack] (directory : Directory) (disk : Disk) (fetch : Fetch) (now : Nat) : After Nat :=
  directory.refreshFrom disk (directory.asking fetch) now

/-- A refresh in the background: what has happened on the disk until then, what requests to sources bring,
and its moment. -/
structure Round where
  meanwhile : Disk → Disk
  fetch : Fetch
  now : Nat

/-- Refreshes once in each round; a crash ends one refresh and not the next. -/
def refreshEach [Stack] : List Round → Directory → Disk → After Unit
  | [], directory, disk => ⟨directory, disk, [], .ok ()⟩
  | round :: rest, directory, disk =>
    let first := directory.refresh (round.meanwhile disk) round.fetch round.now
    let others := refreshEach rest first.directory first.disk
    { others with asked := first.asked ++ others.asked }

/-- What runs in the background: the cache is loaded, and then the directory is refreshed again and
again. -/
def run [Stack] (directory : Directory) (disk : Disk) (now : Nat) (rounds : List Round) : After Unit :=
  match directory.loadCached disk now with
  | .error crash => ⟨directory, disk, [], .error crash⟩
  | .ok (_, directory) => refreshEach rounds directory disk

/-- What runs in the background while requests always bring the same. -/
def background [Stack] (directory : Directory) (disk : Disk) (fetch : Fetch) (now : Nat) (times : Nat) :
    After Unit :=
  directory.run disk now (List.replicate times ⟨id, fetch, now⟩)

end Directory

end Gameshelf.Titles
