import Gameshelf.Disk.Change
import Gameshelf.Disk.Document
import Gameshelf.Json.Write
import Gameshelf.Titles.Info

/-!
The cache of titles: a document that lists them in the order of their ids. Saving replaces the document
in one step; loading skips items that are no titles.
-/

namespace Gameshelf.Titles

open Text

/-- A title as an item of the cache. -/
def cacheItem (title : LooseText × Info) : Json :=
  .obj [("id", .str title.1), ("icon_url", .ofText? title.2.icon),
    ("banner_url", .ofText? title.2.banner), ("name", .ofText? title.2.name)]

/-- The cache of titles as a document. -/
def cacheDocument (titles : Register Info) : Json :=
  .arr (titles.entries.map cacheItem)

/-- The title of an item of the cache; none if its id is no text. -/
def cachedTitle? (item : Json) : Option (LooseText × Info) := do
  let id ← item.textAt? "id"
  return (id.upper, ⟨item.textAt? "icon_url", item.textAt? "banner_url", item.textAt? "name"⟩)

/-- Why a cache was not loaded. -/
inductive CacheError where
  | document (error : DocumentError)
  | notAList (path : Path)
deriving DecidableEq, Repr

/-- The titles of a cache document. -/
def ofCacheDocument (path : Path) : Json → Except CacheError (Register Info)
  | .arr items => .ok (Register.ofList (items.filterMap cachedTitle?))
  | _ => .error (.notAList path)

def loadCache [Stack] (disk : Disk) (path : Path) : Except (Failure CacheError) (Register Info) :=
  match disk.readDocument path with
  | .ok value => (ofCacheDocument path value).mapError .reported
  | .error (.reported error) => report (.document error)
  | .error (.crash crash) => .error (.crash crash)

/-- Saves the cache at a path, making the directories above it. -/
def saveCache (path : Path) (titles : Register Info) : Change Unit := do
  Change.makeDirectories path.parent
  Change.replaceFile path (Encoding.encodeUtf8 (Json.document (cacheDocument titles)))

end Gameshelf.Titles
