import Gameshelf.Catalog.Basic
import Gameshelf.Encoding.Percent

/-!
Catalog entries: the files as clients of the shop see them, and the answers made of them.
-/

namespace Gameshelf.Shop

open Text

/-- What the segments of a download address may contain besides the unreserved characters. -/
def segmentSafe : List Char := "!$&'()*+,;=:@[]~".toList

/-- A relative path as part of an address: each segment is escaped, the slashes stay. -/
def encodePath (path : String) : String :=
  let segments := splitAll (· == '/') path.toList
  String.ofList (joinWith ['/'] (segments.map (Encoding.Percent.encode segmentSafe)))

def downloadAddress (file : ContentFile) : String :=
  "/download/" ++ encodePath file.path

/-- A file as an entry. Ids, versions and kinds stand under every name that clients look for. -/
def entry (file : ContentFile) : Json :=
  let id := Json.ofString? file.titleId
  let version := file.version.elim Json.null Json.int
  let kind := Json.str file.kind.word
  .obj [("id", .str file.path), ("name", .str file.name), ("title_id", id), ("titleid", id),
    ("titleId", id), ("version", version), ("ver", version), ("kind", kind), ("type", kind),
    ("size", .int file.size), ("url", .str (downloadAddress file))]

/-- The sections of the shop: their ids and labels. -/
def sections : List (String × String) :=
  [("new", "New"), ("recommended", "Recommended"), ("updates", "Updates"), ("dlc", "DLC"),
    ("all", "All")]

/-- The sections of the shop as a list of ids and labels. -/
def sectionList : Json :=
  .arr (sections.map fun (id, label) => .obj [("id", .str id), ("label", .str label)])

/-- The answer that lists files. -/
def listing (files : List ContentFile) : Json :=
  let entries := Json.arr (files.map entry)
  .obj [("total", .int files.length), ("success", .str "ok"), ("files", entries),
    ("directories", .arr []), ("entries", entries), ("sections", sectionList)]

/-- The kinds that the names of sections stand for. -/
def sectionKinds : List (String × ContentKind) :=
  [("base", .base), ("games", .base), ("update", .update), ("updates", .update), ("dlc", .dlc)]

/-- The names of sections that show every file. -/
def wholeSections : List String := ["all", "new", "recommended"]

/-- The files of a section; none for a name that is no section. -/
def sectionFiles (catalog : Catalog) (name : String) : List ContentFile :=
  if wholeSections.contains name then catalog.files
  else match sectionKinds.lookup name with
    | some kind => catalog.ofKind kind
    | none => []

/-- The address at which the file at a position is fetched. -/
def gameAddress (position : Int) (name : String) : String :=
  s!"/api/get_game/{position}#{name}"

def iconAddress (titleId : String) : String :=
  s!"/api/shop/icon/{titleId}.png"

/-- Every file with the address at which it is fetched by position. -/
def rootFiles (files : List ContentFile) : Json :=
  .arr ((Catalog.numbered files).map fun (position, file) =>
    .obj [("url", .str (gameAddress position file.name)), ("size", .int file.size)])

end Gameshelf.Shop
