import Gameshelf.Shop.Entry

/-!
The sections of the shop: new and recommended games, the newest update of each game, the newest form
of each add-on, and everything together.
-/

namespace Gameshelf.Shop

open Text

/-- A file as a section shows it. -/
structure Item where
  /-- The file's position in the catalog. -/
  position : Int
  name : String
  /-- The title id of the game that the file belongs to. -/
  gameId : Option String
  /-- The title id of the file itself, or its name. -/
  appId : String
  version : Int
  kind : ContentKind
  size : Int
deriving DecidableEq, Repr

namespace Item

/-- The item of a file. An empty title id counts as none, an absent version as zero. -/
def ofFile (position : Int) (file : ContentFile) : Item where
  position
  name := file.name
  gameId := TitleId.base? file.kind file.titleId
  appId := (file.titleId.filter (!·.isEmpty)).getD file.name
  version := file.version.getD 0
  kind := file.kind
  size := file.size

/-- The word for what an item is: files of unknown kind count as games. -/
def category : ContentKind → String
  | .base | .unknown => "BASE"
  | .update => "UPDATE"
  | .dlc => "DLC"

/-- The address of an item's icon, empty without a game. -/
def icon (item : Item) : String :=
  item.gameId.elim "" iconAddress

def toJson (item : Item) : Json :=
  .obj [("name", .str item.name), ("title_name", .str item.name), ("title_id", .ofString? item.gameId),
    ("app_id", .str item.appId), ("app_version", .str (toString item.version)),
    ("app_type", .str (category item.kind)), ("category", .str ""), ("icon_url", .str item.icon),
    ("iconUrl", .str item.icon), ("url", .str (gameAddress item.position item.name)),
    ("size", .int item.size), ("file_id", .int item.position), ("filename", .str item.name),
    ("download_count", .int 0)]

/-- What updates of one game have in common: the game, or the update's own id without one. -/
def updateKey (item : Item) : String :=
  item.gameId.getD item.appId

/-- Higher versions first, and of equal versions the earlier position. -/
def newestFirst (a b : Item) : Bool :=
  b.version < a.version || (a.version == b.version && a.position ≤ b.position)

def byName (a b : Item) : Bool :=
  lower a.name ≤ lower b.name

end Item

/-- Puts an item among the newest ones: it takes the place of one with the same key and a lower
version. -/
def putNewest (key : Item → String) : List Item → Item → List Item
  | [], item => [item]
  | held :: rest, item =>
    if key held = key item then
      (if held.version < item.version then item else held) :: rest
    else held :: putNewest key rest item

/-- For each key the newest of the items, the newest key first. -/
def newestByKey (key : Item → String) (items : List Item) : List Item :=
  (items.foldl (putNewest key) []).mergeSort Item.newestFirst

/-- The beginning of a list; a negative limit counts from the end. -/
def upTo {α : Type} (limit : Int) (items : List α) : List α :=
  if 0 ≤ limit then items.take limit.toNat else items.take (items.length - (-limit).toNat)

/-- The items of the shop's sections, before any limit. -/
structure Sections where
  games : List Item
  updates : List Item
  dlc : List Item

namespace Sections

/-- The items of files in catalog order: games from the last position to the first. -/
def ofFiles (files : List ContentFile) : Sections :=
  let items := (Catalog.numbered files).map fun (position, file) => Item.ofFile position file
  let ofKinds (kinds : List ContentKind) : List Item :=
    items.filter fun item => kinds.contains item.kind
  ⟨(ofKinds [.base, .unknown]).reverse, newestByKey Item.updateKey (ofKinds [.update]),
    newestByKey Item.appId (ofKinds [.dlc])⟩

/-- Everything in the shop, by name. -/
def everything (sections : Sections) : List Item :=
  (sections.games ++ sections.updates ++ sections.dlc).mergeSort Item.byName

/-- The new games, or anything at all where there are no games. -/
def newest (sections : Sections) (limit : Int) : List Item :=
  let games := upTo limit sections.games
  if games.isEmpty then upTo limit sections.everything else games

/-- One section of the answer. -/
def sectionJson (id title : String) (items : List Item) (more : Json.Members) : Json :=
  let members : Json.Members :=
    [("id", .str id), ("title", .str title), ("items", .arr (items.map Item.toJson))]
  .obj (members ++ more)

/-- The sections as a response shows them. -/
def toJson (sections : Sections) (limit : Int) : Json :=
  let everything := sections.everything
  .obj [("sections", .arr [
    sectionJson "new" "New" (sections.newest limit) [],
    sectionJson "recommended" "Recommended" (sections.newest limit) [],
    sectionJson "updates" "Updates" (upTo limit sections.updates) [],
    sectionJson "dlc" "DLC" (upTo limit sections.dlc) [],
    sectionJson "all" "All" everything
      [("total", .int everything.length), ("truncated", .bool false)]])]

end Sections

end Gameshelf.Shop
