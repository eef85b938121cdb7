import Gameshelf.Download.Answer
import Gameshelf.Download.SafePath
import Gameshelf.Server.Message
import Gameshelf.Server.Route
import Gameshelf.Server.Shop
import Gameshelf.Shop.Section

/-!
What each endpoint answers. Endpoints that need a shop crash where none is open.
-/

namespace Gameshelf.Server

open Text

/-- The shop, where one is open. -/
def openShop : Option Shop → Except Crash Shop
  | some shop => .ok shop
  | none => .error (.unexpected "shop is not configured")

/-- The answer to a value of a request that is refused. -/
def objectionResponse (place name text : String) (objection : Settings.Objection) : Response :=
  .json 422 (.obj [("detail", .arr [.obj [("type", .str objection.name),
    ("loc", .arr [.str place, .str name]), ("msg", .str objection.message), ("input", .str text)]])]) []

/-- The most items of a section, where the request does not say. -/
def sectionLimit : Int := 50

/-- The answer that lists files. -/
def listFiles (files : List ContentFile) : Response :=
  .json 200 (Shop.listing files) []

def answerShopSections (shop : Option Shop) (request : Request) : Except Crash Response :=
  let answer (limit : Int) : Except Crash Response := do
    let shop ← openShop shop
    return .json 200 ((Shop.Sections.ofFiles shop.catalog.files).toJson (max 1 limit)) []
  match request.queryField? "limit" with
  | none => answer sectionLimit
  | some text =>
    match Settings.intOfText text with
    | .ok limit => answer limit
    | .error objection => .ok (objectionResponse "query" "limit" text objection)

def answerVersions (shop : Shop) (titleId : String) : Response :=
  match shop.catalog.versions titleId with
  | some (id, files) =>
    .json 200 (.obj [("title_id", .str id), ("files", .arr (files.map ContentFile.toJson))]) []
  | none => .failure 404 s!"no content for title {upper titleId}" []

/-- A download as a response. The chunks of its body follow one another. -/
def ofDownload (answer : Download.Answer) : Response :=
  let headers := answer.headers.map fun (name, value) => (lower name, value)
  if answer.status = 416 then .bare 416 headers
  else match answer.body with
    | none => ⟨answer.status, headers, .raw []⟩
    | some extent => ⟨answer.status, headers, .raw extent.transfer.drain.chunks.flatten⟩

def answerFile (shop : Option Shop) (disk : Disk) (request : Request) (path : String) :
    Except Crash Response := do
  let shop ← openShop shop
  let range := request.header? "range"
  match Download.answer disk shop.root path range (request.method != "HEAD") none with
  | .ok answer => return ofDownload answer
  | .error (.reported error) => return .failure error.status error.message []
  | .error (.crash crash) => throw crash

def answerGame (shop : Option Shop) (disk : Disk) (request : Request) (text : String) :
    Except Crash Response :=
  match Settings.intOfText text with
  | .error objection => .ok (objectionResponse "path" "file_id" text objection)
  | .ok position => do
    match (← openShop shop).catalog.atPosition position with
    | none => return .failure 404 "file not found" []
    | some file => answerFile shop disk request file.path

/-- An image of one transparent point. -/
def placeholder : Encoding.Bytes :=
  [0x89, 0x50, 0x4E, 0x47, 0x0D, 0x0A, 0x1A, 0x0A, 0x00, 0x00, 0x00, 0x0D, 0x49, 0x48, 0x44, 0x52,
    0x00, 0x00, 0x00, 0x01, 0x00, 0x00, 0x00, 0x01, 0x08, 0x04, 0x00, 0x00, 0x00, 0xB5, 0x1C, 0x0C,
    0x02, 0x00, 0x00, 0x00, 0x0B, 0x49, 0x44, 0x41, 0x54, 0x78, 0xDA, 0x63, 0xFC, 0xFF, 0x1F, 0x00,
    0x03, 0x03, 0x02, 0x00, 0xEE, 0xD9, 0xDA, 0x2A, 0x00, 0x00, 0x00, 0x00, 0x49, 0x45, 0x4E, 0x44,
    0xAE, 0x42, 0x60, 0x82]

/-- The answer that shows no image. Clients keep it for a week. -/
def noImage : Response :=
  let body := Body.raw placeholder
  ⟨200, [Response.lengthHeader body, ("content-type", "image/png"),
    ("cache-control", "public, max-age=604800, immutable")], body⟩

/-- The suffix of images, in any case. -/
def imageSuffix : List Char := ".png".toList

/-- A title id without the suffix of an image. -/
def withoutImageSuffix (name : String) : String :=
  let cs := name.toList
  if imageSuffix.isSuffixOf (lower name).toList then
    String.ofList (cs.take (cs.length - imageSuffix.length))
  else name

/-- The answer that shows an image of a title. -/
def answerImage (shop : Option Shop) (image : Titles.Info → Option LooseText) (name : String) :
    Except Crash Response := do
  let shop ← openShop shop
  match (shop.titles.lookup (withoutImageSuffix name)).bind image with
  | some address =>
    if !address.beginsWith "http" then return noImage
    else match address.toString? with
      | some address => return .redirect address
      | none => throw .unencodable
  | none => return noImage

def answer (shop : Option Shop) (disk : Disk) (request : Request) : Endpoint → Except Crash Response
  | .health =>
    .ok (.json 200 (.obj [("status", .str "ok"),
      ("catalog_files", .int (shop.elim 0 fun shop => shop.catalog.size))]) [])
  | .root => do
    let shop ← openShop shop
    return .json 200 (.obj [("success", .str "ok"), ("files", Shop.rootFiles shop.catalog.files)]) []
  | .listing => do
    let shop ← openShop shop
    return listFiles shop.catalog.files
  | .sections => .ok (.json 200 (.obj [("sections", Shop.sectionList)]) [])
  | .sectionFiles name => do
    let shop ← openShop shop
    return listFiles (Shop.sectionFiles shop.catalog (lower name))
  | .shopSections => answerShopSections shop request
  | .search => do
    let shop ← openShop shop
    return listFiles (shop.catalog.search ((request.queryField? "q").getD ""))
  | .versions titleId => do
    let shop ← openShop shop
    return answerVersions shop titleId
  | .download path =>
    match Download.safePath? path with
    | none =>
      let error := Download.DownloadError.invalidPath
      .ok (.failure error.status error.message [])
    | some path => answerFile shop disk request path
  | .game text => answerGame shop disk request text
  | .icon name => answerImage shop (·.icon) name
  | .banner name => answerImage shop (·.banner) name
  | .saves => .ok (.json 200 (.obj [("success", .bool true), ("saves", .arr [])]) [])

end Gameshelf.Server
