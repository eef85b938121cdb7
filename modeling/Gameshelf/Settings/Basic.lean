import Gameshelf.Text.Case
import Gameshelf.Titles.Config

/-!
The settings of the server, read from the values of fields with all their errors at once.
-/

namespace Gameshelf

open Text

/-- The settings of the server. -/
structure Settings where
  host : LooseText
  port : Int
  libraryRoot : Path
  authFile : Option Path
  publicShop : Bool
  scanInterval : Int
  dataDirectory : Path
  logLevel : LooseText
  /-- The requests that are let through in a second on average. -/
  ratePerSecond : Int
  /-- The requests that are let through at once. -/
  rateBurst : Int
  titles : Titles.Config
deriving DecidableEq, Repr

namespace Settings

def default : Settings where
  host := "0.0.0.0"
  port := 8465
  libraryRoot := Path.ofText "./library"
  authFile := none
  publicShop := false
  scanInterval := 30
  dataDirectory := Path.ofText "./data"
  logLevel := "INFO"
  ratePerSecond := 20
  rateBurst := 50
  titles := Titles.Config.default

/-- A level of messages in capitals and without white space around it; a blank one is the ordinary
level. -/
def normalLevel (level : LooseText) : LooseText :=
  let name := level.trim.upper
  if name.isEmpty then "INFO" else name

/-- Reads the settings of the directory of titles, which are an object within the settings. -/
def titlesOf (values : Values) : Reading Titles.Config :=
  match values.lookup ("titledb" : LooseText) with
  | none => ⟨some default.titles, []⟩
  | some (.obj members) => (Titles.Config.ofValues members).within "titledb"
  | some _ => ⟨none, [⟨["titledb"], .modelType⟩]⟩

/-- Reads settings from the values of fields. -/
def ofValues (values : Values) : Reading Settings :=
  let start : Reading (LooseText → Int → Path → Option Path → Bool → Int → Path → LooseText → Int →
    Int → Titles.Config → Settings) := ⟨some Settings.mk, []⟩
  start.andThen (.field values "host" default.host asText)
    |>.andThen (.field values "port" default.port (asIntBetween 0 65535))
    |>.andThen (.field values "library_root" default.libraryRoot asPath)
    |>.andThen (.field values "auth_file" default.authFile asPath?)
    |>.andThen (.field values "public_shop" default.publicShop asBool)
    |>.andThen (.field values "scan_interval_seconds" default.scanInterval
      fun value => (asInt value).map (max 1))
    |>.andThen (.field values "data_dir" default.dataDirectory asPath)
    |>.andThen (.field values "log_level" default.logLevel fun value => (asText value).map normalLevel)
    |>.andThen (.field values "rate_limit_per_second" default.ratePerSecond (asIntFrom 1))
    |>.andThen (.field values "rate_limit_burst" default.rateBurst (asIntFrom 1))
    |>.andThen (titlesOf values)

def toJson (settings : Settings) : Json :=
  .obj [("host", .str settings.host), ("port", .int settings.port),
    ("library_root", .str settings.libraryRoot.text),
    ("auth_file", .ofText? (settings.authFile.map Path.text)),
    ("public_shop", .bool settings.publicShop),
    ("scan_interval_seconds", .int settings.scanInterval),
    ("data_dir", .str settings.dataDirectory.text), ("log_level", .str settings.logLevel),
    ("rate_limit_per_second", .int settings.ratePerSecond),
    ("rate_limit_burst", .int settings.rateBurst), ("titledb", settings.titles.toJson)]

end Settings

end Gameshelf
