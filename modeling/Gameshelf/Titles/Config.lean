import Gameshelf.Settings.Field

/-!
The settings of the directory of titles: whether it is kept at all, whose titles it holds, and how
often it is refreshed.
-/

namespace Gameshelf.Titles

open Settings

/-- The settings of the directory of titles. -/
structure Config where
  enabled : Bool
  region : LooseText
  language : LooseText
  /-- The seconds between two refreshes. -/
  refreshInterval : Int
  /-- The address of a second source. -/
  secondSource : Option LooseText
deriving DecidableEq, Repr

namespace Config

def default : Config := ⟨true, "US", "en", 24 * 60 * 60, none⟩

def ofValues (values : Values) : Reading Config :=
  let start : Reading (Bool → LooseText → LooseText → Int → Option LooseText → Config) :=
    ⟨some Config.mk, []⟩
  start.andThen (.field values "enabled" default.enabled asBool)
    |>.andThen (.field values "region" default.region asText)
    |>.andThen (.field values "language" default.language asText)
    |>.andThen (.field values "refresh_interval_seconds" default.refreshInterval (asIntFrom 60))
    |>.andThen (.field values "url_override" default.secondSource asText?)

/-- The name of the document that holds the titles of the region in the language. -/
def document (config : Config) : LooseText :=
  config.region ++ "." ++ config.language ++ ".json"

def toJson (config : Config) : Json :=
  .obj [("enabled", .bool config.enabled), ("region", .str config.region),
    ("language", .str config.language), ("refresh_interval_seconds", .int config.refreshInterval),
    ("url_override", .ofText? config.secondSource)]

end Config

end Gameshelf.Titles
