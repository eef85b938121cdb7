import Gameshelf.Disk.Document
import Gameshelf.Settings.Basic

/-!
Where settings come from. Explicit values go before the environment, the environment before the file,
the file before the defaults. A value that another goes before is not even looked at.
-/

namespace Gameshelf

open Text

/-- Why there are no settings to start with. -/
inductive ConfigError where
  | document (path : Path) (error : DocumentError)
  | notAnObject (path : Path)
  | notABoolean (key : String) (value : LooseText)
  | invalid (errors : List Settings.FieldError)
  | noLibrary (root : Path)
  | noAuthFile
  | absentAuthFile (path : Path)
deriving DecidableEq, Repr

namespace ConfigError

/-- The message of an error, with the words for what lies behind it. -/
def messageWith (describe : Path → DocumentError → String) : ConfigError → String
  | .document path (.unreadable refusal) =>
    s!"failed to read config file {path}: {describe path (.unreadable refusal)}"
  | .document path .malformed => s!"invalid config in {path}: {describe path .malformed}"
  | .notAnObject path => s!"invalid config in {path}: expected a JSON object"
  | .notABoolean name value => s!"invalid boolean value for env var {name}: {value}"
  | .invalid _ => "invalid configuration"
  | .noLibrary root => s!"library root {root} does not exist or is not a directory"
  | .noAuthFile => "private shop requires an auth file. Set --auth-file or FOILSHOP_PUBLIC=true"
  | .absentAuthFile path => s!"auth file {path} does not exist"

def message : ConfigError → String :=
  messageWith DocumentError.describe

end ConfigError

namespace Settings

def trueWords : List String := ["1", "true", "yes", "on"]

def falseWords : List String := ["0", "false", "no", "off"]

/-- The word that the value of a switch is: in any case, with white space around it. -/
def switchWord? (value : LooseText) : Option String :=
  value.toString?.map fun text => lower (trim text)

/-- A switch of the environment. -/
def switchOf (key : String) (value : LooseText) : Except ConfigError Bool :=
  match switchWord? value with
  | none => .error (.notABoolean key value)
  | some word =>
    if trueWords.contains word then .ok true
    else if falseWords.contains word then .ok false
    else .error (.notABoolean key value)

def fileVariable : String := "FOILSHOP_CONFIG"

/-- The variables and the fields that they set. -/
def fieldVariables : List (String × String) :=
  [("FOILSHOP_HOST", "host"), ("FOILSHOP_PORT", "port"), ("FOILSHOP_LIBRARY_ROOT", "library_root"),
    ("FOILSHOP_AUTH_FILE", "auth_file"), ("FOILSHOP_SCAN_INTERVAL_SECONDS", "scan_interval_seconds"),
    ("FOILSHOP_DATA_DIR", "data_dir"), ("FOILSHOP_LOG_LEVEL", "log_level"),
    ("FOILSHOP_RATE_LIMIT_PER_SECOND", "rate_limit_per_second"),
    ("FOILSHOP_RATE_LIMIT_BURST", "rate_limit_burst")]

/-- The variables that make a shop public or private; the first that is set counts. -/
def publicVariables : List String := ["FOILSHOP_PUBLIC", "FOILSHOP_SHOP_PUBLIC"]

/-- The environment: variables and their values, in which bytes that are no text stand as lone halves. -/
abbrev Environment := List (String × LooseText)

/-- Where settings come from. -/
structure Sources where
  /-- The file that is named explicitly. -/
  file : Option String
  environment : Environment
  /-- The values that are given explicitly. -/
  explicit : Values

/-- A text that is not empty. -/
def nonempty? (text : Option String) : Option String :=
  text.filter (!·.isEmpty)

/-- The path of the file of settings, if there is to be one. -/
def Sources.filePath (sources : Sources) : Option Path :=
  let explicit : Option LooseText := (nonempty? sources.file).map fun text => text
  let inEnvironment := (sources.environment.lookup fileVariable).filter (!·.isEmpty)
  (explicit.or inEnvironment).map Path.ofText

/-- The values in a file. The root of the library may stand under its older name. -/
def valuesOfMembers (members : Values) : Values :=
  let inFile := Json.obj members
  match inFile.get? "library_folder", inFile.get? "library_root" with
  | some root, none => Json.putMember members "library_root" root
  | _, _ => members

/-- The values that a file gives. Beside them, data is kept in the directory of the file. -/
def fileValues [Stack] (disk : Disk) : Option Path → Except (Failure ConfigError) Values
  | none => .ok []
  | some path =>
    match disk.readDocument path with
    | .ok (.obj members) =>
      let besideFile : Values := [("data_dir", .str (path.parent / "data").text)]
      .ok (valuesOfMembers members ++ besideFile)
    | .ok _ => report (.notAnObject path)
    | .error (.reported error) => report (.document path error)
    | .error (.crash crash) => .error (.crash crash)

/-- The values that the environment gives; blank variables count as unset. -/
def environmentValues (environment : Environment) : Values :=
  fieldVariables.filterMap fun (key, field) =>
    match (environment.lookup key).map LooseText.trim with
    | some value => if value.isEmpty then none else some (field, .str value)
    | none => none

/-- Whether the environment makes the shop public or private. -/
def publicValue (environment : Environment) : Except ConfigError Values :=
  match publicVariables.findSome? fun name => (environment.lookup name).map (name, ·) with
  | none => .ok []
  | some (name, value) => (switchOf name value).map fun b => [("public_shop", .bool b)]

/-- The values that are given explicitly; null gives none. -/
def explicitValues (values : Values) : Values :=
  values.filter fun
    | (_, .null) => false
    | _ => true

/-- The values of all sources. A look-up finds the first, so the sources that go before others stand
before them. -/
def effectiveValues [Stack] (disk : Disk) (sources : Sources) : Except (Failure ConfigError) Values := do
  let inFile ← fileValues disk sources.filePath
  let isPublic ← (publicValue sources.environment).mapError .reported
  return explicitValues sources.explicit ++ isPublic ++ environmentValues sources.environment ++ inFile

def load [Stack] (disk : Disk) (sources : Sources) : Except (Failure ConfigError) Settings := do
  let values ← effectiveValues disk sources
  (ofValues values).toExcept.mapError fun errors => .reported (.invalid errors)

/-- Checks that a shop can start with its settings: the library is there, and a private shop has a file
of users. -/
def check (disk : Disk) (settings : Settings) : Except (Failure ConfigError) Unit := do
  let library ← orCrash (disk.isDirectory settings.libraryRoot)
  if !library then report (.noLibrary settings.libraryRoot)
  else if settings.publicShop then return ()
  else match settings.authFile with
    | none => report .noAuthFile
    | some path => do
      let there ← orCrash (disk.present path)
      if there then return () else report (.absentAuthFile path)

end Settings

end Gameshelf
