import Gameshelf.CommandLine.Arguments
import Gameshelf.Server.Shop

/-!
A run of the program: the command line and the other sources give settings, the settings open a shop,
and then the server is to listen. Errors on the way are reported and end the run.
-/

namespace Gameshelf.CommandLine

inductive Level where
  | all
  | debug
  | info
  | warning
  | error
  | critical
deriving DecidableEq, Repr

namespace Level

def weight : Level → Nat
  | .all => 0
  | .debug => 10
  | .info => 20
  | .warning => 30
  | .error => 40
  | .critical => 50

def name : Level → String
  | .all => "NOTSET"
  | .debug => "DEBUG"
  | .info => "INFO"
  | .warning => "WARNING"
  | .error => "ERROR"
  | .critical => "CRITICAL"

/-- The names that levels are known by. -/
def named : List (String × Level) :=
  [("CRITICAL", .critical), ("FATAL", .critical), ("ERROR", .error), ("WARN", .warning),
    ("WARNING", .warning), ("INFO", .info), ("DEBUG", .debug), ("NOTSET", .all)]

def ofName (name : LooseText) : Except Crash Level :=
  match name.toString?.bind fun known => named.lookup known with
  | some level => .ok level
  | none => .error .unknownLevel

/-- Does a level let a message of another level through? -/
def admits (threshold level : Level) : Bool :=
  threshold.weight ≤ level.weight

end Level

inductive Message where
  | loaded (settings : Settings)
  | failed (error : Server.OpeningError)

namespace Message

def level : Message → Level
  | .loaded _ => .info
  | .failed _ => .error

def text : Message → String
  | .loaded settings =>
    s!"configuration loaded root={settings.libraryRoot} host={settings.host} port={settings.port} "
      ++ s!"scan_interval_seconds={settings.scanInterval}"
  | .failed error => s!"startup failed: {error.message}"

end Message

/-- What came of a run that was not stopped at its command line. -/
structure Outcome where
  messages : List Message
  /-- The level from which messages are let through in the end. -/
  level : Level
  /-- The shop that is open, or nothing after an error. -/
  shop : Option Server.Shop

namespace Outcome

def exit (outcome : Outcome) : Nat :=
  if outcome.shop.isSome then 0 else 1

/-- Where the server is to listen. -/
def listens (outcome : Outcome) : List (LooseText × Int) :=
  (outcome.shop.map fun shop => (shop.settings.host, shop.settings.port)).toList

end Outcome

/-- The level of the messages about requests, which does not depend on the settings. -/
def accessLevel : Level := .warning

/-- Opens the shop of the settings from all sources. -/
def open? [Stack] (disk : Disk) (sources : Settings.Sources) : Except Crash Outcome :=
  let failedAfter (messages : List Message) (error : Server.OpeningError) : Outcome :=
    ⟨messages ++ [.failed error], .info, none⟩
  match Settings.load disk sources with
  | .error (.crash crash) => .error crash
  | .error (.reported error) => .ok (failedAfter [] (.config error))
  | .ok settings => do
    let level ← Level.ofName settings.logLevel
    let messages := [Message.loaded settings].filter fun message => level.admits message.level
    match Server.Shop.configure disk settings true with
    | .error (.crash crash) => throw crash
    | .error (.reported error) => return failedAfter messages error
    | .ok shop => return ⟨messages, level, some shop⟩

def run [Stack] (disk : Disk) (environment : Settings.Environment) (words : List String) :
    Except Stop Outcome := do
  let arguments ← Arguments.ofWords words
  (open? disk ⟨arguments.config.value?, environment, arguments.values⟩).mapError .crash

/-- What is written for a command line that is refused. -/
def usageMessage (error : UsageError) : String :=
  s!"foilshop: error: {error.message}"

end Gameshelf.CommandLine
