import Gameshelf.CommandLine.Flag
import Gameshelf.Failure
import Gameshelf.Settings.Field

/-!
The arguments of a command line. Its words are read first, all of them; then the flags take effect one
after the other, and words that nothing expects are refused at the end. Words are strings: bytes that are
no text are not among them.
-/

namespace Gameshelf.CommandLine

open Text

/-- What a command line gives for a flag that takes a value. -/
inductive Given (α : Type) where
  /-- The flag does not occur. -/
  | nothing
  /-- Two dashes stand in the place of the value: they end the flags, and what is left is a list of no
  values. -/
  | noValues
  | value (a : α)
deriving DecidableEq, Repr

namespace Given

def value? {α : Type} : Given α → Option α
  | .value a => some a
  | .nothing | .noValues => none

/-- What is given as the value of a field; nothing for a flag that does not occur. -/
def toJson? {α : Type} (write : α → Json) : Given α → Option Json
  | .nothing => none
  | .noValues => some (.arr [])
  | .value a => some (write a)

end Given

/-- The values that a command line gives. -/
structure Arguments where
  config : Given String
  libraryRoot : Given String
  authFile : Given String
  publicShop : Bool
  scanInterval : Given Int
  host : Given String
  port : Given Int
  logLevel : Given String
deriving DecidableEq, Repr

/-- Why a command line is refused. -/
inductive UsageError where
  | ambiguous (word : String) (spellings : List String)
  | valueExpected (flag : Flag)
  | notAnInteger (flag : Flag) (value : String)
  | valueRefused (flag : Flag) (value : String)
  | unrecognized (words : List String)
deriving DecidableEq, Repr

def UsageError.message : UsageError → String
  | .ambiguous word spellings =>
    s!"ambiguous option: {word} could match " ++ ", ".intercalate spellings
  | .valueExpected flag => s!"argument {flag.label}: expected one argument"
  | .notAnInteger flag value => s!"argument {flag.label}: invalid int value: {quoted value}"
  | .valueRefused flag value => s!"argument {flag.label}: ignored explicit argument {quoted value}"
  | .unrecognized words => "unrecognized arguments: " ++ " ".intercalate words

/-- How a command line ends before anything is started. -/
inductive Stop where
  | help
  | usage (error : UsageError)
  | crash (crash : Crash)
deriving DecidableEq, Repr

namespace Arguments

def none : Arguments :=
  ⟨.nothing, .nothing, .nothing, false, .nothing, .nothing, .nothing, .nothing⟩

/-- Reads the words of a command line; after a separator all of them are values. -/
def readWords : List String → Except UsageError (List Word)
  | [] => .ok []
  | word :: rest =>
    if word == "--" then .ok (.separator :: rest.map .value)
    else match Word.classify word with
      | .error spellings => .error (.ambiguous word spellings)
      | .ok read => (readWords rest).map (read :: ·)

/-- The flag that a text attached to the help flag ends in, and what is attached to that: each letter
but the last must be that of the help flag again. -/
def lastOfCluster (helper : Flag) : List Char → Except UsageError (Flag × Option String)
  | [] => .ok (helper, .none)
  | letter :: rest =>
    match Flag.spelled.lookup (String.ofList ['-', letter]) with
    | .none => .error (.valueRefused helper (String.ofList (letter :: rest)))
    | some flag =>
      if flag.takesValue then
        .ok (flag, if rest.isEmpty then .none else some (String.ofList rest))
      else lastOfCluster flag rest

def setText (arguments : Arguments) (target : Target) (given : Given String) : Arguments :=
  match target with
  | .config => { arguments with config := given }
  | .libraryRoot => { arguments with libraryRoot := given }
  | .authFile => { arguments with authFile := given }
  | .host => { arguments with host := given }
  | .logLevel => { arguments with logLevel := given }
  | .publicShop | .scanInterval | .port => arguments

def setNumber (arguments : Arguments) (target : Target) (given : Given Int) : Arguments :=
  match target with
  | .scanInterval => { arguments with scanInterval := given }
  | .port => { arguments with port := given }
  | _ => arguments

def setSwitch (arguments : Arguments) : Target → Arguments
  | .publicShop => { arguments with publicShop := true }
  | _ => arguments

/-- Gives a flag its value. Two dashes as an attached value are taken for the separator, so that no
value is left. -/
def give (arguments : Arguments) (flag : Flag) (value : String) : Except UsageError Arguments :=
  match flag.role with
  | .text target => .ok (arguments.setText target (if value == "--" then .noValues else .value value))
  | .number target =>
    if value == "--" then .ok (arguments.setNumber target .noValues)
    else match Numeral.ofArgument value.toList with
      | .ok n => .ok (arguments.setNumber target (.value n))
      | .error _ => .error (.notAnInteger flag value)
  | .help | .switch _ => .ok arguments

/-- Lets words take effect in order. `extra` holds the words that nothing expects, the last one
first. -/
def apply (arguments : Arguments) (extra : List String) : List Word → Except Stop Arguments
  | [] => if extra.isEmpty then .ok arguments else .error (.usage (.unrecognized extra.reverse))
  | .flag flag _ .none :: .value value :: rest =>
    match flag.role with
    | .help => .error .help
    | .switch target => apply (arguments.setSwitch target) (value :: extra) rest
    | .text _ | .number _ =>
      match arguments.give flag value with
      | .ok arguments => apply arguments extra rest
      | .error error => .error (.usage error)
  | .flag flag _ .none :: rest =>
    match flag.role with
    | .help => .error .help
    | .switch target => apply (arguments.setSwitch target) extra rest
    | .text _ | .number _ => .error (.usage (.valueExpected flag))
  | .flag flag spelling (some attached) :: rest =>
    if flag.takesValue then
      match arguments.give flag attached with
      | .ok arguments => apply arguments extra rest
      | .error error => .error (.usage error)
    else if "--".isPrefixOf spelling || attached.isEmpty then
      .error (.usage (.valueRefused flag attached))
    else
      match lastOfCluster flag attached.toList, rest with
      | .error error, _ => .error (.usage error)
      | .ok (_, some _), _ | .ok _, .value _ :: _ => .error .help
      | .ok (last, .none), _ =>
        if last.takesValue then .error (.usage (.valueExpected last)) else .error .help
  | word :: rest => apply arguments (word.text :: extra) rest

def ofWords (words : List String) : Except Stop Arguments := do
  let words ← (readWords words).mapError .usage
  apply none [] words

/-- The values of fields that arguments give. -/
def values (arguments : Arguments) : Settings.Values :=
  let text (name : LooseText) (given : Given String) : Settings.Values :=
    ((given.toJson? fun s : String => .str s).map (name, ·)).toList
  let number (name : LooseText) (given : Given Int) : Settings.Values :=
    ((given.toJson? .int).map (name, ·)).toList
  let isPublic : Settings.Values := if arguments.publicShop then [("public_shop", .bool true)] else []
  text "library_root" arguments.libraryRoot ++ text "auth_file" arguments.authFile ++ isPublic
    ++ number "scan_interval_seconds" arguments.scanInterval ++ text "host" arguments.host
    ++ number "port" arguments.port ++ text "log_level" arguments.logLevel

end Arguments

end Gameshelf.CommandLine
