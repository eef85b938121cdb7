import Gameshelf.Json.Basic
import Gameshelf.Numeral

/-!
The flags of the command line, and what the words of a command line are read as: flags, values, and
words that nothing expects. A long flag may be cut short as long as only one begins that way.
-/

namespace Gameshelf.CommandLine

open Text

/-- What a flag sets. -/
inductive Target where
  | config
  | libraryRoot
  | authFile
  | publicShop
  | scanInterval
  | host
  | port
  | logLevel
deriving DecidableEq, Repr

/-- What a flag does. -/
inductive Role where
  | help
  | switch (target : Target)
  | text (target : Target)
  | number (target : Target)
deriving DecidableEq, Repr

/-- A flag: its spellings, what it does, and the help on it. -/
structure Flag where
  spellings : List String
  role : Role
  help : String
deriving DecidableEq, Repr

namespace Flag

/-- The flags, in the order of the help. -/
def all : List Flag :=
  [⟨["-h", "--help"], .help, "show this help message and exit"⟩,
    ⟨["-c", "--config"], .text .config, "path to a JSON config file"⟩,
    ⟨["-l", "--library-folder", "--library-root"], .text .libraryRoot,
      "directory holding .nsp/.nsz/.xci/.xcz files"⟩,
    ⟨["--auth-file"], .text .authFile, "JSON file with Basic auth users"⟩,
    ⟨["--public"], .switch .publicShop, "serve without auth"⟩,
    ⟨["--scan-interval-seconds"], .number .scanInterval, ""⟩,
    ⟨["--host"], .text .host, ""⟩,
    ⟨["--port"], .number .port, ""⟩,
    ⟨["--log-level"], .text .logLevel, ""⟩]

/-- The spellings of all flags, each with its flag. -/
def spelled : List (String × Flag) :=
  all.flatMap fun flag => flag.spellings.map (·, flag)

/-- How messages name a flag. -/
def label (flag : Flag) : String :=
  "/".intercalate flag.spellings

def takesValue (flag : Flag) : Bool :=
  match flag.role with
  | .text _ | .number _ => true
  | .help | .switch _ => false

end Flag

/-- What a word of a command line is read as. -/
inductive Word where
  | value (text : String)
  /-- A flag, its spelling, and the text attached to it. -/
  | flag (flag : Flag) (spelling : String) (attached : Option String)
  /-- A word that looks like a flag and is none. -/
  | unknown (text : String)
  | separator
deriving DecidableEq, Repr

namespace Word

/-- A word as it was written, where nothing expects it. -/
def text : Word → String
  | .value written | .unknown written => written
  | .flag _ spelling _ => spelling
  | .separator => "--"

/-- A word cut at its first equals sign. -/
def atEquals (word : String) : Option (String × String) :=
  (cutAt? '=' word.toList).map fun (spelling, rest) =>
    (String.ofList spelling, String.ofList rest)

/-- The flags that a word may mean, cut short or with a text attached to it. -/
def candidates (word : String) : List (String × Flag × Option String) :=
  match word.toList with
  | '-' :: '-' :: _ =>
    let (begun, attached) := match atEquals word with
      | some (begun, rest) => (begun, some rest)
      | none => (word, none)
    (Flag.spelled.filter fun (spelling, _) => begun.isPrefixOf spelling).map fun (spelling, known) =>
      (spelling, known, attached)
  | dash :: letter :: rest =>
    (Flag.spelled.filter fun (spelling, _) => spelling.toList == [dash, letter]).map
      fun (spelling, known) => (spelling, known, some (String.ofList rest))
  | _ => []

/-- Digits of any script, at least one. -/
def areDigits (cs : List Char) : Bool :=
  !cs.isEmpty && cs.all fun c => (decimalValue? c).isSome

/-- Is a word a negative number, with or without a point? -/
def isNegativeNumber (word : String) : Bool :=
  let cs := if word.endsWith "\n" then word.toList.dropLast else word.toList
  match cs with
  | '-' :: digits =>
    areDigits digits ||
      match cutAt? '.' digits with
      | some (whole, fraction) => (whole.isEmpty || areDigits whole) && areDigits fraction
      | none => false
  | _ => false

/-- What a word before the separator is read as; the spellings that it may mean, if there are
several. -/
def classify (word : String) : Except (List String) Word :=
  if !"-".isPrefixOf word then .ok (.value word)
  else match Flag.spelled.lookup word with
    | some known => .ok (.flag known word none)
    | none =>
      if word == "-" then .ok (.value word)
      else
        let whole := (atEquals word).bind fun (spelling, rest) =>
          (Flag.spelled.lookup spelling).map fun known => Word.flag known spelling (some rest)
        match whole, candidates word with
        | some word, _ => .ok word
        | none, [(spelling, known, attached)] => .ok (.flag known spelling attached)
        | none, [] =>
          if isNegativeNumber word || word.toList.contains ' ' then .ok (.value word)
          else .ok (.unknown word)
        | none, several => .error (several.map Prod.fst)

end Word

end Gameshelf.CommandLine
