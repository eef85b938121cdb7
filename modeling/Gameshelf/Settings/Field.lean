import Gameshelf.Json.Basic
import Gameshelf.Numeral
import Gameshelf.Path
import Gameshelf.Text.Words

/-!
Reading the fields of settings. A value is accepted in more than one form: a number also as text, a
switch also as a number or a word. What is refused is refused for a reason that has a name.
-/

namespace Gameshelf.Settings

open Text

/-- Why the value of a field is refused. -/
inductive Objection where
  | intType
  | intParsing
  | intParsingSize
  | intFromFloat
  | finiteNumber
  | tooSmall
  | tooLarge
  | boolType
  | boolParsing
  | stringType
  | stringUnicode
  | pathType
  | modelType
deriving DecidableEq, Repr

namespace Objection

def name : Objection → String
  | .intType => "int_type"
  | .intParsing => "int_parsing"
  | .intParsingSize => "int_parsing_size"
  | .intFromFloat => "int_from_float"
  | .finiteNumber => "finite_number"
  | .tooSmall => "greater_than_equal"
  | .tooLarge => "less_than_equal"
  | .boolType => "bool_type"
  | .boolParsing => "bool_parsing"
  | .stringType => "string_type"
  | .stringUnicode => "string_unicode"
  | .pathType => "path_type"
  | .modelType => "model_type"

def message : Objection → String
  | .intType => "Input should be a valid integer"
  | .intParsing => "Input should be a valid integer, unable to parse string as an integer"
  | .intParsingSize => "Unable to parse input string as an integer, exceeded maximum size"
  | .intFromFloat => "Input should be a valid integer, got a number with a fractional part"
  | .finiteNumber => "Input should be a finite number"
  | .tooSmall => "Input should be greater"
  | .tooLarge => "Input should be less"
  | .boolType => "Input should be a valid boolean"
  | .boolParsing => "Input should be a valid boolean, unable to interpret input"
  | .stringType => "Input should be a valid string"
  | .stringUnicode => "Input should be a valid string, unable to parse raw data as a unicode string"
  | .pathType => "Input is not a valid path"
  | .modelType => "Input should be a valid dictionary"

end Objection

/-- A field, by the names that lead to it, and what is wrong with its value. -/
structure FieldError where
  field : List String
  objection : Objection
deriving DecidableEq, Repr

/-- The number of values of a word of 64 bits that have one sign. -/
def wordBound : Int := 0x8000000000000000

/-- Does a number fit into a word of 64 bits with a sign? -/
def fitsWord (n : Int) : Bool :=
  -wordBound ≤ n && n < wordBound

/-- The whole number in a text. -/
def intOfText (text : String) : Except Objection Int :=
  (Numeral.ofSetting text.toList).mapError fun
    | .malformed => .intParsing
    | .tooLong => .intParsingSize

/-- The string that a text is; one with a half of a surrogate pair that stands alone is refused. -/
def stringOf (text : LooseText) : Except Objection String :=
  match text.toString? with
  | some s => .ok s
  | none => .error .stringUnicode

/-- The whole number that a number with a fraction or an exponent is; one that does not fit into a word
of 64 bits is refused. -/
def intOfReal (x : Binary64) : Except Objection Int :=
  match x with
  | .nan | .infinite _ => .error .finiteNumber
  | .finite .. =>
    match x.toInt? with
    | none => .error .intFromFloat
    | some n => if -wordBound < n && n < wordBound then .ok n else .error .intParsingSize

/-- A whole number: as such, as a switch, as a number without fraction, or as text. -/
def asInt : Json → Except Objection Int
  | .int n => .ok n
  | .bool b => .ok (if b then 1 else 0)
  | .str s => stringOf s >>= intOfText
  | .real x => intOfReal x
  | _ => .error .intType

/-- A whole number of at least some size. -/
def asIntFrom (least : Int) (value : Json) : Except Objection Int := do
  let n ← asInt value
  if n < least then throw .tooSmall else return n

/-- A whole number between two bounds. -/
def asIntBetween (least most : Int) (value : Json) : Except Objection Int := do
  let n ← asInt value
  if n < least then throw .tooSmall else if most < n then throw .tooLarge else return n

def onWords : List String := ["1", "on", "t", "true", "y", "yes"]

def offWords : List String := ["0", "off", "f", "false", "n", "no"]

/-- A switch from a number: one or zero. -/
def switchOfInt : Int → Except Objection Bool
  | 0 => .ok false
  | 1 => .ok true
  | _ => .error .boolParsing

/-- A switch from a word, whose ASCII letters are of any case. -/
def switchOfWord (word : String) : Except Objection Bool :=
  if onWords.contains word.toLower then .ok true
  else if offWords.contains word.toLower then .ok false
  else .error .boolParsing

/-- A switch: as such, as one or zero, or as a word. -/
def asBool : Json → Except Objection Bool
  | .bool b => .ok b
  | .str s => stringOf s >>= switchOfWord
  | .int n => if fitsWord n then switchOfInt n else .error .boolType
  | .real x =>
    match intOfReal x with
    | .ok n => switchOfInt n
    | .error _ => .error .boolType
  | _ => .error .boolType

def asText : Json → Except Objection LooseText
  | .str s => .ok s
  | _ => .error .stringType

def asText? : Json → Except Objection (Option LooseText)
  | .null => .ok none
  | value => (asText value).map some

def asPath : Json → Except Objection Path
  | .str s => .ok (Path.ofText s)
  | _ => .error .pathType

def asPath? : Json → Except Objection (Option Path)
  | .null => .ok none
  | value => (asPath value).map some

/-- Values of fields by name. -/
abbrev Values := Json.Members

/-- A reading of values: what was read, and what is wrong with the fields so far. -/
structure Reading (α : Type) where
  result : Option α
  errors : List FieldError

namespace Reading

/-- Reads one field; an absent one has its default. -/
def field {α : Type} (values : Values) (name : String) (default : α)
    (read : Json → Except Objection α) : Reading α :=
  match values.lookup (name : LooseText) with
  | none => ⟨some default, []⟩
  | some value =>
    match read value with
    | .ok a => ⟨some a, []⟩
    | .error objection => ⟨none, [⟨[name], objection⟩]⟩

/-- The outcome of one reading applied to that of the next; the errors of both are kept in order. -/
def andThen {α β : Type} (function : Reading (α → β)) (argument : Reading α) : Reading β :=
  ⟨function.result.bind fun f => argument.result.map f, function.errors ++ argument.errors⟩

/-- A reading whose fields lie within another field. -/
def within {α : Type} (name : String) (reading : Reading α) : Reading α :=
  { reading with errors := reading.errors.map fun error => { error with field := name :: error.field } }

/-- A reading as a result: the value, or the errors if there are any. -/
def toExcept {α : Type} (reading : Reading α) : Except (List FieldError) α :=
  match reading.errors, reading.result with
  | [], some a => .ok a
  | errors, _ => .error errors

end Reading

end Gameshelf.Settings
