import Gameshelf.Json.Basic
import Gameshelf.Numeral
import Gameshelf.Stack

/-!
Reading JSON. The grammar is the standard one, and NaN, Infinity and -Infinity besides. Of members
with one name the last counts. Escapes name 16-bit units, so neighbours may make up a surrogate pair.

A numeral with too many digits and brackets that lie too deep are failures of their own: they are met
only when everything before them was in order.
-/

namespace Gameshelf.Json

open Text

inductive ReadError where
  | malformed
  | oversizedNumeral
  | tooDeep (bracket : Bracket)
deriving DecidableEq, Repr

def isSpace (c : Char) : Bool :=
  c == ' ' || c == '\t' || c == '\n' || c == '\r'

/-- The text after leading white space. -/
def skipSpace (cs : List Char) : List Char :=
  cs.dropWhile isSpace

/-- What an escape of one letter stands for. -/
def escapedChar? : Char → Option Char
  | '"' => some '"'
  | '\\' => some '\\'
  | '/' => some '/'
  | 'b' => some '\x08'
  | 'f' => some '\x0c'
  | 'n' => some '\n'
  | 'r' => some '\r'
  | 't' => some '\t'
  | _ => none

/-- The number that four hexadecimal digits stand for. -/
def hexUnit? (a b c d : Char) : Option Nat := do
  return (((← hexValue? a) * 16 + (← hexValue? b)) * 16 + (← hexValue? c)) * 16 + (← hexValue? d)

/-- Reads the units of a string up to its closing quote. `done` holds those read so far, the last one
first. -/
def readUnits (done : List UInt16) : List Char → Option (List UInt16 × List Char)
  | [] => none
  | '"' :: rest => some (done.reverse, rest)
  | '\\' :: 'u' :: a :: b :: c :: d :: rest =>
    match hexUnit? a b c d with
    | some n => readUnits (UInt16.ofNat n :: done) rest
    | none => none
  | '\\' :: c :: rest =>
    match escapedChar? c with
    | some e => readUnits ((unitsOfCode e.toNat).reverse ++ done) rest
    | none => none
  | c :: rest => if c.toNat < 0x20 then none else readUnits ((unitsOfCode c.toNat).reverse ++ done) rest

def readString (cs : List Char) : Except ReadError (LooseText × List Char) :=
  match readUnits [] cs with
  | some (units, rest) => .ok (⟨units⟩, rest)
  | none => .error .malformed

/-- A numeral in its parts. -/
structure NumeralParts where
  negative : Bool
  whole : List Char
  fraction : List Char
  /-- The sign and the digits of the exponent. -/
  exponent : Option (Bool × List Char)

/-- Reads the fraction of a numeral: a point and at least one digit, or nothing. -/
def readFraction : List Char → List Char × List Char
  | '.' :: rest =>
    if (rest.takeWhile isDigit).isEmpty then ([], '.' :: rest)
    else (rest.takeWhile isDigit, rest.dropWhile isDigit)
  | cs => ([], cs)

/-- Reads the exponent of a numeral: the letter, a sign and at least one digit, or nothing. -/
def readExponent (cs : List Char) : Option (Bool × List Char) × List Char :=
  match cs with
  | e :: rest =>
    if e == 'e' || e == 'E' then
      let (negative, digits) := Numeral.splitSign rest
      if (digits.takeWhile isDigit).isEmpty then (none, cs)
      else (some (negative, digits.takeWhile isDigit), digits.dropWhile isDigit)
    else (none, cs)
  | [] => (none, cs)

/-- Reads the digits before the point: a single zero, or digits that do not begin with one. -/
def readWhole : List Char → Option (List Char × List Char)
  | '0' :: rest => some (['0'], rest)
  | cs =>
    if (cs.takeWhile isDigit).isEmpty then none
    else some (cs.takeWhile isDigit, cs.dropWhile isDigit)

/-- Reads a numeral in its parts. -/
def readNumeral? (cs : List Char) : Option (NumeralParts × List Char) := do
  let (negative, unsigned) := match cs with
    | '-' :: rest => (true, rest)
    | _ => (false, cs)
  let (whole, afterWhole) ← readWhole unsigned
  let (fraction, afterFraction) := readFraction afterWhole
  let (exponent, rest) := readExponent afterFraction
  return (⟨negative, whole, fraction, exponent⟩, rest)

/-- The number that a numeral stands for: whole if it has neither fraction nor exponent. -/
def NumeralParts.value (parts : NumeralParts) : Except ReadError Json :=
  let digits (cs : List Char) : Nat := Numeral.ofDigits (cs.map digitValue)
  match parts.fraction, parts.exponent with
  | [], none =>
    match Numeral.natOfDigits parts.whole with
    | .ok n => .ok (.int (Numeral.signed parts.negative n))
    | .error _ => .error .oversizedNumeral
  | fraction, exponent =>
    let power : Int := match exponent with
      | some (negative, e) => Numeral.signed negative (digits e)
      | none => 0
    .ok (.real (.ofDecimal parts.negative (digits (parts.whole ++ fraction)) (power - fraction.length)))

/-- The values that are written as words. -/
def words : List (List Char × Json) :=
  [("null".toList, .null), ("true".toList, .bool true), ("false".toList, .bool false),
    ("NaN".toList, .real .nan), ("Infinity".toList, .real (.infinite false)),
    ("-Infinity".toList, .real (.infinite true))]

def readScalar (cs : List Char) : Except ReadError (Json × List Char) :=
  match words.find? fun (word, _) => word.isPrefixOf cs with
  | some (word, value) => .ok (value, cs.drop word.length)
  | none =>
    match readNumeral? cs with
    | some (parts, rest) => parts.value.map (·, rest)
    | none => .error .malformed

mutual

/-- Reads one value at the start of a text and gives the rest of it. The first number bounds the steps,
`room` the brackets that may still lie within one another. -/
def readValue : Nat → Nat → List Char → Except ReadError (Json × List Char)
  | 0, _, _ => .error .malformed
  | fuel + 1, room, cs =>
    match cs, room with
    | '"' :: rest, _ => (readString rest).map fun (s, rest) => (.str s, rest)
    | '[' :: _, 0 => .error (.tooDeep .list)
    | '[' :: rest, room + 1 =>
      match skipSpace rest with
      | ']' :: rest => .ok (.arr [], rest)
      | first => readItems fuel room [] first
    | '\x7b' :: _, 0 => .error (.tooDeep .object)
    | '\x7b' :: rest, room + 1 =>
      match skipSpace rest with
      | '\x7d' :: rest => .ok (.obj [], rest)
      | first => readMembers fuel room [] first
    | _, _ => readScalar cs

/-- Reads the items of a list up to its closing bracket. `done` holds those read so far, the last one
first. -/
def readItems : Nat → Nat → List Json → List Char → Except ReadError (Json × List Char)
  | 0, _, _, _ => .error .malformed
  | fuel + 1, room, done, cs =>
    match readValue fuel room cs with
    | .error e => .error e
    | .ok (item, rest) =>
      match skipSpace rest with
      | ',' :: rest => readItems fuel room (item :: done) (skipSpace rest)
      | ']' :: rest => .ok (.arr (item :: done).reverse, rest)
      | _ => .error .malformed

/-- Reads the members of an object up to its closing brace. `done` holds those read so far, the last
one first. -/
def readMembers :
    Nat → Nat → Members → List Char → Except ReadError (Json × List Char)
  | 0, _, _, _ => .error .malformed
  | fuel + 1, room, done, cs =>
    match cs with
    | '"' :: quoted =>
      match readString quoted with
      | .error e => .error e
      | .ok (name, rest) =>
        match skipSpace rest with
        | ':' :: rest =>
          match readValue fuel room (skipSpace rest) with
          | .error e => .error e
          | .ok (value, rest) =>
            match skipSpace rest with
            | ',' :: rest => readMembers fuel room ((name, value) :: done) (skipSpace rest)
            | '\x7d' :: rest => .ok (.obj (collect ((name, value) :: done).reverse), rest)
            | _ => .error .malformed
        | _ => .error .malformed
    | _ => .error .malformed

end

/-- Reads a document: one value with nothing but white space around it, no more than `room` brackets
deep. Two steps for each character are enough, since every list, object, item and member takes at least
one. -/
def readWithin (room : Nat) (cs : List Char) : Except ReadError Json :=
  match readValue (2 * cs.length + 2) room (skipSpace cs) with
  | .error e => .error e
  | .ok (value, rest) => if (skipSpace rest).isEmpty then .ok value else .error .malformed

/-- Reads a document whose brackets the stack has room for. -/
def read [Stack] (cs : List Char) : Except ReadError Json :=
  readWithin Stack.brackets cs

end Gameshelf.Json
