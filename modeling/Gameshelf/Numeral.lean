import Gameshelf.Text.Words

/-!
Numerals in text. Reading one is refused when it has more than `digitLimit` digits, leading zeros
included: the refusal is a failure of its own, apart from text that is no numeral.

Three grammars are read: the digits of names and ranges, the integers of the command line (digits of
any script, single underscores between digits), and the integers of settings (a plain form, and texts
that are brought to it by leaving out what does not count).
-/

namespace Gameshelf.Numeral

open Text

/-- The most digits that a numeral may have. -/
def digitLimit : Nat := 4300

/-- The number that digits stand for, most significant first. -/
def ofDigits (digits : List Nat) : Nat :=
  digits.foldl (fun n d => 10 * n + d) 0

/-- A numeral with more digits than are read. -/
inductive TooLong where
  | tooLong
deriving DecidableEq, Repr

/-- The value of a run of ASCII digits, if it is short enough. -/
def natOfDigits (cs : List Char) : Except TooLong Nat :=
  if cs.length > digitLimit then .error .tooLong else .ok (ofDigits (cs.map digitValue))

/-- Why a text is no integer. -/
inductive Refusal where
  | malformed
  | tooLong
deriving DecidableEq, Repr

/-- The value of digits with single underscores between neighbours. -/
def groupedDigits? (value : Char → Option Nat) (cs : List Char) : Option (List Nat) :=
  (splitAll (· == '_') cs).foldr
    (fun group tail => do
      let digits ← group.mapM value
      if digits.isEmpty then none else return digits ++ (← tail))
    (some [])

/-- An optional sign and what follows it. -/
def splitSign : List Char → Bool × List Char
  | '-' :: rest => (true, rest)
  | '+' :: rest => (false, rest)
  | cs => (false, cs)

/-- A magnitude with its sign. -/
def signed (negative : Bool) (n : Nat) : Int :=
  if negative then -(n : Int) else n

/-- Reads an integer of the command line: white space around it, a sign, decimal digits of any script
with single underscores between them. -/
def ofArgument (cs : List Char) : Except Refusal Int :=
  let inner := trimBy isWhiteSpace cs
  let (negative, body) := splitSign inner
  match groupedDigits? decimalValue? body with
  | none => .error .malformed
  | some digits =>
    if digits.length > digitLimit then .error .tooLong else .ok (signed negative (ofDigits digits))

/-- Reads digits that make up a whole text: a zero alone, or digits that do not begin with one. Digits
beyond the limit are too long whatever follows them. -/
def ofPlainDigits (cs : List Char) : Except Refusal Nat :=
  match cs with
  | [] => .error .malformed
  | '0' :: rest => if rest.isEmpty then .ok 0 else .error .malformed
  | cs =>
    let digits := cs.takeWhile isDigit
    if digitLimit < digits.length then .error .tooLong
    else if digits.length = cs.length then .ok (ofDigits (digits.map digitValue))
    else .error .malformed

/-- Reads an integer that is written plainly: perhaps a minus sign, and digits. -/
def ofPlain : List Char → Except Refusal Int
  | '-' :: digits => (ofPlainDigits digits).map (signed true)
  | digits => (ofPlainDigits digits).map (signed false)

/-- A text without a fraction that does not change an integer: a point and then zeros, at least
one. -/
def withoutZeroFraction (cs : List Char) : List Char :=
  let zeros := (cs.dropWhile (· != '.')).drop 1
  if !zeros.isEmpty && zeros.all (· == '0') then cs.takeWhile (· != '.') else cs

/-- May a numeral without leading zeros begin with a character? A minus sign may stand after them. -/
def beginsNumeral (c : Char) : Bool :=
  (isDigit c && c != '0') || c == '-'

/-- A text without leading zeros, and without underscores among them in any number. Where nothing else
follows, the last character stays. -/
def withoutLeadingZeros? (cs : List Char) : Option (List Char) :=
  match cs with
  | [] => none
  | first :: _ =>
    if first == '0' then
      match cs.dropWhile fun c => c == '0' || c == '_' with
      | [] => cs.getLast?.map ([·])
      | c :: rest => if beginsNumeral c then some (c :: rest) else none
    else if beginsNumeral first then some cs else none

/-- A text without underscores; none if one stands at an end or beside another. -/
def ungrouped? (cs : List Char) : Option (List Char) :=
  let groups := splitAll (· == '_') cs
  if groups.all (!·.isEmpty) then some groups.flatten else none

/-- The plain form of the digits of a setting. -/
def plainDigits? (cs : List Char) : Option (List Char) :=
  (withoutLeadingZeros? (withoutZeroFraction cs)).bind ungrouped?

/-- The plain form of an integer of a setting: white space around it, a plus sign, leading zeros, single
underscores and a fraction of zeros are left out. -/
def plain? (cs : List Char) : Option (List Char) :=
  match trimBy isWhiteSpace cs with
  | '+' :: '-' :: _ => none
  | '+' :: rest => plainDigits? rest
  | '-' :: rest => (plainDigits? rest).map ('-' :: ·)
  | cs => plainDigits? cs

/-- Reads an integer of a setting or a request. Only one that is plain from the start can be too long;
otherwise too many digits are no numeral at all. -/
def ofSetting (cs : List Char) : Except Refusal Int :=
  match ofPlain cs with
  | .ok n => .ok n
  | .error .tooLong => .error .tooLong
  | .error .malformed =>
    match (plain? cs).map ofPlain with
    | some (.ok n) => .ok n
    | _ => .error .malformed

end Gameshelf.Numeral
