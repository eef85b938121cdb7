import Gameshelf.Text.Words

/-!
Hosts of addresses that stand in square brackets: numbers of eight groups, of which one run of zeros
may be left out, and numbers of versions to come.
-/

namespace Gameshelf.Address

open Text

/-- Is a text a group: one to four hexadecimal digits? -/
def isGroup (cs : List Char) : Bool :=
  !cs.isEmpty && cs.length ≤ 4 && cs.all isHexDigit

/-- Is a text an octet: a number up to 255 without leading zeros? -/
def isOctet (cs : List Char) : Bool :=
  !cs.isEmpty && cs.length ≤ 3 && cs.all isDigit && (cs.length == 1 || cs.head? != some '0')
    && cs.foldl (fun value c => 10 * value + digitValue c) 0 ≤ 255

/-- Is a text four octets with dots between them? -/
def isFourOctets (cs : List Char) : Bool :=
  let octets := splitAll (· == '.') cs
  octets.length == 4 && octets.all isOctet

/-- The number of groups that the pieces between colons stand for. The last piece may be four octets,
which are two groups, if `endsNumber` says that nothing follows it. -/
def groupsOf? (endsNumber : Bool) : List (List Char) → Option Nat
  | [] => some 0
  | [last] =>
    if isGroup last then some 1 else if endsNumber && isFourOctets last then some 2 else none
  | piece :: rest => if isGroup piece then (groupsOf? endsNumber rest).map (· + 1) else none

/-- The number of groups of a stretch of text; there are none in empty text. -/
def groupsIn? (endsNumber : Bool) (cs : List Char) : Option Nat :=
  groupsOf? endsNumber (if cs.isEmpty then [] else splitAll (· == ':') cs)

/-- A text cut at its first two neighbouring colons, which stand for the groups left out. -/
def cutAtGap? : List Char → Option (List Char × List Char)
  | ':' :: ':' :: rest => some ([], rest)
  | c :: rest => (cutAtGap? rest).map fun (before, after) => (c :: before, after)
  | [] => none

/-- Is a text a number of eight groups? A gap leaves out at least one of them. -/
def isGroupedNumber (cs : List Char) : Bool :=
  match cutAtGap? cs with
  | none => groupsIn? true cs == some 8
  | some (before, after) =>
    match groupsIn? false before, groupsIn? true after with
    | some first, some last => first + last ≤ 7
    | _, _ => false

/-- Is a text a number of eight groups, or one with the name of a zone after a percent sign? -/
def isZonedNumber (cs : List Char) : Bool :=
  match cutAt? '%' cs with
  | none => isGroupedNumber cs
  | some (number, zone) => !zone.isEmpty && !zone.contains '%' && isGroupedNumber number

/-- Is a text a number of a version to come: the letter v, the version, a dot, and anything? -/
def isFutureNumber (cs : List Char) : Bool :=
  match cs with
  | 'v' :: rest =>
    let version := rest.takeWhile isHexDigit
    let tail := rest.dropWhile isHexDigit
    !version.isEmpty && tail.head? == some '.' && 2 ≤ tail.length
  | _ => false

/-- May a text stand in brackets as a host? -/
def isBracketed (cs : List Char) : Bool :=
  if cs.head? == some 'v' then isFutureNumber cs else isZonedNumber cs

end Gameshelf.Address
