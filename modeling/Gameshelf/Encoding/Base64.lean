import Gameshelf.Encoding.Utf8

/-!
Base64 with the standard alphabet. Writing pads to whole groups of four. Reading accepts what writing
produces, and two more things: bits that a short last group leaves over may be set, and any number of
padding characters may follow whole groups.
-/

namespace Gameshelf.Encoding.Base64

/-- The alphabet, by value. -/
def alphabet : List Char :=
  "ABCDEFGHIJKLMNOPQRSTUVWXYZabcdefghijklmnopqrstuvwxyz0123456789+/".toList

/-- The value of a character of the alphabet. -/
def value? (c : Char) : Option Nat :=
  alphabet.idxOf? c

def symbol (n : Nat) : Char :=
  alphabet.getD n '='

/-- Writes bytes in groups of four characters, the last group padded. -/
def encode : Bytes → List Char
  | [] => []
  | [a] => [symbol (a.toNat / 4), symbol (a.toNat % 4 * 16), '=', '=']
  | [a, b] =>
    [symbol (a.toNat / 4), symbol (a.toNat % 4 * 16 + b.toNat / 16), symbol (b.toNat % 16 * 4), '=']
  | a :: b :: c :: rest =>
    symbol (a.toNat / 4) :: symbol (a.toNat % 4 * 16 + b.toNat / 16)
      :: symbol (b.toNat % 16 * 4 + c.toNat / 64) :: symbol (c.toNat % 64) :: encode rest

/-- The bytes of six-bit values, with the number of padding characters that follow them. -/
def bytesOf? : List Nat → Nat → Option Bytes
  | [], _ => some []
  | [a, b], 2 => some [UInt8.ofNat (a * 4 + b / 16)]
  | [a, b, c], 1 => some [UInt8.ofNat (a * 4 + b / 16), UInt8.ofNat (b % 16 * 16 + c / 4)]
  | a :: b :: c :: d :: rest, padding =>
    (bytesOf? rest padding).map fun tail =>
      UInt8.ofNat (a * 4 + b / 16) :: UInt8.ofNat (b % 16 * 16 + c / 4)
        :: UInt8.ofNat (c % 4 * 64 + d) :: tail
  | _, _ => none

/-- Reads a text that is all alphabet and then all padding, and does not begin with padding. -/
def decode? (cs : List Char) : Option Bytes := do
  let values ← (cs.takeWhile (· != '=')).mapM value?
  let padding := cs.dropWhile (· != '=')
  if padding.all (· == '=') && !(values.isEmpty && !padding.isEmpty) then
    bytesOf? values padding.length
  else none

end Gameshelf.Encoding.Base64
