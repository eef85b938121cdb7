import Gameshelf.Encoding.Utf8
import Gameshelf.Text.Words
import Gameshelf.Text.Quoted

/-!
Percent encoding of the UTF-8 bytes of text, for the segments of download addresses and for redirect
targets, and the decoding of request paths and query strings.
-/

namespace Gameshelf.Encoding.Percent

open Text

/-- Characters that stand for themselves in every part of an address. -/
def isUnreserved (c : Char) : Bool :=
  ('a' ≤ c && c ≤ 'z') || ('A' ≤ c && c ≤ 'Z') || isDigit c
    || c == '_' || c == '.' || c == '-' || c == '~'

/-- The escape of one byte: a percent sign and two capital hexadecimal digits. -/
def escape (b : UInt8) : List Char :=
  ['%', hexDigitUpper (b.toNat / 16), hexDigitUpper (b.toNat % 16)]

/-- One character: itself if it is unreserved or in `safe`, else the escapes of its bytes. -/
def encodeChar (safe : List Char) (c : Char) : List Char :=
  if isUnreserved c || safe.contains c then [c]
  else (String.utf8EncodeChar c).flatMap escape

/-- Escapes a text but for the unreserved characters and those in `safe`, which must be ASCII. -/
def encode (safe : List Char) (cs : List Char) : List Char :=
  cs.flatMap (encodeChar safe)

/-- The bytes of ASCII text, escapes resolved. A percent sign without two hexadecimal digits stands
for itself. -/
def unescape : List Char → Bytes
  | [] => []
  | '%' :: h :: l :: rest =>
    match hexValue? h, hexValue? l with
    | some high, some low => UInt8.ofNat (high * 16 + low) :: unescape rest
    | _, _ => UInt8.ofNat '%'.toNat :: unescape (h :: l :: rest)
  | c :: rest => UInt8.ofNat c.toNat :: unescape rest

/-- Text with its escapes resolved: each run of ASCII is read as bytes and these as UTF-8, leniently;
other characters stay. `run` is the ASCII run being read, last character first. -/
def decodeFrom : List Char → List Char → List Char
  | run, [] => decodeUtf8Lenient (unescape run.reverse)
  | run, c :: rest =>
    if c.toNat < 0x80 then decodeFrom (c :: run) rest
    else decodeUtf8Lenient (unescape run.reverse) ++ c :: decodeFrom [] rest

/-- Text with its escapes resolved. -/
def decode (cs : List Char) : List Char :=
  decodeFrom [] cs

/-- The fields of a query string, in order: pieces between ampersands, none empty, cut at the first
equals sign, a plus sign meaning a blank. A piece without an equals sign has an empty value. -/
def queryFields (query : List Char) : List (String × String) :=
  let plain (cs : List Char) : String :=
    String.ofList (decode (cs.map fun c => if c == '+' then ' ' else c))
  ((splitAll (· == '&') query).filter (!·.isEmpty)).map fun piece =>
    match cutAt? '=' piece with
    | some (name, value) => (plain name, plain value)
    | none => (plain piece, "")

end Gameshelf.Encoding.Percent
