import Gameshelf.Encoding.Utf8
import Gameshelf.Text.Loose

/-!
The encoding of a document whose sender did not name one. A byte order mark decides; without one, the
places of the zeros among the first four bytes do, since such a document begins with two ASCII
characters.
-/

namespace Gameshelf.Encoding

inductive Form where
  | utf8
  | utf16 (bigEndian : Bool)
  | utf32 (bigEndian : Bool)
deriving DecidableEq, Repr

/-- The encoding of a document and the document without its byte order mark. -/
def detect : Bytes → Form × Bytes
  | 0x00 :: 0x00 :: 0xFE :: 0xFF :: rest => (.utf32 true, rest)
  | 0xFF :: 0xFE :: 0x00 :: 0x00 :: rest => (.utf32 false, rest)
  | 0xFE :: 0xFF :: rest => (.utf16 true, rest)
  | 0xFF :: 0xFE :: rest => (.utf16 false, rest)
  | 0xEF :: 0xBB :: 0xBF :: rest => (.utf8, rest)
  | b0 :: b1 :: b2 :: b3 :: rest =>
    let bytes := b0 :: b1 :: b2 :: b3 :: rest
    if b0 = 0 then (if b1 = 0 then (.utf32 true, bytes) else (.utf16 true, bytes))
    else if b1 = 0 then (if b2 = 0 && b3 = 0 then (.utf32 false, bytes) else (.utf16 false, bytes))
    else (.utf8, bytes)
  | [b0, b1] =>
    if b0 = 0 then (.utf16 true, [b0, b1])
    else if b1 = 0 then (.utf16 false, [b0, b1])
    else (.utf8, [b0, b1])
  | bytes => (.utf8, bytes)

/-- A number from its bytes, most significant first. -/
def bigEndianValue (bytes : Bytes) : Nat :=
  bytes.foldl (fun n b => n * 0x100 + b.toNat) 0

/-- The 16-bit units of a document; none when a byte is left over. -/
def units16? (bigEndian : Bool) : Bytes → Option (List UInt16)
  | [] => some []
  | b0 :: b1 :: rest =>
    let unit := UInt16.ofNat (bigEndianValue (if bigEndian then [b0, b1] else [b1, b0]))
    (units16? bigEndian rest).map (unit :: ·)
  | [_] => none

/-- The 32-bit units of a document; none when bytes are left over. -/
def units32? (bigEndian : Bool) : Bytes → Option (List Nat)
  | [] => some []
  | b0 :: b1 :: b2 :: b3 :: rest =>
    (units32? bigEndian rest).map
      (bigEndianValue (if bigEndian then [b0, b1, b2, b3] else [b3, b2, b1, b0]) :: ·)
  | _ => none

/-- The half of a surrogate pair that three bytes spell in the manner of UTF-8, if they spell one. -/
def halfOf? (b₁ b₂ b₃ : UInt8) : Option UInt16 :=
  if b₁ = 0xED && between 0xA0 0xBF b₂ && between 0x80 0xBF b₃ then
    some (UInt16.ofNat (0xD000 + b₂.toNat % 0x40 * 0x40 + b₃.toNat % 0x40))
  else none

/-- The marks of segments, where those that are broken spell halves of surrogate pairs. -/
def Segment.marks? : List Segment → Option (List Mark)
  | [] => some []
  | .scalar c :: rest => (marks? rest).map (.char c :: ·)
  | .broken [b₁] :: .broken [b₂] :: .broken [b₃] :: rest => do
    let half ← halfOf? b₁ b₂ b₃
    let others ← marks? rest
    return .half half :: others
  | .broken _ :: _ => none

/-- The marks of a document in a known encoding. A half of a surrogate pair may stand alone in any of
them. -/
def decode? : Form → Bytes → Option (List Mark)
  | .utf8, bytes => Segment.marks? (segments bytes)
  | .utf16 bigEndian, bytes => (units16? bigEndian bytes).map fun units => (LooseText.mk units).marks
  | .utf32 bigEndian, bytes => do
    let codes ← units32? bigEndian bytes
    if codes.all (· < 0x110000) then some (codes.map Mark.ofCode) else none

/-- The marks of a document in whatever encoding it shows. -/
def decodeDetected? (bytes : Bytes) : Option (List Mark) :=
  let (form, body) := detect bytes
  decode? form body

end Gameshelf.Encoding
