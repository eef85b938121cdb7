import Gameshelf.Encoding.Utf8
import Gameshelf.Text.Loose

/-!
Names on the disk. A name is bytes. As text, each byte that is no part of a character becomes a lone
half of a surrogate pair, so every name can be written as text, and that text stands for the same name
again.
-/

namespace Gameshelf

open Encoding

structure FileName where
  bytes : Bytes
deriving DecidableEq, Repr

namespace FileName

/-- The half that stands for a byte. -/
def halfOfByte (b : UInt8) : UInt16 :=
  0xDC00 + b.toUInt16

/-- The byte that a half stands for; there are halves for the bytes beyond ASCII alone. -/
def byteOfHalf? (unit : UInt16) : Option UInt8 :=
  if 0xDC80 ≤ unit && unit ≤ 0xDCFF then some (unit - 0xDC00).toUInt8 else none

/-- The bytes that a mark stands for. -/
def bytesOfMark? : Mark → Option Bytes
  | .char c => some (String.utf8EncodeChar c)
  | .half unit => (byteOfHalf? unit).map ([·])

/-- The bytes that a text stands for; none if a half in it stands for no byte. -/
def bytesOf? (text : LooseText) : Option Bytes :=
  (text.marks.mapM bytesOfMark?).map List.flatten

def ofString (s : String) : FileName :=
  ⟨utf8 s⟩

def text (name : FileName) : LooseText :=
  .ofMarks <| (segments name.bytes).flatMap fun
    | .scalar c => [.char c]
    | .broken bytes => bytes.map fun b => .half (halfOfByte b)

/-- The order of listings, which is that of the names as texts. -/
def le (a b : FileName) : Bool :=
  (compare a.text b.text).isLE

end FileName

end Gameshelf
