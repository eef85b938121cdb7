import Gameshelf.Numeral

/-!
Byte ranges: one stretch of a file, as the `Range` header of a request asks for it. Positions count
from zero and both ends belong to the range.
-/

namespace Gameshelf.Download

open Text

/-- A stretch of a file, both ends included. -/
structure ByteRange where
  first : Nat
  last : Nat
  first_le_last : first ≤ last
deriving DecidableEq, Repr

namespace ByteRange

def length (range : ByteRange) : Nat :=
  range.last - range.first + 1

/-- The range and the size of its file, as a response announces them. -/
def announce (range : ByteRange) (size : Nat) : String :=
  s!"bytes {range.first}-{range.last}/{size}"

/-- Why a header gives no range. -/
inductive Refusal where
  /-- The header does not name one stretch of the file. -/
  | notSatisfiable
  /-- A position has too many digits. -/
  | oversizedNumeral
deriving DecidableEq, Repr

/-- The value of a position: ASCII digits, at least one. -/
def position (cs : List Char) : Except Refusal Nat :=
  if cs.isEmpty || !cs.all isDigit then .error .notSatisfiable
  else (Numeral.natOfDigits cs).mapError fun _ => .oversizedNumeral

/-- The range between two positions of a file. -/
def between (first last size : Nat) : Except Refusal ByteRange :=
  if h : first ≤ last ∧ last < size then .ok ⟨first, last, h.1⟩ else .error .notSatisfiable

/-- The last bytes of a file, as many as asked for or as there are. -/
def suffix (count size : Nat) : Except Refusal ByteRange :=
  if h : 0 < count ∧ 0 < size then .ok ⟨size - count, size - 1, by omega⟩ else .error .notSatisfiable

/-- The range that a header asks for, of a file of a size: `bytes=A-B`, `bytes=A-` or `bytes=-N`. -/
def ofHeader (header : String) (size : Nat) : Except Refusal ByteRange :=
  let unit := "bytes=".toList
  let cs := header.toList
  if size = 0 || !unit.isPrefixOf cs then .error .notSatisfiable
  else
    let spec := cs.drop unit.length
    if spec.contains ',' then .error .notSatisfiable
    else match cutAt? '-' spec with
      | none => .error .notSatisfiable
      | some ([], count) => do suffix (← position count) size
      | some (first, []) => do between (← position first) (size - 1) size
      | some (first, last) => do
        let first ← position first
        let last ← position last
        between first last size

end ByteRange

end Gameshelf.Download
