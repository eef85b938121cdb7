import Gameshelf.Json.Basic
import Gameshelf.Encoding.Utf8
import Gameshelf.Text.Quoted

/-!
Writing JSON, in two styles: without any white space and with every character as it is, for the bodies
of responses; and on indented lines in plain ASCII, for documents on disk.
-/

namespace Gameshelf.Json

open Text

/-- What a style of writing decides. -/
structure Style where
  /-- Characters from U+007F on are escaped. -/
  ascii : Bool
  /-- Every item and member stands on a line of its own, indented by two blanks a level. -/
  lines : Bool

/-- No white space, every character as it is. -/
def Style.compact : Style := ⟨false, false⟩

/-- Indented lines of plain ASCII. -/
def Style.document : Style := ⟨true, true⟩

/-- The escape of a 16-bit unit. -/
def escapeUnit (unit : UInt16) : List Char :=
  '\\' :: 'u' :: digitsIn 16 hexDigitLower 4 unit.toNat

/-- The escape of a character: one unit, or the two of its surrogate pair. -/
def escapeChar (c : Char) : List Char :=
  (unitsOfCode c.toNat).flatMap escapeUnit

def writeChar (style : Style) (c : Char) : List Char :=
  if c = '"' then ['\\', '"']
  else if c = '\\' then ['\\', '\\']
  else if c = '\n' then ['\\', 'n']
  else if c = '\r' then ['\\', 'r']
  else if c = '\t' then ['\\', 't']
  else if c = '\x08' then ['\\', 'b']
  else if c = '\x0c' then ['\\', 'f']
  else if c.toNat < 0x20 || (style.ascii && 0x7F ≤ c.toNat) then escapeChar c
  else [c]

/-- One mark of a string. A half that stands alone is escaped in every style. -/
def writeMark (style : Style) : Mark → List Char
  | .char c => writeChar style c
  | .half unit => escapeUnit unit

def writeString (style : Style) (s : LooseText) : List Char :=
  '"' :: s.marks.flatMap (writeMark style) ++ ['"']

def writeInt (n : Int) : List Char :=
  (if n < 0 then ['-'] else []) ++ Nat.toDigits 10 n.natAbs

/-- The break before an item, a member or a closing bracket at a depth. -/
def Style.newline (style : Style) (depth : Nat) : List Char :=
  if style.lines then '\n' :: List.replicate (2 * depth) ' ' else []

/-- The colon between a name and its value. -/
def Style.colon (style : Style) : List Char :=
  if style.lines then [':', ' '] else [':']

mutual

/-- Writes a value that stands at a depth. -/
def write (style : Style) (depth : Nat) : Json → List Char
  | .null => "null".toList
  | .bool b => (if b then "true" else "false").toList
  | .int n => writeInt n
  | .real x => x.text
  | .str s => writeString style s
  | .arr [] => ['[', ']']
  | .arr (first :: rest) =>
    '[' :: style.newline (depth + 1) ++ write style (depth + 1) first
      ++ writeItems style (depth + 1) rest ++ style.newline depth ++ [']']
  | .obj [] => ['\x7b', '\x7d']
  | .obj ((name, value) :: rest) =>
    '\x7b' :: style.newline (depth + 1) ++ writeString style name ++ style.colon
      ++ write style (depth + 1) value ++ writeMembers style (depth + 1) rest
      ++ style.newline depth ++ ['\x7d']

/-- Writes the items after the first. -/
def writeItems (style : Style) (depth : Nat) : List Json → List Char
  | [] => []
  | item :: rest => ',' :: style.newline depth ++ write style depth item ++ writeItems style depth rest

/-- Writes the members after the first. -/
def writeMembers (style : Style) (depth : Nat) : Members → List Char
  | [] => []
  | (name, value) :: rest =>
    ',' :: style.newline depth ++ writeString style name ++ style.colon ++ write style depth value
      ++ writeMembers style depth rest

end

/-- The text of a value without white space. -/
def compact (value : Json) : List Char :=
  write .compact 0 value

/-- The text of a value on indented lines of plain ASCII. -/
def document (value : Json) : List Char :=
  write .document 0 value

end Gameshelf.Json
