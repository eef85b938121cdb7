/-!
UTF-8. Bytes are read as segments: a scalar, or the longest run of bytes that begins a scalar and
breaks off. Reading strictly means that no segment is broken; reading leniently puts one replacement
character for each broken segment.
-/

namespace Gameshelf.Encoding

/-- The bytes of files, names and messages. -/
abbrev Bytes := List UInt8

/-- A stretch of bytes as UTF-8 sees it. -/
inductive Segment where
  /-- The bytes of one character. -/
  | scalar (c : Char)
  /-- Bytes that are no part of any character. -/
  | broken (bytes : Bytes)
deriving DecidableEq

/-- The character with a code, or the replacement character where there is none. -/
def scalarOf (code : Nat) : Char :=
  if code.isValidChar then Char.ofNat code else '\uFFFD'

/-- Is a byte between two others? -/
def between (low high b : UInt8) : Bool :=
  low ≤ b && b ≤ high

/-- The bounds of the byte after a first one. -/
def secondBounds (b : UInt8) : UInt8 × UInt8 :=
  if b = 0xE0 then (0xA0, 0xBF)
  else if b = 0xED then (0x80, 0x9F)
  else if b = 0xF0 then (0x90, 0xBF)
  else if b = 0xF4 then (0x80, 0x8F)
  else (0x80, 0xBF)

/-- A character that is begun and not complete. -/
structure Begun where
  bytes : Bytes
  /-- The number of bytes that are missing after the next. -/
  missing : Nat
  bounds : UInt8 × UInt8
  /-- The bits of the bytes so far. -/
  code : Nat

/-- What a byte does that no character is waiting for: it is a character, begins one, or is broken. -/
def start (b : UInt8) : List Segment × Option Begun :=
  if b < 0x80 then ([.scalar (Char.ofNat b.toNat)], none)
  else if between 0xC2 0xDF b then ([], some ⟨[b], 0, secondBounds b, b.toNat % 0x20⟩)
  else if between 0xE0 0xEF b then ([], some ⟨[b], 1, secondBounds b, b.toNat % 0x10⟩)
  else if between 0xF0 0xF4 b then ([], some ⟨[b], 2, secondBounds b, b.toNat % 0x08⟩)
  else ([.broken [b]], none)

/-- What a byte does after those before it: it continues the character begun, or breaks it off. -/
def step : Option Begun → UInt8 → List Segment × Option Begun
  | none, b => start b
  | some begun, b =>
    let code := begun.code * 0x40 + b.toNat % 0x40
    if between begun.bounds.1 begun.bounds.2 b then
      match begun.missing with
      | 0 => ([.scalar (scalarOf code)], none)
      | missing + 1 => ([], some ⟨begun.bytes ++ [b], missing, (0x80, 0xBF), code⟩)
    else
      let (segments, next) := start b
      (.broken begun.bytes :: segments, next)

/-- Reads bytes as segments after a character that may be begun. -/
def segmentsFrom : Option Begun → Bytes → List Segment
  | none, [] => []
  | some begun, [] => [.broken begun.bytes]
  | begun, b :: rest =>
    let (segments, next) := step begun b
    segments ++ segmentsFrom next rest

/-- Reads bytes as segments. -/
def segments (bytes : Bytes) : List Segment :=
  segmentsFrom none bytes

/-- The characters of segments none of which is broken. -/
def Segment.scalars? : List Segment → Option (List Char)
  | [] => some []
  | .scalar c :: rest => (scalars? rest).map (c :: ·)
  | .broken _ :: _ => none

/-- One character for each segment, the replacement character for a broken one. -/
def Segment.lenient : Segment → Char
  | .scalar c => c
  | .broken _ => '\uFFFD'

/-- Reads UTF-8 strictly. -/
def decodeUtf8? (bytes : Bytes) : Option (List Char) :=
  Segment.scalars? (segments bytes)

/-- Reads UTF-8 leniently. -/
def decodeUtf8Lenient (bytes : Bytes) : List Char :=
  (segments bytes).map Segment.lenient

def encodeUtf8 (cs : List Char) : Bytes :=
  cs.flatMap String.utf8EncodeChar

def utf8 (s : String) : Bytes :=
  encodeUtf8 s.toList

end Gameshelf.Encoding
