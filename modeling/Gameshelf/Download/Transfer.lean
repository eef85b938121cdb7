import Gameshelf.Encoding.Utf8

/-!
Transfers: a stretch of an open file, sent in chunks. A transfer never sends more than was announced.
When the file turns out to be shorter the transfer fails instead of ending quietly.
-/

namespace Gameshelf.Download

open Encoding

/-- A file that is or was open, and what is still to be read from it. -/
structure Handle where
  /-- The bytes from the current position on. -/
  ahead : Bytes
  isOpen : Bool

namespace Handle

/-- A file opened at a position. -/
def openAt (content : Bytes) (position : Nat) : Handle :=
  ⟨content.drop position, true⟩

/-- The next bytes, at most as many as asked for; a negative count asks for all. -/
def read (handle : Handle) (count : Int) : Bytes × Handle :=
  if count < 0 then (handle.ahead, { handle with ahead := [] })
  else (handle.ahead.take count.toNat, { handle with ahead := handle.ahead.drop count.toNat })

def close (handle : Handle) : Handle :=
  { handle with isOpen := false }

end Handle

/-- How far a transfer has come. -/
inductive Phase where
  | waiting
  | sending
  | over
deriving DecidableEq, Repr

/-- The bytes of an ordinary chunk. -/
def chunkSize : Nat := 64 * 1024

/-- A transfer from an open file. -/
structure Transfer where
  handle : Handle
  remaining : Int
  chunkSize : Int
  phase : Phase

/-- What a transfer gives when it is asked for a chunk. -/
inductive Delivery where
  | chunk (bytes : Bytes)
  | finished
  /-- The file has ended; so many bytes are missing. -/
  | short (missing : Int)
deriving DecidableEq

namespace Transfer

/-- A transfer of so many bytes that has not begun. -/
def ofHandle (handle : Handle) (length chunkSize : Int) : Transfer :=
  ⟨handle, length, chunkSize, .waiting⟩

/-- Asks for the next chunk. -/
def next (transfer : Transfer) : Delivery × Transfer :=
  match transfer.phase with
  | .over => (.finished, transfer)
  | _ =>
    if transfer.remaining ≤ 0 then
      (.finished, { transfer with handle := transfer.handle.close, phase := .over })
    else
      let (bytes, handle) := transfer.handle.read (min transfer.chunkSize transfer.remaining)
      if bytes.isEmpty then
        (.short transfer.remaining, { transfer with handle := handle.close, phase := .over })
      else
        (.chunk bytes,
          { transfer with handle, remaining := transfer.remaining - bytes.length, phase := .sending })

/-- Ends a transfer early. One that has not begun leaves its file open. -/
def stop (transfer : Transfer) : Transfer :=
  match transfer.phase with
  | .sending => { transfer with handle := transfer.handle.close, phase := .over }
  | _ => { transfer with phase := .over }

/-- What came of a transfer. -/
structure Outcome where
  chunks : List Bytes
  /-- The bytes that were missing, if the file was too short. -/
  missing : Option Int
  transfer : Transfer

/-- Asks for at most so many chunks and then ends the transfer. -/
def take : Nat → Transfer → Outcome
  | 0, transfer => ⟨[], none, transfer.stop⟩
  | count + 1, transfer =>
    match transfer.next with
    | (.chunk bytes, next) =>
      let outcome := take count next
      { outcome with chunks := bytes :: outcome.chunks }
    | (.finished, next) => ⟨[], none, next⟩
    | (.short missing, next) => ⟨[], some missing, next⟩

/-- Asks for chunks until there are no more. Every chunk holds at least one byte of the file, so its
length bounds their number. -/
def drain (transfer : Transfer) : Outcome :=
  transfer.take (transfer.handle.ahead.length + 1)

/-- The message of a transfer whose file was too short. -/
def shortMessage (missing : Int) : String :=
  s!"unexpected end of file, {missing} bytes short"

end Transfer

end Gameshelf.Download
