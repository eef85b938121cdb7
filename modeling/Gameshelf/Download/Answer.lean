import Gameshelf.Disk.Walk
import Gameshelf.Download.ByteRange
import Gameshelf.Download.MediaType
import Gameshelf.Download.Transfer

/-!
Answers to download requests: the whole file, a range of it, or a refusal of the range.
-/

namespace Gameshelf.Download

/-- Why a download is refused. -/
inductive DownloadError where
  | invalidPath
  | notFound
  /-- The file is there, but the disk refuses to open it or to move to the range. -/
  | unreadable (refusal : Refusal) (path : Path)
deriving DecidableEq, Repr

namespace DownloadError

def status : DownloadError → Nat
  | .invalidPath => 400
  | .notFound => 404
  | .unreadable _ _ => 500

def message : DownloadError → String
  | .invalidPath => "invalid path"
  | .notFound => "file not found"
  | .unreadable refusal path => refusal.describe path.text

end DownloadError

/-- What the disk may refuse about a file that is there. -/
inductive Obstacle where
  | opening
  | seeking
deriving DecidableEq, Repr

/-- The stretch of a file that is to be sent. -/
structure Extent where
  content : Encoding.Bytes
  first : Nat
  length : Nat

def Extent.transfer (extent : Extent) : Transfer :=
  .ofHandle (.openAt extent.content extent.first) extent.length chunkSize

/-- An answer: its status and headers, and the stretch that is to be sent with it. -/
structure Answer where
  status : Nat
  headers : List (String × String)
  mediaType : Option String
  body : Option Extent

/-- The answer to a range that no stretch of the file satisfies. -/
def unsatisfied (size : Nat) : Answer where
  status := 416
  headers := [("Content-Range", s!"bytes */{size}")]
  mediaType := none
  body := none

/-- The headers of a stretch of a file. -/
def headersOf (mediaType : String) (size : Nat) : Option ByteRange → List (String × String)
  | none => [("Accept-Ranges", "bytes"), ("Content-Type", mediaType), ("Content-Length", toString size)]
  | some range =>
    [("Accept-Ranges", "bytes"), ("Content-Type", mediaType), ("Content-Length", toString range.length),
      ("Content-Range", range.announce size)]

/-- The answer that sends a file, or a range of it. Without a body the file is not opened. -/
def send (path : Path) (content : Encoding.Bytes) (range : Option ByteRange) (withBody : Bool)
    (obstacle : Option Obstacle) : Except (Failure DownloadError) Answer :=
  let mediaType := mediaType (toString path)
  let answer (body : Option Extent) : Answer :=
    ⟨if range.isSome then 206 else 200, headersOf mediaType content.length range, some mediaType, body⟩
  if !withBody then .ok (answer none)
  else match obstacle, range with
    | some .opening, _ | some .seeking, some _ => report (.unreadable .inputOutput path)
    | _, none => .ok (answer (some ⟨content, 0, content.length⟩))
    | _, some range => .ok (answer (some ⟨content, range.first, range.length⟩))

/-- Answers a request for a path below a root. -/
def answer (disk : Disk) (root : Path) (relative : String) (rangeHeader : Option String)
    (withBody : Bool) (obstacle : Option Obstacle) : Except (Failure DownloadError) Answer :=
  let path := root / relative
  match disk.find path with
  | .error .embeddedNul => .error (.crash .embeddedNul)
  | .error .unencodable => .error (.crash .unencodable)
  | .error (.refused _) => report .notFound
  | .ok (.file content) =>
    match rangeHeader.map fun header => ByteRange.ofHeader header content.length with
    | none => send path content none withBody obstacle
    | some (.ok range) => send path content (some range) withBody obstacle
    | some (.error .notSatisfiable) => .ok (unsatisfied content.length)
    | some (.error .oversizedNumeral) => .error (.crash .oversizedNumeral)
  | .ok _ => report .notFound

end Gameshelf.Download
