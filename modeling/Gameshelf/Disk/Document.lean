import Gameshelf.Disk.Walk
import Gameshelf.Json.Read

/-!
JSON documents on the disk: files of UTF-8 text that hold one value.
-/

namespace Gameshelf

/-- Why a document was not read, where the reader expects it may not be. -/
inductive DocumentError where
  | unreadable (refusal : Refusal)
  | malformed
deriving DecidableEq, Repr

namespace DocumentError

/-- The words for why a document was not read. -/
def describe (path : Path) : DocumentError → String
  | .unreadable refusal => refusal.describe path.text
  | .malformed => "malformed JSON"

end DocumentError

namespace Disk

/-- Reads a document. Bytes that are not UTF-8, numerals with too many digits and brackets that lie too
deep crash. -/
def readDocument [Stack] (disk : Disk) (path : Path) : Except (Failure DocumentError) Json :=
  match disk.contentOf path with
  | .error (.refused refusal) => report (.unreadable refusal)
  | .error .embeddedNul => .error (.crash .embeddedNul)
  | .error .unencodable => .error (.crash .unencodable)
  | .ok bytes =>
    match Encoding.decodeUtf8? bytes with
    | none => .error (.crash .notUtf8)
    | some text =>
      match Json.read text with
      | .ok value => .ok value
      | .error .malformed => report .malformed
      | .error .oversizedNumeral => .error (.crash .oversizedNumeral)
      | .error (.tooDeep bracket) => .error (.crash (.tooDeep bracket))

end Disk

end Gameshelf
