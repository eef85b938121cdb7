import Gameshelf.Address
import Gameshelf.Encoding.Detect
import Gameshelf.Failure
import Gameshelf.Json.Halves
import Gameshelf.Titles.Info

/-!
Sources of titles: addresses whose documents are JSON in any encoding of Unicode. A source reports that it
cannot be reached, that its server declines, and that its document is no JSON. A request that breaks off
after that, or that the address does not allow, is nothing it expects.
-/

namespace Gameshelf.Titles

/-- Why a source gives no titles. -/
inductive SourceError where
  | unreachable (address : LooseText) (reason : String)
  | declined (address : LooseText) (status : Nat) (phrase : String)
  | malformed (address : LooseText)
  | payload (error : PayloadError)
deriving DecidableEq, Repr

def SourceError.message : SourceError → String
  | .unreachable address reason => s!"unable to reach {address}: <urlopen error {reason}>"
  | .declined address status phrase => s!"unable to reach {address}: HTTP Error {status}: {phrase}"
  | .malformed address => s!"invalid JSON returned from {address}"
  | .payload error => error.message

/-- How a request breaks off other than by the failures that a source reports. -/
inductive Breakdown where
  /-- The connection is closed before anything is answered. -/
  | closed
  /-- What is answered does not begin as an answer does: its status or its headers cannot be read. -/
  | strange (reason : String)
  /-- The document ends before its length: the bytes that came, and those that are missing if its length was
  told. -/
  | cutOff (came : Nat) (missing : Option Nat)
  /-- The request was sent, and then the connection is lost or nothing comes for too long. -/
  | lost (reason : String)
  /-- The address has a port or characters that no request can carry. -/
  | unaskable (reason : String)
deriving DecidableEq, Repr

def Breakdown.message : Breakdown → String
  | .closed => "Remote end closed connection without response"
  | .cutOff came none => s!"IncompleteRead({came} bytes read)"
  | .cutOff came (some missing) => s!"IncompleteRead({came} bytes read, {missing} more expected)"
  | .strange reason | .lost reason | .unaskable reason => reason

/-- What a request to a source brings: a document, or what keeps it from one. -/
inductive Reply where
  | document (bytes : Encoding.Bytes)
  | failed (reason : String)
  | declined (status : Nat) (phrase : String)
  | broken (breakdown : Breakdown)

/-- The value that a reply holds. -/
def decodeReply [Stack] (address : LooseText) (reply : Reply) : Except (Failure SourceError) Json :=
  if !Address.isKnown address.shown then .error (.crash .unknownAddress)
  else match reply with
    | .failed reason => report (.unreachable address reason)
    | .declined status phrase => report (.declined address status phrase)
    | .broken breakdown => .error (.crash (.unexpected breakdown.message))
    | .document bytes =>
      match Encoding.decodeDetected? bytes with
      | none => .error (.crash .notUtf8)
      | some marks =>
        match Json.read (Json.spell marks) with
        | .ok value => .ok value
        | .error .malformed => report (.malformed address)
        | .error .oversizedNumeral => .error (.crash .oversizedNumeral)
        | .error (.tooDeep bracket) => .error (.crash (.tooDeep bracket))

end Gameshelf.Titles
