import Gameshelf.Json.Basic
import Gameshelf.Text.Quoted

/-!
Failures. Each part of the library reports the failures it expects as errors of its own. What no part
expects is a crash: it passes through every handler and ends the request or the program that meets it.
-/

namespace Gameshelf

/-- Why the disk refuses. -/
inductive Refusal where
  | noEntry
  | inputOutput
  | busy
  | alreadyExists
  | notDirectory
  | isDirectory
  | nameTooLong
  | tooManyLinks
deriving DecidableEq, Repr

namespace Refusal

def number : Refusal → Nat
  | .noEntry => 2
  | .inputOutput => 5
  | .busy => 16
  | .alreadyExists => 17
  | .notDirectory => 20
  | .isDirectory => 21
  | .nameTooLong => 36
  | .tooManyLinks => 40

def words : Refusal → String
  | .noEntry => "No such file or directory"
  | .inputOutput => "Input/output error"
  | .busy => "Device or resource busy"
  | .alreadyExists => "File exists"
  | .notDirectory => "Not a directory"
  | .isDirectory => "Is a directory"
  | .nameTooLong => "File name too long"
  | .tooManyLinks => "Too many levels of symbolic links"

/-- The message for a path that the disk refuses. -/
def describe (refusal : Refusal) (path : LooseText) : String :=
  s!"[Errno {refusal.number}] {refusal.words}: {Text.quoted path}"

end Refusal

/-- Failures that no part of the library expects. -/
inductive Crash where
  /-- The disk refuses a path where it is relied upon. -/
  | disk (refusal : Refusal) (path : LooseText)
  | notUtf8
  | oversizedNumeral
  | embeddedNul
  /-- Text that no bytes stand for, where bytes are due. -/
  | unencodable
  /-- A document whose brackets lie too deep. -/
  | tooDeep (bracket : Json.Bracket)
  | tokenNotAscii
  | usersNotIterable
  | unknownLevel
  | unknownAddress
  | zeroRate
  | zeroBurst
  /-- Anything else, with its own message. -/
  | unexpected (message : String)
deriving DecidableEq, Repr

def Crash.message : Crash → String
  | .disk refusal path => refusal.describe path
  | .notUtf8 => "bytes that are not UTF-8"
  | .oversizedNumeral => "a numeral with too many digits"
  | .embeddedNul => "embedded null byte"
  | .unencodable => "text that no bytes stand for"
  | .tooDeep bracket =>
    s!"maximum recursion depth exceeded while decoding a JSON {bracket.word} from a unicode string"
  | .tokenNotAscii => "a token with characters outside ASCII"
  | .usersNotIterable => "users that are no list"
  | .unknownLevel => "an unknown level"
  | .unknownAddress => "an address that cannot be asked for"
  | .zeroRate => "a rate of zero"
  | .zeroBurst => "a burst of zero"
  | .unexpected message => message

/-- How an operation fails: with an error it reports, or with a crash. -/
inductive Failure (ε : Type) where
  | reported (error : ε)
  | crash (crash : Crash)
deriving DecidableEq, Repr

/-- A step that can only crash, within an operation that also reports errors. -/
def orCrash {ε α : Type} : Except Crash α → Except (Failure ε) α
  | .ok a => .ok a
  | .error c => .error (.crash c)

/-- An error that an operation reports. -/
def report {ε α : Type} (error : ε) : Except (Failure ε) α :=
  .error (.reported error)

end Gameshelf
