import Gameshelf.Encoding.Base64
import Gameshelf.Failure
import Gameshelf.Text.Case
import Gameshelf.Text.Words

/-!
Credentials in a request: a name and a password, joined by a colon and written in Base64, after the
word `Basic` or alone.
-/

namespace Gameshelf

open Text Encoding

/-- A name and a password. -/
structure Credentials where
  name : String
  password : String
deriving DecidableEq, Repr

namespace Credentials

/-- The token that stands for credentials. -/
def token (credentials : Credentials) : List Char :=
  Base64.encode (encodeUtf8 (credentials.name.toList ++ ':' :: credentials.password.toList))

/-- The credentials that a token stands for; the name ends at the first colon. -/
def ofToken? (token : List Char) : Option Credentials := do
  let bytes ← Base64.decode? token
  let text ← decodeUtf8? bytes
  let (name, password) ← cutAt? ':' text
  return ⟨String.ofList name, String.ofList password⟩

/-- The token in a header: its only word, or the one after the name of the scheme. -/
def tokenIn (header : String) : Option (List Char) :=
  match words header.toList with
  | [token] => some token
  | [scheme, token] => if lower (String.ofList scheme) == "basic" then some token else none
  | _ => none

/-- The credentials in a header. A token with characters outside ASCII crashes. -/
def ofHeader (header : Option String) : Except Crash (Option Credentials) :=
  match header.bind tokenIn with
  | none => .ok none
  | some token =>
    if token.all (·.toNat < 0x80) then .ok (ofToken? token) else .error .tokenNotAscii

end Credentials

end Gameshelf
