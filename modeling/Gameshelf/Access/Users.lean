import Gameshelf.Access.Credentials
import Gameshelf.Disk.Document
import Gameshelf.Register

/-!
The users of a private shop, and the file that names them: a pair of name and password, a list of such
pairs, or both. Blank names and passwords count as absent, and of entries with one name the last
counts.
-/

namespace Gameshelf

open Text

/-- A user as a file names one. -/
structure User where
  name : LooseText
  password : LooseText
deriving DecidableEq, Repr

/-- The users of a shop and their passwords. A shop without users is open to all. -/
abbrev Users := Register LooseText

namespace Users

/-- The users of a list, without white space around names and passwords. -/
def ofList (list : List User) : Users :=
  Register.ofList <| list.filterMap fun user =>
    let name := user.name.trim
    let password := user.password.trim
    if name.isEmpty || password.isEmpty then none else some (name, password)

def toList (users : Users) : List User :=
  users.entries.map fun (name, password) => ⟨name, password⟩

/-- Does a shop with these users ask for credentials? -/
def isEnabled (users : Users) : Bool :=
  !users.isEmpty

/-- Do credentials name a user with the right password? Passwords are compared by their bytes, so one
that no bytes stand for crashes. -/
def authorizes (users : Users) (credentials : Credentials) : Except Crash Bool :=
  match (users.get? credentials.name).map LooseText.toString? with
  | none => .ok false
  | some none => .error .unencodable
  | some (some password) => .ok (password == credentials.password)

/-- The user in an object, if both parts are text. -/
def userIn? (value : Json) : Option User := do
  return ⟨← value.textAt? "username", ← value.textAt? "password"⟩

/-- The items of the list of users; an absent or empty value has none. Objects and texts have items
that name no user. -/
def listed (value : Json) : Except Crash (List Json) :=
  match value.get? "users" with
  | none => .ok []
  | some users =>
    if users.isFalsy then .ok []
    else match users with
      | .arr items => .ok items
      | .str _ | .obj _ => .ok []
      | _ => .error .usersNotIterable

/-- Why a file gives no users. -/
inductive FileError where
  | document (path : Path) (error : DocumentError)
  | notAnObject (path : Path)
  | noUsers (path : Path)
deriving DecidableEq, Repr

/-- The message of a file that gives no users, with the words for what lies behind it. -/
def FileError.messageWith (describe : Path → DocumentError → String) : FileError → String
  | .document path (.unreadable refusal) =>
    s!"failed to read auth file {path}: {describe path (.unreadable refusal)}"
  | .document path .malformed => s!"invalid auth config in {path}: {describe path .malformed}"
  | .notAnObject path => s!"invalid auth config in {path}: expected a JSON object"
  | .noUsers path => s!"auth file {path} does not define valid credentials"

def FileError.message : FileError → String :=
  messageWith DocumentError.describe

/-- The users that a document names, at least one. -/
def ofDocument (path : Path) (value : Json) : Except (Failure FileError) Users :=
  match value with
  | .obj members => do
    let items ← orCrash (listed (.obj members))
    let single := (userIn? (.obj members)).toList
    let users := ofList (single ++ items.filterMap userIn?)
    if users.isEnabled then return users else report (.noUsers path)
  | _ => report (.notAnObject path)

/-- Loads the users that a file names. Without a file there are none. -/
def load [Stack] (disk : Disk) : Option Path → Except (Failure FileError) Users
  | none => .ok Register.empty
  | some path =>
    match disk.readDocument path with
    | .ok value => (ofDocument path value).map fun users => ofList users.toList
    | .error (.reported error) => report (.document path error)
    | .error (.crash crash) => .error (.crash crash)

end Users

end Gameshelf
