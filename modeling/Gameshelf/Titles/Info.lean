import Gameshelf.Json.Basic
import Gameshelf.Register
import Gameshelf.Title.Id

/-!
What sources know of titles: an icon, a banner and a name, each of which may be absent. The entries of
several sources are merged: for each title and each part the first that is not absent counts.
-/

namespace Gameshelf.Titles

open Text

/-- What is known of a title. -/
structure Info where
  icon : Option LooseText
  banner : Option LooseText
  name : Option LooseText
deriving DecidableEq, Repr

namespace Info

def unknown : Info := ⟨none, none, none⟩

/-- What is known, and for the rest what another source knows. -/
def merge (info other : Info) : Info :=
  ⟨info.icon.or other.icon, info.banner.or other.banner, info.name.or other.name⟩

end Info

/-- Why a payload or a cache holds no titles. -/
inductive PayloadError where
  | notAnObject
  | entryNotAnObject
deriving DecidableEq, Repr

def PayloadError.message : PayloadError → String
  | .notAnObject => "invalid format: expected a JSON object"
  | .entryNotAnObject => "invalid format: expected object entries"

/-- The host of images whose address is given without one. -/
def imageHost : String := "https://img-eshop.cdn.nintendo.net"

/-- The text of the first of two members that has any; without text in the first, whatever the second
has. -/
def firstText (entry : Json) (name other : LooseText) : Option LooseText :=
  match entry.textAt? name with
  | some s => if s.isEmpty then entry.textAt? other else some s
  | none => entry.textAt? other

/-- An image's address, completed with the host where it has none. -/
def withHost (address : LooseText) : LooseText :=
  if address.isEmpty || address.beginsWith "http" then address else imageHost ++ address

/-- The title of an entry; none without a valid id. Ids are in capitals. -/
def titleOf? (entry : Json) : Option (LooseText × Info) := do
  let id := upper (← (← entry.textAt? "id").toString?)
  if TitleId.isValid id then
    return (id, ⟨(firstText entry "iconUrl" "icon_url").map withHost,
      firstText entry "bannerUrl" "banner_url", entry.textAt? "name"⟩)
  else none

/-- The titles of a payload: an object whose members are entries. -/
def ofPayload : Json → Except PayloadError (List (LooseText × Info))
  | .obj members =>
    members.foldr
      (fun member titles =>
        match member.2, titles with
        | .obj entry, .ok titles => .ok ((titleOf? (.obj entry)).toList ++ titles)
        | _, _ => .error .entryNotAnObject)
      (.ok [])
  | _ => .error .notAnObject

/-- The titles of several sources as one register. -/
def merge (sources : List (List (LooseText × Info))) : Register Info :=
  sources.flatten.foldl
    (fun merged (id, info) => merged.insert id (((merged.get? id).getD .unknown).merge info))
    Register.empty

end Gameshelf.Titles
