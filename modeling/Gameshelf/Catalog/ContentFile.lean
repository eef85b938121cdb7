import Gameshelf.Path
import Gameshelf.Title.Token
import Gameshelf.Json.Basic

/-!
Content files: what the library knows of one file of its folder.
-/

namespace Gameshelf

open Text

/-- The suffixes of content files, in small letters. -/
def contentSuffixes : List String := [".nsp", ".nsz", ".xci", ".xcz"]

/-- Is a file of this name a content file? Case does not matter. -/
def isContentName (name : String) : Bool :=
  contentSuffixes.contains (lower (Path.suffixOf name))

/-- A file of the library. -/
structure ContentFile where
  /-- The path from the library's root, with slashes. -/
  path : String
  name : String
  size : Int
  titleId : Option String
  version : Option Int
  kind : ContentKind
deriving DecidableEq, Repr

namespace ContentFile

/-- The content file at a path, its tokens read from its name and its path. A path without a name
stands for its own name. -/
def ofPath (path : Path) (size : Int) : Except Numeral.TooLong ContentFile := do
  let text := toString path
  let name := if path.name.isEmpty then text else path.name.shown
  let tokens ← Tokens.ofFile name text
  return {
    path := text, name, size
    titleId := tokens.titleId
    version := tokens.version.map Int.ofNat
    kind := TitleId.kind tokens.titleId }

/-- The order of the catalog: by title id, version and name, an absent id or version first. -/
def order : ContentFile → ContentFile → Ordering :=
  compareLex (compareOn titleId) (compareLex (compareOn version) (compareOn name))

instance : Std.TransCmp order :=
  inferInstanceAs
    (Std.TransCmp (compareLex (compareOn titleId) (compareLex (compareOn version) (compareOn name))))

/-- May one file stand before another? -/
def precedes (a b : ContentFile) : Bool :=
  (order a b).isLE

theorem precedes_trans (a b c : ContentFile) (ab : a.precedes b) (bc : b.precedes c) : a.precedes c :=
  Std.TransCmp.isLE_trans ab bc

theorem precedes_total (a b : ContentFile) : (a.precedes b || b.precedes a) = true := by
  have swapped : order b a = (order a b).swap := Std.OrientedCmp.eq_swap
  simp only [precedes, swapped]
  cases order a b <;> rfl

/-- A content file as responses show it. -/
def toJson (file : ContentFile) : Json :=
  .obj [("relative_path", .str file.path), ("name", .str file.name), ("size", .int file.size),
    ("title_id", .ofString? file.titleId), ("version", file.version.elim .null .int),
    ("kind", .str file.kind.word)]

end ContentFile

end Gameshelf
