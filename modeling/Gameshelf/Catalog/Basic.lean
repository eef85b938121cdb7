import Gameshelf.Catalog.TitleIndex

/-!
The catalog: the content files of a library in their order, the index of their title ids, and the
questions it answers. A catalog never changes; a new scan makes a new one.
-/

namespace Gameshelf

open Text

/-- The index of files in their order. -/
def TitleIndex.ofFiles (files : List ContentFile) : TitleIndex (Fin files.length) :=
  ofPositions (fun position => files[position].titleId) (List.finRange files.length)

/-- The content files of a library, in order, and where those of each title stand. -/
structure Catalog where
  files : List ContentFile
  titles : TitleIndex (Fin files.length)
  ordered : files.Pairwise fun a b => a.precedes b = true
  indexed : titles = .ofFiles files
deriving DecidableEq

namespace Catalog

/-- The catalog of files that stand in order. -/
def ofOrdered (files : List ContentFile) (ordered : files.Pairwise fun a b => a.precedes b = true) :
    Catalog :=
  ⟨files, .ofFiles files, ordered, rfl⟩

/-- The catalog of content files. Files that the order does not tell apart keep their places. -/
def ofFiles (files : List ContentFile) : Catalog :=
  ofOrdered (files.mergeSort ContentFile.precedes)
    (List.pairwise_mergeSort ContentFile.precedes_trans ContentFile.precedes_total files)

def empty : Catalog := ofOrdered [] .nil

def size (catalog : Catalog) : Nat :=
  catalog.files.length

/-- The title ids of the files, each once, in order. -/
def titleIds (catalog : Catalog) : List String :=
  catalog.titles.ids.mergeSort fun a b => a ≤ b

def ofKind (catalog : Catalog) (kind : ContentKind) : List ContentFile :=
  catalog.files.filter (·.kind == kind)

/-- Does a text occur in a file's name or title id, all in small letters? -/
def matchesQuery (needle : List Char) (file : ContentFile) : Bool :=
  occursIn needle (lower file.name).toList
    || file.titleId.any fun id => occursIn needle (lower id).toList

/-- The files that a query finds. -/
def search (catalog : Catalog) (query : String) : List ContentFile :=
  catalog.files.filter (matchesQuery (lower query).toList)

/-- The files of a title, and its id in capitals; none if there are no such files. -/
def versions (catalog : Catalog) (titleId : String) : Option (String × List ContentFile) :=
  let key := upper titleId
  (catalog.titles.lookup key).map fun positions => (key, positions.map (catalog.files[·]))

/-- The file at a position; the first has position one. -/
def atPosition (catalog : Catalog) (position : Int) : Option ContentFile :=
  if position < 1 then none else catalog.files[(position - 1).toNat]?

/-- The files with their positions. -/
def numbered (files : List ContentFile) : List (Nat × ContentFile) :=
  files.zipIdx.map fun (file, index) => (index + 1, file)

end Catalog

end Gameshelf
