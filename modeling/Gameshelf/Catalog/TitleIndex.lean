import Gameshelf.Catalog.ContentFile

/-!
The index of a catalog: for each title id the positions of the files with that id. The ids stand in the
order in which they were met first, and the positions of each in the order in which these were met.
-/

namespace Gameshelf

/-- Positions by title id. -/
abbrev TitleIndex (π : Type) := List (String × List π)

namespace TitleIndex

variable {π : Type}

/-- An index with one more position for a title id. -/
def add (position : π) (id : String) : TitleIndex π → TitleIndex π
  | [] => [(id, [position])]
  | (first, positions) :: rest =>
    if first = id then (first, positions ++ [position]) :: rest
    else (first, positions) :: add position id rest

/-- The index of positions, given the title id at each. A position without an id stands nowhere in it. -/
def ofPositions (titleAt : π → Option String) (positions : List π) : TitleIndex π :=
  positions.foldl
    (fun index position =>
      match titleAt position with
      | none => index
      | some id => add position id index)
    []

/-- The title ids that an index knows. -/
def ids (index : TitleIndex π) : List String :=
  index.map Prod.fst

end TitleIndex

end Gameshelf
