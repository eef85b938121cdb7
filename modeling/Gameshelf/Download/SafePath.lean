import Gameshelf.Text.Words

/-!
Requested paths. A request names a file by segments between slashes of either kind; what could lead
out of the library is refused before the disk is asked.
-/

namespace Gameshelf.Download

open Text

/-- The separators of a request: both slashes, on every system. -/
def isSeparator (c : Char) : Bool :=
  c == '/' || c == '\\'

/-- A letter and a colon in front, as a drive is written. -/
def startsWithDrive : List Char → Bool
  | letter :: ':' :: _ => ('a' ≤ letter && letter ≤ 'z') || ('A' ≤ letter && letter ≤ 'Z')
  | _ => false

/-- A segment that no request may contain. -/
def isForbidden (segment : List Char) : Bool :=
  segment == ['.', '.'] || segment.contains '\x00' || startsWithDrive segment

/-- A segment that says nothing. -/
def isIdle (segment : List Char) : Bool :=
  segment.isEmpty || segment == ['.']

/-- The segments of a request that say something. -/
def segmentsOf (requested : String) : List (List Char) :=
  (splitAll isSeparator requested.toList).filter (!isIdle ·)

/-- The relative path that a request means; none if a segment is forbidden or none is left. -/
def safePath? (requested : String) : Option String :=
  let segments := segmentsOf requested
  if segments.isEmpty || segments.any isForbidden then none
  else some (String.ofList (joinWith ['/'] segments))

end Gameshelf.Download
