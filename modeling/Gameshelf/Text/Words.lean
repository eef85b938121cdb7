import Gameshelf.Text.CharClass

/-!
Cutting text: at white space, at a character, at the first occurrence of one, and the test whether
one text occurs in another.
-/

namespace Gameshelf.Text

/-- A list without the elements at either end that satisfy a test. -/
def trimBy {α : Type} (p : α → Bool) (items : List α) : List α :=
  ((items.dropWhile p).reverse.dropWhile p).reverse

def trimChars (cs : List Char) : List Char :=
  trimBy isBlank cs

def trim (s : String) : String :=
  String.ofList (trimChars s.toList)

/-- The runs of characters between white space; `run` is the one being read, last character first. -/
def wordsFrom : List Char → List Char → List (List Char)
  | run, [] => if run.isEmpty then [] else [run.reverse]
  | run, c :: rest =>
    if isBlank c then
      if run.isEmpty then wordsFrom [] rest else run.reverse :: wordsFrom [] rest
    else wordsFrom (c :: run) rest

/-- The runs of characters between white space, none of them empty. -/
def words (cs : List Char) : List (List Char) :=
  wordsFrom [] cs

/-- The pieces between the elements that satisfy a test: one more than there are such elements. -/
def splitAll {α : Type} (p : α → Bool) : List α → List (List α)
  | [] => [[]]
  | a :: rest =>
    if p a then [] :: splitAll p rest
    else match splitAll p rest with
      | piece :: pieces => (a :: piece) :: pieces
      | [] => [[a]]

/-- The text before the first occurrence of an element and the text after it. -/
def cutAt? {α : Type} [BEq α] (x : α) : List α → Option (List α × List α)
  | [] => none
  | a :: rest => if a == x then some ([], rest) else (cutAt? x rest).map fun (l, r) => (a :: l, r)

/-- Does the second list occur in the first as a run of neighbours? -/
def occursIn {α : Type} [BEq α] (needle : List α) : List α → Bool
  | [] => needle.isEmpty
  | a :: rest => needle.isPrefixOf (a :: rest) || occursIn needle rest

/-- Pieces put together with a separator between neighbours. -/
def joinWith {α : Type} (separator : List α) : List (List α) → List α
  | [] => []
  | [piece] => piece
  | piece :: rest => piece ++ separator ++ joinWith separator rest

end Gameshelf.Text
