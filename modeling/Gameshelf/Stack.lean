/-!
The call stack. Documents and links are followed by calls within calls, so how deep they may be nested is
settled by what the stack has left when a run comes to them. Only what every stack leaves is known of it.
-/

namespace Gameshelf

/-- How deep nested input is followed before the stack is used up. -/
class Stack where
  /-- The most brackets of a document that lie within one another. -/
  brackets : Nat
  /-- The most links within links that a resolution follows. -/
  links : Nat
  /-- A list of plain objects is never too deep. -/
  brackets_fit : 2 ≤ brackets
  /-- Nor are as many links as the system follows of itself. -/
  links_fit : 40 ≤ links

/-- What is left of a stack of a thousand calls where a command line is run. -/
instance Stack.usual : Stack := ⟨985, 985, by decide, by decide⟩

end Gameshelf
