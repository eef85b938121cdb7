import Gameshelf.Failure

/-!
One request budget for all clients: within any window of time only so many requests are let through.
Requests that are refused do not count. Where the window begins is found by halving, so what it holds is
counted exactly as long as the clock is never set back.
-/

namespace Gameshelf.Server

/-- A budget: how many requests a window lets through, how long the window is, and when requests were
let through, in the order they were. Times are in milliseconds. -/
structure RateLimit where
  burst : Int
  window : Int
  granted : List Int
deriving DecidableEq, Repr

namespace RateLimit

/-- The window in which a burst is made up for at a rate, at least a millisecond. -/
def windowOf (perSecond burst : Int) : Int :=
  max 1 ((burst * 1000).fdiv perSecond)

/-- A budget of which nothing is spent. -/
def ofRate (perSecond burst : Int) : Except Crash RateLimit :=
  if perSecond = 0 then .error .zeroRate
  else if burst = 0 then .error .zeroBurst
  else .ok ⟨burst, windowOf perSecond burst, []⟩

/-- Is the time at a position no earlier than a start? Beyond the last time nothing is. -/
def reaches (times : List Int) (start : Int) (position : Nat) : Bool :=
  times[position]?.any fun time => start ≤ time

/-- Searches times between two positions for one that reaches a start while the one before it does
not. Each step halves the stretch, so as many steps as there are times are enough. Where times are
out of order the search also ends at one that falls short while the one before it does not. -/
def search (times : List Int) (start : Int) : Nat → Nat → Nat → Nat
  | 0, low, _ => low
  | steps + 1, low, high =>
    let middle := (low + high) / 2
    match reaches times start (middle - 1), reaches times start middle with
    | false, false => search times start steps (middle + 1) high
    | true, true => search times start steps low middle
    | _, _ => middle

/-- The position of the first time that belongs to a window, by its start; the number of times if the
last one lies before the window. -/
def firstWithin (times : List Int) (start : Int) : Nat :=
  if !reaches times start (times.length - 1) then times.length
  else if reaches times start 0 then 0
  else search times start times.length 0 (times.length - 1)

/-- The number of requests let through in the window that ends now; its beginning belongs to it. -/
def spent (limit : RateLimit) (now : Int) : Nat :=
  limit.granted.length - firstWithin limit.granted (now - limit.window)

/-- Asks to let a request through now. -/
def acquire (limit : RateLimit) (now : Int) : Bool × RateLimit :=
  if limit.spent now < limit.burst then
    (true, { limit with granted := limit.granted ++ [now] })
  else (false, limit)

end RateLimit

end Gameshelf.Server
