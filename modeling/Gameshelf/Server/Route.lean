import Gameshelf.Text.Words

/-!
Routes: which paths the server answers, by which methods. A line feed at the end of a path is passed
over where a route ends in fixed text. The pages that describe the server to its developers are none of its
own and have no route here.
-/

namespace Gameshelf.Server

open Text

/-- What a route answers. The text that a path gives is kept. -/
inductive Endpoint where
  | health
  | root
  | listing
  | sections
  | sectionFiles (name : String)
  | shopSections
  | search
  | versions (titleId : String)
  | download (path : String)
  | game (position : String)
  | icon (titleId : String)
  | banner (titleId : String)
  | saves
deriving DecidableEq, Repr

/-- The form of a path. -/
inductive Pattern where
  /-- One path. -/
  | exactly (path : String) (endpoint : Endpoint)
  /-- A name without slashes between two fixed texts. -/
  | named (before after : String) (endpoint : String → Endpoint)
  /-- Anything without a line feed after a fixed text. -/
  | below (before : String) (endpoint : String → Endpoint)

/-- A text without a line feed at its end. -/
def dropLineFeed (cs : List Char) : List Char :=
  if cs.getLast? == some '\n' then cs.dropLast else cs

/-- What remains of a text after a fixed beginning. -/
def after? (before : String) (cs : List Char) : Option (List Char) :=
  if before.toList.isPrefixOf cs then some (cs.drop before.toList.length) else none

/-- The endpoint that a pattern gives for a path, if the path has its form. -/
def Pattern.match? (pattern : Pattern) (path : String) : Option Endpoint :=
  match pattern with
  | .exactly fixed endpoint =>
    if path.toList = fixed.toList || dropLineFeed path.toList = fixed.toList then some endpoint
    else none
  | .named before after endpoint => do
    let rest ← after? before path.toList
    let name := rest.takeWhile (· != '/')
    let tail := rest.dropWhile (· != '/')
    if name.isEmpty then none
    else if tail = after.toList || (!after.isEmpty && dropLineFeed tail = after.toList) then
      some (endpoint (String.ofList name))
    else none
  | .below before endpoint => do
    let rest := dropLineFeed (← after? before path.toList)
    if rest.contains '\n' then none else some (endpoint (String.ofList rest))

/-- A route: the form of its paths, and whether only headers may be asked for too. -/
structure Route where
  pattern : Pattern
  allowsHead : Bool

namespace Route

def methods (route : Route) : List String :=
  if route.allowsHead then ["GET", "HEAD"] else ["GET"]

def all : List Route :=
  [⟨.exactly "/health" .health, false⟩, ⟨.exactly "/" .root, false⟩, ⟨.exactly "/shop" .root, false⟩,
    ⟨.exactly "/catalog" .listing, false⟩, ⟨.exactly "/titles" .listing, false⟩,
    ⟨.exactly "/index" .listing, false⟩, ⟨.exactly "/sections" .sections, false⟩,
    ⟨.named "/sections/" "" .sectionFiles, false⟩, ⟨.exactly "/shop/sections" .shopSections, false⟩,
    ⟨.exactly "/search" .search, false⟩, ⟨.named "/title/" "/versions" .versions, false⟩,
    ⟨.below "/download/" .download, true⟩, ⟨.named "/get_game/" "" .game, true⟩,
    ⟨.named "/shop/icon/" "" .icon, false⟩, ⟨.named "/shop/banner/" "" .banner, false⟩,
    ⟨.exactly "/saves/list" .saves, false⟩]

end Route

/-- What the routes say to a method and a path. -/
inductive Routing where
  | answers (endpoint : Endpoint)
  /-- The path is right and the method is not. -/
  | wrongMethod (allowed : List String)
  /-- Another path would be right. -/
  | elsewhere (path : String)
  | nowhere
deriving DecidableEq, Repr

/-- The route of a path and its endpoint. -/
def routeOf? (path : String) : Option (Route × Endpoint) :=
  Route.all.findSome? fun route => (route.pattern.match? path).map (route, ·)

/-- A path without its trailing slashes, or with one if it has none. -/
def toggleSlash (path : String) : String :=
  let cs := path.toList
  if cs.getLast? == some '/' then String.ofList (cs.reverse.dropWhile (· == '/')).reverse
  else String.ofList (cs ++ ['/'])

/-- Finds what answers a method and a path. -/
def routing (method path : String) : Routing :=
  match routeOf? path with
  | some (route, endpoint) =>
    if route.methods.contains method then .answers endpoint else .wrongMethod route.methods
  | none =>
    if path != "/" && (routeOf? (toggleSlash path)).isSome then .elsewhere (toggleSlash path)
    else .nowhere

end Gameshelf.Server
