import Gameshelf.Server.Answer

/-!
The way of a request: an alias of its path is resolved, the request budget is charged, credentials are
asked for, and then the routes decide. Every response carries the id of its request, but for the one to
a request that crashed.
-/

namespace Gameshelf.Server

open Text

/-- The header that carries the id of a request. -/
def requestIdHeader : String := "x-request-id"

/-- The path without the alias that every path has. -/
def withoutAlias (path : String) : String :=
  if path == "/api" then "/"
  else if "/api/".isPrefixOf path then String.ofList (path.toList.drop "/api".length)
  else path

/-- The paths that are open to all. -/
def openPaths : List String := ["/health"]

/-- May a request be answered? A shop with users asks for credentials, but for the paths that are open
to all. -/
def admits (shop : Option Shop) (request : Request) : Except Crash Bool :=
  match shop with
  | none => .ok true
  | some shop =>
    if openPaths.contains request.path || !shop.users.isEnabled then .ok true
    else match Credentials.ofHeader (request.header? "authorization") with
      | .ok (some credentials) => shop.users.authorizes credentials
      | .ok none => .ok false
      | .error crash => .error crash

def unauthorized : Response :=
  .failure 401 "authentication required" [("www-authenticate", "Basic realm=\"foilshop\"")]

def overBudget : Response :=
  .failure 429 "too many requests" []

/-- The scheme and the host of the server's own addresses. -/
def origin (request : Request) : String :=
  "http://" ++ (request.header? "host").getD ""

/-- A path within an address. A question mark or a number sign in a path would end it there, so these
are escaped. -/
def pathInAddress (path : String) : String :=
  String.ofList <| path.toList.flatMap fun c =>
    if c == '?' || c == '#' then Encoding.Percent.escape (UInt8.ofNat c.toNat) else [c]

/-- What the routes answer. -/
def routed (shop : Option Shop) (disk : Disk) (request : Request) : Except Crash Response :=
  match routing request.method request.path with
  | .answers endpoint => answer shop disk request endpoint
  | .wrongMethod allowed => .ok (.detail 405 "Method Not Allowed" [("allow", ", ".intercalate allowed)])
  | .elsewhere path =>
    let query := if request.query.isEmpty then "" else "?" ++ request.query
    .ok (.redirect (origin request ++ pathInAddress path ++ query))
  | .nowhere => .ok (.detail 404 "Not Found" [])

/-- What a request is answered once the budget has let it through. -/
def guarded (shop : Option Shop) (disk : Disk) (request : Request) : Except Crash Response := do
  let admitted ← admits shop request
  if admitted then routed shop disk request else return unauthorized

/-- Charges the budget of a shop, if one is open. -/
def charge (shop : Option Shop) (now : Int) : Bool × Option Shop :=
  match shop with
  | none => (true, none)
  | some shop =>
    let (granted, limit) := shop.limit.acquire now
    (granted, some { shop with limit })

/-- The id of a request: the one it brings, or a new one. -/
def requestId (request : Request) (fresh : String) : String :=
  (Settings.nonempty? (request.header? requestIdHeader)).getD fresh

/-- Answers a request, and gives the shop after it. `fresh` is an id for a request that brings none. -/
def respond (shop : Option Shop) (disk : Disk) (now : Int) (fresh : String) (request : Request) :
    Except Crash Response × Option Shop :=
  let inner := { request with path := withoutAlias request.path }
  let (granted, shop) := charge shop now
  let response := if granted then guarded shop disk inner else .ok overBudget
  let identified := response.map fun response =>
    { response with headers := response.headers ++ [(requestIdHeader, requestId request fresh)] }
  (identified, shop)

/-- The server once it has started: the shop that is open, or else one with the settings of the
environment, its scanner running. -/
def start [Stack] (shop : Option Shop) (disk : Disk) (environment : Settings.Environment) :
    Except (Failure OpeningError) Shop := do
  let shop ← match shop with
    | some shop => pure shop
    | none => do
      let settings ← within .config (Settings.load disk ⟨none, environment, []⟩)
      Shop.configure disk settings true
  return { shop with scanner := shop.scanner.start }

/-- The server once it has stopped. -/
def stop (shop : Shop) : Shop :=
  { shop with scanner := shop.scanner.stop }

end Gameshelf.Server
