import Gameshelf.Encoding.Percent
import Gameshelf.Json.Write

/-!
Requests and responses. The names of headers are in small letters; of several headers with one name
the first counts.
-/

namespace Gameshelf.Server

open Text Encoding

structure Request where
  method : String
  /-- The path with its escapes resolved. -/
  path : String
  /-- The query as it was sent. -/
  query : String
  headers : List (String × String)
deriving DecidableEq, Repr

namespace Request

/-- The request for a target: a path, and a query after the first question mark. -/
def ofTarget (method target : String) (headers : List (String × String)) : Request :=
  let (path, query) := (cutAt? '?' target.toList).getD (target.toList, [])
  ⟨method, String.ofList (Percent.decode path), String.ofList query, headers⟩

def header? (request : Request) (name : String) : Option String :=
  request.headers.lookup name

/-- The value of a field of the query; of several with one name the last counts. -/
def queryField? (request : Request) (name : String) : Option String :=
  (Percent.queryFields request.query.toList).reverse.lookup name

end Request

/-- What a response carries. -/
inductive Body where
  | json (value : Json)
  | raw (content : Bytes)

namespace Body

/-- The bytes of a body. -/
def encoded : Body → Bytes
  | .json value => encodeUtf8 value.compact
  | .raw content => content

end Body

structure Response where
  status : Nat
  headers : List (String × String)
  body : Body

namespace Response

/-- The header that announces the length of a body. -/
def lengthHeader (body : Body) : String × String :=
  ("content-length", toString body.encoded.length)

/-- A response that carries a value. -/
def json (status : Nat) (value : Json) (headers : List (String × String)) : Response :=
  ⟨status, [lengthHeader (.json value), ("content-type", "application/json")] ++ headers, .json value⟩

/-- A response that carries nothing. -/
def bare (status : Nat) (headers : List (String × String)) : Response :=
  ⟨status, lengthHeader (.raw []) :: headers, .raw []⟩

/-- A response that reports an error. -/
def failure (status : Nat) (message : String) (headers : List (String × String)) : Response :=
  json status (.obj [("status", .str "error"), ("message", .str message)]) headers

/-- A response to a request that no route answers. -/
def detail (status : Nat) (text : String) (headers : List (String × String)) : Response :=
  json status (.obj [("detail", .str text)]) headers

/-- What an address may contain, besides the unreserved characters, without being escaped again. -/
def addressSafe : List Char := ":/%#?=@[]!$&'()*+,;".toList

/-- A response that sends the client to another address. -/
def redirect (address : String) : Response :=
  bare 307 [("location", String.ofList (Percent.encode addressSafe address.toList))]

def crashed : Response :=
  let body := Body.raw (utf8 "Internal Server Error")
  ⟨500, [lengthHeader body, ("content-type", "text/plain; charset=utf-8")], body⟩

end Response

end Gameshelf.Server
