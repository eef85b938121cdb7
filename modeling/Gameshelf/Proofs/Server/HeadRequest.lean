import Gameshelf.Proofs.Server.Fetch

/-!
Requests for the headers of a file alone. A download without its body is answered like one with it, but for the
stretch that is to be sent, and the file is not opened for it (`answer_without_body`). The routes that lead to
files take both methods (`routing_eq_of_fetches`), so a request for the headers is answered with those of the
file itself, whatever stands in the way of either (`head_answered_as_get`).
-/

namespace Gameshelf.Download

/-- An answer without the stretch that is to be sent with it. -/
def Answer.bare (answer : Answer) : Answer :=
  { answer with body := none }

theorem send_without_body (path : Path) (content : Encoding.Bytes) (range : Option ByteRange)
    (obstacle : Option Obstacle) :
    send path content range false obstacle = (send path content range true none).map Answer.bare := by
  cases range <;> simp [send, Answer.bare, Except.map]

/-- **A download without its body** is refused as the one with it, or has the same status, headers and media
type. What may be refused about opening the file does not matter to it. -/
theorem answer_without_body (disk : Disk) (root : Path) (relative : String) (rangeHeader : Option String)
    (obstacle : Option Obstacle) :
    answer disk root relative rangeHeader false obstacle
      = (answer disk root relative rangeHeader true none).map Answer.bare := by
  unfold answer
  dsimp only
  cases disk.find (root / relative) with
  | error fault => cases fault <;> rfl
  | ok node =>
    cases node with
    | link | special | directory => rfl
    | file content =>
      cases rangeHeader with
      | none => exact send_without_body _ content none obstacle
      | some header =>
        simp only [Option.map_some]
        rcases ByteRange.ofHeader header content.length with (_ | _) | range
        · rfl
        · rfl
        · exact send_without_body _ content (some range) obstacle

end Gameshelf.Download

namespace Gameshelf.Server

open Download

/-- The status and the headers of a response. -/
def Response.head (response : Response) : Nat × List (String × String) :=
  (response.status, response.headers)

/-- The same request by another method. -/
def Request.by (method : String) (request : Request) : Request :=
  { request with method }

/-- **An endpoint that answers with a file.** -/
def Endpoint.IsFile : Endpoint → Prop
  | .download _ | .game _ => True
  | _ => False

/-- **A path fetches a file**: without its alias it is that of a download or of a position. -/
def Fetches (path : String) : Prop :=
  ∃ endpoint, routing "GET" (withoutAlias path) = .answers endpoint ∧ endpoint.IsFile

section Routes

/-- A pattern gives its own endpoint, or one of its own kind for a name. -/
theorem endpoint_of_match? {pattern : Pattern} {path : String} {endpoint : Endpoint}
    (found : pattern.match? path = some endpoint) :
    match pattern with
    | .exactly _ own => endpoint = own
    | .named _ _ own | .below _ own => ∃ name, endpoint = own name := by
  cases pattern with
  | exactly fixed own =>
    simp only [Pattern.match?] at found
    split at found
    · exact (Option.some.inj found).symm
    · cases found
  | named before after own =>
    obtain ⟨rest, -, found⟩ := Option.bind_eq_some_iff.mp found
    dsimp only at found
    split at found
    · cases found
    · split at found
      · exact ⟨_, (Option.some.inj found).symm⟩
      · cases found
  | below before own =>
    obtain ⟨rest, -, found⟩ := Option.bind_eq_some_iff.mp found
    dsimp only at found
    split at found
    · cases found
    · exact ⟨_, (Option.some.inj found).symm⟩

/-- A route to files lets headers alone be asked for. -/
theorem allowsHead_of_isFile {route : Route} (listed : route ∈ Route.all) {path : String} {endpoint : Endpoint}
    (found : route.pattern.match? path = some endpoint) (isFile : endpoint.IsFile) : route.allowsHead = true := by
  have own := endpoint_of_match? found
  simp only [Route.all, List.mem_cons, List.not_mem_nil, or_false] at listed
  rcases listed with rfl | rfl | rfl | rfl | rfl | rfl | rfl | rfl | rfl | rfl | rfl | rfl | rfl | rfl | rfl | rfl
  all_goals first
    | rfl
    | (obtain ⟨_, rfl⟩ := own; cases isFile)

/-- **A path that fetches a file is routed alike by both methods.** -/
theorem routing_eq_of_fetches {path : String} (fetches : Fetches path) :
    ∃ endpoint, endpoint.IsFile ∧
      ∀ method, method = "GET" ∨ method = "HEAD" → routing method (withoutAlias path) = .answers endpoint := by
  obtain ⟨endpoint, routed, isFile⟩ := fetches
  unfold routing at routed
  cases known : routeOf? (withoutAlias path) with
  | none =>
    rw [known] at routed
    dsimp only at routed
    split at routed <;> cases routed
  | some found =>
    obtain ⟨route, own⟩ := found
    rw [known] at routed
    dsimp only at routed
    split at routed
    · cases routed
      obtain ⟨other, listed, matched⟩ := List.exists_of_findSome?_eq_some known
      obtain ⟨_, found, same⟩ := Option.map_eq_some_iff.mp matched
      cases same
      have both := allowsHead_of_isFile listed found isFile
      refine ⟨_, isFile, fun method asked => ?_⟩
      simp only [routing, known, Route.methods, both, if_true]
      rcases asked with rfl | rfl <;> rfl
    · cases routed

end Routes

section Answers

variable {disk : Disk} {request : Request}

/-- The headers of a download do not depend on what is sent with it. -/
theorem head_ofDownload (answer : Answer) : (ofDownload answer.bare).head = (ofDownload answer).head := by
  unfold ofDownload Answer.bare
  by_cases refused : answer.status = 416
  · simp only [refused, if_true]
  · simp only [refused, if_false]
    cases answer.body <;> rfl

/-- A file is answered alike by both methods, up to what is sent. -/
theorem head_answerFile (shop : Option Shop) (disk : Disk) (request : Request) (path : String) :
    (answerFile shop disk (request.by "HEAD") path).map Response.head
      = (answerFile shop disk (request.by "GET") path).map Response.head := by
  cases shop with
  | none => simp only [answerFile, openShop, error_bind]
  | some shop =>
    have bare := answer_without_body disk shop.root path (request.header? "range") none
    have brief : ("HEAD" != "HEAD") = false := rfl
    have whole : ("GET" != "HEAD") = true := rfl
    unfold answerFile
    simp only [openShop_some, ok_bind, Request.by, Request.header?, brief, whole] at bare ⊢
    rw [bare]
    generalize Download.answer disk shop.root path (request.headers.lookup "range") true none = outcome
    rcases outcome with (_ | _) | answer
    · rfl
    · rfl
    · exact congrArg Except.ok (head_ofDownload answer)

/-- So is every endpoint that answers with a file. -/
theorem head_answer {endpoint : Endpoint} (isFile : endpoint.IsFile) (shop : Option Shop) (disk : Disk)
    (request : Request) :
    (answer shop disk (request.by "HEAD") endpoint).map Response.head
      = (answer shop disk (request.by "GET") endpoint).map Response.head := by
  cases endpoint with
  | download path =>
    simp only [answer]
    split
    · rfl
    · exact head_answerFile shop disk request _
  | game text =>
    simp only [answer, answerGame]
    cases Settings.intOfText text with
    | error objection => rfl
    | ok position =>
      cases shop with
      | none => simp only [openShop, error_bind]
      | some shop =>
        simp only [openShop_some, ok_bind]
        cases shop.catalog.atPosition position with
        | none => rfl
        | some file => exact head_answerFile (some shop) disk request file.path
  | _ => cases isFile

/-- The way of a request through the layers, by any method. -/
theorem respond_by (shop : Option Shop) (disk : Disk) (now : Int) (fresh method : String) (request : Request) :
    respond shop disk now fresh (request.by method) =
      ((if (charge shop now).1 then guarded (charge shop now).2 disk ((guardedRequest request).by method)
        else .ok overBudget).map (identified request fresh), (charge shop now).2) := rfl

/-- The guard does not look at the method. -/
theorem admits_by (shop : Option Shop) (method : String) (request : Request) :
    admits shop (request.by method) = admits shop request := rfl

theorem head_routed (fetches : Fetches request.path) (shop : Option Shop) (disk : Disk) :
    (routed shop disk ((guardedRequest request).by "HEAD")).map Response.head
      = (routed shop disk ((guardedRequest request).by "GET")).map Response.head := by
  obtain ⟨endpoint, isFile, leads⟩ := routing_eq_of_fetches fetches
  have there {method : String} (asked : method = "GET" ∨ method = "HEAD") :
      routed shop disk ((guardedRequest request).by method)
        = answer shop disk ((guardedRequest request).by method) endpoint := by
    simp only [routed, Request.by, guardedRequest, leads method asked]
  rw [there (.inl rfl), there (.inr rfl)]
  exact head_answer isFile shop disk (guardedRequest request)

/-- A request that is admitted is answered by the routes, and others alike. -/
theorem head_guarded (fetches : Fetches request.path) (shop : Option Shop) (disk : Disk) :
    (guarded shop disk ((guardedRequest request).by "HEAD")).map Response.head
      = (guarded shop disk ((guardedRequest request).by "GET")).map Response.head := by
  unfold guarded
  rw [admits_by, admits_by]
  cases admits shop (guardedRequest request) with
  | error crash => rfl
  | ok admitted =>
    cases admitted with
    | true => exact head_routed fetches shop disk
    | false => rfl

/-- An id is put on responses whatever they send. -/
theorem head_identified {one other : Except Crash Response}
    (alike : one.map Response.head = other.map Response.head) (request : Request) (fresh : String) :
    (one.map (identified request fresh)).map Response.head
      = (other.map (identified request fresh)).map Response.head := by
  have id (outcome : Except Crash Response) : (outcome.map (identified request fresh)).map Response.head
      = (outcome.map Response.head).map fun head =>
          (head.1, head.2 ++ [(requestIdHeader, requestId request fresh)]) := by
    cases outcome <;> rfl
  rw [id, id, alike]

end Answers

/-- **A request for the headers of a file is answered as one for the file.** A download without its body is
refused or crashes as the one with it, or has the same status, headers and media type and nothing to send, even
if the file could not be opened. A request for a path that fetches a file, by its name or by its position, has
the same outcome by both methods, with the same status and headers, and leaves the same shop behind: whether
the budget is spent, credentials are asked for, the path or the position is none, the file is not there, or it
is answered of in whole, in part or not at all. -/
theorem head_answered_as_get :
    (∀ (disk : Disk) (root : Path) (relative : String) (rangeHeader : Option String) (obstacle : Option Obstacle),
      Download.answer disk root relative rangeHeader false obstacle
        = (Download.answer disk root relative rangeHeader true none).map Answer.bare) ∧
    ∀ (shop : Option Shop) (disk : Disk) (now : Int) (fresh : String) (request : Request), Fetches request.path →
      (respond shop disk now fresh (request.by "HEAD")).1.map Response.head
        = (respond shop disk now fresh (request.by "GET")).1.map Response.head ∧
      (respond shop disk now fresh (request.by "HEAD")).2 = (respond shop disk now fresh (request.by "GET")).2 := by
  refine ⟨answer_without_body, fun shop disk now fresh request fetches => ?_⟩
  rw [respond_by, respond_by]
  refine ⟨head_identified ?_ request fresh, rfl⟩
  cases (charge shop now).1 with
  | true => exact head_guarded fetches (charge shop now).2 disk
  | false => rfl

/-- What is announced of ten bytes that are asked for with a range. -/
def announced (method header : String) : Except Crash (Nat × List (String × String)) :=
  (respond (some (smallShop []).opened) tenBytes 0 "id"
    (Request.by method ⟨"GET", "/api/download/a", "", [("range", header)]⟩)).1.map Response.head

/-- Three of ten bytes are announced by either method, and so is that no eleventh can be. -/
theorem head_answered_as_get_tenBytes :
    Fetches "/api/download/a" ∧
      announced "GET" "bytes=1-3" = .ok (206, [("accept-ranges", "bytes"),
        ("content-type", "application/octet-stream"), ("content-length", "3"),
        ("content-range", "bytes 1-3/10"), ("x-request-id", "id")]) ∧
      announced "HEAD" "bytes=1-3" = announced "GET" "bytes=1-3" ∧
      announced "HEAD" "bytes=9-10" = announced "GET" "bytes=9-10" := by
  have fetches : Fetches "/api/download/a" := ⟨.download "a", by decide +kernel, trivial⟩
  have alike (header : String) : announced "HEAD" header = announced "GET" header :=
    (head_answered_as_get.2 (some (smallShop []).opened) tenBytes 0 "id"
      ⟨"GET", "/api/download/a", "", [("range", header)]⟩ fetches).1
  exact ⟨fetches, by decide +kernel, alike _, alike _⟩

end Gameshelf.Server
