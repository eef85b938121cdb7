import Gameshelf.Proofs.Failure
import Gameshelf.Server.App

/-!
The guard of a shop with users, as a law about two shops. To a request whose credentials are not
accepted the response depends on the users, the budget and the request alone (`respond_of_refused`), so
two shops that agree on these answer alike, whatever their files, catalogs and titles are. To a request
whose credentials are accepted the response is that of the same shop without users
(`guard_separates`). What is open to all is decided by the path without its alias, as the guard sees it.
-/

namespace Gameshelf.Server

/-- **A request brings credentials that the users accept.** -/
def Accepted (users : Users) (request : Request) : Prop :=
  ∃ credentials, Credentials.ofHeader (request.header? "authorization") = .ok (some credentials) ∧
    users.authorizes credentials = .ok true

/-- Is a request for a path that credentials are asked for? -/
def IsClosed (request : Request) : Prop :=
  withoutAlias request.path ∉ openPaths

/-- A request as the guard sees it. -/
def guardedRequest (request : Request) : Request :=
  { request with path := withoutAlias request.path }

/-- A response with the id of its request. -/
def identified (request : Request) (fresh : String) (response : Response) : Response :=
  { response with headers := response.headers ++ [(requestIdHeader, requestId request fresh)] }

/-- A shop after its budget is charged. -/
def Shop.charged (shop : Shop) (now : Int) : Shop :=
  { shop with limit := (shop.limit.acquire now).2 }

/-- The same shop without users: it is open to all. -/
def Shop.opened (shop : Shop) : Shop :=
  { shop with users := Register.empty }

/-- The way of a request through an open shop, layer by layer. -/
theorem respond_eq (shop : Shop) (disk : Disk) (now : Int) (fresh : String) (request : Request) :
    respond (some shop) disk now fresh request =
      ((if (shop.limit.acquire now).1 then guarded (some (shop.charged now)) disk (guardedRequest request)
        else .ok overBudget).map (identified request fresh), some (shop.charged now)) := rfl

/-- What the users make of the credentials of a request. -/
def verdict (users : Users) (request : Request) : Except Crash Bool :=
  match Credentials.ofHeader (request.header? "authorization") with
  | .ok (some credentials) => users.authorizes credentials
  | .ok none => .ok false
  | .error crash => .error crash

theorem verdict_eq_true_iff {users : Users} {request : Request} :
    verdict users request = .ok true ↔ Accepted users request := by
  unfold verdict Accepted
  split
  · next credentials decoded =>
    refine ⟨fun accepted => ⟨credentials, decoded, accepted⟩, fun ⟨_, found, accepted⟩ => ?_⟩
    rw [decoded] at found
    cases found
    exact accepted
  · next decoded =>
    refine ⟨nofun, fun ⟨_, found, _⟩ => ?_⟩
    cases decoded.symm.trans found
  · next decoded =>
    refine ⟨nofun, fun ⟨_, found, _⟩ => ?_⟩
    cases decoded.symm.trans found

/-- Where credentials are asked for, the verdict on them decides. -/
theorem admits_of_isClosed {shop : Shop} {request : Request} (enabled : shop.users.isEnabled = true)
    (closed : IsClosed request) :
    admits (some shop) (guardedRequest request) = verdict shop.users request := by
  have asked : ¬ (openPaths.contains (withoutAlias request.path) || !shop.users.isEnabled) = true := by
    rw [enabled, Bool.not_true, Bool.or_false, List.contains_iff_mem]
    exact closed
  exact if_neg asked

/-- What is answered to a request without accepted credentials: nothing of it is about the shop. -/
def refusal (users : Users) (limit : RateLimit) (now : Int) (request : Request) : Except Crash Response :=
  if (limit.acquire now).1 then (verdict users request).map fun _ => unauthorized else .ok overBudget

/-- **A response to a request without accepted credentials** depends on the users and the budget of the
shop alone. -/
theorem respond_of_refused {shop : Shop} {request : Request} (enabled : shop.users.isEnabled = true)
    (closed : IsClosed request) (refused : ¬ Accepted shop.users request) (disk : Disk) (now : Int)
    (fresh : String) :
    (respond (some shop) disk now fresh request).1
      = (refusal shop.users shop.limit now request).map (identified request fresh) := by
  have seen : admits (some (shop.charged now)) (guardedRequest request) = verdict shop.users request :=
    admits_of_isClosed enabled closed
  rw [respond_eq, refusal]
  cases (shop.limit.acquire now).1 with
  | false => rfl
  | true =>
    simp only [if_true, guarded, seen]
    cases judged : verdict shop.users request with
    | error crash => rfl
    | ok admitted =>
      cases admitted with
      | false => rfl
      | true => exact absurd (verdict_eq_true_iff.mp judged) refused

theorem openShop_some (shop : Shop) : openShop (some shop) = .ok shop := rfl

theorem Shop.opened_catalog (shop : Shop) : shop.opened.catalog = shop.catalog := rfl

theorem Shop.opened_root (shop : Shop) : shop.opened.root = shop.root := rfl

theorem Shop.opened_titles (shop : Shop) : shop.opened.titles = shop.titles := rfl

theorem answerFile_opened (shop : Shop) (disk : Disk) (request : Request) (path : String) :
    answerFile (some shop.opened) disk request path = answerFile (some shop) disk request path := by
  simp only [answerFile, openShop_some, ok_bind, Shop.opened_root]

/-- The endpoints do not look at the users. -/
theorem answer_opened (shop : Shop) (disk : Disk) (request : Request) (endpoint : Endpoint) :
    answer (some shop.opened) disk request endpoint = answer (some shop) disk request endpoint := by
  cases endpoint with
  | health | sections | saves => rfl
  | root | listing | sectionFiles | search =>
    simp only [answer, openShop_some, ok_bind, Shop.opened_catalog]
  | versions =>
    simp only [answer, openShop_some, ok_bind, answerVersions, Shop.opened_catalog]
  | shopSections =>
    simp only [answer, answerShopSections, openShop_some, ok_bind, Shop.opened_catalog]
  | download => simp only [answer, answerFile_opened]
  | game =>
    simp only [answer, answerGame, openShop_some, ok_bind, Shop.opened_catalog, answerFile_opened]
  | icon | banner =>
    simp only [answer, answerImage, openShop_some, ok_bind, Shop.opened_titles]

/-- Nor do the routes. -/
theorem routed_opened (shop : Shop) (disk : Disk) (request : Request) :
    routed (some shop.opened) disk request = routed (some shop) disk request := by
  unfold routed
  simp only [answer_opened]

/-- A shop without users admits everyone. -/
theorem admits_opened (shop : Shop) (request : Request) : admits (some shop.opened) request = .ok true := by
  unfold admits
  exact if_pos (Bool.or_true _)

/-- Accepted credentials are admitted everywhere. -/
theorem admits_of_accepted {shop : Shop} {request : Request} (accepted : Accepted shop.users request) :
    admits (some shop) (guardedRequest request) = .ok true := by
  by_cases open_to_all : (openPaths.contains (withoutAlias request.path) || !shop.users.isEnabled) = true
  · exact if_pos open_to_all
  · exact (if_neg open_to_all).trans (verdict_eq_true_iff.mpr accepted)

/-- **A response to a request with accepted credentials** is that of the same shop without users. -/
theorem respond_of_accepted {shop : Shop} {request : Request} (accepted : Accepted shop.users request)
    (disk : Disk) (now : Int) (fresh : String) :
    (respond (some shop) disk now fresh request).1
      = (respond (some shop.opened) disk now fresh request).1 := by
  have admitted : admits (some (shop.charged now)) (guardedRequest request) = .ok true :=
    admits_of_accepted accepted
  have free : admits (some (shop.charged now).opened) (guardedRequest request) = .ok true :=
    admits_opened _ _
  rw [respond_eq, respond_eq]
  show (if (shop.limit.acquire now).1 then guarded (some (shop.charged now)) disk (guardedRequest request)
      else .ok overBudget).map _
    = (if (shop.limit.acquire now).1 then
        guarded (some (shop.charged now).opened) disk (guardedRequest request)
      else .ok overBudget).map _
  unfold guarded
  rw [admitted, free]
  simp only [routed_opened]

/-- **The guard separates those whom the users accept from all others.** Two shops with the same users
and the same budget give the same response to a request for a closed path without accepted credentials,
which is that credentials are asked for, that the budget is spent, or that the request crashed; the
budgets stay the same. With accepted credentials a shop responds as it would without users. -/
theorem guard_separates {one other : Shop} {request : Request} (users : one.users = other.users)
    (enabled : one.users.isEnabled = true) (limit : one.limit = other.limit)
    (disk otherDisk : Disk) (now : Int) (fresh : String) :
    (withoutAlias request.path ≠ "/health" → ¬ Accepted one.users request →
      let response := (respond (some one) disk now fresh request).1
      response = (respond (some other) otherDisk now fresh request).1 ∧
      ((∃ asked, response = .ok asked ∧ asked.status = 401 ∧
          asked.headers.lookup "www-authenticate" = some "Basic realm=\"foilshop\"") ∨
        (∃ spent, response = .ok spent ∧ spent.status = 429) ∨
        ∃ crash, response = .error crash) ∧
      ∃ left, (respond (some one) disk now fresh request).2 = some { one with limit := left } ∧
        (respond (some other) otherDisk now fresh request).2 = some { other with limit := left }) ∧
    (Accepted one.users request →
      (respond (some one) disk now fresh request).1
        = (respond (some one.opened) disk now fresh request).1) := by
  refine ⟨fun path refused => ?_, fun accepted => respond_of_accepted accepted disk now fresh⟩
  have closed : IsClosed request := fun mem => path (List.mem_singleton.mp mem)
  have here := respond_of_refused enabled closed refused disk now fresh
  have there := respond_of_refused (users ▸ enabled) closed (users ▸ refused) otherDisk now fresh
  intro response
  refine ⟨?_, ?_, (one.limit.acquire now).2, rfl, limit ▸ rfl⟩
  · rw [← users, ← limit] at there
    exact here.trans there.symm
  · simp only [response, here, refusal]
    cases (one.limit.acquire now).1 with
    | false => exact .inr (.inl ⟨_, rfl, rfl⟩)
    | true =>
      cases verdict one.users request with
      | error crash => exact .inr (.inr ⟨crash, rfl⟩)
      | ok _ => exact .inl ⟨_, rfl, rfl, rfl⟩

/-- A shop with one user and the catalog of some files. -/
def smallShop (files : List ContentFile) : Shop where
  settings := .default
  scanner := .idle ⟨.root, ["l"]⟩ 30 (.initial (Catalog.ofFiles files))
  users := Register.ofList [("ann", "pw")]
  titles := .initial .default ⟨.root, ["d"]⟩
  limit := ⟨50, 2500, []⟩

theorem guard_separates_smallShop :
    let file : ContentFile := ⟨"a.nsp", "a.nsp", 10, none, none, .unknown⟩
    let stranger : Request := ⟨"GET", "/api/catalog", "", []⟩
    let member : Request := ⟨"GET", "/api/catalog", "", [("authorization", "Basic YW5uOnB3")]⟩
    (smallShop []).users = (smallShop [file]).users ∧ (smallShop []).users.isEnabled = true ∧
    (smallShop []).limit = (smallShop [file]).limit ∧ withoutAlias stranger.path ≠ "/health" ∧
    ¬ Accepted (smallShop []).users stranger ∧
    (respond (some (smallShop [])) ⟨.directory [], []⟩ 0 "id" stranger).1
      = (respond (some (smallShop [file])) ⟨.special, []⟩ 0 "id" stranger).1 ∧
    Accepted (smallShop []).users member ∧
    (respond (some (smallShop [])) ⟨.directory [], []⟩ 0 "id" member).1
      = (respond (some (smallShop []).opened) ⟨.directory [], []⟩ 0 "id" member).1 := by
  intro file stranger member
  have users : (smallShop []).users = (smallShop [file]).users := rfl
  have enabled : (smallShop []).users.isEnabled = true := rfl
  have limit : (smallShop []).limit = (smallShop [file]).limit := rfl
  have closed : withoutAlias stranger.path ≠ "/health" := by decide +kernel
  have refused : ¬ Accepted (smallShop []).users stranger := fun ⟨_, found, _⟩ => by cases found
  have accepted : Accepted (smallShop []).users member := ⟨⟨"ann", "pw"⟩, rfl, rfl⟩
  have hidden := (guard_separates users enabled limit ⟨.directory [], []⟩ ⟨.special, []⟩ 0 "id").1 closed
    refused
  have shown := (guard_separates users enabled limit ⟨.directory [], []⟩ ⟨.special, []⟩ 0 "id").2 accepted
  exact ⟨users, enabled, limit, closed, refused, hidden.1, accepted, shown⟩

end Gameshelf.Server
