import Gameshelf.Proofs.Access.Credentials
import Gameshelf.Proofs.Server.Guard

/-!
Requests whose credentials cannot be decoded, to a shop with users and for a closed path. Within the budget
such a request is refused and asked for credentials, unless a character outside ASCII stands where a token
should: that request crashes (`undecodable_refused`).
-/

namespace Gameshelf.Server

open Credentials

/-- **Nothing that a request brings is decoded to credentials.** -/
def Undecodable (request : Request) : Prop :=
  ∀ credentials, ofHeader (request.header? "authorization") ≠ .ok (some credentials)

/-- **A request brings a word outside ASCII** where a token should be. -/
def BringsForeign (request : Request) : Prop :=
  ∃ text ∈ request.header? "authorization", CarriesForeign text

variable {request : Request}

/-- What is not decoded is not accepted. -/
theorem Undecodable.refused (undecodable : Undecodable request) (users : Users) : ¬Accepted users request :=
  fun ⟨credentials, decoded, _⟩ => undecodable credentials decoded

/-- What is not decoded is refused by all users, or crashes. -/
theorem Undecodable.verdict (undecodable : Undecodable request) (users : Users) :
    (¬BringsForeign request ∧ verdict users request = .ok false) ∨
      BringsForeign request ∧ verdict users request = .error .tokenNotAscii := by
  unfold Server.verdict
  cases decoded : ofHeader (request.header? "authorization") with
  | error crash =>
    obtain ⟨rfl, foreign⟩ := ofHeader_eq_error_iff.mp decoded
    exact .inr ⟨foreign, rfl⟩
  | ok found =>
    cases found with
    | some credentials => exact absurd decoded (undecodable credentials)
    | none => exact .inl ⟨ofHeader_returns_iff.mp ⟨none, decoded⟩, rfl⟩

/-- **Reading a header fails for a word outside ASCII alone.** Every other header gives credentials or none, so that a
shop with users asks for credentials whenever those of a request for a closed path cannot be decoded and the budget is
not spent; with such a word the request crashes. -/
theorem undecodable_refused (disk : Disk) (now : Int) (fresh : String) :
    (∀ header, (∃ found, ofHeader header = .ok found) ↔ ¬∃ text ∈ header, CarriesForeign text) ∧
    ∀ (shop : Shop) (request : Request), shop.users.isEnabled = true → IsClosed request → Undecodable request →
      let response := (respond (some shop) disk now fresh request).1
      ((shop.limit.acquire now).1 = true → ¬BringsForeign request → ∃ asked, response = .ok asked ∧
        asked.status = 401 ∧ asked.headers.lookup "www-authenticate" = some "Basic realm=\"foilshop\"") ∧
      ((shop.limit.acquire now).1 = true → BringsForeign request → response = .error .tokenNotAscii) ∧
      ((shop.limit.acquire now).1 = false → ∃ spent, response = .ok spent ∧ spent.status = 429) := by
  refine ⟨fun header => ofHeader_returns_iff, fun shop request enabled closed undecodable => ?_⟩
  intro response
  have answered : response = _ :=
    respond_of_refused enabled closed (undecodable.refused shop.users) disk now fresh
  rw [answered, refusal]
  refine ⟨fun granted proper => ?_, fun granted foreign => ?_, fun spent => ?_⟩
  · rcases undecodable.verdict shop.users with ⟨_, judged⟩ | ⟨foreign, _⟩
    · rw [if_pos granted, judged]
      exact ⟨_, rfl, rfl, rfl⟩
    · exact absurd foreign proper
  · rcases undecodable.verdict shop.users with ⟨proper, _⟩ | ⟨_, judged⟩
    · exact absurd foreign proper
    · rw [if_pos granted, judged]
      rfl
  · rw [if_neg (Bool.eq_false_iff.mp spent)]
    exact ⟨_, rfl, rfl⟩

/-- A request for the catalog with credentials. -/
def catalogWith (authorization : String) : Request :=
  ⟨"GET", "/api/catalog", "", [("authorization", authorization)]⟩

/-- Two requests whose credentials cannot be decoded: one has no symbols of Base64 in them, and one has a letter
outside ASCII. -/
theorem undecodable_refused_smallShop :
    let garbled := catalogWith "Basic !!!"
    let accented := catalogWith "Basic é"
    let disk : Disk := ⟨.directory [], []⟩
    (smallShop []).users.isEnabled = true ∧ ((smallShop []).limit.acquire 0).1 = true ∧
    IsClosed garbled ∧ Undecodable garbled ∧ ¬BringsForeign garbled ∧
    (∃ asked, (respond (some (smallShop [])) disk 0 "id" garbled).1 = .ok asked ∧ asked.status = 401) ∧
    IsClosed accented ∧ Undecodable accented ∧ BringsForeign accented ∧
    (respond (some (smallShop [])) disk 0 "id" accented).1 = .error .tokenNotAscii := by
  intro garbled accented disk
  have enabled : (smallShop []).users.isEnabled = true := rfl
  have granted : ((smallShop []).limit.acquire 0).1 = true := by decide +kernel
  have path : withoutAlias "/api/catalog" ≠ "/health" := by decide +kernel
  have closed (authorization : String) : IsClosed (catalogWith authorization) := fun mem =>
    path (List.mem_singleton.mp mem)
  have nothing : ofHeader (garbled.header? "authorization") = .ok none := by decide +kernel
  have crashed : ofHeader (accented.header? "authorization") = .error .tokenNotAscii := by decide +kernel
  have garbledUnread : Undecodable garbled := fun _ decoded => by cases nothing.symm.trans decoded
  have accentedUnread : Undecodable accented := fun _ decoded => by cases crashed.symm.trans decoded
  have law := (undecodable_refused disk 0 "id").2 (smallShop [])
  have proper : ¬BringsForeign garbled := ofHeader_returns_iff.mp ⟨none, nothing⟩
  have foreign : BringsForeign accented := (ofHeader_eq_error_iff.mp crashed).2
  obtain ⟨asked, answered, status, _⟩ := (law garbled enabled (closed _) garbledUnread).1 granted proper
  exact ⟨enabled, granted, closed _, garbledUnread, proper, ⟨asked, answered, status⟩, closed _, accentedUnread,
    foreign, (law accented enabled (closed _) accentedUnread).2.1 granted foreign⟩

end Gameshelf.Server
