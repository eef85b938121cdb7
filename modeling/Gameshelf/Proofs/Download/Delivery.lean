import Gameshelf.Proofs.Download.Answer

/-!
What arrives of a transfer. What remains to be sent and what lies ahead in the file shrink together, so what
the file lacks (`shortage`) is the same before every chunk. A transfer that is asked to its end therefore sends
all that was announced, or all that there is and then the news how much the file lacked (`missing_of_delivers`).
It never ends quietly short, also where the file has changed since the answer was made
(`whole_or_short`).
-/

namespace Gameshelf.Download

open Encoding

namespace Transfer

/-- **What the file lacks** for a transfer to be completed: what remains to be sent less what lies ahead. -/
def shortage (transfer : Transfer) : Int :=
  transfer.remaining - transfer.handle.ahead.length

/-- A chunk takes as much off what remains as off what lies ahead. -/
theorem shortage_advance (transfer : Transfer) : transfer.advance.shortage = transfer.shortage := by
  simp only [shortage, advance, List.length_take, List.length_drop]
  omega

/-- **Bytes are missing exactly if the file lacks some**, and as many. -/
theorem missing_of_delivers {transfer : Transfer} {chunks : List Bytes} {missing : Option Int}
    (delivers : transfer.Delivers chunks missing) (active : transfer.Active) :
    missing = if transfer.shortage ≤ 0 then none else some transfer.shortage := by
  induction delivers with
  | @finished transfer _ asked =>
    obtain ⟨done, _⟩ | ⟨_, _, _, other⟩ | ⟨_, _, other⟩ := next_cases active
    · have : transfer.shortage ≤ 0 := by
        unfold shortage
        omega
      rw [if_pos this]
    · cases asked.symm.trans other
    · cases asked.symm.trans other
  | @short transfer _ _ asked =>
    obtain ⟨_, _, other⟩ | ⟨left, ended, _, same⟩ | ⟨_, _, other⟩ := next_cases active
    · cases asked.symm.trans other
    · cases asked.symm.trans same
      have all : transfer.shortage = transfer.remaining := by simp [shortage, ended]
      rw [all, if_neg (Int.not_le.mpr left)]
    · cases asked.symm.trans other
  | @chunk transfer _ _ _ _ asked _ ih =>
    obtain ⟨_, _, other⟩ | ⟨_, _, _, other⟩ | ⟨_, _, same⟩ := next_cases active
    · cases asked.symm.trans other
    · cases asked.symm.trans other
    · cases asked.symm.trans same
      rw [ih (active_advance active), shortage_advance]

/-- One who stops early has got the first of the chunks that are delivered. -/
theorem chunks_take_of_delivers {transfer : Transfer} {chunks : List Bytes} {missing : Option Int}
    (delivers : transfer.Delivers chunks missing) (count : Nat) :
    (transfer.take count).chunks = chunks.take count := by
  induction delivers generalizing count with
  | finished asked => cases count <;> simp [take, asked]
  | short asked => cases count <;> simp [take, asked]
  | chunk asked _ ih =>
    cases count with
    | zero => rfl
    | succ count => simp [take, asked, ih]

/-- **A transfer yields a stretch** of so many bytes, in chunks of a size, from what lies ahead: one who asks to
its end gets exactly these bytes, or, where there are fewer, all that there are and then the message how many
are missing. The first chunks, as many as one may ask for, make up as much of it as they can hold. -/
def Yields (transfer : Transfer) (ahead : Bytes) (length size : Nat) : Prop :=
  ∃ chunks missing, transfer.Delivers chunks missing ∧
    (length ≤ ahead.length ∧ chunks.flatten = ahead.take length ∧ missing = none ∨
      ∃ lacking : Nat, 0 < lacking ∧ ahead.length + lacking = length ∧ chunks.flatten = ahead ∧
        missing.map shortMessage = some s!"unexpected end of file, {lacking} bytes short") ∧
    ∀ count, (transfer.take count).chunks = chunks.take count ∧
      (chunks.take count).flatten = ahead.take (min (count * size) (min length ahead.length))

/-- A transfer from a position of a file yields the stretch that begins there. -/
theorem yields_ofHandle (content : Bytes) (position length : Nat) {size : Nat} (sized : 0 < size) :
    (ofHandle (.openAt content position) length size).Yields (content.drop position) length size := by
  let transfer := ofHandle (.openAt content position) length size
  have active : transfer.Active := ⟨Phase.noConfusion, Int.natCast_pos.mpr sized⟩
  have delivers := delivers_drain active
  have lacks : transfer.shortage = (length : Int) - (content.drop position).length := rfl
  have begins := flatten_chunks_drain active
  refine ⟨_, _, delivers, ?_, fun count => ?_⟩
  · have missing := missing_of_delivers delivers active
    by_cases enough : length ≤ (content.drop position).length
    · rw [if_pos (by omega)] at missing
      exact .inl ⟨enough, begins, missing⟩
    · rw [if_neg (by omega)] at missing
      refine .inr ⟨length - (content.drop position).length, by omega, by omega, ?_, ?_⟩
      · rw [begins]
        exact List.take_of_length_le (Nat.le_of_not_le enough)
      · have counted : transfer.shortage = ((length - (content.drop position).length : Nat) : Int) := by
          omega
        rw [missing, counted]
        rfl
  · have first := chunks_take_of_delivers delivers count
    refine ⟨first, ?_⟩
    rw [← first, flatten_chunks_take active]
    have bound : (min ((count : Int) * size) length).toNat = min (count * size) length := by
      rw [← Int.natCast_mul]
      omega
    show (content.drop position).take (min ((count : Int) * size) length).toNat = _
    rw [bound, List.take_eq_take_iff]
    omega

end Transfer

/-- The same stretch of a file that holds something else by now. -/
def Extent.within (extent : Extent) (content : Bytes) : Extent :=
  { extent with content }

/-- An answer that sends something announces its length. -/
theorem announced_of_send {path : Path} {content : Bytes} {range : Option ByteRange}
    {obstacle : Option Obstacle} {response : Answer}
    (sent : send path content range true obstacle = .ok response) :
    ∃ extent, response.body = some extent ∧
      response.header? "Content-Length" = some (toString extent.length) := by
  unfold send at sent
  extract_lets mediaType answer at sent
  rw [if_neg (by decide)] at sent
  split at sent
  · cases sent
  · cases sent
  · cases sent
    exact ⟨_, rfl, rfl⟩
  · cases sent
    exact ⟨_, rfl, rfl⟩

theorem announced_of_answer {disk : Disk} {root : Path} {relative : String} {rangeHeader : Option String}
    {obstacle : Option Obstacle} {response : Answer}
    (answered : answer disk root relative rangeHeader true obstacle = .ok response)
    (serves : response.status = 200 ∨ response.status = 206) :
    ∃ extent, response.body = some extent ∧
      response.header? "Content-Length" = some (toString extent.length) := by
  unfold answer at answered
  extract_lets path at answered
  split at answered
  · cases answered
  · cases answered
  · cases answered
  · split at answered
    · exact announced_of_send answered
    · exact announced_of_send answered
    · cases answered
      rcases serves with status | status <;> cases status
    · cases answered
  · cases answered

/-- **A transfer is whole or says what it lacks.** Whatever file a transfer reads, from whatever position and in
chunks of whatever size, it yields the stretch that was asked for. So whatever has become of the file since a
request was answered with it, what is sent then is exactly as long as announced, or the transfer fails after
less. -/
theorem whole_or_short {size : Nat} (sized : 0 < size) (content : Bytes) (position length : Nat) :
    (Transfer.ofHandle (.openAt content position) length size).Yields (content.drop position) length size ∧
    ∀ (disk : Disk) (root : Path) (relative : String) (rangeHeader : Option String)
      (obstacle : Option Obstacle) (response : Answer),
      answer disk root relative rangeHeader true obstacle = .ok response →
      response.status = 200 ∨ response.status = 206 →
      ∃ extent, response.body = some extent ∧
        response.header? "Content-Length" = some (toString extent.length) ∧
        ∀ now : Bytes,
          (extent.within now).transfer.Yields (now.drop extent.first) extent.length chunkSize ∧
          ∃ chunks missing, (extent.within now).transfer.Delivers chunks missing ∧
            (missing = none ∧ chunks.flatten.length = extent.length ∨
              missing ≠ none ∧ chunks.flatten.length < extent.length) := by
  refine ⟨Transfer.yields_ofHandle content position length sized, ?_⟩
  intro disk root relative rangeHeader obstacle response answered serves
  obtain ⟨extent, body, announced⟩ := announced_of_answer answered serves
  refine ⟨extent, body, announced, fun now => ?_⟩
  have yields : (extent.within now).transfer.Yields (now.drop extent.first) extent.length chunkSize :=
    Transfer.yields_ofHandle now extent.first extent.length (by decide)
  have ⟨chunks, missing, delivers, outcome, _⟩ := yields
  refine ⟨yields, chunks, missing, delivers, ?_⟩
  rcases outcome with ⟨enough, bytes, nothing⟩ | ⟨lacking, some, total, bytes, message⟩
  · refine .inl ⟨nothing, ?_⟩
    rw [bytes, List.length_take, Nat.min_eq_left enough]
  · refine .inr ⟨?_, ?_⟩
    · rintro rfl
      cases message
    · rw [bytes]
      omega

/-- Seven of ten bytes lie ahead of the third. A range of six bytes is answered, and by the time it is sent the
file holds four bytes. -/
theorem whole_or_short_tenBytes :
    (Transfer.ofHandle (.openAt [0, 1, 2, 3, 4, 5, 6, 7, 8, 9] 3) 10 4).Yields [3, 4, 5, 6, 7, 8, 9] 10 4 ∧
    ∃ response, answer tenBytes ⟨.root, ["l"]⟩ "a" (some "bytes=2-7") true none = .ok response ∧
      response.status = 206 ∧ response.header? "Content-Length" = some "6" ∧
      ∃ extent, response.body = some extent ∧
        (extent.within [0, 1, 2, 3]).transfer.Yields [2, 3] 6 chunkSize := by
  have sized : 0 < 4 := by decide
  obtain ⟨yields, serves⟩ := whole_or_short sized [0, 1, 2, 3, 4, 5, 6, 7, 8, 9] 3 10
  let media := mediaType (toString ((⟨.root, ["l"]⟩ : Path) / "a"))
  let response : Answer :=
    ⟨206, headersOf media 10 (some ⟨2, 7, by decide⟩), some media,
      some ⟨[0, 1, 2, 3, 4, 5, 6, 7, 8, 9], 2, 6⟩⟩
  have answered : answer tenBytes ⟨.root, ["l"]⟩ "a" (some "bytes=2-7") true none = .ok response := rfl
  obtain ⟨extent, body, announced, later⟩ := serves _ _ _ _ _ response answered (.inr rfl)
  cases body
  exact ⟨yields, response, answered, rfl, announced, _, rfl, (later _).1⟩

end Gameshelf.Download
