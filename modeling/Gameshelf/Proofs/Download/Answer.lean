import Gameshelf.Download.Answer
import Gameshelf.Proofs.Download.ByteRange
import Gameshelf.Proofs.Download.Transfer

/-!
Answers to download requests and what is sent with them. A request for a file that is there is answered
in one of three ways, by what its header asks for (`answer_three_ways`): with the whole file, with a
range of it, or with a refusal of the range. What is sent is what the answer announces.
-/

namespace Gameshelf.Download

open Encoding

namespace Answer

/-- The value of a header. -/
def header? (answer : Answer) (name : String) : Option String :=
  answer.headers.lookup name

/-- **What is sent with an answer**: the chunks that its transfer delivers to one who asks to its end,
none of the announced bytes missing. -/
def Sends (answer : Answer) (chunks : List Bytes) : Prop :=
  ∃ extent, answer.body = some extent ∧ extent.transfer.Delivers chunks none

/-- The lengths of chunks, added up. -/
def volume (chunks : List Bytes) : Nat :=
  chunks.foldr (fun chunk total => chunk.length + total) 0

theorem volume_eq (chunks : List Bytes) : volume chunks = chunks.flatten.length := by
  induction chunks with
  | nil => rfl
  | cons chunk rest ih => rw [List.flatten_cons, List.length_append, ← ih, volume, List.foldr_cons, volume]

/-- **An answer carries bytes**: the chunks that are sent with it make them up, their lengths add up to
the announced length, and each chunk has its share of them. -/
def Carries (answer : Answer) (bytes : Bytes) : Prop :=
  ∃ chunks, answer.Sends chunks ∧ chunks.flatten = bytes ∧
    answer.header? "Content-Length" = some (toString (volume chunks)) ∧
    ∀ chunk ∈ chunks, chunk ≠ [] ∧ chunk.length ≤ 65536

end Answer

/-- The stretch of a file delivers its bytes. -/
theorem Extent.delivers {content : Bytes} {first length : Nat} (inside : first + length ≤ content.length) :
    ∃ chunks, (Extent.mk content first length).transfer.Delivers chunks none ∧
      chunks.flatten = (content.drop first).take length ∧
      ∀ chunk ∈ chunks, chunk ≠ [] ∧ chunk.length ≤ 65536 := by
  let sent := (Extent.mk content first length).transfer
  have active : sent.Active := ⟨Phase.noConfusion, (by decide : (0 : Int) < (chunkSize : Int))⟩
  have enough : sent.remaining ≤ sent.handle.ahead.length := by
    simp only [sent, transfer, Transfer.ofHandle, Handle.openAt, List.length_drop]
    omega
  refine ⟨sent.drain.chunks, ?_, ?_, fun chunk mem => ?_⟩
  · have nothing : sent.drain.missing = none := Transfer.missing_take active enough
    exact nothing ▸ Transfer.delivers_drain active
  · exact Transfer.flatten_chunks_drain active
  · obtain ⟨filled, within⟩ := Transfer.length_chunk active mem
    exact ⟨filled, Int.ofNat_le.mp within⟩

/-- An answer that announces the length of its stretch carries it. -/
theorem Answer.carries_of_body {answer : Answer} {content bytes : Bytes} {first length : Nat}
    (body : answer.body = some ⟨content, first, length⟩) (inside : first + length ≤ content.length)
    (announced : answer.header? "Content-Length" = some (toString length))
    (stretch : (content.drop first).take length = bytes) : answer.Carries bytes := by
  subst stretch
  obtain ⟨chunks, delivers, whole, shares⟩ := Extent.delivers inside
  have lengths : volume chunks = length := by
    rw [volume_eq, whole, List.length_take, List.length_drop]
    omega
  exact ⟨chunks, ⟨_, body, delivers⟩, whole, by rw [lengths, announced], shares⟩

/-- Without a header the whole file is sent. -/
theorem answer_whole {disk : Disk} {root : Path} {relative : String} {content : Bytes}
    (found : disk.find (root / relative) = .ok (.file content)) :
    ∃ response, answer disk root relative none true none = .ok response ∧
      response.status = 200 ∧
      response.header? "Content-Length" = some (toString content.length) ∧
      response.header? "Content-Range" = none ∧
      response.Carries content := by
  unfold answer
  simp only [found]
  refine ⟨⟨200, headersOf _ _ none, _, some ⟨content, 0, content.length⟩⟩, rfl, rfl, rfl, rfl, ?_⟩
  exact Answer.carries_of_body rfl (Nat.le_of_eq (Nat.zero_add _)) rfl
    (by rw [List.drop_zero, List.take_length])

/-- **The three ways to answer a request for a file.** Without a header the whole file is sent, with a
header that names a range that range, and with any other header nothing but the size of the file. -/
theorem answer_three_ways {disk : Disk} {root : Path} {relative : String} {content : Bytes}
    {rangeHeader : Option String} (found : disk.find (root / relative) = .ok (.file content))
    (readable : ∀ header, rangeHeader = some header → Numeral.Readable header.toList) :
    ∃ response, answer disk root relative rangeHeader true none = .ok response ∧
      match rangeHeader.map fun header => ByteRange.ofHeader header content.length with
      | none =>
        response.status = 200 ∧
        response.header? "Content-Length" = some (toString content.length) ∧
        response.header? "Content-Range" = none ∧
        response.Carries content
      | some (.ok range) =>
        response.status = 206 ∧
        response.header? "Content-Length" = some (toString (range.last - range.first + 1)) ∧
        response.header? "Content-Range"
          = some s!"bytes {range.first}-{range.last}/{content.length}" ∧
        range.last < content.length ∧
        response.Carries ((content.drop range.first).take (range.last - range.first + 1))
      | some (.error _) =>
        response.status = 416 ∧
        response.headers = [("Content-Range", s!"bytes */{content.length}")] ∧
        response.body = none := by
  cases rangeHeader with
  | none => exact answer_whole found
  | some header =>
    unfold answer
    simp only [found, Option.map_some]
    cases asked : ByteRange.ofHeader header content.length with
    | ok range =>
      have inside := ByteRange.last_lt_of_ofHeader asked
      have ordered := range.first_le_last
      have within : range.first + range.length ≤ content.length := by
        unfold ByteRange.length
        omega
      exact ⟨_, rfl, rfl, rfl, rfl, inside, Answer.carries_of_body rfl within rfl rfl⟩
    | error refusal =>
      cases refusal with
      | notSatisfiable => exact ⟨_, rfl, rfl, rfl, rfl⟩
      | oversizedNumeral =>
        exact absurd asked (ByteRange.ofHeader_ne_oversized (readable header rfl) _)

/-- A disk with a directory `l`, and in it a file `a` of ten bytes. -/
def tenBytes : Disk :=
  ⟨.directory [(⟨[0x6C]⟩, .directory [(⟨[0x61]⟩, .file [0, 1, 2, 3, 4, 5, 6, 7, 8, 9])])], []⟩

theorem answer_three_ways_tenBytes :
    tenBytes.find ((⟨.root, ["l"]⟩ : Path) / "a") = .ok (.file [0, 1, 2, 3, 4, 5, 6, 7, 8, 9]) ∧
    Numeral.Readable "bytes=1-3".toList ∧
    ∃ response, answer tenBytes ⟨.root, ["l"]⟩ "a" (some "bytes=1-3") true none = .ok response ∧
      response.status = 206 ∧ response.header? "Content-Length" = some "3" ∧
      response.header? "Content-Range" = some "bytes 1-3/10" ∧ response.Carries [1, 2, 3] := by
  have found : tenBytes.find ((⟨.root, ["l"]⟩ : Path) / "a")
      = .ok (.file [0, 1, 2, 3, 4, 5, 6, 7, 8, 9]) := rfl
  have short : Numeral.Readable "bytes=1-3".toList := Numeral.readable_of_length_le (by decide)
  have readable : ∀ header, some "bytes=1-3" = some header → Numeral.Readable header.toList :=
    fun _ same => Option.some.inj same ▸ short
  obtain ⟨response, answered, status, length, range, _, carries⟩ := answer_three_ways found readable
  exact ⟨found, short, response, answered, status, length, range, carries⟩

end Gameshelf.Download
