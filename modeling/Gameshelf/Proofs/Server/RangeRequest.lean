import Gameshelf.Proofs.Download.Answer
import Gameshelf.Proofs.Download.RangeHeader
import Gameshelf.Proofs.Server.Guard

/-!
Requests with a range header for a file that is there. Whatever the header says, the answer is a range of the
file or the refusal of the range, with one exception: a numeral that has more digits than may be read crashes
the request (`ranged_request`). A header whose numerals are all short enough is never the exception, and
neither is any header of an empty file.
-/

namespace Gameshelf.Download

open ByteRange

variable {disk : Disk} {root : Path} {relative header : String} {content : Encoding.Bytes}

/-- With a range header a file that is there is answered of as the header is read. -/
theorem answer_ranged (found : disk.find (root / relative) = .ok (.file content)) (withBody : Bool) :
    answer disk root relative (some header) withBody none
      = match ByteRange.ofHeader header content.length with
        | .ok range => send (root / relative) content (some range) withBody none
        | .error .notSatisfiable => .ok (unsatisfied content.length)
        | .error .oversizedNumeral => .error (.crash .oversizedNumeral) := by
  unfold answer
  simp only [found, Option.map_some]
  generalize ofHeader header content.length = read
  obtain (_ | _) | range := read <;> rfl

/-- Unless a numeral is too long, the answer is a range of the file or the refusal of the range. -/
theorem status_ranged (found : disk.find (root / relative) = .ok (.file content))
    (short : ofHeader header content.length ≠ .error .oversizedNumeral) (withBody : Bool) :
    ∃ response, answer disk root relative (some header) withBody none = .ok response ∧
      (response.status = 206 ∨ response.status = 416) := by
  rw [answer_ranged found]
  cases read : ofHeader header content.length with
  | ok range => cases withBody <;> exact ⟨_, rfl, .inl rfl⟩
  | error refusal =>
    cases refusal with
    | notSatisfiable => exact ⟨_, rfl, .inr rfl⟩
    | oversizedNumeral => exact absurd read short

end Gameshelf.Download

namespace Gameshelf.Server

open Download ByteRange

/-- A download keeps its status as a response. -/
theorem status_ofDownload (answer : Answer) : (ofDownload answer).status = answer.status := by
  unfold ofDownload
  split
  · next refused => exact refused.symm
  · split <;> rfl

variable {shop : Shop} {disk : Disk} {request : Request} {path header : String} {content : Encoding.Bytes}

/-- A request for a file is answered as the download is, and crashes where it crashes. -/
theorem answerFile_ranged (asked : request.header? "range" = some header) :
    answerFile (some shop) disk request path
      = match Download.answer disk shop.root path (some header) (request.method != "HEAD") none with
        | .ok answer => .ok (ofDownload answer)
        | .error (.reported error) => .ok (.failure error.status error.message [])
        | .error (.crash crash) => .error crash := by
  unfold answerFile
  simp only [openShop_some, ok_bind, asked]
  generalize Download.answer disk shop.root path (some header) (request.method != "HEAD") none = outcome
  obtain (_ | _) | _ := outcome <;> rfl

/-- **What a range header can do to a request** for a file that is there. If a numeral in the header is too
long, the header is in order up to it and the file is not empty, the request crashes. In every other case the
header is refused only as not satisfiable, if at all, and the file is answered of with a range or with the
refusal of the range. -/
theorem ranged_request (found : disk.find (shop.root / path) = .ok (.file content))
    (asked : request.header? "range" = some header) :
    (0 < content.length ∧ Oversized header →
      ofHeader header content.length = .error .oversizedNumeral ∧
      (∀ withBody, Download.answer disk shop.root path (some header) withBody none
        = .error (.crash .oversizedNumeral)) ∧
      answerFile (some shop) disk request path = .error .oversizedNumeral) ∧
    (¬(0 < content.length ∧ Oversized header) →
      ((∃ range, ofHeader header content.length = .ok range) ∨
        ofHeader header content.length = .error .notSatisfiable) ∧
      (∀ withBody, ∃ sent, Download.answer disk shop.root path (some header) withBody none = .ok sent ∧
        (sent.status = 206 ∨ sent.status = 416)) ∧
      ∃ response, answerFile (some shop) disk request path = .ok response ∧
        (response.status = 206 ∨ response.status = 416)) := by
  constructor
  · intro long
    have read := ofHeader_eq_oversized_iff.mpr long
    have answered (withBody : Bool) : Download.answer disk shop.root path (some header) withBody none
        = .error (.crash .oversizedNumeral) := by
      rw [answer_ranged found, read]
    refine ⟨read, answered, ?_⟩
    rw [answerFile_ranged asked, answered]
  · intro short
    have read : ofHeader header content.length ≠ .error .oversizedNumeral :=
      fun long => short (ofHeader_eq_oversized_iff.mp long)
    refine ⟨?_, status_ranged found read, ?_⟩
    · cases outcome : ofHeader header content.length with
      | ok range => exact .inl ⟨range, rfl⟩
      | error refusal =>
        cases refusal with
        | notSatisfiable => exact .inr rfl
        | oversizedNumeral => exact absurd outcome read
    · obtain ⟨sent, answered, status⟩ := status_ranged found read (request.method != "HEAD")
      rw [answerFile_ranged asked, answered]
      exact ⟨ofDownload sent, rfl, by rwa [status_ofDownload]⟩

/-- A header that asks for the bytes from a position with 4301 digits on. -/
def longHeader : String :=
  "bytes=" ++ String.ofList (List.replicate 4301 '9') ++ "-"

theorem oversized_longHeader : Oversized longHeader := by
  have digits : ∀ c ∈ List.replicate 4301 '9', Text.isDigit c = true := by
    intro c mem
    rw [List.eq_of_mem_replicate mem]
    decide
  have whole : longHeader.toList = "bytes=".toList ++ (List.replicate 4301 '9' ++ '-' :: []) := by
    simp [longHeader, -List.reduceReplicate]
  have numeral : IsNumeral (List.replicate 4301 '9') := by
    refine ⟨fun none => ?_, digits⟩
    have empty := congrArg List.length none
    rw [List.length_replicate] at empty
    cases empty
  have long : Numeral.digitLimit < (List.replicate 4301 '9').length := by
    rw [List.length_replicate]
    decide
  exact ⟨_, [], spells_of_digits digits nofun whole, .inl ⟨numeral, long⟩⟩

/-- A file of ten bytes, asked for in three ways. -/
theorem ranged_request_tenBytes :
    tenBytes.find ((smallShop []).root / "a") = .ok (.file [0, 1, 2, 3, 4, 5, 6, 7, 8, 9]) ∧
    answerFile (some (smallShop [])) tenBytes ⟨"GET", "/download/a", "", [("range", longHeader)]⟩ "a"
      = .error .oversizedNumeral ∧
    ∀ header ∈ ["bytes=1-3", "bytes=9-1"],
      ∃ response, answerFile (some (smallShop [])) tenBytes
        ⟨"GET", "/download/a", "", [("range", header)]⟩ "a" = .ok response ∧
        (response.status = 206 ∨ response.status = 416) := by
  have found : tenBytes.find ((smallShop []).root / "a") = .ok (.file [0, 1, 2, 3, 4, 5, 6, 7, 8, 9]) := rfl
  let asking (header : String) : Request := ⟨"GET", "/download/a", "", [("range", header)]⟩
  have asked (header : String) : (asking header).header? "range" = some header := rfl
  refine ⟨found, ?_, ?_⟩
  · exact ((ranged_request found (asked longHeader)).1 ⟨by decide, oversized_longHeader⟩).2.2
  · intro header mem
    have short : ¬(0 < [0, 1, 2, 3, 4, 5, 6, 7, 8, (9 : UInt8)].length ∧ Oversized header) := by
      intro long
      have refused := ofHeader_eq_oversized_iff.mpr long
      rcases List.mem_cons.mp mem with rfl | mem
      · cases refused
      · cases List.mem_singleton.mp mem
        cases refused
    exact ((ranged_request found (asked header)).2 short).2.2

end Gameshelf.Server
