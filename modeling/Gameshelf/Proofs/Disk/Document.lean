import Gameshelf.Disk.Document
import Gameshelf.Proofs.Disk.Refusal
import Gameshelf.Proofs.Encoding.Utf8
import Gameshelf.Proofs.Json.RoundTrip

/-!
Documents on the disk. What a value is written as is read as that value (`Disk.readDocument_write`). A document
breaks the program that reads it if its path cannot be named, its bytes are those of no text, or the text breaks the
reader (`Disk.DocumentBreaks`); every other one is read, or it is reported why not
(`Disk.crashes_readDocument_iff`).
-/

namespace Gameshelf.Disk

open Text Encoding

variable {disk : Disk} {path : Path}

/-- **A document breaks the program**: no bytes stand for its path, or a NUL is among them; or its content is that
of no text, or of one that breaks the reader. -/
def DocumentBreaks [Stack] (disk : Disk) (path : Path) : Prop :=
  ¬path.Nameable ∨ ∃ bytes, disk.contentOf path = .ok bytes ∧
    ((∀ text, encodeUtf8 text ≠ bytes) ∨ ∃ text, encodeUtf8 text = bytes ∧ Json.Breaks text)

/-- What cannot be named is never looked up. -/
theorem contentOf_of_not_nameable (disk : Disk) (unnamed : ¬path.Nameable) :
    ∃ fault, disk.contentOf path = .error fault ∧ ∀ refusal, fault ≠ .refused refusal := by
  have failed {fault : Fault} (unwritten : bytesOf path = .error fault) : disk.contentOf path = .error fault := by
    simp only [contentOf, find, locate, unwritten, error_bind]
  cases written : bytesOf path with
  | ok bytes => exact absurd ⟨bytes, bytesOf_eq_ok.mp written⟩ unnamed
  | error fault =>
    exact ⟨fault, failed written, fun refusal refused => bytesOf_ne_refused refusal (refused ▸ written)⟩

/-- The content at a path that can be named is refused at most. -/
theorem refused_of_contentOf {fault : Fault} (nameable : path.Nameable)
    (failed : disk.contentOf path = .error fault) : ∃ refusal, fault = .refused refusal := by
  unfold contentOf at failed
  rcases bind_eq_error.mp failed with lost | ⟨node, -, unread⟩
  · exact refused_of_find nameable lost
  · cases node with
    | directory =>
      cases unread
      exact ⟨_, rfl⟩
    | file | link | special => cases unread

/-- A document is read as its text is. -/
theorem readDocument_of_text [Stack] {text : List Char} (content : disk.contentOf path = .ok (encodeUtf8 text)) :
    disk.readDocument path = match Json.read text with
      | .ok value => .ok value
      | .error .malformed => report .malformed
      | .error .oversizedNumeral => .error (.crash .oversizedNumeral)
      | .error (.tooDeep bracket) => .error (.crash (.tooDeep bracket)) := by
  rcases read : Json.read text with (_ | _ | bracket) | value <;>
    simp only [readDocument, content, decodeUtf8?_encodeUtf8, read]

/-- **A value that is made of text is read from the file that it is written to**, in either style. -/
theorem readDocument_write [Stack] (style : Json.Style) {value : Json} (textual : Json.Textual Stack.brackets value)
    (content : disk.contentOf path = .ok (encodeUtf8 (Json.write style 0 value))) :
    disk.readDocument path = .ok value := by
  rw [readDocument_of_text content, Json.read_write style textual]

/-- A text is read as a document with a crash exactly if it breaks the reader. -/
theorem crashes_readDocument_text_iff [Stack] {text : List Char}
    (content : disk.contentOf path = .ok (encodeUtf8 text)) :
    Crashes (disk.readDocument path) ↔ Json.Breaks text := by
  rw [readDocument_of_text content, Json.Breaks, Crashes]
  rcases Json.read text with (_ | _ | bracket) | value <;> simp [report]

/-- Bytes are read as a document with a crash exactly if they are those of no text, or of one that breaks the
reader. -/
theorem crashes_readDocument_bytes_iff [Stack] {bytes : Bytes} (content : disk.contentOf path = .ok bytes) :
    Crashes (disk.readDocument path) ↔
      (∀ text, encodeUtf8 text ≠ bytes) ∨ ∃ text, encodeUtf8 text = bytes ∧ Json.Breaks text := by
  cases decoded : decodeUtf8? bytes with
  | none =>
    refine iff_of_true ⟨.notUtf8, by simp only [readDocument, content, decoded]⟩ (.inl ?_)
    rintro text rfl
    rw [decodeUtf8?_encodeUtf8] at decoded
    cases decoded
  | some text =>
    obtain rfl := decodeUtf8?_eq_some_iff.mp decoded
    rw [crashes_readDocument_text_iff content]
    constructor
    · exact fun breaks => .inr ⟨text, rfl, breaks⟩
    · rintro (other | ⟨own, again, breaks⟩)
      · exact absurd rfl (other text)
      · exact encodeUtf8_injective again ▸ breaks

/-- **Reading a document crashes exactly where it breaks the program.** -/
theorem crashes_readDocument_iff [Stack] : Crashes (disk.readDocument path) ↔ disk.DocumentBreaks path := by
  by_cases nameable : path.Nameable
  · rw [DocumentBreaks, or_iff_right (not_not_intro nameable)]
    cases content : disk.contentOf path with
    | error fault =>
      obtain ⟨refusal, rfl⟩ := refused_of_contentOf nameable content
      have reported : disk.readDocument path = report (.unreadable refusal) := by
        simp only [readDocument, content]
      rw [reported]
      refine iff_of_false (not_crashes_report _) ?_
      rintro ⟨bytes, found, -⟩
      cases found
    | ok bytes =>
      rw [crashes_readDocument_bytes_iff content]
      simp only [Except.ok.injEq, exists_eq_left']
  · obtain ⟨fault, content, unrefused⟩ := contentOf_of_not_nameable disk nameable
    refine iff_of_true ?_ (.inl nameable)
    cases fault with
    | refused refusal => exact absurd rfl (unrefused refusal)
    | embeddedNul => exact ⟨.embeddedNul, by simp only [readDocument, content]⟩
    | unencodable => exact ⟨.unencodable, by simp only [readDocument, content]⟩

end Gameshelf.Disk
