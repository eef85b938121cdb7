import Gameshelf.Proofs.Titles.Directory
import Gameshelf.Proofs.Titles.Merging

/-!
Sources of titles and the bytes that they reply with. A reply that cannot be read is an error of its source, and
the other sources count as if it had not been asked, but for the replies that no source expects (`Breaks`): a
request that breaks off after it was sent, or that its address does not allow; bytes that are not text, numerals
with too many digits, brackets that lie too deep. Such a reply ends the refresh and takes with it what the other
sources gave (`refreshFrom_answered`).
-/

namespace Gameshelf.Titles

open Text

section Replies

/-- **Bytes break the reader**: they are no text in the encoding that they show, or their text breaks the reader of
JSON. -/
def BytesBreak [Stack] (bytes : Encoding.Bytes) : Prop :=
  Encoding.decodeDetected? bytes = none ∨
    ∃ marks, Encoding.decodeDetected? bytes = some marks ∧ Json.Breaks (Json.spell marks)

/-- **A reply breaks the asking**: the address is none to ask for, or the request breaks off in a way that no source
expects, or the bytes of the document break the reader. -/
inductive Breaks [Stack] (address : LooseText) (reply : Reply) : Prop
  | address (unknown : Address.isKnown address.shown = false)
  | request {breakdown : Breakdown} (broken : reply = .broken breakdown)
  | document {bytes : Encoding.Bytes} (came : reply = .document bytes) (breaks : BytesBreak bytes)

/-- A document that comes breaks the reader exactly if its bytes do. -/
theorem decodeReply_document_crash_iff [Stack] {address : LooseText} (known : Address.isKnown address.shown = true)
    {bytes : Encoding.Bytes} :
    (∃ crash, decodeReply address (.document bytes) = .error (.crash crash)) ↔ BytesBreak bytes := by
  cases decoded : Encoding.decodeDetected? bytes with
  | none =>
    refine iff_of_true ⟨.notUtf8, ?_⟩ (.inl decoded)
    simp only [decodeReply, known, decoded, Bool.not_true, Bool.false_eq_true, if_false]
  | some marks =>
    have breaks : BytesBreak bytes ↔ Json.Breaks (Json.spell marks) := by
      rw [BytesBreak, decoded]
      constructor
      · rintro (none | ⟨own, same, broken⟩)
        · cases none
        · cases same
          exact broken
      · intro broken
        exact .inr ⟨marks, rfl, broken⟩
    rw [breaks, Json.Breaks]
    rcases read : Json.read (Json.spell marks) with (_ | _ | bracket) | value <;>
      simp [decodeReply, known, decoded, read, report]

/-- **A reply crashes the asking** exactly if it breaks it. -/
theorem decodeReply_crash_iff [Stack] {address : LooseText} {reply : Reply} :
    (∃ crash, decodeReply address reply = .error (.crash crash)) ↔ Breaks address reply := by
  cases known : Address.isKnown address.shown with
  | false =>
    refine iff_of_true ⟨.unknownAddress, ?_⟩ (.address known)
    simp only [decodeReply, known, Bool.not_false, if_true]
  | true =>
    have asked {other : Reply} (breaks : Breaks address other) :
        (∃ breakdown, other = .broken breakdown) ∨ ∃ bytes, other = .document bytes ∧ BytesBreak bytes := by
      rcases breaks with unknown | broken | ⟨came, breaks⟩
      · cases known.symm.trans unknown
      · exact .inl ⟨_, broken⟩
      · exact .inr ⟨_, came, breaks⟩
    cases reply with
    | document bytes =>
      rw [decodeReply_document_crash_iff known]
      refine ⟨.document rfl, fun breaks => ?_⟩
      rcases asked breaks with ⟨_, broken⟩ | ⟨_, came, breaks⟩
      · cases broken
      · cases came
        exact breaks
    | broken breakdown =>
      refine iff_of_true ⟨.unexpected breakdown.message, ?_⟩ (.request rfl)
      simp only [decodeReply, known, Bool.not_true, Bool.false_eq_true, if_false]
    | failed | declined =>
      refine iff_of_false ?_ fun breaks => ?_
      · simp only [decodeReply, known, Bool.not_true, Bool.false_eq_true, if_false]
        exact nofun
      · rcases asked breaks with ⟨_, broken⟩ | ⟨_, came, _⟩
        · cases broken
        · cases came

end Replies

namespace Directory

variable {directory : Directory} {disk : Disk} {sources : List Asked}

/-- The sources, each with what it replies when it is asked. -/
def answered [Stack] (directory : Directory) (replies : Nat → Reply) : List Asked :=
  directory.sources.mapIdx fun i source => ⟨source.2, decodeReply source.2 (replies i)⟩

section Asking

/-- **The first source that crashes ends the asking.** -/
theorem askAll_of_crash {before after : List Asked} {source : Asked} {crash : Crash}
    (answers : ∀ source ∈ before, ∀ crash, source.brought ≠ .error (.crash crash))
    (crashed : source.brought = .error (.crash crash)) :
    askAll (before ++ source :: after) = ((before ++ [source]).map Asked.address, .error crash) := by
  induction before with
  | nil =>
    have titles : source.titles = .error (.crash crash) := by
      rw [Asked.titles, crashed]
      rfl
    simp only [List.nil_append, askAll, titles, List.map_cons, List.map_nil]
  | cons first rest ih =>
    obtain ⟨answer, others⟩ := List.forall_mem_cons.mp answers
    rw [List.cons_append, askAll, ih others]
    cases given : first.titles with
    | ok titles => rfl
    | error failure =>
      cases failure with
      | crash other => exact absurd given (titles_ne_crash answer other)
      | reported error => rfl

/-- Sources answer or fail as sources do, or one of them is the first that crashes. -/
theorem answers_or_crash (sources : List Asked) :
    (∀ source ∈ sources, ∀ crash, source.brought ≠ .error (.crash crash)) ∨
    ∃ before source after crash, sources = before ++ source :: after ∧
      (∀ source ∈ before, ∀ crash, source.brought ≠ .error (.crash crash)) ∧
      source.brought = .error (.crash crash) := by
  induction sources with
  | nil => exact .inl nofun
  | cons first rest ih =>
    by_cases crashed : ∃ crash, first.brought = .error (.crash crash)
    · obtain ⟨crash, crashed⟩ := crashed
      exact .inr ⟨[], first, rest, crash, rfl, nofun, crashed⟩
    · simp only [not_exists] at crashed
      rcases ih with answers | ⟨before, source, after, crash, rfl, answers, last⟩
      · exact .inl (List.forall_mem_cons.mpr ⟨crashed, answers⟩)
      · exact .inr ⟨first :: before, source, after, crash, rfl, List.forall_mem_cons.mpr ⟨crashed, answers⟩, last⟩

/-- A crash while sources are asked leaves everything as it was. -/
theorem refreshFrom_of_crash [Stack] (enabled : directory.config.enabled = true) {crash : Crash}
    (crashed : (askAll sources).2 = .error crash) (now : Nat) :
    directory.refreshFrom disk sources now = ⟨directory, disk, (askAll sources).1, .error crash⟩ := by
  unfold refreshFrom
  simp only [enabled, crashed, Bool.not_true, Bool.false_eq_true, if_false]

/-- Saving is no matter where the path of the cache can be named. -/
theorem save_of_nameable (legal : ∀ name ∈ disk.here, name.IsLegal) (nameable : directory.cachePath.Nameable) :
    (directory.save disk).1 = .ok () := by
  have refused := (refusedAtMost_saveCache directory.titles legal nameable disk rfl).2
  unfold save
  rcases made : (saveCache directory.cachePath directory.titles).make disk with ⟨fault | _, after⟩
  · rw [made] at refused
    obtain ⟨refusal, rfl⟩ := refused fault rfl
    rfl
  · rfl

/-- The titles of every source that gives any are among those obtained. -/
theorem isSome_get?_obtained {source : Asked} (asked : source ∈ sources) {titles : List (LooseText × Info)}
    (gives : source.titles = .ok titles) {title : LooseText × Info} (mem : title ∈ titles) :
    ((obtained sources).get? title.1).isSome = true := by
  have listed : titles ∈ sources.filterMap fun source => source.titles.toOption :=
    List.mem_filterMap.mpr ⟨source, asked, by rw [gives]; rfl⟩
  have own : title ∈ (sources.filterMap fun source => source.titles.toOption).flatten :=
    List.mem_flatten.mpr ⟨titles, listed, mem⟩
  rw [obtained, isSome_get?_merge, Bool.not_eq_true', List.isEmpty_eq_false_iff]
  exact List.ne_nil_of_mem (List.mem_map.mpr ⟨title, List.mem_filter.mpr ⟨own, beq_self_eq_true _⟩, rfl⟩)

end Asking

section Answered

/-- **Some reply breaks the reader.** -/
def Broken [Stack] (directory : Directory) (replies : Nat → Reply) : Prop :=
  ∃ i source, directory.sources[i]? = some source ∧ Breaks source.2 (replies i)

/-- What is asked of the sources is what each of them replies. -/
theorem mem_answered [Stack] {replies : Nat → Reply} {asked : Asked} :
    asked ∈ directory.answered replies ↔
      ∃ i source, directory.sources[i]? = some source ∧ asked = ⟨source.2, decodeReply source.2 (replies i)⟩ := by
  unfold answered
  rw [List.mem_iff_getElem?]
  refine exists_congr fun i => ?_
  rw [List.getElem?_mapIdx, Option.map_eq_some_iff]
  exact exists_congr fun source => and_congr_right fun _ => eq_comm

theorem mem_answered_of_source [Stack] {replies : Nat → Reply} {i : Nat} {source : String × LooseText}
    (listed : directory.sources[i]? = some source) :
    Asked.mk source.2 (decodeReply source.2 (replies i)) ∈ directory.answered replies :=
  mem_answered.mpr ⟨i, source, listed, rfl⟩

/-- Some reply breaks the reader where some source crashes. -/
theorem broken_iff [Stack] {replies : Nat → Reply} :
    directory.Broken replies ↔
      ∃ asked ∈ directory.answered replies, ∃ crash, asked.brought = .error (.crash crash) := by
  constructor
  · rintro ⟨i, source, listed, broke⟩
    obtain ⟨crash, crashed⟩ := decodeReply_crash_iff.mpr broke
    refine ⟨_, mem_answered_of_source listed, crash, ?_⟩
    dsimp only
    exact crashed
  · rintro ⟨asked, mem, crash, crashed⟩
    obtain ⟨i, source, listed, rfl⟩ := mem_answered.mp mem
    dsimp only at crashed
    exact ⟨i, source, listed, decodeReply_crash_iff.mp ⟨crash, crashed⟩⟩

instance (asked : Asked) : Decidable (∃ crash, asked.brought = .error (.crash crash)) :=
  match asked.brought with
  | .error (.crash crash) => isTrue ⟨crash, rfl⟩
  | .error (.reported _) => isFalse nofun
  | .ok _ => isFalse nofun

instance [Stack] (directory : Directory) (replies : Nat → Reply) : Decidable (directory.Broken replies) :=
  decidable_of_iff _ broken_iff.symm

/-- **Sources are independent of each other**, unless a reply breaks the reader: all titles of every source that
gives any are held then, and the refresh returns if the path of the cache can be named. A reply that breaks the
reader ends the refresh with a crash, and everything stays as it was, whatever the other sources reply. -/
theorem refreshFrom_answered [Stack] (enabled : directory.config.enabled = true) (replies : Nat → Reply) (disk : Disk)
    (now : Nat) :
    let sources := directory.answered replies
    let after := directory.refreshFrom disk sources now
    (¬directory.Broken replies → ∀ source ∈ sources, ∀ titles, source.titles = .ok titles → titles ≠ [] →
      (∀ title ∈ titles, (after.directory.titles.get? title.1).isSome = true) ∧
      ((∀ name ∈ disk.here, name.IsLegal) → directory.cachePath.Nameable →
        after.outcome = .ok after.directory.size)) ∧
    (directory.Broken replies → after.directory = directory ∧ after.disk = disk ∧
      ∃ source ∈ sources, ∃ crash, source.brought = .error (.crash crash) ∧ after.outcome = .error crash) := by
  intro sources after
  refine ⟨fun whole source mem titles gives some => ?_, fun broken => ?_⟩
  · have answers : ∀ source ∈ sources, ∀ crash, source.brought ≠ .error (.crash crash) :=
      fun source mem crash crashed => whole (broken_iff.mpr ⟨source, mem, crash, crashed⟩)
    have known : ∀ title ∈ titles, ((obtained sources).get? title.1).isSome = true :=
      fun title => isSome_get?_obtained mem gives
    obtain ⟨title, rest, rfl⟩ := List.exists_cons_of_ne_nil some
    have filled := Register.isEmpty_of_isSome_get? (known title List.mem_cons_self)
    have held : after = _ := refreshFrom_of_obtained enabled answers filled now
    rw [held]
    refine ⟨known, fun legal nameable => ?_⟩
    have saved : ((directory.swap (obtained sources) now).save disk).1 = .ok () := save_of_nameable legal nameable
    dsimp only
    rw [saved]
    rfl
  · rcases answers_or_crash sources with answers | ⟨before, source, later, crash, whole, answers, crashed⟩
    · obtain ⟨source, mem, crash, crashed⟩ := broken_iff.mp broken
      exact absurd crashed (answers source mem crash)
    · have ends : (askAll sources).2 = .error crash := by
        rw [whole, askAll_of_crash answers crashed]
      have left : after = _ := refreshFrom_of_crash enabled ends now
      have mem : source ∈ sources := by
        rw [whole]
        exact List.mem_append_right _ List.mem_cons_self
      rw [left]
      exact ⟨rfl, rfl, source, mem, crash, crashed, rfl⟩

def secondAddress : LooseText := "https://second.example/titles.json"

/-- A directory with two sources. -/
def twoSources : Directory :=
  initial { Config.default with secondSource := some secondAddress } ⟨.root, []⟩

/-- The document of a source that knows one title. -/
def oneEntry : Reply :=
  .document (Encoding.utf8 "\x7b\"1\": \x7b\"id\": \"0100ABCD12345000\", \"name\": \"One\"\x7d\x7d")

def firstUnreachable : Nat → Reply
  | 0 => .failed "timed out"
  | _ => oneEntry

def secondUndecodable : Nat → Reply
  | 0 => oneEntry
  | _ => .document [0xFF]

/-- The first source cannot be reached, and what the second one knows is held all the same. -/
theorem refreshFrom_answered_unreachable :
    ((twoSources.refreshFrom emptyDisk (twoSources.answered firstUnreachable) 0).directory.titles.get?
      "0100ABCD12345000").isSome = true ∧
    (twoSources.refreshFrom emptyDisk (twoSources.answered firstUnreachable) 0).outcome
      = .ok (twoSources.refreshFrom emptyDisk (twoSources.answered firstUnreachable) 0).directory.size := by
  have enabled : twoSources.config.enabled = true := rfl
  have whole : ¬twoSources.Broken firstUnreachable := by decide +kernel
  have asked : twoSources.sources[1]? = some ("url_override", secondAddress) := rfl
  have mem : Asked.mk secondAddress (decodeReply secondAddress oneEntry) ∈ twoSources.answered firstUnreachable :=
    mem_answered_of_source asked
  have gives : (Asked.mk secondAddress (decodeReply secondAddress oneEntry)).titles
      = .ok [("0100ABCD12345000", ⟨none, none, some "One"⟩)] := by decide +kernel
  have nameable : twoSources.cachePath.Nameable :=
    ⟨Encoding.utf8 "/titledb/US.en.json", by decide +kernel, by decide +kernel⟩
  obtain ⟨known, returns⟩ := (refreshFrom_answered enabled firstUnreachable emptyDisk 0).1 whole _ mem _ gives
    (List.cons_ne_nil _ _)
  have held := known _ List.mem_cons_self
  exact ⟨held, returns nofun nameable⟩

/-- The second source replies with a byte that is no text, and what the first one knows is lost. -/
theorem refreshFrom_answered_undecodable :
    (obtained ((twoSources.answered secondUndecodable).take 1)).keys = ["0100ABCD12345000"] ∧
    (twoSources.refreshFrom emptyDisk (twoSources.answered secondUndecodable) 0).outcome = .error .notUtf8 ∧
    (twoSources.refreshFrom emptyDisk (twoSources.answered secondUndecodable) 0).directory.titles.keys = [] := by
  decide +kernel

end Answered

end Directory

end Titles

end Gameshelf
