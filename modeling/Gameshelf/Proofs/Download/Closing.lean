import Gameshelf.Proofs.Download.Transfer

/-!
When the file of a transfer is closed. A transfer that has been asked for a chunk closes its file as soon as it
ends, whether it is finished, falls short or is stopped, and keeps it open until then (`closed_iff_ends`). One
that is stopped before it has been asked at all never closes it, whatever is done with it later: that file stays
open (`closed_unless_unasked`).
-/

namespace Gameshelf.Download.Transfer

open Encoding

/-- What the reader of a transfer may do with it. -/
inductive Use where
  | ask
  | stop
deriving DecidableEq, Repr

def use (transfer : Transfer) : Use → Transfer
  | .ask => transfer.next.2
  | .stop => transfer.stop

/-- A transfer after it has been used. -/
def after (transfer : Transfer) (uses : List Use) : Transfer :=
  uses.foldl use transfer

/-- **Uses that end a transfer**: one of them stops it, or asks it for a chunk when there is none left to be
had. -/
inductive Ends : Transfer → List Use → Prop where
  | stopped {transfer : Transfer} {uses : List Use} : Ends transfer (.stop :: uses)
  | finished {transfer : Transfer} {uses : List Use} (told : transfer.next.1 = .finished) :
      Ends transfer (.ask :: uses)
  | short {transfer : Transfer} {uses : List Use} {missing : Int}
      (told : transfer.next.1 = .short missing) : Ends transfer (.ask :: uses)
  | later {transfer : Transfer} {uses : List Use} (rest : Ends transfer.next.2 uses) :
      Ends transfer (.ask :: uses)

theorem Ends.of_stop_mem {transfer : Transfer} {uses : List Use} (mem : Use.stop ∈ uses) :
    transfer.Ends uses := by
  induction uses generalizing transfer with
  | nil => cases mem
  | cons first rest ih =>
    cases first with
    | stop => exact .stopped
    | ask =>
      rcases List.mem_cons.mp mem with same | mem
      · cases same
      · exact .later (ih mem)

section Steps

variable {transfer : Transfer}

/-- A transfer that is over stays as it is. -/
theorem use_of_over (ended : transfer.phase = .over) (use : Use) : transfer.use use = transfer := by
  cases use with
  | ask => simp [Transfer.use, next, ended]
  | stop =>
    have kept : { transfer with phase := .over } = transfer := by rw [← ended]
    simp only [Transfer.use, stop, ended, kept]

theorem after_of_over (ended : transfer.phase = .over) (uses : List Use) : transfer.after uses = transfer := by
  induction uses with
  | nil => rfl
  | cons first rest ih => rw [after, List.foldl_cons, use_of_over ended, ← after, ih]

/-- To be stopped ends a transfer, so that nothing that is done later matters. -/
theorem after_stop (transfer : Transfer) (uses : List Use) : transfer.after (.stop :: uses) = transfer.stop := by
  have ended : transfer.stop.phase = .over := by
    unfold stop
    split <;> rfl
  exact after_of_over ended uses

/-- To be asked brings a transfer to its next chunk, the file still open, or to its end, the file closed. -/
theorem ask_cases (begun : transfer.phase ≠ .over) :
    (∃ bytes, transfer.next.1 = .chunk bytes) ∧ transfer.next.2.phase = .sending ∧
        transfer.next.2.handle.isOpen = transfer.handle.isOpen ∨
      (transfer.next.1 = .finished ∨ ∃ missing, transfer.next.1 = .short missing) ∧
        transfer.next.2.phase = .over ∧ transfer.next.2.handle.isOpen = false := by
  have keeps (count : Int) : (transfer.handle.read count).2.isOpen = transfer.handle.isOpen := by
    unfold Handle.read
    split <;> rfl
  rw [next_of_begun begun]
  by_cases done : transfer.remaining ≤ 0
  · rw [if_pos done]
    exact .inr ⟨.inl rfl, rfl, rfl⟩
  rw [if_neg done]
  have kept := keeps (min transfer.chunkSize transfer.remaining)
  generalize transfer.handle.read (min transfer.chunkSize transfer.remaining) = given at kept ⊢
  obtain ⟨bytes, handle⟩ := given
  cases bytes with
  | nil => exact .inr ⟨.inr ⟨_, rfl⟩, rfl, rfl⟩
  | cons byte bytes => exact .inl ⟨⟨_, rfl⟩, rfl, kept⟩

/-- Who is told that there is no chunk has a transfer that is over. -/
theorem over_of_told (told : ∀ bytes, transfer.next.1 ≠ .chunk bytes) : transfer.next.2.phase = .over := by
  by_cases already : transfer.phase = .over
  · simp [next, already]
  · obtain ⟨⟨bytes, chunk⟩, _⟩ | ⟨_, ended, _⟩ := ask_cases already
    · exact absurd chunk (told bytes)
    · exact ended

/-- Asking for some chunks and then stopping is a way to use a transfer. -/
theorem transfer_take (transfer : Transfer) (count : Nat) :
    (transfer.take count).transfer = transfer.after (List.replicate count .ask ++ [.stop]) := by
  induction count generalizing transfer with
  | zero => rfl
  | succ count ih =>
    show _ = transfer.next.2.after (List.replicate count .ask ++ [.stop])
    rw [take]
    split
    · next asked => rw [ih, asked]
    · next asked =>
      have ended : transfer.next.2.phase = .over := over_of_told (by simp [asked])
      rw [asked] at ended ⊢
      exact (after_of_over ended _).symm
    · next asked =>
      have ended : transfer.next.2.phase = .over := over_of_told (by simp [asked])
      rw [asked] at ended ⊢
      exact (after_of_over ended _).symm

/-- To ask a transfer whose file is open closes the file if that ends it; otherwise what is done later
decides. -/
theorem closed_ask_iff {rest : List Use} (begun : transfer.phase ≠ .over)
    (opened : transfer.handle.isOpen = true)
    (later : ∀ {transfer : Transfer}, transfer.phase = .sending → transfer.handle.isOpen = true →
      ((transfer.after rest).handle.isOpen = false ↔ transfer.Ends rest)) :
    (transfer.after (.ask :: rest)).handle.isOpen = false ↔ transfer.Ends (.ask :: rest) := by
  show (transfer.next.2.after rest).handle.isOpen = false ↔ _
  obtain ⟨⟨bytes, chunk⟩, still, same⟩ | ⟨told, ended, closed⟩ := ask_cases begun
  · rw [later still (same.trans opened)]
    refine ⟨.later, fun ends => ?_⟩
    cases ends with
    | finished told => cases chunk.symm.trans told
    | short told => cases chunk.symm.trans told
    | later ends => exact ends
  · rw [after_of_over ended]
    refine ⟨fun _ => ?_, fun _ => closed⟩
    rcases told with told | ⟨_, told⟩
    · exact .finished told
    · exact .short told

/-- **Once it has been asked, a transfer closes its file when it ends, and not before.** -/
theorem closed_iff_ends {uses : List Use} (sending : transfer.phase = .sending)
    (opened : transfer.handle.isOpen = true) :
    (transfer.after uses).handle.isOpen = false ↔ transfer.Ends uses := by
  induction uses generalizing transfer with
  | nil =>
    constructor
    · intro closed
      cases opened.symm.trans closed
    · intro ends
      cases ends
  | cons first rest ih =>
    cases first with
    | ask => exact closed_ask_iff (by simp [sending]) opened ih
    | stop =>
      have closed : transfer.stop.handle.isOpen = false := by simp [stop, sending, Handle.close]
      rw [after_stop]
      exact ⟨fun _ => .stopped, fun _ => closed⟩

end Steps

/-- **A transfer closes its file when it ends, unless it is stopped before it has been asked for a chunk.** Then
the file stays open. One who asks for some chunks and stops leaves the file closed, and so does one who asks to
the end. -/
theorem closed_unless_unasked (content : Bytes) (position : Nat) (length size : Int) :
    let transfer := ofHandle (.openAt content position) length size
    (∀ uses, (transfer.after uses).handle.isOpen = false ↔ uses.head? = some .ask ∧ transfer.Ends uses) ∧
    (∀ count, (transfer.take count).transfer.handle.isOpen = false ↔ 0 < count) ∧
    transfer.drain.transfer.handle.isOpen = false := by
  intro transfer
  have closes (uses : List Use) :
      (transfer.after uses).handle.isOpen = false ↔ uses.head? = some .ask ∧ transfer.Ends uses := by
    cases uses with
    | nil => exact ⟨nofun, nofun⟩
    | cons first rest =>
      cases first with
      | ask =>
        have begun : transfer.phase ≠ .over := Phase.noConfusion
        rw [closed_ask_iff begun rfl closed_iff_ends]
        simp
      | stop =>
        rw [after_stop]
        exact ⟨nofun, nofun⟩
  have takes (count : Nat) : (transfer.take count).transfer.handle.isOpen = false ↔ 0 < count := by
    rw [transfer_take, closes]
    have ends : transfer.Ends (List.replicate count .ask ++ [.stop]) :=
      .of_stop_mem (List.mem_append_right _ List.mem_cons_self)
    cases count with
    | zero => simp
    | succ count => simpa [List.replicate_succ] using ends
  exact ⟨closes, takes, (takes _).mpr (Nat.succ_pos _)⟩

/-- Who stops a transfer of ten bytes before its first chunk has ended it, and its file is open. -/
theorem open_after_stop_tenBytes :
    ¬∀ (content : Bytes) (position length size : Nat), 0 < size → ∀ uses,
      (ofHandle (.openAt content position) length size).Ends uses →
        ((ofHandle (.openAt content position) length size).after uses).handle.isOpen = false := by
  intro closes
  have closed := closes [0, 1, 2, 3, 4, 5, 6, 7, 8, 9] 0 10 4 (by decide) [.stop] .stopped
  cases closed

end Gameshelf.Download.Transfer
