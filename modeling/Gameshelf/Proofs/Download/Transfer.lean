import Gameshelf.Download.Transfer

/-!
What a transfer delivers. A reader who asks until there is nothing more gets chunks, and perhaps the
news that bytes are missing (`Delivers`); `drain` is such a reader (`delivers_drain`). After any number
of requests the chunks so far, put together, are the beginning of what lies ahead in the file
(`flatten_chunks_take`), so a transfer that is asked to its end sends what was announced or says how
much is missing, and it never sends more.

The laws are about transfers with a positive chunk size that are not over.
-/

namespace Gameshelf.Download.Transfer

open Encoding

/-- **What a transfer delivers to one who asks to its end**: the chunks, and how many bytes are missing
if the file ends before the transfer does. -/
inductive Delivers : Transfer → List Bytes → Option Int → Prop where
  | finished {transfer after : Transfer} (asked : transfer.next = (.finished, after)) :
      Delivers transfer [] none
  | short {transfer after : Transfer} {missing : Int}
      (asked : transfer.next = (.short missing, after)) : Delivers transfer [] (some missing)
  | chunk {transfer after : Transfer} {bytes : Bytes} {chunks : List Bytes} {missing : Option Int}
      (asked : transfer.next = (.chunk bytes, after)) (rest : Delivers after chunks missing) :
      Delivers transfer (bytes :: chunks) missing

/-- Can a transfer still send something? -/
structure Active (transfer : Transfer) : Prop where
  begun : transfer.phase ≠ .over
  sized : 0 < transfer.chunkSize

/-- The most bytes of the next chunk. -/
def quota (transfer : Transfer) : Nat :=
  (min transfer.chunkSize transfer.remaining).toNat

/-- The transfer after its next chunk. -/
def advance (transfer : Transfer) : Transfer :=
  { transfer with
    handle := { transfer.handle with ahead := transfer.handle.ahead.drop transfer.quota }
    remaining := transfer.remaining - (transfer.handle.ahead.take transfer.quota).length
    phase := .sending }

/-- Where something remains to be sent, a chunk is read by its quota. -/
theorem read_quota {transfer : Transfer} (sized : 0 < transfer.chunkSize)
    (left : ¬ transfer.remaining ≤ 0) :
    transfer.handle.read (min transfer.chunkSize transfer.remaining)
      = (transfer.handle.ahead.take transfer.quota, transfer.advance.handle) := by
  rw [Handle.read, if_neg (by omega)]
  rfl

/-- What is asked of a transfer that is not over. -/
theorem next_of_begun {transfer : Transfer} (begun : transfer.phase ≠ .over) :
    transfer.next =
      if transfer.remaining ≤ 0 then
        (.finished, { transfer with handle := transfer.handle.close, phase := .over })
      else
        let (bytes, handle) := transfer.handle.read (min transfer.chunkSize transfer.remaining)
        if bytes.isEmpty then
          (.short transfer.remaining, { transfer with handle := handle.close, phase := .over })
        else
          (.chunk bytes,
            { transfer with handle, remaining := transfer.remaining - bytes.length, phase := .sending }) := by
  unfold next
  split
  · next ended => exact absurd ended begun
  · rfl

/-- Everything that asking for a chunk can come to. -/
theorem next_cases {transfer : Transfer} (active : transfer.Active) :
    (transfer.remaining ≤ 0 ∧ ∃ after, transfer.next = (.finished, after)) ∨
    (0 < transfer.remaining ∧ transfer.handle.ahead = [] ∧
      ∃ after, transfer.next = (.short transfer.remaining, after)) ∨
    (0 < transfer.quota ∧ transfer.handle.ahead ≠ [] ∧
      transfer.next = (.chunk (transfer.handle.ahead.take transfer.quota), transfer.advance)) := by
  rw [next_of_begun active.begun]
  by_cases done : transfer.remaining ≤ 0
  · exact .inl ⟨done, _, if_pos done⟩
  · have sized := active.sized
    have positive : 0 < transfer.quota := by unfold quota; omega
    rw [if_neg done, read_quota sized done]
    by_cases ended : transfer.handle.ahead = []
    · refine .inr (.inl ⟨Int.not_le.mp done, ended, _, if_pos ?_⟩)
      rw [ended, List.take_nil, List.isEmpty_nil]
    · refine .inr (.inr ⟨positive, ended, if_neg ?_⟩)
      rw [List.isEmpty_iff, List.take_eq_nil_iff]
      exact fun h => h.elim (Nat.ne_of_gt positive) ended

theorem active_advance {transfer : Transfer} (active : transfer.Active) : transfer.advance.Active :=
  ⟨Phase.noConfusion, active.sized⟩

theorem quota_le_remaining {transfer : Transfer} (positive : 0 < transfer.quota) :
    (transfer.quota : Int) ≤ transfer.remaining := by
  unfold quota at positive ⊢
  omega

/-- As long as the file does not end within a chunk, the chunk takes its quota off what remains. -/
theorem remaining_advance {transfer : Transfer} (enough : transfer.quota ≤ transfer.handle.ahead.length) :
    transfer.advance.remaining = transfer.remaining - transfer.quota := by
  simp only [advance, List.length_take, Nat.min_eq_left enough]

/-- One who asks often enough for every byte in the file asks to the end. -/
theorem delivers_take {count : Nat} {transfer : Transfer} (active : transfer.Active)
    (enough : transfer.handle.ahead.length < count) :
    transfer.Delivers (transfer.take count).chunks (transfer.take count).missing := by
  induction count generalizing transfer with
  | zero => exact absurd enough (Nat.not_lt_zero _)
  | succ count ih =>
    obtain ⟨_, _, asked⟩ | ⟨_, _, _, asked⟩ | ⟨positive, ahead, asked⟩ := next_cases active
    · simpa only [take, asked] using Delivers.finished asked
    · simpa only [take, asked] using Delivers.short asked
    · have shorter : transfer.advance.handle.ahead.length < count := by
        have := List.length_pos_iff.mpr ahead
        simp only [advance, List.length_drop]
        omega
      simpa only [take, asked] using Delivers.chunk asked (ih (active_advance active) shorter)

/-- Draining a transfer asks it to its end. -/
theorem delivers_drain {transfer : Transfer} (active : transfer.Active) :
    transfer.Delivers transfer.drain.chunks transfer.drain.missing :=
  delivers_take active (Nat.lt_succ_self _)

/-- A transfer delivers one thing. -/
theorem Delivers.unique {transfer : Transfer} {first second : List Bytes} {missing missing' : Option Int}
    (one : transfer.Delivers first missing) (other : transfer.Delivers second missing') :
    first = second ∧ missing = missing' := by
  induction one generalizing second with
  | finished asked =>
    cases other with
    | finished => exact ⟨rfl, rfl⟩
    | short asked' => cases asked.symm.trans asked'
    | chunk asked' => cases asked.symm.trans asked'
  | short asked =>
    cases other with
    | finished asked' => cases asked.symm.trans asked'
    | short asked' =>
      cases asked.symm.trans asked'
      exact ⟨rfl, rfl⟩
    | chunk asked' => cases asked.symm.trans asked'
  | chunk asked _ ih =>
    cases other with
    | finished asked' => cases asked.symm.trans asked'
    | short asked' => cases asked.symm.trans asked'
    | chunk asked' rest' =>
      cases asked.symm.trans asked'
      obtain ⟨rfl, rfl⟩ := ih rest'
      exact ⟨rfl, rfl⟩

/-- No chunk is empty, and none is larger than the chunk size. -/
theorem length_chunk {count : Nat} {transfer : Transfer} (active : transfer.Active) {chunk : Bytes}
    (mem : chunk ∈ (transfer.take count).chunks) : chunk ≠ [] ∧ chunk.length ≤ transfer.chunkSize := by
  induction count generalizing transfer with
  | zero => simp [take] at mem
  | succ count ih =>
    obtain ⟨_, _, asked⟩ | ⟨_, _, _, asked⟩ | ⟨positive, ahead, asked⟩ := next_cases active
    · simp [take, asked] at mem
    · simp [take, asked] at mem
    · simp only [take, asked, List.mem_cons] at mem
      rcases mem with rfl | mem
      · refine ⟨fun empty => ?_, ?_⟩
        · exact (List.take_eq_nil_iff.mp empty).elim (Nat.ne_of_gt positive) ahead
        · have := List.length_take_le transfer.quota transfer.handle.ahead
          unfold quota at this positive ⊢
          omega
      · have later := ih (active_advance active) mem
        exact later

/-- **The chunks so far are the beginning of what lies ahead**: as many bytes as the chunks may hold, as
remain to be sent, and as there are. -/
theorem flatten_chunks_take {count : Nat} {transfer : Transfer} (active : transfer.Active) :
    (transfer.take count).chunks.flatten
      = transfer.handle.ahead.take (min (count * transfer.chunkSize) transfer.remaining).toNat := by
  induction count generalizing transfer with
  | zero =>
    have : (min (((0 : Nat) : Int) * transfer.chunkSize) transfer.remaining).toNat = 0 := by omega
    rw [this]
    rfl
  | succ count ih =>
    have grown : ((count + 1 : Nat) : Int) * transfer.chunkSize
        = count * transfer.chunkSize + transfer.chunkSize := by
      rw [Int.natCast_succ, Int.add_mul, Int.one_mul]
    have sized := active.sized
    obtain ⟨done, _, asked⟩ | ⟨_, ahead, _, asked⟩ | ⟨positive, _, asked⟩ := next_cases active
    · have : (min (((count + 1 : Nat) : Int) * transfer.chunkSize) transfer.remaining).toNat = 0 := by
        omega
      simp only [take, asked, List.flatten_nil, this, List.take_zero]
    · simp only [take, asked, List.flatten_nil, ahead, List.take_nil]
    · simp only [take, asked, List.flatten_cons, ih (active_advance active)]
      by_cases enough : transfer.quota ≤ transfer.handle.ahead.length
      · have whole : (min (((count + 1 : Nat) : Int) * transfer.chunkSize) transfer.remaining).toNat
            = transfer.quota
              + (min (count * transfer.chunkSize) (transfer.remaining - transfer.quota)).toNat := by
          have : 0 ≤ (count : Int) * transfer.chunkSize :=
            Int.mul_nonneg (Int.natCast_nonneg _) (Int.le_of_lt sized)
          unfold quota at positive ⊢
          omega
        rw [remaining_advance enough, whole, List.take_add]
        rfl
      · have beyond : transfer.handle.ahead.length ≤ transfer.quota := by omega
        have reached : transfer.quota
            ≤ (min (((count + 1 : Nat) : Int) * transfer.chunkSize) transfer.remaining).toNat := by
          have : 0 ≤ (count : Int) * transfer.chunkSize :=
            Int.mul_nonneg (Int.natCast_nonneg _) (Int.le_of_lt sized)
          unfold quota at positive ⊢
          omega
        rw [List.take_of_length_le beyond, List.take_of_length_le (Nat.le_trans beyond reached)]
        simp only [advance, List.drop_eq_nil_of_le beyond, List.take_nil, List.append_nil]

/-- Nothing is missing from a transfer whose file holds what remains to be sent. -/
theorem missing_take {count : Nat} {transfer : Transfer} (active : transfer.Active)
    (enough : transfer.remaining ≤ transfer.handle.ahead.length) :
    (transfer.take count).missing = none := by
  induction count generalizing transfer with
  | zero => rfl
  | succ count ih =>
    obtain ⟨_, _, asked⟩ | ⟨left, ahead, _, _⟩ | ⟨positive, _, asked⟩ := next_cases active
    · simp only [take, asked]
    · rw [ahead] at enough
      exact absurd enough (Int.not_le.mpr left)
    · have quota_le := quota_le_remaining positive
      have within : transfer.quota ≤ transfer.handle.ahead.length := by omega
      simp only [take, asked]
      refine ih (active_advance active) ?_
      rw [remaining_advance within]
      simp only [advance, List.length_drop]
      omega

/-- A drained transfer has sent what it announced, as far as the file reaches. -/
theorem flatten_chunks_drain {transfer : Transfer} (active : transfer.Active) :
    transfer.drain.chunks.flatten = transfer.handle.ahead.take transfer.remaining.toNat := by
  rw [drain, flatten_chunks_take active]
  have sized := active.sized
  have all : (transfer.handle.ahead.length : Int)
      ≤ ((transfer.handle.ahead.length + 1 : Nat) : Int) * transfer.chunkSize := by
    have := Int.mul_le_mul_of_nonneg_left (show (1 : Int) ≤ transfer.chunkSize by omega)
      (Int.natCast_nonneg (transfer.handle.ahead.length + 1))
    omega
  rcases Int.le_total transfer.remaining
    (((transfer.handle.ahead.length + 1 : Nat) : Int) * transfer.chunkSize) with le | ge
  · rw [Int.min_eq_right le]
  · rw [Int.min_eq_left ge, List.take_of_length_le (by omega), List.take_of_length_le (by omega)]

end Gameshelf.Download.Transfer
