import Gameshelf.Proofs.Encoding.Utf8

/-!
Reading bytes as segments loses none of them: the bytes of the segments, one after the other, are what
was read (`flatMap_bytes_segments`). What is begun and not complete remembers its bytes, each form of it
with the bits that these bytes hold; so what is broken off is not empty, and none of it is ASCII. Bytes
that are read strictly are those of the text that is read (`decodeUtf8?_eq_some_iff`).
-/

namespace Gameshelf.Encoding

/-- The bytes of a segment. -/
def Segment.bytes : Segment → Bytes
  | .scalar c => String.utf8EncodeChar c
  | .broken bytes => bytes

/-- **What a first byte begins**, and how it goes on: the bytes so far, how many are missing, what may
come next, and the bits so far. -/
inductive Begins : Begun → Prop
  | two {b : UInt8} (lead : 0xC2 ≤ b.toNat ∧ b.toNat ≤ 0xDF) :
      Begins ⟨[b], 0, secondBounds b, b.toNat % 0x20⟩
  | three {b : UInt8} (lead : 0xE0 ≤ b.toNat ∧ b.toNat ≤ 0xEF) :
      Begins ⟨[b], 1, secondBounds b, b.toNat % 0x10⟩
  | threeSecond {b b₂ : UInt8} (lead : 0xE0 ≤ b.toNat ∧ b.toNat ≤ 0xEF)
      (second : between (secondBounds b).1 (secondBounds b).2 b₂ = true) :
      Begins ⟨[b, b₂], 0, (0x80, 0xBF), b.toNat % 0x10 * 0x40 + b₂.toNat % 0x40⟩
  | four {b : UInt8} (lead : 0xF0 ≤ b.toNat ∧ b.toNat ≤ 0xF4) :
      Begins ⟨[b], 2, secondBounds b, b.toNat % 0x08⟩
  | fourSecond {b b₂ : UInt8} (lead : 0xF0 ≤ b.toNat ∧ b.toNat ≤ 0xF4)
      (second : between (secondBounds b).1 (secondBounds b).2 b₂ = true) :
      Begins ⟨[b, b₂], 1, (0x80, 0xBF), b.toNat % 0x08 * 0x40 + b₂.toNat % 0x40⟩
  | fourThird {b b₂ b₃ : UInt8} (lead : 0xF0 ≤ b.toNat ∧ b.toNat ≤ 0xF4)
      (second : between (secondBounds b).1 (secondBounds b).2 b₂ = true) (third : IsTail b₃) :
      Begins ⟨[b, b₂, b₃], 0, (0x80, 0xBF),
        (b.toNat % 0x08 * 0x40 + b₂.toNat % 0x40) * 0x40 + b₃.toNat % 0x40⟩

section Steps

variable {b b₂ : UInt8} {state : Begun}

/-- A byte beyond ASCII. -/
def IsHigh (b : UInt8) : Prop :=
  0x80 ≤ b.toNat

instance : DecidablePred IsHigh :=
  fun b => inferInstanceAs (Decidable (0x80 ≤ b.toNat))

theorem IsTail.isHigh (tail : IsTail b) : IsHigh b :=
  tail.1

theorem isHigh_of_second (second : between (secondBounds b).1 (secondBounds b).2 b₂ = true) :
    IsHigh b₂ :=
  (between_secondBounds.mp second).1.isHigh

/-- **Bytes that can be broken off**: at least one, and no ASCII. -/
def IsBroken (bytes : Bytes) : Prop :=
  bytes ≠ [] ∧ ∀ b ∈ bytes, IsHigh b

/-- What is begun can be broken off. -/
theorem Begins.isBroken (begins : Begins state) : IsBroken state.bytes := by
  have lead {b : UInt8} {low : Nat} (large : 0x80 ≤ low) (bound : low ≤ b.toNat) : IsHigh b :=
    Nat.le_trans large bound
  cases begins with
  | two first => exact ⟨List.cons_ne_nil _ _, by simpa using lead (by decide) first.1⟩
  | three first => exact ⟨List.cons_ne_nil _ _, by simpa using lead (by decide) first.1⟩
  | four first => exact ⟨List.cons_ne_nil _ _, by simpa using lead (by decide) first.1⟩
  | threeSecond first second =>
    exact ⟨List.cons_ne_nil _ _, by simpa using ⟨lead (by decide) first.1, isHigh_of_second second⟩⟩
  | fourSecond first second =>
    exact ⟨List.cons_ne_nil _ _, by simpa using ⟨lead (by decide) first.1, isHigh_of_second second⟩⟩
  | fourThird first second third =>
    exact ⟨List.cons_ne_nil _ _, by
      simpa using ⟨lead (by decide) first.1, isHigh_of_second second, third.isHigh⟩⟩

/-- **Bytes are kept**: those of the segments that are read and those of what is begun are the bytes that
were read. -/
structure Keeps (read : List Segment × Option Begun) (bytes : Bytes) : Prop where
  spelled : read.1.flatMap Segment.bytes ++ read.2.elim [] Begun.bytes = bytes
  broken : ∀ bytes, .broken bytes ∈ read.1 → IsBroken bytes
  begins : ∀ state, read.2 = some state → Begins state

theorem keeps_begun (begins : Begins state) : Keeps ([], some state) state.bytes :=
  ⟨rfl, nofun, fun _ same => Option.some.inj same ▸ begins⟩

theorem keeps_scalar {c : Char} {bytes : Bytes} (spelled : String.utf8EncodeChar c = bytes) :
    Keeps ([.scalar c], none) bytes :=
  ⟨by simpa [Segment.bytes] using spelled, fun _ mem => (nomatch List.mem_singleton.mp mem), nofun⟩

theorem keeps_start (b : UInt8) : Keeps (start b) [b] := by
  rcases start_cases b with ⟨lead, eq⟩ | ⟨lead, eq⟩ | ⟨lead, eq⟩ | ⟨lead, eq⟩ | ⟨lead, eq⟩
  · rw [eq]
    exact keeps_scalar (utf8EncodeChar_scalarOf_one lead)
  · rw [eq]
    exact keeps_begun (.two lead)
  · rw [eq]
    exact keeps_begun (.three lead)
  · rw [eq]
    exact keeps_begun (.four lead)
  · rw [eq]
    refine ⟨rfl, fun bytes mem => ?_, nofun⟩
    cases List.mem_singleton.mp mem
    refine ⟨List.cons_ne_nil _ _, fun other here => ?_⟩
    cases List.mem_singleton.mp here
    show 0x80 ≤ b.toNat
    omega

/-- A byte that does not fit breaks off what was begun, and starts what it starts. -/
theorem keeps_break (begins : Begins state) (b : UInt8) :
    Keeps (.broken state.bytes :: (start b).1, (start b).2) (state.bytes ++ [b]) := by
  obtain ⟨spelled, broken, next⟩ := keeps_start b
  refine ⟨?_, fun bytes mem => ?_, next⟩
  · rw [List.flatMap_cons, List.append_assoc, spelled]
    rfl
  · rcases List.mem_cons.mp mem with same | mem
    · cases same
      exact begins.isBroken
    · exact broken bytes mem

theorem keeps_step (begins : Begins state) (b : UInt8) :
    Keeps (step (some state) b) (state.bytes ++ [b]) := by
  by_cases within : between state.bounds.1 state.bounds.2 b = true
  · simp only [step, within, if_true]
    -- A byte that fits goes on with each form as it is begun.
    cases begins with
    | two lead => exact keeps_scalar (utf8EncodeChar_scalarOf_two lead within)
    | three lead => exact keeps_begun (.threeSecond lead within)
    | threeSecond lead second =>
      exact keeps_scalar (utf8EncodeChar_scalarOf_three lead second (between_iff.mp within))
    | four lead => exact keeps_begun (.fourSecond lead within)
    | fourSecond lead second => exact keeps_begun (.fourThird lead second (between_iff.mp within))
    | fourThird lead second third =>
      exact keeps_scalar (utf8EncodeChar_scalarOf_four lead second third (between_iff.mp within))
  · simp only [step, within, Bool.false_eq_true, if_false]
    exact keeps_break begins b

end Steps

section Whole

variable {begun : Option Begun}

/-- Reading on keeps the bytes that are begun and those that follow. -/
theorem keeps_segmentsFrom (begins : ∀ state, begun = some state → Begins state) (rest : Bytes) :
    Keeps (segmentsFrom begun rest, none) (begun.elim [] Begun.bytes ++ rest) := by
  have ended : ∀ state, none = some state → Begins state := fun _ some => by cases some
  induction rest generalizing begun with
  | nil =>
    cases begun with
    | none => exact ⟨rfl, fun _ mem => (List.not_mem_nil mem).elim, ended⟩
    | some state =>
      refine ⟨by simp [segmentsFrom, Segment.bytes], fun bytes mem => ?_, ended⟩
      cases List.mem_singleton.mp mem
      exact (begins state rfl).isBroken
  | cons b rest ih =>
    have here : Keeps (step begun b) (begun.elim [] Begun.bytes ++ [b]) := by
      cases begun with
      | none => exact keeps_start b
      | some state => exact keeps_step (begins state rfl) b
    have stepped : segmentsFrom begun (b :: rest)
        = (step begun b).1 ++ segmentsFrom (step begun b).2 rest := by
      cases begun <;> rfl
    obtain ⟨spelled, broken, next⟩ := here
    obtain ⟨others, later, _⟩ := ih next
    rw [stepped]
    refine ⟨?_, fun bytes mem => ?_, ended⟩
    · simp only [Option.elim_none, List.append_nil] at others ⊢
      rw [List.flatMap_append, others, ← List.append_assoc, spelled, List.append_assoc,
        List.singleton_append]
    · exact (List.mem_append.mp mem).elim (broken bytes) (later bytes)

theorem keeps_segments (bytes : Bytes) : Keeps (segments bytes, none) bytes := by
  have none : ∀ state, (none : Option Begun) = some state → Begins state := nofun
  exact keeps_segmentsFrom none bytes

/-- **The bytes of the segments are the bytes that were read.** -/
theorem flatMap_bytes_segments (bytes : Bytes) : (segments bytes).flatMap Segment.bytes = bytes := by
  have spelled := (keeps_segments bytes).spelled
  rwa [Option.elim_none, List.append_nil] at spelled

theorem isBroken_of_mem {bytes broken : Bytes} (mem : .broken broken ∈ segments bytes) :
    IsBroken broken :=
  (keeps_segments bytes).broken broken mem

/-- **Bytes are read strictly as the text that they are the bytes of**, and no others are read. -/
theorem decodeUtf8?_eq_some_iff {bytes : Bytes} {cs : List Char} :
    decodeUtf8? bytes = some cs ↔ bytes = encodeUtf8 cs := by
  constructor
  · intro read
    rw [← flatMap_bytes_segments bytes, scalars?_eq_some_iff.mp read, List.flatMap_map]
    rfl
  · rintro rfl
    exact decodeUtf8?_encodeUtf8 cs

end Whole

end Gameshelf.Encoding
