import Gameshelf.Encoding.Utf8

/-!
Characters and their UTF-8. The bytes of characters are read as these characters, whatever follows them
(`segments_encodeUtf8`), and the character that is read from bytes that fit has these bytes. Both come from
one fact for each number of bytes: which bytes a character of that size has.
-/

namespace Gameshelf.Encoding

section Bounds

theorem between_iff {low high b : UInt8} :
    between low high b = true ↔ low.toNat ≤ b.toNat ∧ b.toNat ≤ high.toNat := by
  simp only [between, Bool.and_eq_true, decide_eq_true_eq, UInt8.le_iff_toNat_le]

/-- A byte that continues a character. -/
def IsTail (b : UInt8) : Prop :=
  0x80 ≤ b.toNat ∧ b.toNat ≤ 0xBF

theorem IsTail.between {b : UInt8} (tail : IsTail b) :
    between (Prod.mk 0x80 0xBF).1 (Prod.mk 0x80 0xBF).2 b = true :=
  between_iff.mpr tail

/-- A second byte is held tighter after four of the first bytes: those of characters that fewer bytes
could spell, of surrogates, and of codes that are too large. -/
theorem between_secondBounds {lead b : UInt8} :
    between (secondBounds lead).1 (secondBounds lead).2 b = true ↔
      IsTail b ∧ (lead.toNat = 0xE0 → 0xA0 ≤ b.toNat) ∧ (lead.toNat = 0xED → b.toNat ≤ 0x9F) ∧
        (lead.toNat = 0xF0 → 0x90 ≤ b.toNat) ∧ (lead.toNat = 0xF4 → b.toNat ≤ 0x8F) := by
  have same (n : UInt8) : lead = n ↔ lead.toNat = n.toNat := UInt8.toNat_inj.symm
  simp only [between_iff, secondBounds, same, IsTail, UInt8.reduceToNat]
  split
  · simp only [UInt8.reduceToNat]; omega
  · split
    · simp only [UInt8.reduceToNat]; omega
    · split
      · simp only [UInt8.reduceToNat]; omega
      · split <;> simp only [UInt8.reduceToNat] <;> omega

end Bounds

section Codes

theorem scalarOf_of_valid {code : Nat} (valid : code.isValidChar) : (scalarOf code).toNat = code := by
  rw [scalarOf, if_pos valid, Char.ofNat, dif_pos valid]
  rfl

theorem scalarOf_toNat (c : Char) : scalarOf c.toNat = c := by
  have valid : c.toNat.isValidChar := c.valid
  rw [scalarOf, if_pos valid, Char.ofNat_toNat]

/-- The codes of characters. -/
theorem toNat_bounds (c : Char) : c.toNat < 0xD800 ∨ 0xDFFF < c.toNat ∧ c.toNat < 0x110000 :=
  c.valid

theorem utf8EncodeChar_one {c : Char} (size : c.toNat ≤ 0x7F) :
    String.utf8EncodeChar c = [UInt8.ofNat c.toNat] :=
  if_pos size

theorem utf8EncodeChar_two {c : Char} (above : 0x7F < c.toNat) (size : c.toNat ≤ 0x7FF) :
    String.utf8EncodeChar c
      = [UInt8.ofNat (c.toNat / 64 % 0x20 + 0xC0), UInt8.ofNat (c.toNat % 0x40 + 0x80)] :=
  (if_neg (Nat.not_le.mpr above)).trans (if_pos size)

theorem utf8EncodeChar_three {c : Char} (above : 0x7FF < c.toNat) (size : c.toNat ≤ 0xFFFF) :
    String.utf8EncodeChar c
      = [UInt8.ofNat (c.toNat / 4096 % 0x10 + 0xE0), UInt8.ofNat (c.toNat / 64 % 0x40 + 0x80),
        UInt8.ofNat (c.toNat % 0x40 + 0x80)] :=
  ((if_neg (by show ¬c.toNat ≤ _; omega)).trans (if_neg (Nat.not_le.mpr above))).trans (if_pos size)

theorem utf8EncodeChar_four {c : Char} (above : 0xFFFF < c.toNat) :
    String.utf8EncodeChar c
      = [UInt8.ofNat (c.toNat / 262144 % 0x08 + 0xF0), UInt8.ofNat (c.toNat / 4096 % 0x40 + 0x80),
        UInt8.ofNat (c.toNat / 64 % 0x40 + 0x80), UInt8.ofNat (c.toNat % 0x40 + 0x80)] :=
  ((if_neg (by show ¬c.toNat ≤ _; omega)).trans (if_neg (by show ¬c.toNat ≤ _; omega))).trans
    (if_neg (Nat.not_le.mpr above))

end Codes

section Reading

variable {b b₂ b₃ b₄ : UInt8} {bytes rest : Bytes} {bounds : UInt8 × UInt8} {missing code : Nat}

/-- A last byte completes a character. -/
theorem segmentsFrom_last (within : between bounds.1 bounds.2 b = true) :
    segmentsFrom (some ⟨bytes, 0, bounds, code⟩) (b :: rest)
      = .scalar (scalarOf (code * 0x40 + b.toNat % 0x40)) :: segmentsFrom none rest := by
  simp only [segmentsFrom, step, within, if_true, List.singleton_append]

/-- A byte that is not the last leaves one byte fewer to come. -/
theorem segmentsFrom_more (within : between bounds.1 bounds.2 b = true) :
    segmentsFrom (some ⟨bytes, missing + 1, bounds, code⟩) (b :: rest)
      = segmentsFrom (some ⟨bytes ++ [b], missing, (0x80, 0xBF), code * 0x40 + b.toNat % 0x40⟩)
          rest := by
  simp only [segmentsFrom, step, within, if_true, List.nil_append]

/-- The kinds of first bytes. -/
theorem start_cases (b : UInt8) :
    (b.toNat ≤ 0x7F ∧ start b = ([.scalar (Char.ofNat b.toNat)], none)) ∨
    ((0xC2 ≤ b.toNat ∧ b.toNat ≤ 0xDF) ∧
      start b = ([], some ⟨[b], 0, secondBounds b, b.toNat % 0x20⟩)) ∨
    ((0xE0 ≤ b.toNat ∧ b.toNat ≤ 0xEF) ∧
      start b = ([], some ⟨[b], 1, secondBounds b, b.toNat % 0x10⟩)) ∨
    ((0xF0 ≤ b.toNat ∧ b.toNat ≤ 0xF4) ∧
      start b = ([], some ⟨[b], 2, secondBounds b, b.toNat % 0x08⟩)) ∨
    ((0x7F < b.toNat ∧ b.toNat < 0xC2 ∨ 0xF4 < b.toNat) ∧ start b = ([.broken [b]], none)) := by
  simp only [start, between_iff, UInt8.lt_iff_toNat_lt, UInt8.reduceToNat]
  split
  · next one => exact .inl ⟨by omega, rfl⟩
  · split
    · next two => exact .inr (.inl ⟨two, rfl⟩)
    · split
      · next three => exact .inr (.inr (.inl ⟨three, rfl⟩))
      · split
        · next four => exact .inr (.inr (.inr (.inl ⟨four, rfl⟩)))
        · exact .inr (.inr (.inr (.inr ⟨by omega, rfl⟩)))

/-- A first byte starts what it starts, where no character is begun. -/
theorem segmentsFrom_start (b : UInt8) (rest : Bytes) :
    segmentsFrom none (b :: rest)
      = (start b).1 ++ segmentsFrom (start b).2 rest := rfl

/-- One byte is read as a character. -/
theorem segmentsFrom_one (lead : b.toNat ≤ 0x7F) :
    segmentsFrom none (b :: rest) = .scalar (Char.ofNat b.toNat) :: segmentsFrom none rest := by
  rcases start_cases b with ⟨_, eq⟩ | ⟨_, eq⟩ | ⟨_, eq⟩ | ⟨_, eq⟩ | ⟨_, eq⟩
  · rw [segmentsFrom_start, eq, List.singleton_append]
  all_goals omega

/-- Two bytes are read as a character. -/
theorem segmentsFrom_two (lead : 0xC2 ≤ b.toNat ∧ b.toNat ≤ 0xDF)
    (second : between (secondBounds b).1 (secondBounds b).2 b₂ = true) :
    segmentsFrom none (b :: b₂ :: rest)
      = .scalar (scalarOf (b.toNat % 0x20 * 0x40 + b₂.toNat % 0x40)) :: segmentsFrom none rest := by
  rcases start_cases b with ⟨_, eq⟩ | ⟨_, eq⟩ | ⟨_, eq⟩ | ⟨_, eq⟩ | ⟨_, eq⟩
  · omega
  · rw [segmentsFrom_start, eq, List.nil_append, segmentsFrom_last second]
  all_goals omega

/-- Three bytes are read as a character. -/
theorem segmentsFrom_three (lead : 0xE0 ≤ b.toNat ∧ b.toNat ≤ 0xEF)
    (second : between (secondBounds b).1 (secondBounds b).2 b₂ = true) (third : IsTail b₃) :
    segmentsFrom none (b :: b₂ :: b₃ :: rest)
      = .scalar (scalarOf ((b.toNat % 0x10 * 0x40 + b₂.toNat % 0x40) * 0x40 + b₃.toNat % 0x40))
        :: segmentsFrom none rest := by
  rcases start_cases b with ⟨_, eq⟩ | ⟨_, eq⟩ | ⟨_, eq⟩ | ⟨_, eq⟩ | ⟨_, eq⟩
  · omega
  · omega
  · rw [segmentsFrom_start, eq, List.nil_append, segmentsFrom_more second,
      segmentsFrom_last third.between]
  all_goals omega

/-- Four bytes are read as a character. -/
theorem segmentsFrom_four (lead : 0xF0 ≤ b.toNat ∧ b.toNat ≤ 0xF4)
    (second : between (secondBounds b).1 (secondBounds b).2 b₂ = true) (third : IsTail b₃)
    (fourth : IsTail b₄) :
    segmentsFrom none (b :: b₂ :: b₃ :: b₄ :: rest)
      = .scalar (scalarOf (((b.toNat % 0x08 * 0x40 + b₂.toNat % 0x40) * 0x40 + b₃.toNat % 0x40) * 0x40
          + b₄.toNat % 0x40)) :: segmentsFrom none rest := by
  rcases start_cases b with ⟨_, eq⟩ | ⟨_, eq⟩ | ⟨_, eq⟩ | ⟨_, eq⟩ | ⟨_, eq⟩
  · omega
  · omega
  · omega
  · rw [segmentsFrom_start, eq, List.nil_append, segmentsFrom_more second,
      segmentsFrom_more third.between, segmentsFrom_last fourth.between]
  · omega

end Reading

section Writing

/-- A byte of a small enough number. -/
theorem toNat_byte {n : Nat} (h : n < 0x100) : (UInt8.ofNat n).toNat = n :=
  UInt8.toNat_ofNat_of_lt' h

/-- The byte of the last six bits of a number. -/
theorem toNat_tail (n : Nat) : (UInt8.ofNat (n % 0x40 + 0x80)).toNat = n % 0x40 + 0x80 :=
  toNat_byte (by omega)

theorem isTail_tail (n : Nat) : IsTail (UInt8.ofNat (n % 0x40 + 0x80)) := by
  rw [IsTail, toNat_tail]
  omega

/-- The bytes of a character are read as that character, whatever follows them. -/
theorem segmentsFrom_utf8EncodeChar (c : Char) (rest : Bytes) :
    segmentsFrom none (String.utf8EncodeChar c ++ rest)
      = .scalar c :: segmentsFrom none rest := by
  have bounds := toNat_bounds c
  by_cases one : c.toNat ≤ 0x7F
  · have value : (UInt8.ofNat c.toNat).toNat = c.toNat := toNat_byte (by omega)
    rw [utf8EncodeChar_one one, List.singleton_append, segmentsFrom_one (by rw [value]; exact one),
      value, Char.ofNat_toNat]
  by_cases two : c.toNat ≤ 0x7FF
  · have lead : (UInt8.ofNat (c.toNat / 64 % 0x20 + 0xC0)).toNat = c.toNat / 64 % 0x20 + 0xC0 :=
      toNat_byte (by omega)
    have second := between_secondBounds.mpr ⟨isTail_tail c.toNat, by rw [lead]; omega⟩
    have read : segmentsFrom none (_ :: _ :: rest) = _ :=
      segmentsFrom_two (by rw [lead]; omega) second
    rw [utf8EncodeChar_two (by omega) two]
    refine read.trans ?_
    rw [lead, toNat_tail]
    have code : (c.toNat / 64 % 0x20 + 0xC0) % 0x20 * 0x40 + (c.toNat % 0x40 + 0x80) % 0x40
        = c.toNat := by omega
    rw [code, scalarOf_toNat]
  by_cases three : c.toNat ≤ 0xFFFF
  · have lead : (UInt8.ofNat (c.toNat / 4096 % 0x10 + 0xE0)).toNat = c.toNat / 4096 % 0x10 + 0xE0 :=
      toNat_byte (by omega)
    have second := between_secondBounds.mpr ⟨isTail_tail (c.toNat / 64), by
      rw [lead, toNat_tail]; omega⟩
    have read : segmentsFrom none (_ :: _ :: _ :: rest) = _ :=
      segmentsFrom_three (by rw [lead]; omega) second (isTail_tail c.toNat)
    rw [utf8EncodeChar_three (by omega) three]
    refine read.trans ?_
    rw [lead, toNat_tail, toNat_tail]
    have code : ((c.toNat / 4096 % 0x10 + 0xE0) % 0x10 * 0x40
        + (c.toNat / 64 % 0x40 + 0x80) % 0x40) * 0x40 + (c.toNat % 0x40 + 0x80) % 0x40 = c.toNat := by
      omega
    rw [code, scalarOf_toNat]
  · have lead : (UInt8.ofNat (c.toNat / 262144 % 0x08 + 0xF0)).toNat = c.toNat / 262144 % 0x08 + 0xF0 :=
      toNat_byte (by omega)
    have second := between_secondBounds.mpr ⟨isTail_tail (c.toNat / 4096), by
      rw [lead, toNat_tail]; omega⟩
    have read : segmentsFrom none (_ :: _ :: _ :: _ :: rest) = _ :=
      segmentsFrom_four (by rw [lead]; omega) second (isTail_tail (c.toNat / 64)) (isTail_tail c.toNat)
    rw [utf8EncodeChar_four (by omega)]
    refine read.trans ?_
    rw [lead, toNat_tail, toNat_tail, toNat_tail]
    have code : (((c.toNat / 262144 % 0x08 + 0xF0) % 0x08 * 0x40
        + (c.toNat / 4096 % 0x40 + 0x80) % 0x40) * 0x40 + (c.toNat / 64 % 0x40 + 0x80) % 0x40) * 0x40
          + (c.toNat % 0x40 + 0x80) % 0x40 = c.toNat := by
      omega
    rw [code, scalarOf_toNat]

/-- **Characters come back from their bytes.** -/
theorem segments_encodeUtf8 (cs : List Char) :
    segments (encodeUtf8 cs) = cs.map Segment.scalar := by
  unfold segments encodeUtf8
  induction cs with
  | nil => rfl
  | cons c rest ih => rw [List.flatMap_cons, segmentsFrom_utf8EncodeChar, ih, List.map_cons]

/-- Segments without a broken one are those of their characters. -/
theorem scalars?_eq_some_iff {segments : List Segment} {cs : List Char} :
    Segment.scalars? segments = some cs ↔ segments = cs.map .scalar := by
  induction segments generalizing cs with
  | nil =>
    rw [Segment.scalars?, Option.some.injEq, eq_comm, eq_comm (a := []), List.map_eq_nil_iff]
  | cons segment rest ih =>
    cases segment with
    | broken bytes =>
      refine ⟨nofun, fun same => ?_⟩
      cases cs <;> cases same
    | scalar c =>
      rw [Segment.scalars?, Option.map_eq_some_iff]
      constructor
      · rintro ⟨others, read, rfl⟩
        rw [ih.mp read, List.map_cons]
      · intro same
        cases cs with
        | nil => cases same
        | cons d others =>
          cases same
          exact ⟨others, ih.mpr rfl, rfl⟩

/-- **Text is read from its bytes.** -/
theorem decodeUtf8?_encodeUtf8 (cs : List Char) : decodeUtf8? (encodeUtf8 cs) = some cs :=
  scalars?_eq_some_iff.mpr (segments_encodeUtf8 cs)

/-- Texts are told apart by their bytes. -/
theorem encodeUtf8_injective {cs ds : List Char} (same : encodeUtf8 cs = encodeUtf8 ds) : cs = ds := by
  have texts := congrArg decodeUtf8? same
  rw [decodeUtf8?_encodeUtf8, decodeUtf8?_encodeUtf8] at texts
  exact Option.some.inj texts

theorem decodeUtf8Lenient_encodeUtf8 (cs : List Char) : decodeUtf8Lenient (encodeUtf8 cs) = cs := by
  rw [decodeUtf8Lenient, segments_encodeUtf8, List.map_map]
  exact List.map_id cs

end Writing

section Whole

variable {b b₂ b₃ b₄ : UInt8}

theorem byte_eq {n : Nat} (h : n = b.toNat) : UInt8.ofNat n = b :=
  h ▸ UInt8.ofNat_toNat

theorem utf8EncodeChar_scalarOf_one (lead : b.toNat ≤ 0x7F) :
    String.utf8EncodeChar (Char.ofNat b.toNat) = [b] := by
  have valid : b.toNat.isValidChar := .inl (by omega)
  have code := scalarOf_of_valid valid
  rw [scalarOf, if_pos valid] at code
  rw [utf8EncodeChar_one (by omega), code, UInt8.ofNat_toNat]

theorem utf8EncodeChar_scalarOf_two (lead : 0xC2 ≤ b.toNat ∧ b.toNat ≤ 0xDF)
    (second : between (secondBounds b).1 (secondBounds b).2 b₂ = true) :
    String.utf8EncodeChar (scalarOf (b.toNat % 0x20 * 0x40 + b₂.toNat % 0x40)) = [b, b₂] := by
  obtain ⟨⟨low, high⟩, _⟩ := between_secondBounds.mp second
  have code := scalarOf_of_valid (.inl (by omega) : (b.toNat % 0x20 * 0x40 + b₂.toNat % 0x40).isValidChar)
  rw [utf8EncodeChar_two (by omega) (by omega), code, byte_eq (b := b) (by omega),
    byte_eq (b := b₂) (by omega)]

theorem utf8EncodeChar_scalarOf_three (lead : 0xE0 ≤ b.toNat ∧ b.toNat ≤ 0xEF)
    (second : between (secondBounds b).1 (secondBounds b).2 b₂ = true) (third : IsTail b₃) :
    String.utf8EncodeChar
        (scalarOf ((b.toNat % 0x10 * 0x40 + b₂.toNat % 0x40) * 0x40 + b₃.toNat % 0x40))
      = [b, b₂, b₃] := by
  obtain ⟨⟨low, high⟩, shortest, surrogate, _⟩ := between_secondBounds.mp second
  obtain ⟨low₂, high₂⟩ := third
  have code := scalarOf_of_valid (show
    ((b.toNat % 0x10 * 0x40 + b₂.toNat % 0x40) * 0x40 + b₃.toNat % 0x40).isValidChar by
      unfold Nat.isValidChar; omega)
  rw [utf8EncodeChar_three (by omega) (by omega), code, byte_eq (b := b) (by omega),
    byte_eq (b := b₂) (by omega), byte_eq (b := b₃) (by omega)]

theorem utf8EncodeChar_scalarOf_four (lead : 0xF0 ≤ b.toNat ∧ b.toNat ≤ 0xF4)
    (second : between (secondBounds b).1 (secondBounds b).2 b₂ = true) (third : IsTail b₃)
    (fourth : IsTail b₄) :
    String.utf8EncodeChar
        (scalarOf (((b.toNat % 0x08 * 0x40 + b₂.toNat % 0x40) * 0x40 + b₃.toNat % 0x40) * 0x40
          + b₄.toNat % 0x40))
      = [b, b₂, b₃, b₄] := by
  obtain ⟨⟨low, high⟩, _, _, shortest, largest⟩ := between_secondBounds.mp second
  obtain ⟨low₂, high₂⟩ := third
  obtain ⟨low₃, high₃⟩ := fourth
  have code := scalarOf_of_valid (show
    (((b.toNat % 0x08 * 0x40 + b₂.toNat % 0x40) * 0x40 + b₃.toNat % 0x40) * 0x40
      + b₄.toNat % 0x40).isValidChar by unfold Nat.isValidChar; omega)
  rw [utf8EncodeChar_four (by omega), code, byte_eq (b := b) (by omega),
    byte_eq (b := b₂) (by omega), byte_eq (b := b₃) (by omega), byte_eq (b := b₄) (by omega)]

end Whole

section Ascii

/-- No byte of a character beyond ASCII is ASCII. -/
theorem high_of_mem_utf8EncodeChar {c : Char} (above : 0x7F < c.toNat) {b : UInt8}
    (mem : b ∈ String.utf8EncodeChar c) : 0x80 ≤ b.toNat := by
  have bounds := toNat_bounds c
  have tail (n : Nat) : 0x80 ≤ (UInt8.ofNat (n % 0x40 + 0x80)).toNat := (isTail_tail n).1
  have lead {n : Nat} (large : 0x80 ≤ n) (small : n < 0x100) : 0x80 ≤ (UInt8.ofNat n).toNat := by
    rw [toNat_byte small]
    exact large
  by_cases two : c.toNat ≤ 0x7FF
  · rw [utf8EncodeChar_two above two] at mem
    simp only [List.mem_cons, List.not_mem_nil, or_false] at mem
    rcases mem with rfl | rfl
    · exact lead (by omega) (by omega)
    · exact tail _
  by_cases three : c.toNat ≤ 0xFFFF
  · rw [utf8EncodeChar_three (by omega) three] at mem
    simp only [List.mem_cons, List.not_mem_nil, or_false] at mem
    rcases mem with rfl | rfl | rfl
    · exact lead (by omega) (by omega)
    · exact tail _
    · exact tail _
  · rw [utf8EncodeChar_four (by omega)] at mem
    simp only [List.mem_cons, List.not_mem_nil, or_false] at mem
    rcases mem with rfl | rfl | rfl | rfl
    · exact lead (by omega) (by omega)
    · exact tail _
    · exact tail _
    · exact tail _

/-- An ASCII byte among the bytes of a text stands for a character of its own. -/
theorem mem_encodeUtf8 {d : Char} (ascii : d.toNat < 0x80) {cs : List Char} :
    UInt8.ofNat d.toNat ∈ encodeUtf8 cs ↔ d ∈ cs := by
  have value : (UInt8.ofNat d.toNat).toNat = d.toNat := toNat_byte (by omega)
  refine List.mem_flatMap.trans ⟨fun ⟨c, mem, here⟩ => ?_, fun mem => ⟨d, mem, ?_⟩⟩
  · by_cases one : c.toNat ≤ 0x7F
    · rw [utf8EncodeChar_one one] at here
      have same := congrArg UInt8.toNat (List.mem_singleton.mp here)
      rw [value, toNat_byte (by omega)] at same
      rwa [← Char.ofNat_toNat d, same, Char.ofNat_toNat]
    · have high := high_of_mem_utf8EncodeChar (by omega) here
      omega
  · rw [utf8EncodeChar_one (by omega)]
    exact List.mem_singleton_self _

end Ascii

end Gameshelf.Encoding
