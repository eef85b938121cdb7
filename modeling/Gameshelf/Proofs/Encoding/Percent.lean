import Gameshelf.Encoding.Percent
import Gameshelf.Proofs.Encoding.Utf8

/-!
Escaping and what becomes of it when it is read: text that was escaped is read as that text
(`decode_encode`), whichever ASCII characters were left as they are, as long as the percent sign is none
of them.
-/

namespace Gameshelf.Encoding.Percent

open Text

/-- Characters of ASCII alone. -/
def IsAscii (cs : List Char) : Prop :=
  ∀ c ∈ cs, c.toNat < 0x80

/-- **Characters that may be left as they are**: those of ASCII other than the percent sign. -/
def MayStay (safe : List Char) : Prop :=
  ∀ c ∈ safe, c.toNat < 0x80 ∧ c ≠ '%'

section Unescaping

theorem hexValue?_hexDigitUpper : ∀ n < 16, hexValue? (hexDigitUpper n) = some n := by decide

/-- An escape is read as its byte. -/
theorem unescape_escape (b : UInt8) (rest : List Char) :
    unescape (escape b ++ rest) = b :: unescape rest := by
  have high := hexValue?_hexDigitUpper (b.toNat / 16) (by have := b.toNat_lt; omega)
  have low := hexValue?_hexDigitUpper (b.toNat % 16) (Nat.mod_lt _ (by decide))
  simp only [escape, List.cons_append, List.nil_append, unescape, high, low]
  rw [byte_eq (b := b) (by omega)]

theorem unescape_escapes (bytes : Bytes) (rest : List Char) :
    unescape (bytes.flatMap escape ++ rest) = bytes ++ unescape rest := by
  induction bytes with
  | nil => rfl
  | cons b bytes ih => rw [List.flatMap_cons, List.append_assoc, unescape_escape, ih, List.cons_append]

/-- A character that is no percent sign is read as itself. -/
theorem unescape_cons {c : Char} (plain : c ≠ '%') (rest : List Char) :
    unescape (c :: rest) = UInt8.ofNat c.toNat :: unescape rest := by
  rw [unescape]
  exact fun _ _ _ sign => absurd sign plain

theorem bounds_of_range {c first last : Char} (above : '%' < first) (ascii : last.toNat < 0x80)
    (low : first ≤ c) (high : c ≤ last) : c.toNat < 0x80 ∧ c ≠ '%' := by
  refine ⟨Nat.lt_of_le_of_lt high ascii, ?_⟩
  rintro rfl
  exact absurd above (Char.not_lt.mpr low)

theorem isUnreserved_bounds {c : Char} (unreserved : isUnreserved c = true) :
    c.toNat < 0x80 ∧ c ≠ '%' := by
  simp only [isUnreserved, isDigit, Bool.or_eq_true, Bool.and_eq_true, decide_eq_true_eq,
    beq_iff_eq] at unreserved
  rcases unreserved with (((((⟨low, high⟩ | ⟨low, high⟩) | ⟨low, high⟩) | rfl) | rfl) | rfl) | rfl
  · exact bounds_of_range (by decide) (by decide) low high
  · exact bounds_of_range (by decide) (by decide) low high
  · exact bounds_of_range (by decide) (by decide) low high
  all_goals decide

variable {safe : List Char}

/-- A character that was escaped, or left as it is, is read as its bytes. -/
theorem unescape_encodeChar (stay : MayStay safe) (c : Char) (rest : List Char) :
    unescape (encodeChar safe c ++ rest) = String.utf8EncodeChar c ++ unescape rest := by
  unfold encodeChar
  split
  · next left =>
    obtain ⟨ascii, plain⟩ : c.toNat < 0x80 ∧ c ≠ '%' := by
      rcases Bool.or_eq_true_iff.mp left with unreserved | listed
      · exact isUnreserved_bounds unreserved
      · exact stay c (List.contains_iff_mem.mp listed)
    rw [List.singleton_append, unescape_cons plain, utf8EncodeChar_one (Nat.le_of_lt_succ ascii),
      List.singleton_append]
  · exact unescape_escapes _ rest

/-- Text that was escaped is read as its bytes. -/
theorem unescape_encode (stay : MayStay safe) (cs : List Char) :
    unescape (encode safe cs) = encodeUtf8 cs := by
  induction cs with
  | nil => rfl
  | cons c rest ih =>
    rw [encode, List.flatMap_cons, unescape_encodeChar stay]
    exact congrArg _ ih

end Unescaping

section Decoding

variable {safe : List Char}

theorem isUnreserved_hexDigitUpper : ∀ n < 16, isUnreserved (hexDigitUpper n) = true := by decide

/-- What escaped text is made of. -/
theorem mem_encode {cs : List Char} {c : Char} (mem : c ∈ encode safe cs) :
    isUnreserved c = true ∨ c ∈ safe ∨ c = '%' := by
  obtain ⟨origin, _, mem⟩ := List.mem_flatMap.mp mem
  unfold encodeChar at mem
  split at mem
  · next left =>
    rw [List.mem_singleton.mp mem]
    rcases Bool.or_eq_true_iff.mp left with unreserved | listed
    · exact .inl unreserved
    · exact .inr (.inl (List.contains_iff_mem.mp listed))
  · obtain ⟨b, _, mem⟩ := List.mem_flatMap.mp mem
    simp only [escape, List.mem_cons, List.not_mem_nil, or_false] at mem
    rcases mem with rfl | rfl | rfl
    · exact .inr (.inr rfl)
    · exact .inl (isUnreserved_hexDigitUpper _ (by have := b.toNat_lt; omega))
    · exact .inl (isUnreserved_hexDigitUpper _ (Nat.mod_lt _ (by decide)))

theorem isAscii_encode (stay : MayStay safe) (cs : List Char) : IsAscii (encode safe cs) := by
  intro c mem
  rcases mem_encode mem with unreserved | listed | rfl
  · exact (isUnreserved_bounds unreserved).1
  · exact (stay c listed).1
  · decide

/-- Text of ASCII alone is one run. -/
theorem decodeFrom_of_isAscii (run : List Char) {cs : List Char} (ascii : IsAscii cs) :
    decodeFrom run cs = decodeUtf8Lenient (unescape (run.reverse ++ cs)) := by
  induction cs generalizing run with
  | nil => rw [decodeFrom, List.append_nil]
  | cons c rest ih =>
    obtain ⟨here, others⟩ := List.forall_mem_cons.mp ascii
    rw [decodeFrom, if_pos here, ih _ others, List.reverse_cons, List.append_assoc,
      List.singleton_append]

/-- **Text that was escaped is read as that text.** -/
theorem decode_encode (stay : MayStay safe) (cs : List Char) : decode (encode safe cs) = cs := by
  rw [decode, decodeFrom_of_isAscii [] (isAscii_encode stay cs), List.reverse_nil, List.nil_append,
    unescape_encode stay, decodeUtf8Lenient_encodeUtf8]

/-- **Text that need not be escaped is read as it stands.** -/
theorem decode_of_plain (stay : MayStay safe) {cs : List Char}
    (plain : ∀ c ∈ cs, (isUnreserved c || safe.contains c) = true) : decode cs = cs := by
  have same : encode safe cs = cs := by
    induction cs with
    | nil => rfl
    | cons c rest ih =>
      obtain ⟨here, others⟩ := List.forall_mem_cons.mp plain
      rw [encode, List.flatMap_cons, encodeChar, if_pos here]
      exact congrArg (c :: ·) (ih others)
  calc decode cs = decode (encode safe cs) := by rw [same]
    _ = cs := decode_encode stay cs

end Decoding

end Gameshelf.Encoding.Percent
