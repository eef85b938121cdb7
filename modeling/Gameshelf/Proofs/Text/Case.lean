import Gameshelf.Proofs.Text.Loose

/-!
Capital and small forms. No capital form of a text has a small letter of ASCII in it
(`not_isSmall_of_mem_upperChars`), so a text whose capital form is of hexadecimal digits alone is no different
when its capital form is taken again (`upperChars_of_isHexDigit`). A small form in ASCII without the letter k
is that of a text in ASCII (`lower_eq_iff`).
-/

namespace Gameshelf

namespace Text

/-- **Codes of the small letters of ASCII.** -/
def IsSmall (code : Nat) : Prop :=
  0x61 ≤ code ∧ code ≤ 0x7A

instance (code : Nat) : Decidable (IsSmall code) :=
  inferInstanceAs (Decidable (_ ∧ _))

theorem not_isSmall_ofNat {code : Nat} (large : ¬IsSmall code) : ¬IsSmall (Char.ofNat code).toNat := by
  by_cases valid : code.isValidChar
  · rw [Char.ofNat, dif_pos valid]
    exact large
  · rw [Char.ofNat, dif_neg valid]
    decide

/-- What is found for a code is where a run that holds it sends it. -/
theorem exists_shift {shifts : List Shift} {n m : Nat} (found : shift? shifts n = some m) :
    ∃ s ∈ shifts, s.first ≤ n ∧ n ≤ s.last ∧ m = s.target + (n - s.first) := by
  induction shifts with
  | nil => cases found
  | cons s rest ih =>
    simp only [shift?] at found
    split at found
    · cases found
    split at found
    · next applied =>
      cases found
      unfold Shift.apply? at applied
      split at applied
      · next within =>
        cases applied
        exact ⟨s, List.mem_cons_self, within.1, within.2.1, rfl⟩
      · cases applied
    · obtain ⟨other, mem, bounds⟩ := ih found
      exact ⟨other, List.mem_cons_of_mem _ mem, bounds⟩

/-- No run of capitals gives small letters of ASCII. -/
theorem upperShifts_large : ∀ s ∈ upperShifts, s.target + (s.last - s.first) < 0x61 ∨ 0x7A < s.target := by
  decide +kernel

theorem upperExpansions_large : ∀ entry ∈ upperExpansions, ∀ code ∈ entry.2, ¬IsSmall code := by
  decide +kernel

/-- Every small letter of ASCII has a capital form. -/
theorem shift?_isSmall : ∀ n < 0x7B, 0x61 ≤ n → (shift? upperShifts n).isSome = true := by
  decide +kernel

/-- **No capital form is a small letter of ASCII.** -/
theorem not_isSmall_of_mem_upperChar {c capital : Char} (mem : capital ∈ upperChar c) :
    ¬IsSmall capital.toNat := by
  unfold upperChar at mem
  split at mem
  · next codes expanded =>
    obtain ⟨code, listed, rfl⟩ := List.mem_map.mp mem
    obtain ⟨before, after, entries, _⟩ := List.lookup_eq_some_iff.mp expanded
    have entry : (c.toNat, codes) ∈ upperExpansions := by
      rw [entries]
      exact List.mem_append_right _ List.mem_cons_self
    exact not_isSmall_ofNat (upperExpansions_large _ entry code listed)
  · rw [List.mem_singleton.mp mem]
    cases shifted : shift? upperShifts c.toNat with
    | none =>
      rw [Option.map_none, Option.getD_none]
      rintro ⟨above, below⟩
      have found := shift?_isSmall c.toNat (by omega) above
      rw [shifted] at found
      cases found
    | some code =>
      obtain ⟨s, listed, above, below, rfl⟩ := exists_shift shifted
      have bounds := upperShifts_large s listed
      apply not_isSmall_ofNat
      unfold IsSmall
      omega

theorem not_isSmall_of_mem_upperChars {cs : List Char} {capital : Char} (mem : capital ∈ upperChars cs) :
    ¬IsSmall capital.toNat := by
  obtain ⟨c, _, mem⟩ := List.mem_flatMap.mp mem
  exact not_isSmall_of_mem_upperChar mem

/-- The codes of hexadecimal digits are small. -/
theorem toNat_lt_of_isHexDigit {c : Char} (digit : isHexDigit c = true) : c.toNat < 0x80 := by
  have upTo {last : Char} (small : last.toNat < 0x80) (le : c ≤ last) : c.toNat < 0x80 :=
    Nat.lt_of_le_of_lt le small
  unfold isHexDigit hexValue? at digit
  split at digit
  · next within => exact upTo (by decide) (of_decide_eq_true (Bool.and_eq_true_iff.mp within).2)
  · split at digit
    · next within => exact upTo (by decide) (of_decide_eq_true (Bool.and_eq_true_iff.mp within).2)
    · split at digit
      · next within => exact upTo (by decide) (of_decide_eq_true (Bool.and_eq_true_iff.mp within).2)
      · cases digit

/-- What holds of the codes of ASCII holds of its characters. -/
theorem forall_ascii {P : Char → Prop} (each : ∀ n < 0x80, P (Char.ofNat n)) {c : Char} (ascii : c.toNat < 0x80) :
    P c := by
  have own := each c.toNat ascii
  rwa [Char.ofNat_toNat] at own

theorem upperChar_of_isHexDigit {c : Char} (digit : isHexDigit c = true) (large : ¬IsSmall c.toNat) :
    upperChar c = [c] := by
  refine forall_ascii (P := fun c => isHexDigit c = true → ¬IsSmall c.toNat → upperChar c = [c]) ?_
    (toNat_lt_of_isHexDigit digit) digit large
  decide +kernel

/-- **A capital form of hexadecimal digits is its own capital form.** -/
theorem upperChars_of_isHexDigit {cs : List Char} (digits : ∀ c ∈ upperChars cs, isHexDigit c = true) :
    upperChars (upperChars cs) = upperChars cs := by
  have large : ∀ c ∈ upperChars cs, ¬IsSmall c.toNat := fun _ mem => not_isSmall_of_mem_upperChars mem
  generalize upperChars cs = capitals at digits large
  induction capitals with
  | nil => rfl
  | cons c rest ih =>
    obtain ⟨digit, digits⟩ := List.forall_mem_cons.mp digits
    obtain ⟨first, large⟩ := List.forall_mem_cons.mp large
    rw [upperChars, List.flatMap_cons, upperChar_of_isHexDigit digit first]
    exact congrArg (c :: ·) (ih digits large)

section Small

variable {c : Char} {cs : List Char}

/-- A run of letters outside ASCII sends none of them into it, but for the sign that is sent to k. -/
theorem lowerShifts_large : ∀ s ∈ lowerShifts, s.last < 0x80 ∨
    (0x80 ≤ s.target ∧ (s.target + (s.last - s.first) < 0xD800 ∨
      0xDFFF < s.target ∧ s.target + (s.last - s.first) < 0x110000)) ∨
    s.first = s.last ∧ s.target = 'k'.toNat := by
  decide +kernel

theorem lowerChar_of_ascii (ascii : c.toNat < 0x80) : lowerChar c = [c.toLower] := by
  refine forall_ascii (P := fun c => lowerChar c = [c.toLower]) ?_ ascii
  decide +kernel

/-- The small form of a text in ASCII is that of its letters one by one. -/
theorem lowerAfter_of_ascii (ascii : ∀ c ∈ cs, c.toNat < 0x80) (before : List Char) :
    lowerAfter before cs = cs.map Char.toLower := by
  induction cs generalizing before with
  | nil => rfl
  | cons c rest ih =>
    obtain ⟨small, ascii⟩ := List.forall_mem_cons.mp ascii
    have other : c ≠ 'Σ' := by
      rintro rfl
      exact absurd small (by decide)
    rw [lowerAfter, if_neg other, lowerChar_of_ascii small, ih ascii, List.map_cons, List.singleton_append]

/-- **A character outside ASCII** is none but k in its small form. -/
theorem exists_mem_lowerChar (large : 0x80 ≤ c.toNat) : ∃ d ∈ lowerChar c, 0x80 ≤ d.toNat ∨ d = 'k' := by
  unfold lowerChar
  split
  · exact ⟨Char.ofNat 0x307, by decide, .inl (by decide)⟩
  · refine ⟨_, List.mem_singleton.mpr rfl, ?_⟩
    cases shifted : shift? lowerShifts c.toNat with
    | none => exact .inl large
    | some code =>
      obtain ⟨s, listed, above, below, rfl⟩ := exists_shift shifted
      rw [Option.map_some, Option.getD_some]
      rcases lowerShifts_large s listed with low | ⟨high, valid⟩ | ⟨single, same⟩
      · omega
      · have valid : (s.target + (c.toNat - s.first)).isValidChar := by
          unfold Nat.isValidChar
          omega
        left
        rw [Char.ofNat, dif_pos valid]
        exact Nat.le_add_right_of_le high
      · right
        rw [show s.target + (c.toNat - s.first) = 'k'.toNat by omega, Char.ofNat_toNat]

theorem exists_mem_lowerAfter (mem : c ∈ cs) (large : 0x80 ≤ c.toNat) (before : List Char) :
    ∃ d ∈ lowerAfter before cs, 0x80 ≤ d.toNat ∨ d = 'k' := by
  induction cs generalizing before with
  | nil => cases mem
  | cons first rest ih =>
    rw [lowerAfter]
    rcases List.mem_cons.mp mem with rfl | mem
    · have here : ∃ d ∈ (if c = 'Σ' then (if meetsCased before && !meetsCased rest then ['ς'] else ['σ'])
          else lowerChar c), 0x80 ≤ d.toNat ∨ d = 'k' := by
        split
        · split
          · exact ⟨'ς', List.mem_singleton.mpr rfl, .inl (by decide)⟩
          · exact ⟨'σ', List.mem_singleton.mpr rfl, .inl (by decide)⟩
        · exact exists_mem_lowerChar large
      obtain ⟨d, mem, foreign⟩ := here
      exact ⟨d, List.mem_append_left _ mem, foreign⟩
    · obtain ⟨d, mem, foreign⟩ := ih mem (first :: before)
      exact ⟨d, List.mem_append_right _ mem, foreign⟩

/-- Making the capitals of ASCII small brings nothing into ASCII. -/
theorem ascii_of_toLower (small : c.toLower.toNat < 0x80) : c.toNat < 0x80 := by
  by_contra large
  have same : c.toLower = c := dif_neg fun capital =>
    absurd (Nat.le_trans (Nat.not_lt.mp large) (UInt32.le_iff_toNat_le.mp capital.2)) (by decide)
  rw [same] at small
  exact large small

/-- **A text whose small form is in ASCII and without k** is that form in any letter case of ASCII. -/
theorem lower_eq_iff {s plain : String} (letters : ∀ d ∈ plain.toList, d.toNat < 0x80 ∧ d ≠ 'k') :
    lower s = plain ↔ s.toList.map Char.toLower = plain.toList := by
  constructor
  · intro form
    rw [lower] at form
    have ascii : ∀ c ∈ s.toList, c.toNat < 0x80 := by
      intro c mem
      by_contra large
      obtain ⟨d, mem, foreign⟩ := exists_mem_lowerAfter mem (Nat.not_lt.mp large) []
      rw [← form, String.toList_ofList] at letters
      exact foreign.elim (Nat.not_le.mpr (letters d mem).1) (letters d mem).2
    rw [← form, String.toList_ofList, lowerAfter_of_ascii ascii]
  · intro form
    have ascii : ∀ c ∈ s.toList, c.toNat < 0x80 := fun c mem =>
      ascii_of_toLower (letters c.toLower (form ▸ List.mem_map_of_mem mem)).1
    rw [lower, lowerAfter_of_ascii ascii, form, String.ofList_toList]

end Small

end Text

open Text

/-- The capital form of a string is that of its characters. -/
theorem LooseText.upper_ofString (s : String) : (ofString s).upper = ofString (Text.upper s) := by
  rw [upper, marks_ofString, Text.upper, ofString, String.toList_ofList, upperChars, List.flatMap_map,
    List.map_flatMap]

end Gameshelf
