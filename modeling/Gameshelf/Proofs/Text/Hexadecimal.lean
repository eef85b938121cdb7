import Mathlib.Data.List.Induction
import Mathlib.Data.Nat.Digits.Defs
import Gameshelf.Title.Id
import Gameshelf.Proofs.Text.Case

/-!
Hexadecimal numerals. Digits stand for the number that they are in base sixteen (`hexNumber`), whichever their
letter case is (`upperChars_digits`). A numeral in capitals is told by its length and its number
(`eq_of_hexNumber_eq`), and a number that is written with enough digits is read back
(`digitsIn_hexDigitUpper`). Of all characters only digits and one ligature have digits for capitals
(`forall_upperChar_iff`).
-/

namespace Gameshelf.Text

/-- The ASCII hexadecimal digits in capitals. -/
def IsCapitalHex (c : Char) : Prop :=
  ('0' ≤ c ∧ c ≤ '9') ∨ ('A' ≤ c ∧ c ≤ 'F')

instance (c : Char) : Decidable (IsCapitalHex c) :=
  inferInstanceAs (Decidable (_ ∨ _))

/-- The number that a digit stands for. -/
def hexDigit (c : Char) : Nat :=
  (hexValue? c).getD 0

/-- **The number that hexadecimal digits stand for** in base sixteen. -/
def hexNumber (cs : List Char) : Nat :=
  Nat.ofDigits 16 (cs.map hexDigit).reverse

/-- The ligature of two small letters f. -/
def ligature : Char := 'ﬀ'

/-- What a test finds of all characters of a text holds of each of them. -/
theorem forall_mem_of_all {P : Char → Prop} [DecidablePred P] {cs : List Char} (all : cs.all (P ·) = true) :
    ∀ c ∈ cs, P c := by
  simpa using all

section Digits

variable {c : Char}

theorem ascii_of_isCapitalHex (capital : IsCapitalHex c) : c.toNat < 0x80 := by
  have upTo {last : Char} (small : last.toNat < 0x80) (le : c ≤ last) : c.toNat < 0x80 :=
    Nat.lt_of_le_of_lt le small
  rcases capital with ⟨_, le⟩ | ⟨_, le⟩
  · exact upTo (by decide) le
  · exact upTo (by decide) le

/-- **A digit in capitals** is a digit, its own capital form, and how the number that it stands for is written. -/
theorem digit_of_isCapitalHex (capital : IsCapitalHex c) :
    isHexDigit c = true ∧ upperChar c = [c] ∧ hexDigitUpper (hexDigit c) = c := by
  refine forall_ascii (P := fun c => IsCapitalHex c →
    isHexDigit c = true ∧ upperChar c = [c] ∧ hexDigitUpper (hexDigit c) = c) ?_ (ascii_of_isCapitalHex capital) capital
  decide +kernel

/-- **The capital form of a digit** is one digit in capitals, for the same number. -/
theorem exists_upperChar (digit : isHexDigit c = true) :
    ∃ d, upperChar c = [d] ∧ IsCapitalHex d ∧ hexDigit d = hexDigit c := by
  refine ⟨c.toUpper, forall_ascii (P := fun c => isHexDigit c = true →
    upperChar c = [c.toUpper] ∧ IsCapitalHex c.toUpper ∧ hexDigit c.toUpper = hexDigit c) ?_
    (toNat_lt_of_isHexDigit digit) digit⟩
  decide +kernel

/-- Digits stand for numbers below sixteen, and those behind F are small letters. -/
theorem bounds_of_hexValue? {d : Nat} (value : hexValue? c = some d) : d < 16 ∧ (c.toNat ≤ 0x46 ∨ IsSmall c.toNat) := by
  have bounds {first last : Char} (within : (decide (first ≤ c) && decide (c ≤ last)) = true) :
      first.toNat ≤ c.toNat ∧ c.toNat ≤ last.toNat := by
    rw [Bool.and_eq_true, decide_eq_true_eq, decide_eq_true_eq] at within
    exact within
  unfold hexValue? at value
  unfold IsSmall
  split at value
  · next within =>
    have ends : '0'.toNat = 0x30 ∧ '9'.toNat = 0x39 := by decide
    have := bounds within
    cases value
    omega
  · split at value
    · next within =>
      have ends : 'a'.toNat = 0x61 ∧ 'f'.toNat = 0x66 := by decide
      have := bounds within
      cases value
      omega
    · split at value
      · next within =>
        have ends : 'A'.toNat = 0x41 ∧ 'F'.toNat = 0x46 := by decide
        have := bounds within
        cases value
        omega
      · cases value

theorem hexDigit_lt (c : Char) : hexDigit c < 16 := by
  unfold hexDigit
  cases value : hexValue? c with
  | none => decide
  | some d => exact (bounds_of_hexValue? value).1

/-- What is written for a number below sixteen is a digit in capitals, for that number. -/
theorem isCapitalHex_hexDigitUpper : ∀ d < 16, IsCapitalHex (hexDigitUpper d) ∧ hexDigit (hexDigitUpper d) = d := by
  decide

/-- Only one letter has several capitals that are all digits. -/
theorem upperExpansions_digits :
    ∀ entry ∈ upperExpansions, (∀ code ∈ entry.2, isHexDigit (Char.ofNat code) = true) → entry.1 = 0xFB00 := by
  decide +kernel

/-- The runs of capitals that hold letters outside ASCII begin behind the digits in capitals. -/
theorem upperShifts_foreign : ∀ s ∈ upperShifts, s.last < 0x80 ∨ 0x46 < s.target := by
  decide +kernel

theorem upperChar_ligature : upperChar ligature = ['F', 'F'] := by
  rfl

/-- A character outside ASCII is moved behind the digits. -/
theorem not_isHexDigit_of_shift {code : Nat} (foreign : 0x80 ≤ c.toNat)
    (shifted : shift? upperShifts c.toNat = some code) (large : ¬IsSmall (Char.ofNat code).toNat) :
    ¬isHexDigit (Char.ofNat code) = true := by
  intro digit
  obtain ⟨s, listed, above, below, rfl⟩ := exists_shift shifted
  have behind := (upperShifts_foreign s listed).resolve_left (by omega)
  obtain ⟨d, value⟩ := Option.isSome_iff_exists.mp digit
  have low := (bounds_of_hexValue? value).2.resolve_right large
  -- A code that is none of a character is read as NUL, which is no digit either.
  by_cases valid : (s.target + (c.toNat - s.first)).isValidChar
  · rw [Char.ofNat, dif_pos valid] at low
    exact absurd (Nat.le_trans (Nat.le_add_right _ _) low) (Nat.not_le.mpr behind)
  · rw [Char.ofNat, dif_neg valid] at digit
    exact absurd digit (by decide)

theorem eq_ligature_of_upperChar (foreign : 0x80 ≤ c.toNat) (capitals : ∀ d ∈ upperChar c, isHexDigit d = true) :
    c = ligature := by
  have large {d : Char} (mem : d ∈ upperChar c) : ¬IsSmall d.toNat := not_isSmall_of_mem_upperChar mem
  unfold upperChar at capitals large
  split at capitals
  · next codes expanded =>
    obtain ⟨before, after, entries, _⟩ := List.lookup_eq_some_iff.mp expanded
    have listed : (c.toNat, codes) ∈ upperExpansions := by
      rw [entries]
      exact List.mem_append_right _ List.mem_cons_self
    have code : c.toNat = 0xFB00 :=
      upperExpansions_digits _ listed fun code mem => capitals _ (List.mem_map_of_mem mem)
    rw [← Char.ofNat_toNat c, code]
    rfl
  · next unexpanded =>
    rw [unexpanded] at large
    have digit := capitals _ (List.mem_singleton.mpr rfl)
    cases shifted : shift? upperShifts c.toNat with
    | none =>
      rw [shifted] at digit
      exact absurd (toNat_lt_of_isHexDigit digit) (Nat.not_lt.mpr foreign)
    | some code =>
      rw [shifted] at digit large
      exact absurd digit (not_isHexDigit_of_shift foreign shifted (large (List.mem_singleton.mpr rfl)))

/-- **The capitals of a character are digits** if it is one, or if it is the ligature of two letters f. -/
theorem forall_upperChar_iff : (∀ d ∈ upperChar c, isHexDigit d = true) ↔ isHexDigit c = true ∨ c = ligature := by
  constructor
  · intro capitals
    by_cases ascii : c.toNat < 0x80
    · left
      refine forall_ascii (P := fun c => (upperChar c).all isHexDigit = true → isHexDigit c = true) ?_ ascii
        (List.all_eq_true.mpr capitals)
      decide +kernel
    · exact .inr (eq_ligature_of_upperChar (Nat.not_lt.mp ascii) capitals)
  · rintro (digit | rfl)
    · obtain ⟨d, single, capital, _⟩ := exists_upperChar digit
      rw [single]
      exact List.forall_mem_singleton.mpr (digit_of_isCapitalHex capital).1
    · rw [upperChar_ligature]
      exact List.all_eq_true.mp (by decide)

end Digits

section Numbers

variable {cs left right : List Char}

theorem hexNumber_append (left right : List Char) :
    hexNumber (left ++ right) = hexNumber left * 16 ^ right.length + hexNumber right := by
  rw [hexNumber, List.map_append, List.reverse_append, Nat.ofDigits_append, List.length_reverse, List.length_map,
    Nat.mul_comm, Nat.add_comm]
  rfl

/-- Digits are read from the first to the last. -/
theorem ofHex_eq_hexNumber (cs : List Char) : TitleId.ofHex cs = hexNumber cs := by
  induction cs using List.reverseRecOn with
  | nil => rfl
  | append_singleton cs c ih =>
    rw [hexNumber_append, ← ih]
    simp [TitleId.ofHex, hexNumber, hexDigit]

/-- The digits in base sixteen are digits of that base. -/
theorem lt_of_mem_digits {d : Nat} (mem : d ∈ (cs.map hexDigit).reverse) : d < 16 := by
  obtain ⟨c, _, rfl⟩ := List.mem_map.mp (List.mem_reverse.mp mem)
  exact hexDigit_lt c

theorem hexNumber_lt (cs : List Char) : hexNumber cs < 16 ^ cs.length := by
  have digits : ∀ d ∈ (cs.map hexDigit).reverse, d < 16 := fun _ => lt_of_mem_digits
  have bound := Nat.ofDigits_lt_base_pow_length (by decide) digits
  rwa [List.length_reverse, List.length_map] at bound

/-- **A numeral in capitals is told by its length and its number.** -/
theorem eq_of_hexNumber_eq (whole : left.length = right.length) (capitalsLeft : ∀ c ∈ left, IsCapitalHex c)
    (capitalsRight : ∀ c ∈ right, IsCapitalHex c) (same : hexNumber left = hexNumber right) : left = right := by
  have lengths : (left.map hexDigit).reverse.length = (right.map hexDigit).reverse.length := by simpa using whole
  have digits : left.map hexDigit = right.map hexDigit := List.reverse_injective <|
    Nat.ofDigits_inj_of_len_eq (by decide) lengths (fun _ => lt_of_mem_digits) (fun _ => lt_of_mem_digits) same
  have back {cs : List Char} (capitals : ∀ c ∈ cs, IsCapitalHex c) : (cs.map hexDigit).map hexDigitUpper = cs := by
    rw [List.map_map]
    exact (List.map_congr_left fun c mem => (digit_of_isCapitalHex (capitals c mem)).2.2).trans (List.map_id cs)
  rw [← back capitalsLeft, digits, back capitalsRight]

/-- The capital form of digits has as many digits, all in capitals, and stands for the same number. -/
theorem upperChars_digits (digits : ∀ c ∈ cs, isHexDigit c = true) :
    (upperChars cs).length = cs.length ∧ (∀ c ∈ upperChars cs, IsCapitalHex c) ∧
      hexNumber (upperChars cs) = hexNumber cs := by
  induction cs with
  | nil => exact ⟨rfl, nofun, rfl⟩
  | cons c rest ih =>
    obtain ⟨digit, others⟩ := List.forall_mem_cons.mp digits
    obtain ⟨whole, capitals, same⟩ := ih others
    obtain ⟨d, single, capital, value⟩ := exists_upperChar digit
    have cons : upperChars (c :: rest) = [d] ++ upperChars rest := by rw [upperChars, List.flatMap_cons, single]; rfl
    rw [cons]
    refine ⟨by rw [List.length_append, whole, Nat.add_comm]; rfl, ?_, ?_⟩
    · exact List.forall_mem_cons.mpr ⟨capital, capitals⟩
    · rw [hexNumber_append, ← List.singleton_append (l := rest), hexNumber_append, same, whole]
      simp [hexNumber, value]

/-- Capitals are their own capital form. -/
theorem upperChars_capitals (capitals : ∀ c ∈ cs, IsCapitalHex c) : upperChars cs = cs := by
  induction cs with
  | nil => rfl
  | cons c rest ih =>
    obtain ⟨capital, others⟩ := List.forall_mem_cons.mp capitals
    rw [upperChars, List.flatMap_cons, (digit_of_isCapitalHex capital).2.1]
    exact congrArg (c :: ·) (ih others)

/-- The digits of a number, the last one first, are the number up to a power of sixteen. -/
theorem ofDigits_residues (width n : Nat) :
    Nat.ofDigits 16 ((List.range width).map fun i => n / 16 ^ i % 16) = n % 16 ^ width := by
  induction width with
  | zero => simp [Nat.mod_one]
  | succ width ih =>
    rw [List.range_succ, List.map_append, Nat.ofDigits_append, ih, List.length_map, List.length_range, Nat.mod_pow_succ]
    simp

/-- **A number that is written with enough digits is read back**, and the digits are in capitals. -/
theorem digitsIn_hexDigitUpper {width n : Nat} (fits : n < 16 ^ width) (some : 0 < width) :
    (digitsIn 16 hexDigitUpper width n).length = width ∧
      (∀ c ∈ digitsIn 16 hexDigitUpper width n, IsCapitalHex c) ∧
      hexNumber (digitsIn 16 hexDigitUpper width n) = n := by
  have short : (Nat.toDigits 16 n).length ≤ width := (Nat.length_toDigits_le_iff (by decide) some).mpr fits
  have written : digitsIn 16 hexDigitUpper width n
      = (List.range width).reverse.map fun i => hexDigitUpper (n / 16 ^ i % 16) := by
    rw [digitsIn, Nat.max_eq_left short]
    rfl
  have digit (i : Nat) : n / 16 ^ i % 16 < 16 := Nat.mod_lt _ (by decide)
  rw [written]
  refine ⟨by simp, ?_, ?_⟩
  · intro c mem
    obtain ⟨i, _, rfl⟩ := List.mem_map.mp mem
    exact (isCapitalHex_hexDigitUpper _ (digit i)).1
  · have values : (((List.range width).reverse.map fun i => hexDigitUpper (n / 16 ^ i % 16)).map hexDigit).reverse
        = (List.range width).map fun i => n / 16 ^ i % 16 := by
      rw [List.map_map, List.map_reverse, List.reverse_reverse]
      exact List.map_congr_left fun i _ => (isCapitalHex_hexDigitUpper _ (digit i)).2
    rw [hexNumber, values, ofDigits_residues, Nat.mod_eq_of_lt fits]

end Numbers

end Gameshelf.Text
