import Mathlib.Algebra.Group.Nat.Defs
import Gameshelf.Numeral

/-!
Numerals whose runs of digits are short enough to be read, and numerals as they are written: a number is
read as it is written (`ofDigits_toDigits`).
-/

namespace Gameshelf.Numeral

open Text

/-- **No run of digits in a text is longer than may be read.** -/
def Readable (cs : List Char) : Prop :=
  ∀ run : List Char, run <:+: cs → run.all isDigit → run.length ≤ digitLimit

/-- A run of digits in a readable text has a value. -/
theorem natOfDigits_of_readable {cs run : List Char} (readable : Readable cs) (within : run <:+: cs)
    (digits : run.all isDigit) : natOfDigits run = .ok (ofDigits (run.map digitValue)) :=
  if_neg (Nat.not_lt.mpr (readable run within digits))

/-- A short text is readable. -/
theorem readable_of_length_le {cs : List Char} (short : cs.length ≤ digitLimit) : Readable cs :=
  fun _ within _ => Nat.le_trans within.length_le short

/-- The digits of a number as it is written are digits. -/
theorem isDigit_of_mem_toDigits {n : Nat} {c : Char} (mem : c ∈ Nat.toDigits 10 n) : isDigit c = true := by
  have digit := Nat.isDigit_of_mem_toDigits (by decide) (Nat.le_refl 10) mem
  simp only [Char.isDigit, isDigit, Bool.and_eq_true, decide_eq_true_eq] at digit ⊢
  exact digit

/-- The number that characters stand for, as core reads them. -/
theorem ofDigits_map_digitValue (cs : List Char) : ofDigits (cs.map digitValue) = Nat.ofDigitChars 10 cs 0 :=
  List.foldl_map

/-- **A number is read as it is written.** -/
theorem ofDigits_toDigits (n : Nat) : ofDigits ((Nat.toDigits 10 n).map digitValue) = n := by
  rw [ofDigits_map_digitValue, Nat.ofDigitChars_ten_toDigits]

/-- The written form of a number that is short enough is no longer than may be read. -/
theorem length_toDigits_le {n : Nat} (short : n < 10 ^ digitLimit) :
    (Nat.toDigits 10 n).length ≤ digitLimit :=
  (Nat.length_toDigits_le_iff (by decide) (by decide)).mpr short

/-- The written form of a number above zero does not begin with a zero. -/
theorem exists_toDigits {n : Nat} (positive : 0 < n) :
    ∃ c rest, Nat.toDigits 10 n = c :: rest ∧ c ≠ '0' := by
  induction n using Nat.strongRecOn with
  | ind n ih =>
    by_cases small : n < 10
    · refine ⟨n.digitChar, [], Nat.toDigits_of_lt_base small, ?_⟩
      have each : ∀ m < 10, 0 < m → m.digitChar ≠ '0' := by decide
      exact each n small positive
    · obtain ⟨c, rest, digits, first⟩ := ih (n / 10) (by omega) (by omega)
      rw [Nat.toDigits_of_base_le (by decide) (Nat.not_lt.mp small), digits]
      exact ⟨c, rest ++ [(n % 10).digitChar], rfl, first⟩

/-- **A number above zero that is written in a request is read from it.** -/
theorem ofSetting_toDigits {n : Nat} (positive : 0 < n) (short : n < 10 ^ digitLimit) :
    ofSetting (Nat.toDigits 10 n) = .ok n := by
  have digits : ∀ c ∈ Nat.toDigits 10 n, isDigit c = true := fun _ mem => isDigit_of_mem_toDigits mem
  have within := length_toDigits_le short
  have value := ofDigits_toDigits n
  obtain ⟨c, rest, whole, first⟩ := exists_toDigits positive
  rw [whole] at digits within value ⊢
  have minus : c ≠ '-' := by
    rintro rfl
    exact absurd (digits '-' List.mem_cons_self) (by decide)
  have run : (c :: rest).takeWhile isDigit = c :: rest := by
    rw [← List.append_nil (c :: rest), List.takeWhile_append_of_pos digits]
    rfl
  have plain : ofPlainDigits (c :: rest) = .ok n := by
    rw [ofPlainDigits.eq_3 _ (List.cons_ne_nil _ _) fun _ same => first (List.cons.inj same).1, run,
      if_neg (Nat.not_lt.mpr within), if_pos rfl, value]
  have signed : ofPlain (c :: rest) = .ok n := by
    rw [ofPlain.eq_2 _ fun _ same => minus (List.cons.inj same).1, plain]
    rfl
  rw [ofSetting, signed]

end Gameshelf.Numeral
