import Gameshelf.Download.ByteRange
import Gameshelf.Proofs.Failure
import Gameshelf.Proofs.Numeral
import Gameshelf.Proofs.Text.Words

/-!
Ranges that headers ask for: one that is found lies within its file (`last_lt_of_ofHeader`), and where
the numerals of a header are short enough, a header that gives no range is only not satisfiable
(`ofHeader_ne_oversized`).
-/

namespace Gameshelf.Download.ByteRange

open Text

theorem position_ne_oversized {header cs : List Char} (readable : Numeral.Readable header)
    (within : cs <:+: header) : position cs ≠ .error .oversizedNumeral := by
  unfold position
  split
  · exact fun h => by cases h
  · next digits =>
    simp only [Bool.or_eq_true, Bool.not_eq_true', not_or, Bool.not_eq_false] at digits
    rw [Numeral.natOfDigits_of_readable readable within digits.2]
    exact fun h => by cases h

theorem between_ne_oversized (first last size : Nat) :
    between first last size ≠ .error .oversizedNumeral := by
  unfold between
  split <;> exact fun h => by cases h

theorem suffix_ne_oversized (count size : Nat) : suffix count size ≠ .error .oversizedNumeral := by
  unfold suffix
  split <;> exact fun h => by cases h

theorem last_lt_of_between {first last size : Nat} {range : ByteRange}
    (found : between first last size = .ok range) : range.last < size := by
  unfold between at found
  split at found
  · next bounds => cases found; exact bounds.2
  · cases found

theorem last_lt_of_suffix {count size : Nat} {range : ByteRange}
    (found : suffix count size = .ok range) : range.last < size := by
  unfold suffix at found
  split at found
  · cases found; simp only; omega
  · cases found

/-- The range that two positions name, either of which may be absent. -/
def named (first last : List Char) (size : Nat) : Except Refusal ByteRange :=
  match first, last with
  | [], count => do suffix (← position count) size
  | first, [] => do between (← position first) (size - 1) size
  | first, last => do
    let first ← position first
    let last ← position last
    between first last size

/-- **A header spells two positions**: the unit, and what stands before and after the first hyphen. More
than one stretch would need a comma. -/
structure Spells (header : String) (first last : List Char) : Prop where
  whole : header.toList = "bytes=".toList ++ (first ++ '-' :: last)
  hyphen : '-' ∉ first
  single : ',' ∉ first ++ '-' :: last

namespace Spells

variable {header : String} {first last : List Char}

theorem first_within (spells : Spells header first last) : first <:+: header.toList :=
  ⟨"bytes=".toList, '-' :: last, by simp [spells.whole]⟩

theorem last_within (spells : Spells header first last) : last <:+: header.toList :=
  ⟨"bytes=".toList ++ first ++ ['-'], [], by simp [spells.whole]⟩

end Spells

/-- A header is refused, or it spells two positions of a file that is not empty, and they decide. -/
theorem ofHeader_cases (header : String) (size : Nat) :
    ofHeader header size = .error .notSatisfiable ∨
      ∃ first last, 0 < size ∧ Spells header first last ∧
        ofHeader header size = named first last size := by
  unfold ofHeader
  extract_lets unit cs spec
  split
  · exact .inl rfl
  next known =>
  split
  · exact .inl rfl
  next single =>
  cases cut : cutAt? '-' spec with
  | none => exact .inl rfl
  | some parts =>
    obtain ⟨first, last⟩ := parts
    obtain ⟨whole, hyphen⟩ := cutAt?_eq_some cut
    simp only [Bool.or_eq_true, Bool.not_eq_true', not_or, Bool.not_eq_false, decide_eq_true_eq,
      List.isPrefixOf_iff_prefix] at known
    have split : header.toList = unit ++ (first ++ '-' :: last) := by
      rw [← whole]
      exact (List.prefix_iff_eq_append.mp known.2).symm
    have spells : Spells header first last :=
      ⟨split, hyphen, fun mem => single (List.contains_iff_mem.mpr (whole ▸ mem))⟩
    refine .inr ⟨first, last, Nat.pos_of_ne_zero known.1, spells, ?_⟩
    cases first <;> cases last <;> rfl

/-- Where a header spells two positions of a file that is not empty, they decide. -/
theorem ofHeader_of_spells {header : String} {size : Nat} {first last : List Char} (filled : 0 < size)
    (spells : Spells header first last) : ofHeader header size = named first last size := by
  have known : "bytes=".toList.isPrefixOf header.toList = true :=
    List.isPrefixOf_iff_prefix.mpr ⟨_, spells.whole.symm⟩
  have spec : header.toList.drop "bytes=".toList.length = first ++ '-' :: last := by
    rw [spells.whole, List.drop_left]
  have single : (first ++ '-' :: last).contains ',' = false :=
    Bool.eq_false_iff.mpr fun mem => spells.single (List.contains_iff_mem.mp mem)
  unfold ofHeader
  simp only [known, spec, single, cutAt?_append_cons spells.hyphen, Nat.ne_of_gt filled]
  cases first <;> cases last <;> rfl

/-- **A range lies within the file** that it is asked of. -/
theorem last_lt_of_ofHeader {header : String} {size : Nat} {range : ByteRange}
    (found : ofHeader header size = .ok range) : range.last < size := by
  obtain refused | ⟨first, last, -, -, asked⟩ := ofHeader_cases header size
  · cases refused.symm.trans found
  · rw [asked] at found
    unfold named at found
    split at found
    · obtain ⟨_, _, found⟩ := bind_eq_ok.mp found
      exact last_lt_of_suffix found
    · obtain ⟨_, _, found⟩ := bind_eq_ok.mp found
      exact last_lt_of_between found
    · obtain ⟨_, _, found⟩ := bind_eq_ok.mp found
      obtain ⟨_, _, found⟩ := bind_eq_ok.mp found
      exact last_lt_of_between found

/-- Where the numerals of a header are short enough, none is refused for its length. -/
theorem ofHeader_ne_oversized {header : String} (readable : Numeral.Readable header.toList)
    (size : Nat) : ofHeader header size ≠ .error .oversizedNumeral := by
  intro failed
  obtain refused | ⟨first, last, -, spells, asked⟩ := ofHeader_cases header size
  · cases refused.symm.trans failed
  · rw [asked] at failed
    unfold named at failed
    split at failed
    · rcases bind_eq_error.mp failed with failed | ⟨_, _, failed⟩
      · exact position_ne_oversized readable spells.last_within failed
      · exact suffix_ne_oversized _ _ failed
    · rcases bind_eq_error.mp failed with failed | ⟨_, _, failed⟩
      · exact position_ne_oversized readable spells.first_within failed
      · exact between_ne_oversized _ _ _ failed
    · rcases bind_eq_error.mp failed with failed | ⟨_, _, failed⟩
      · exact position_ne_oversized readable spells.first_within failed
      rcases bind_eq_error.mp failed with failed | ⟨_, _, failed⟩
      · exact position_ne_oversized readable spells.last_within failed
      · exact between_ne_oversized _ _ _ failed

end Gameshelf.Download.ByteRange
