import Gameshelf.Title.Token
import Gameshelf.Proofs.Failure
import Gameshelf.Proofs.Text.Case

/-!
Tokens of files. What a name or a path gives as an id stays what it is in capitals (`upper_titleIdIn`), and
a text no longer than a numeral may be has tokens (`ofText_of_short`).
-/

namespace Gameshelf.Tokens

open Text

/-- A hexadecimal digit in capitals stays what it is. -/
theorem upperChars_upperChar {c : Char} (digit : isHexDigit c = true) :
    upperChars (upperChar c) = upperChar c := by
  refine forall_ascii (P := fun c => isHexDigit c = true → upperChars (upperChar c) = upperChar c) ?_
    (toNat_lt_of_isHexDigit digit) digit
  decide +kernel

theorem upperChars_upperChars {cs : List Char} (digits : ∀ c ∈ cs, isHexDigit c = true) :
    upperChars (upperChars cs) = upperChars cs := by
  induction cs with
  | nil => rfl
  | cons c rest ih =>
    obtain ⟨digit, others⟩ := List.forall_mem_cons.mp digits
    have tail := ih others
    simp only [upperChars, List.flatMap_cons, List.flatMap_append] at tail ⊢
    rw [tail]
    exact congrArg (· ++ _) (upperChars_upperChar digit)

/-- The digits of an id are digits. -/
theorem digits_of_firstId? {cs window : List Char} (found : firstId? cs = some window) :
    ∀ c ∈ window, isHexDigit c = true := by
  induction cs with
  | nil => cases found
  | cons c rest ih =>
    simp only [firstId?] at found
    split at found
    · next whole =>
      cases found
      exact List.all_eq_true.mp (Bool.and_eq_true_iff.mp whole).2
    · exact ih found

/-- **An id that is found in a text is in capitals.** -/
theorem upper_titleIdIn {cs : List Char} {id : String} (found : titleIdIn cs = some id) : upper id = id := by
  obtain ⟨window, first, rfl⟩ := Option.map_eq_some_iff.mp found
  rw [upper, String.toList_ofList, upperChars_upperChars (digits_of_firstId? first)]

section Versions

variable {cs digits rest : List Char}

theorem length_of_versionDigits? (found : versionDigits? cs = some (digits, rest)) :
    digits.length ≤ cs.length := by
  cases cs with
  | nil => cases found
  | cons v others =>
    by_cases begins : ((v == 'v' || v == 'V') && !(others.takeWhile isDigit).isEmpty) = true
    · rw [versionDigits?, if_pos begins] at found
      cases found
      exact Nat.le_succ_of_le (List.takeWhile_sublist _).length_le
    · rw [versionDigits?, if_neg begins] at found
      cases found

theorem length_of_bracketed? (found : bracketed? cs = some digits) : digits.length ≤ cs.length := by
  induction cs with
  | nil => cases found
  | cons c others ih =>
    unfold bracketed? at found
    split at found
    · next here =>
      cases found
      exact Nat.le_succ_of_le (length_of_versionDigits? here)
    · exact Nat.le_succ_of_le (ih found)

theorem length_of_bareAfter? {insideWord : Bool} (found : bareAfter? insideWord cs = some digits) :
    digits.length ≤ cs.length := by
  induction cs generalizing insideWord with
  | nil => cases found
  | cons c others ih =>
    unfold bareAfter? at found
    split at found
    · next here =>
      cases found
      exact length_of_versionDigits? here
    · exact Nat.le_succ_of_le (ih found)

/-- A version has no more digits than the text has characters. -/
theorem length_of_versionDigitsIn (found : versionDigitsIn cs = some digits) :
    digits.length ≤ cs.length := by
  rcases Option.or_eq_some_iff.mp found with here | ⟨_, here⟩
  · exact length_of_bracketed? here
  · exact length_of_bareAfter? here

/-- **A text no longer than a numeral may be has tokens.** -/
theorem ofText_of_short {text : String} (short : text.toList.length ≤ Numeral.digitLimit) :
    ∃ tokens, ofText text = .ok tokens := by
  unfold ofText versionIn
  cases found : versionDigitsIn text.toList with
  | none => exact ⟨_, rfl⟩
  | some digits =>
    have few := Nat.le_trans (length_of_versionDigitsIn found) short
    have read : Numeral.natOfDigits digits = .ok _ := if_neg (Nat.not_lt.mpr few)
    simp only [read]
    exact ⟨_, rfl⟩

/-- A file has tokens where its name and its path are short. -/
theorem ofFile_of_short {name path : String} (own : name.toList.length ≤ Numeral.digitLimit)
    (around : path.toList.length ≤ Numeral.digitLimit) : ∃ tokens, ofFile name path = .ok tokens := by
  obtain ⟨first, readName⟩ := ofText_of_short own
  obtain ⟨second, readPath⟩ := ofText_of_short around
  exact ⟨_, by rw [ofFile, readName, ok_bind, readPath, ok_bind]; rfl⟩

end Versions

/-- The id of a file is one of its name or of its path. -/
theorem upper_titleId_of_ofFile {name path : String} {tokens : Tokens} {id : String}
    (read : ofFile name path = .ok tokens) (found : tokens.titleId = some id) : upper id = id := by
  have given {text : String} {tokens : Tokens} (read : ofText text = .ok tokens) :
      tokens.titleId = titleIdIn text.toList := by
    unfold ofText at read
    cases version : versionIn text.toList with
    | error _ => rw [version] at read; cases read
    | ok _ => rw [version] at read; cases read; rfl
  obtain ⟨own, readOwn, rest⟩ := bind_eq_ok.mp read
  obtain ⟨around, readAround, same⟩ := bind_eq_ok.mp rest
  cases same
  rcases Option.or_eq_some_iff.mp found with mine | ⟨_, others⟩
  · exact upper_titleIdIn ((given readOwn).symm.trans mine)
  · exact upper_titleIdIn ((given readAround).symm.trans others)

end Gameshelf.Tokens
