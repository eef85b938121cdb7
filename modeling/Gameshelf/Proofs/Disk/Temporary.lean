import Mathlib.Algebra.Group.Nat.Defs
import Mathlib.Data.List.Nodup
import Mathlib.Data.List.Perm.Subperm
import Gameshelf.Proofs.Disk.Change
import Gameshelf.Proofs.Encoding.Utf8

/-!
Temporary files. There are more temporary names than entries of a directory, and different attempts give
different names, so the name that is taken is new (`lookup_freshName`): a temporary file stands where nothing
stood before (`putTemporary_eq_ok`).
-/

namespace Gameshelf

open Text

section Digits

/-- A number is told by so many of its digits as it has. -/
theorem eq_of_digits {width m n : Nat} (first : m < 10 ^ width) (second : n < 10 ^ width)
    (same : ∀ i < width, m / 10 ^ i % 10 = n / 10 ^ i % 10) : m = n := by
  induction width generalizing m n with
  | zero => omega
  | succ width ih =>
    rw [Nat.pow_succ] at first second
    have last := same 0 (Nat.zero_lt_succ _)
    have front : m / 10 = n / 10 := by
      refine ih (by omega) (by omega) fun i below => ?_
      have shifted := same (i + 1) (Nat.succ_lt_succ below)
      rwa [Nat.pow_succ, Nat.mul_comm, ← Nat.div_div_eq_div_mul, ← Nat.div_div_eq_div_mul] at shifted
    rw [Nat.pow_zero, Nat.div_one, Nat.div_one] at last
    omega

theorem hexDigitLower_injective : ∀ a < 10, ∀ b < 10, hexDigitLower a = hexDigitLower b → a = b := by
  decide

/-- Different numbers are written differently. -/
theorem digitsIn_injective {width m n : Nat} (some : 0 < width)
    (same : digitsIn 10 hexDigitLower width m = digitsIn 10 hexDigitLower width n) : m = n := by
  have lengths := congrArg List.length same
  simp only [digitsIn, List.length_map, List.length_reverse, List.length_range] at same lengths
  have bound {k : Nat} : k < 10 ^ max width (Nat.toDigits 10 k).length :=
    (Nat.length_toDigits_le_iff (by decide) (Nat.lt_of_lt_of_le some (Nat.le_max_left _ _))).mp (Nat.le_max_right _ _)
  have first : m < 10 ^ max width (Nat.toDigits 10 m).length := bound
  have second : n < 10 ^ max width (Nat.toDigits 10 n).length := bound
  rw [← lengths] at second
  refine eq_of_digits first second fun i below => ?_
  rw [← lengths] at same
  have digit := List.map_inj_left.mp same i (List.mem_reverse.mpr (List.mem_range.mpr below))
  exact hexDigitLower_injective _ (Nat.mod_lt _ (by decide)) _ (Nat.mod_lt _ (by decide)) digit

end Digits

namespace Change

variable {disk after : Disk}

/-- Every attempt has a temporary name of its own. -/
theorem temporaryName_injective {name : Encoding.Bytes} {m n : Nat}
    (same : temporaryName name m = temporaryName name n) : m = n := by
  have bytes := congrArg FileName.bytes same
  unfold temporaryName at bytes
  have tails := List.append_cancel_left bytes
  have texts := Encoding.encodeUtf8_injective tails
  refine digitsIn_injective (Nat.zero_lt_succ 7) ?_
  simpa [toString] using texts

/-- **A temporary name is new**: no entry has it. -/
theorem lookup_freshName (name : Encoding.Bytes) (entries : List (FileName × Node)) :
    entries.lookup (freshName name entries) = none := by
  have unfolded : freshName name entries = (((List.range (entries.length + 1)).map (temporaryName name)).find?
      fun candidate => (entries.lookup candidate).isNone).getD (temporaryName name 0) := rfl
  rw [unfolded]
  cases found : ((List.range (entries.length + 1)).map (temporaryName name)).find? fun candidate =>
      (entries.lookup candidate).isNone with
  | some candidate =>
    have free : (entries.lookup candidate).isNone = true :=
      List.find?_some (p := fun candidate => (entries.lookup candidate).isNone) found
    exact Option.isNone_iff_eq_none.mp free
  | none =>
    -- All candidates would have to be names of entries, and there are more candidates.
    exfalso
    have distinct : ((List.range (entries.length + 1)).map (temporaryName name)).Nodup :=
      List.Nodup.map (fun _ _ => temporaryName_injective) List.nodup_range
    have taken : (List.range (entries.length + 1)).map (temporaryName name) ⊆ entries.map Prod.fst := by
      intro candidate mem
      have listed := List.find?_eq_none.mp found candidate mem
      cases known : entries.lookup candidate with
      | none => exact absurd (known ▸ rfl) listed
      | some node => exact List.mem_map.mpr ⟨_, mem_of_lookup known, rfl⟩
    have fewer := (List.subperm_of_subset distinct taken).length_le
    rw [List.length_map, List.length_map, List.length_range] at fewer
    omega

/-- **What making a temporary file comes to**: it stands in a directory, where nothing stood before. -/
theorem putTemporary_eq_ok {path : Path} {content : Encoding.Bytes} {temporary : Place}
    (made : (putTemporary path content).make disk = (.ok temporary, after)) :
    disk.at? temporary = none ∧ after = disk.put temporary (.file content) ∧
      after.at? temporary = some (.file content) := by
  unfold putTemporary at made
  obtain ⟨name, _, named, next⟩ := make_bind_eq_ok.mp made
  obtain ⟨-, rfl⟩ := make_ask_eq_ok named
  obtain ⟨directory, _, located, onward⟩ := make_bind_eq_ok.mp next
  obtain ⟨-, rfl⟩ := make_ask_eq_ok located
  obtain ⟨_, _, same, last⟩ := make_bind_eq_ok.mp onward
  cases same
  split at last
  · next entries here =>
    dsimp only at last
    split at last
    · cases last
    · obtain ⟨_, _, put, done⟩ := make_bind_eq_ok.mp last
      cases put
      cases done
      refine ⟨?_, rfl, Disk.at?_put_self here⟩
      rw [← Disk.lookup_eq_at? here]
      exact lookup_freshName name entries
  · cases last

end Change

end Gameshelf
