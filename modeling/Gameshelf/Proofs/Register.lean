import Mathlib.Data.List.Induction
import Gameshelf.Proofs.Lookup
import Gameshelf.Register

/-!
Registers and the pairs that they are made of. A register comes back from its entries (`ofList_entries`), and a
key has in it the value of the last of its pairs (`get?_ofList`).
-/

namespace Gameshelf

namespace Register

variable {β : Type}

/-- A register is told by its entries. -/
theorem ext_entries {one other : Register β} (same : one.entries = other.entries) : one = other := by
  cases one
  cases other
  cases same
  rfl

theorem ofList_concat (pairs : List (LooseText × β)) (pair : LooseText × β) :
    ofList (pairs ++ [pair]) = (ofList pairs).insert pair.1 pair.2 := by
  simp only [ofList, List.foldl_append, List.foldl_cons, List.foldl_nil]

/-- A register of pairs has no other entries. -/
theorem mem_of_mem_ofList {pairs : List (LooseText × β)} {entry : LooseText × β}
    (mem : entry ∈ (ofList pairs).entries) : entry ∈ pairs := by
  induction pairs using List.reverseRecOn with
  | nil => cases mem
  | append_singleton pairs pair ih =>
    rw [ofList_concat] at mem
    rcases mem_putSorted mem with rfl | mem
    · exact List.mem_append_right _ (List.mem_singleton_self _)
    · exact List.mem_append_left _ (ih mem)

/-- A key behind all others goes to the end. -/
theorem putSorted_last {key : LooseText} {value : β} {entries : List (LooseText × β)}
    (last : ∀ entry ∈ entries, KeyBefore entry.1 key) :
    putSorted key value entries = entries ++ [(key, value)] := by
  induction entries with
  | nil => rfl
  | cons entry rest ih =>
    obtain ⟨first, others⟩ := List.forall_mem_cons.mp last
    have after : compare key entry.1 = .gt := Std.OrientedCmp.gt_of_lt first
    simp only [putSorted, after, ih others, List.cons_append]

/-- **A register comes back from its entries.** -/
theorem ofList_entries (register : Register β) : ofList register.entries = register := by
  obtain ⟨entries, sorted⟩ := register
  induction entries using List.reverseRecOn with
  | nil => rfl
  | append_singleton entries entry ih =>
    obtain ⟨front, _, last⟩ := List.pairwise_append.mp sorted
    apply ext_entries
    show (ofList (entries ++ [entry])).entries = entries ++ [entry]
    rw [ofList_concat, ih front]
    exact putSorted_last fun other mem => last other mem entry (List.mem_singleton_self _)

theorem lookup_putSorted (key other : LooseText) (value : β) (entries : List (LooseText × β)) :
    (putSorted key value entries).lookup other = if other = key then some value else entries.lookup other := by
  induction entries with
  | nil => exact lookup_cons_eq other key value []
  | cons entry rest ih =>
    obtain ⟨first, old⟩ := entry
    unfold putSorted
    split
    · exact lookup_cons_eq other key value _
    · next same =>
      obtain rfl := Std.LawfulEqOrd.eq_of_compare same
      rw [lookup_cons_eq, lookup_cons_eq]
      split <;> rfl
    · next after =>
      rw [lookup_cons_eq other first, lookup_cons_eq other first, ih]
      by_cases same : other = first
      · have different : first ≠ key := by
          rintro rfl
          have same : compare first first = .eq := Std.ReflCmp.compare_self
          cases same.symm.trans after
        rw [if_pos same, if_pos same, if_neg (same ▸ different)]
      · rw [if_neg same, if_neg same]

/-- A value that is put in is found by its key, and all others as before. -/
theorem get?_insert (register : Register β) (key other : LooseText) (value : β) :
    (register.insert key value).get? other = if other = key then some value else register.get? other :=
  lookup_putSorted key other value register.entries

/-- A register of pairs is looked up in from the last pair on. -/
theorem get?_ofList (pairs : List (LooseText × β)) (key : LooseText) :
    (ofList pairs).get? key = pairs.reverse.lookup key := by
  induction pairs using List.reverseRecOn with
  | nil => rfl
  | append_singleton pairs pair ih =>
    rw [ofList_concat, List.reverse_append, List.reverse_singleton, List.singleton_append, lookup_cons_eq, ← ih,
      get?_insert]

/-- **The last pair with a key gives its value.** -/
theorem get?_ofList_eq_some_iff {pairs : List (LooseText × β)} {key : LooseText} {value : β} :
    (ofList pairs).get? key = some value ↔
      ∃ before after, pairs = before ++ (key, value) :: after ∧ ∀ other, (key, other) ∉ after := by
  rw [get?_ofList, List.lookup_eq_some_iff]
  constructor
  · rintro ⟨later, earlier, reversed, absent⟩
    refine ⟨earlier.reverse, later.reverse, ?_, fun other mem => ?_⟩
    · rw [← List.reverse_reverse pairs, reversed]
      simp
    · simpa using absent _ (List.mem_reverse.mp mem)
  · rintro ⟨before, after, rfl, absent⟩
    refine ⟨after.reverse, before.reverse, by simp, ?_⟩
    rintro ⟨other, old⟩ mem
    rw [bne_iff_ne]
    rintro rfl
    exact absent old (List.mem_reverse.mp mem)

/-- A register with a value is not empty. -/
theorem isEmpty_of_isSome_get? {register : Register β} {key : LooseText} (known : (register.get? key).isSome = true) :
    register.isEmpty = false := by
  cases entries : register.entries with
  | nil =>
    rw [get?, entries] at known
    cases known
  | cons entry rest =>
    rw [isEmpty, entries]
    rfl

/-- A register of pairs is empty where there are none. -/
theorem isEmpty_ofList (pairs : List (LooseText × β)) : (ofList pairs).isEmpty = pairs.isEmpty := by
  induction pairs using List.reverseRecOn with
  | nil => rfl
  | append_singleton pairs pair _ =>
    have filled (entries : List (LooseText × β)) : (putSorted pair.1 pair.2 entries).isEmpty = false := by
      cases entries with
      | nil => rfl
      | cons entry rest =>
        unfold putSorted
        split <;> rfl
    have some : (pairs ++ [pair]).isEmpty = false := List.isEmpty_eq_false_iff.mpr (List.concat_ne_nil pair pairs)
    rw [ofList_concat, some]
    exact filled _

end Register

end Gameshelf
