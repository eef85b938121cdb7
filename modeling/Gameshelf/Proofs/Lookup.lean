import Mathlib.Data.List.Basic

/-!
Look-ups in lists of pairs, by what they do with the first pair, by the pairs that are in the list, and by the parts
that a list is made of.
-/

namespace Gameshelf

section Pairs

variable {α β : Type} [BEq α] [LawfulBEq α] {key : α} {value : β} {pairs : List (α × β)}

/-- The first pair is found by its key, and all others as before. -/
theorem lookup_cons_eq [DecidableEq α] (key first : α) (value : β) (rest : List (α × β)) :
    ((first, value) :: rest).lookup key = if key = first then some value else rest.lookup key := by
  by_cases same : key = first
  · rw [same, List.lookup_cons_self, if_pos rfl]
  · rw [List.lookup_cons, beq_false_of_ne same, if_neg same]

/-- A pair is found by its key, where the keys tell the pairs apart. -/
theorem lookup_of_mem (distinct : (pairs.map Prod.fst).Nodup) (mem : (key, value) ∈ pairs) :
    pairs.lookup key = some value := by
  induction pairs with
  | nil => cases mem
  | cons pair rest ih =>
    obtain ⟨absent, others⟩ := List.nodup_cons.mp distinct
    obtain ⟨first, old⟩ := pair
    rcases List.mem_cons.mp mem with same | mem
    · cases same
      exact List.lookup_cons_self
    · have different : (key == first) = false :=
        beq_eq_false_iff_ne.mpr fun same => absent (List.mem_map.mpr ⟨_, mem, same⟩)
      rw [List.lookup_cons, different]
      exact ih others mem

/-- What is found is in the list. -/
theorem mem_of_lookup (found : pairs.lookup key = some value) : (key, value) ∈ pairs := by
  obtain ⟨before, after, rfl, _⟩ := List.lookup_eq_some_iff.mp found
  exact List.mem_append_right _ List.mem_cons_self

end Pairs

section Parts

variable {ι α β : Type} [DecidableEq α]

/-- Values that are given to items under keys of their own are found where the item is. -/
theorem lookup_filterMap {key : ι → α} {items : List ι} (distinct : (items.map key).Nodup)
    (value : ι → Option β) (sought : α) :
    (items.filterMap fun item => (value item).map (key item, ·)).lookup sought
      = (items.find? (key · = sought)).bind value := by
  induction items with
  | nil => rfl
  | cons item rest ih =>
    obtain ⟨fresh, distinct⟩ := List.nodup_cons.mp distinct
    have step : ((item :: rest).filterMap fun item => (value item).map (key item, ·)).lookup sought
        = if sought = key item then (value item).or ((rest.find? (key · = sought)).bind value)
          else (rest.find? (key · = sought)).bind value := by
      rw [← ih distinct, List.filterMap_cons]
      cases value item with
      | none => simp
      | some v => rw [Option.map_some, lookup_cons_eq, Option.some_or]
    rw [step, List.find?_cons]
    by_cases same : key item = sought
    · have absent : rest.find? (key · = sought) = none := by
        refine List.find?_eq_none.mpr fun other mem again => fresh (List.mem_map.mpr ⟨other, mem, ?_⟩)
        exact (of_decide_eq_true again).trans same.symm
      rw [if_pos same.symm, absent, Option.bind_none, Option.or_none]
      simp [same]
    · rw [if_neg (Ne.symm same)]
      simp [same]

theorem lookup_append (one other : List (α × β)) (sought : α) :
    (one ++ other).lookup sought = (one.lookup sought).or (other.lookup sought) := by
  induction one with
  | nil => rfl
  | cons pair rest ih =>
    obtain ⟨first, value⟩ := pair
    rw [List.cons_append, lookup_cons_eq, lookup_cons_eq, ih]
    split <;> rfl

/-- Among pairs with keys of their own, those whose values pass a test are found by the same keys. -/
theorem lookup_filter {pairs : List (α × β)} (distinct : (pairs.map Prod.fst).Nodup) (test : β → Bool)
    (sought : α) : (pairs.filter fun pair => test pair.2).lookup sought = (pairs.lookup sought).filter test := by
  induction pairs with
  | nil => rfl
  | cons pair rest ih =>
    obtain ⟨first, value⟩ := pair
    obtain ⟨fresh, others⟩ := List.nodup_cons.mp distinct
    have own := ih others
    rw [lookup_cons_eq, List.filter_cons]
    by_cases same : sought = first
    · have absent : rest.lookup sought = none :=
        List.lookup_eq_none_iff.mpr fun pair mem => bne_iff_ne.mpr fun again =>
          fresh (List.mem_map.mpr ⟨pair, mem, again.symm.trans same⟩)
      rw [absent] at own
      rw [if_pos same]
      split
      · next passes => rw [lookup_cons_eq, if_pos same, Option.filter_some_pos passes]
      · next fails => rw [own, Option.filter_some_neg (Bool.eq_false_iff.mpr fails), Option.filter_none]
    · rw [if_neg same, ← own]
      split
      · rw [lookup_cons_eq, if_neg same]
      · rfl

end Parts

end Gameshelf
