import Mathlib.Data.List.Induction
import Mathlib.Data.List.Nodup
import Gameshelf.Shop.Section

/-!
The newest item of each key. An item that arrives takes the place of one with its key only if its version is
higher, so of items that arrive in the order of their positions those that stay are, key by key, the ones no
other stands before (`newestByKey_newest`). Sorting them loses none.
-/

namespace Gameshelf.Shop

namespace Item

/-- **An item stands no later than another**: its version is higher, or at the same version its position comes
no later. -/
def NoLater (a b : Item) : Prop :=
  b.version < a.version ∨ a.version = b.version ∧ a.position ≤ b.position

theorem newestFirst_iff (a b : Item) : newestFirst a b = true ↔ NoLater a b := by
  simp [newestFirst, NoLater]

theorem NoLater.refl (a : Item) : NoLater a a :=
  .inr ⟨rfl, Int.le_refl _⟩

theorem NoLater.trans {a b c : Item} (first : NoLater a b) (second : NoLater b c) : NoLater a c := by
  unfold NoLater at *
  omega

theorem newestFirst_trans (a b c : Item) (first : newestFirst a b = true) (second : newestFirst b c = true) :
    newestFirst a c = true := by
  rw [newestFirst_iff] at *
  exact first.trans second

theorem newestFirst_total (a b : Item) : (newestFirst a b || newestFirst b a) = true := by
  rw [Bool.or_eq_true, newestFirst_iff, newestFirst_iff]
  unfold NoLater
  omega

end Item

open Item

/-- **The newest of the items on offer**, one for each of their keys: none is there without being on offer, and
no other item of its key stands before it. -/
structure Newest (key : Item → String) (offered : Item → Prop) (chosen : List Item) : Prop where
  within : ∀ best ∈ chosen, offered best
  covered : ∀ item, offered item → ∃ best ∈ chosen, key best = key item
  distinct : (chosen.map key).Nodup
  best : ∀ best ∈ chosen, ∀ item, offered item → key item = key best → NoLater best item

section Put

variable {key : Item → String} {held : List Item} {item : Item}

/-- **What stays when an item arrives.** Whatever the item does not outdo stays, and the item comes if it
outdoes the one with its key. -/
theorem mem_putNewest (distinct : (held.map key).Nodup) (a : Item) :
    a ∈ putNewest key held item ↔
      (a ∈ held ∧ (key a = key item → item.version ≤ a.version)) ∨
        (a = item ∧ ∀ other ∈ held, key other = key item → other.version < item.version) := by
  induction held with
  | nil => simp [putNewest]
  | cons first rest ih =>
    obtain ⟨absent, others⟩ := List.nodup_cons.mp distinct
    by_cases here : key first = key item
    · have different : ∀ other ∈ rest, key other ≠ key item := by
        intro other mem same
        exact absent (List.mem_map.mpr ⟨other, mem, same.trans here.symm⟩)
      have kept : a ∈ rest → key a = key item → item.version ≤ a.version :=
        fun mem same => absurd same (different a mem)
      by_cases lower : first.version < item.version
      · have outdone : ∀ other ∈ first :: rest, key other = key item → other.version < item.version := by
          intro other mem same
          rcases List.mem_cons.mp mem with rfl | mem
          · exact lower
          · exact absurd same (different other mem)
        simp only [putNewest, if_pos here, if_pos lower, List.mem_cons]
        constructor
        · rintro (rfl | mem)
          · exact .inr ⟨rfl, fun other mem => outdone other (List.mem_cons.mpr mem)⟩
          · exact .inl ⟨.inr mem, kept mem⟩
        · rintro (⟨rfl | mem, stays⟩ | ⟨rfl, -⟩)
          · exact absurd (stays here) (Int.not_le.mpr lower)
          · exact .inr mem
          · exact .inl rfl
      · simp only [putNewest, if_pos here, if_neg lower, List.mem_cons]
        constructor
        · rintro (rfl | mem)
          · exact .inl ⟨.inl rfl, fun _ => Int.not_lt.mp lower⟩
          · exact .inl ⟨.inr mem, kept mem⟩
        · rintro (⟨mem, -⟩ | ⟨-, outdone⟩)
          · exact mem
          · exact absurd (outdone first (.inl rfl) here) lower
    · simp only [putNewest, if_neg here, List.mem_cons, ih others, forall_eq_or_imp]
      constructor
      · rintro (rfl | ⟨mem, stays⟩ | ⟨rfl, outdone⟩)
        · exact .inl ⟨.inl rfl, fun same => absurd same here⟩
        · exact .inl ⟨.inr mem, stays⟩
        · exact .inr ⟨rfl, fun same => absurd same here, outdone⟩
      · rintro (⟨rfl | mem, stays⟩ | ⟨rfl, -, outdone⟩)
        · exact .inl rfl
        · exact .inr (.inl ⟨mem, stays⟩)
        · exact .inr (.inr ⟨rfl, outdone⟩)

/-- The key of an item that arrives is new, or the keys stay as they are. -/
theorem map_key_putNewest :
    (putNewest key held item).map key
      = if key item ∈ held.map key then held.map key else held.map key ++ [key item] := by
  induction held with
  | nil => rfl
  | cons first rest ih =>
    by_cases here : key first = key item
    · rw [putNewest, if_pos here, List.map_cons, List.map_cons, ← here, if_pos List.mem_cons_self]
      split
      · rw [here]
      · rfl
    · have other : key item ≠ key first := fun same => here same.symm
      rw [putNewest, if_neg here, List.map_cons, List.map_cons, ih]
      by_cases known : key item ∈ rest.map key
      · rw [if_pos known, if_pos (List.mem_cons_of_mem _ known)]
      · rw [if_neg known, if_neg (List.not_mem_cons_of_ne_of_not_mem other known), List.cons_append]

theorem nodup_putNewest (distinct : (held.map key).Nodup) : ((putNewest key held item).map key).Nodup := by
  rw [map_key_putNewest]
  split
  · exact distinct
  · next fresh =>
    rw [← List.concat_eq_append]
    exact distinct.concat fresh

/-- An item that arrives has its key answered for, by itself or by what it does not outdo. -/
theorem exists_putNewest (distinct : (held.map key).Nodup) :
    ∃ best ∈ putNewest key held item, key best = key item := by
  by_cases outdone : ∀ other ∈ held, key other = key item → other.version < item.version
  · exact ⟨item, (mem_putNewest distinct item).mpr (.inr ⟨rfl, outdone⟩), rfl⟩
  · simp only [not_forall, Int.not_lt] at outdone
    obtain ⟨other, mem, same, stays⟩ := outdone
    exact ⟨other, (mem_putNewest distinct other).mpr (.inl ⟨mem, fun _ => stays⟩), same⟩

variable {items : List Item}

/-- **One more item**, at a position after those of all others, leaves the newest of them all. -/
theorem Newest.putNewest (newest : Newest key (· ∈ items) held)
    (later : ∀ other ∈ items, other.position < item.position) :
    Newest key (· ∈ items ++ [item]) (putNewest key held item) := by
  have member (a : Item) : a ∈ Shop.putNewest key held item ↔ _ := mem_putNewest newest.distinct a
  refine ⟨?within, ?covered, nodup_putNewest newest.distinct, ?best⟩
  case within =>
    intro a mem
    rcases (member a).mp mem with ⟨mem, -⟩ | ⟨rfl, -⟩
    · exact List.mem_append_left _ (newest.within a mem)
    · exact List.mem_append_right _ List.mem_cons_self
  case covered =>
    intro a offered
    by_cases here : key a = key item
    · rw [here]
      exact exists_putNewest newest.distinct
    · rcases List.mem_append.mp offered with offered | same
      · obtain ⟨best, mem, same⟩ := newest.covered a offered
        have other : key best ≠ key item := same ▸ here
        exact ⟨best, (member best).mpr (.inl ⟨mem, fun same => absurd same other⟩), same⟩
      · exact absurd (congrArg key (List.mem_singleton.mp same)) here
  case best =>
    intro a mem other offered same
    rcases (member a).mp mem with ⟨mem, stays⟩ | ⟨rfl, outdone⟩
    · rcases List.mem_append.mp offered with offered | arrived
      · exact newest.best a mem other offered same
      · cases List.mem_singleton.mp arrived
        have higher := stays same.symm
        have earlier := later a (newest.within a mem)
        unfold NoLater
        omega
    · rcases List.mem_append.mp offered with offered | arrived
      · -- The one that answered for the key so far stands before the other, and is outdone.
        obtain ⟨best, mem, answers⟩ := newest.covered other offered
        have lower := outdone best mem (answers.trans same)
        have before := newest.best best mem other offered answers.symm
        unfold NoLater at before ⊢
        omega
      · cases List.mem_singleton.mp arrived
        exact .refl a

end Put

section Run

variable {key : Item → String} {items : List Item}

theorem newest_nil : Newest key (· ∈ []) [] :=
  ⟨nofun, nofun, List.nodup_nil, nofun⟩

/-- **Items that arrive in the order of their positions** leave the newest of each key. -/
theorem newest_foldl (ordered : items.Pairwise (·.position < ·.position)) :
    Newest key (· ∈ items) (items.foldl (putNewest key) []) := by
  induction items using List.reverseRecOn with
  | nil => exact newest_nil
  | append_singleton items item ih =>
    obtain ⟨before, -, later⟩ := List.pairwise_append.mp ordered
    rw [List.foldl_append]
    exact (ih before).putNewest fun other mem => later other mem item List.mem_cons_self

/-- The order of the items that are chosen does not matter. -/
theorem Newest.perm {offered : Item → Prop} {chosen other : List Item} (newest : Newest key offered chosen)
    (perm : other.Perm chosen) : Newest key offered other := by
  refine ⟨?within, ?covered, ?distinct, ?best⟩
  case within =>
    intro best mem
    exact newest.within best (perm.mem_iff.mp mem)
  case covered =>
    intro item asked
    obtain ⟨best, mem, same⟩ := newest.covered item asked
    exact ⟨best, perm.mem_iff.mpr mem, same⟩
  case distinct => exact ((perm.map key).nodup_iff).mpr newest.distinct
  case best =>
    intro best mem
    exact newest.best best (perm.mem_iff.mp mem)

/-- **The newest items by key**, in their order. -/
theorem newestByKey_newest (key : Item → String) (ordered : items.Pairwise (·.position < ·.position)) :
    Newest key (· ∈ items) (newestByKey key items) ∧ (newestByKey key items).Pairwise NoLater := by
  constructor
  · exact (newest_foldl ordered).perm (List.mergeSort_perm _ _)
  · have sorted := List.pairwise_mergeSort newestFirst_trans newestFirst_total
      (items.foldl (putNewest key) [])
    exact sorted.imp fun {a b} first => (newestFirst_iff a b).mp first

end Run

end Gameshelf.Shop
