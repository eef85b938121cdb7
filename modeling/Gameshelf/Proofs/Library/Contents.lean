import Mathlib.Data.List.Sort
import Gameshelf.Proofs.Disk.Contents
import Gameshelf.Proofs.Library.Visits

/-!
Walks through trees with the same contents. A walk sorts the entries of each directory by their names, so it comes
to the same in whatever order directories keep them (`stepsOf_of_same`).
-/

namespace Gameshelf.Library

variable {walker : Walker} {base : Place} {node node' : Node}

/-- Elements with different names are sorted alike, however they come. -/
theorem byName_congr {α : Type} {named others : List (FileName × α)} (distinct : (named.map Prod.fst).Nodup)
    (distinct' : (others.map Prod.fst).Nodup) (same : ∀ entry, entry ∈ named ↔ entry ∈ others) :
    byName named = byName others := by
  have asymm : Std.Asymm fun a b : FileName × α => a.1.Before b.1 := ⟨fun _ _ => FileName.Before.asymm⟩
  refine List.Pairwise.eq_of_mem_iff (pairwise_byName distinct) (pairwise_byName distinct') fun entry => ?_
  rw [mem_byName, mem_byName, same]

/-- **Nodes with the same contents**: they are told apart by the order in which directories keep their entries. -/
def SameBelow (node node' : Node) : Prop :=
  ∀ rest, (node'.at? rest).map Node.bare = (node.at? rest).map Node.bare

theorem SameBelow.bare (same : SameBelow node node') : node'.bare = node.bare := by
  have here := same []
  rw [Node.at?_nil, Node.at?_nil] at here
  exact Option.some.inj here

theorem SameBelow.symm (same : SameBelow node node') : SameBelow node' node :=
  fun rest => (same rest).symm

/-- Entries of one name have the same contents. -/
theorem SameBelow.entry {entries others : List (FileName × Node)}
    (same : SameBelow (.directory entries) (.directory others))
    (distinct : (entries.map Prod.fst).Nodup) (distinct' : (others.map Prod.fst).Nodup) {name : FileName}
    (listed : (name, node) ∈ entries) (listed' : (name, node') ∈ others) : SameBelow node node' := by
  intro rest
  have below := same (name :: rest)
  rw [Node.at?_directory, Node.at?_directory, lookup_of_mem distinct listed, lookup_of_mem distinct' listed'] at below
  exact below

/-- Every entry has its like. -/
theorem SameBelow.exists_entry {entries others : List (FileName × Node)}
    (same : SameBelow (.directory entries) (.directory others)) (distinct : (entries.map Prod.fst).Nodup)
    {name : FileName} (listed : (name, node) ∈ entries) : ∃ node', (name, node') ∈ others := by
  have below := same [name]
  rw [Node.at?_directory, Node.at?_directory, lookup_of_mem distinct listed] at below
  cases named : others.lookup name with
  | none =>
    rw [named] at below
    cases node <;> cases below
  | some node' => exact ⟨node', mem_of_lookup named⟩

theorem branches_of_bare (same : node'.bare = node.bare) (place : Place) :
    walker.branches place node' = walker.branches place node := by
  cases node <;> cases node' <;> first | rfl | cases same

/-- **A walk comes to the same in nodes with the same contents.** -/
theorem stepsOf_of_same (tree : node.IsTree) (tree' : node'.IsTree) (same : SameBelow node node') :
    stepsOf walker base node' = stepsOf walker base node := by
  induction tree generalizing base node' with
  | file | link | special => rw [Node.eq_of_bare same.bare.symm rfl]
  | @directory entries distinct legal below ih =>
    cases tree' with
    | file | link | special => cases same.bare
    | @directory others distinct' legal' below' =>
      have files : byName (filesAmong walker base others) = byName (filesAmong walker base entries) := by
        refine byName_congr (nodup_filesAmong distinct') (nodup_filesAmong distinct) ?_
        rintro ⟨name, visit⟩
        rw [mem_filesAmong, mem_filesAmong]
        refine and_congr_right fun _ => and_congr_left fun leaf => ?_
        have plain := (branches_eq_false_iff.mp leaf).1
        constructor
        · intro listed
          obtain ⟨own, mem⟩ := same.symm.exists_entry distinct' listed
          rwa [Node.eq_of_bare (same.entry distinct distinct' mem listed).bare plain]
        · intro listed
          obtain ⟨own, mem⟩ := same.exists_entry distinct listed
          rwa [Node.eq_of_bare (same.entry distinct distinct' listed mem).bare.symm plain]
      have alike {name : FileName} {own other : Node} (listed : (name, own) ∈ entries)
          (listed' : (name, other) ∈ others) : stepsIn walker base (name, other) = stepsIn walker base (name, own) := by
        have equal := same.entry distinct distinct' listed listed'
        unfold stepsIn
        rw [branches_of_bare equal.bare, ih _ listed (below' _ listed') equal]
      have branches : byName (branchesAmong walker base others) = byName (branchesAmong walker base entries) := by
        refine byName_congr (nodup_branchesAmong distinct') (nodup_branchesAmong distinct) fun branch => ?_
        simp only [branchesAmong_eq, List.mem_map]
        constructor
        · rintro ⟨⟨name, other⟩, listed', rfl⟩
          obtain ⟨own, listed⟩ := same.symm.exists_entry distinct' listed'
          exact ⟨_, listed, by rw [alike listed listed']⟩
        · rintro ⟨⟨name, own⟩, listed, rfl⟩
          obtain ⟨other, listed'⟩ := same.exists_entry distinct listed
          exact ⟨_, listed', by rw [alike listed listed']⟩
      rw [stepsOf, stepsOf, files, branches]

end Gameshelf.Library
