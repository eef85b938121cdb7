import Gameshelf.Proofs.Catalog.Order
import Gameshelf.Proofs.Catalog.TitleIndex

/-!
Titles of a catalog. What is looked up in its index is what the files say (`Catalog.versions_eq`,
`Catalog.mem_titleIds`), and the groups of its title ids, one after the other behind the files without an
id, are its files (`Catalog.groups_eq_files`).
-/

namespace Gameshelf

open Text

section Groups

variable {α κ : Type} [DecidableEq κ] {key : α → κ} {items : List α}

/-- Items of which none with a key comes after one without it: those with the key stand first. -/
theorem filter_append_filter {k : κ} (first : items.Pairwise fun a b => key b = k → key a = k) :
    items.filter (key · = k) ++ items.filter (key · ≠ k) = items := by
  induction items with
  | nil => rfl
  | cons a rest ih =>
    obtain ⟨above, others⟩ := List.pairwise_cons.mp first
    by_cases here : key a = k
    · simpa [here] using ih others
    · have none : rest.filter (key · = k) = [] := by
        refine List.filter_eq_nil_iff.mpr ?_
        intro b mem
        rw [decide_eq_true_eq]
        exact fun same => here (above b mem same)
      have all : rest.filter (key · ≠ k) = rest := by
        simpa [none] using ih others
      simpa [here, none] using all

/-- **The groups of sorted items**, by increasing keys one after the other, are the items. -/
theorem flatMap_groups {before : κ → κ → Prop} (irrefl : ∀ k, ¬ before k k) {keys : List κ}
    (increasing : keys.Pairwise before) (sorted : items.Pairwise fun a b => ¬ before (key b) (key a))
    (covered : ∀ a ∈ items, key a ∈ keys) :
    keys.flatMap (fun k => items.filter (key · = k)) = items := by
  induction keys generalizing items with
  | nil => exact (List.eq_nil_iff_forall_not_mem.mpr fun a mem => List.not_mem_nil (covered a mem)).symm
  | cons k rest ih =>
    obtain ⟨least, others⟩ := List.pairwise_cons.mp increasing
    have first : items.Pairwise fun a b => key b = k → key a = k := by
      refine sorted.imp_of_mem ?_
      intro a b memA _ notBefore same
      rcases List.mem_cons.mp (covered a memA) with here | later
      · exact here
      · exact absurd (same ▸ least _ later) notBefore
    have tail := ih others (sorted.filter (key · ≠ k)) fun a mem => by
      obtain ⟨listed, other⟩ := List.mem_filter.mp mem
      rw [decide_eq_true_eq] at other
      exact (List.mem_cons.mp (covered a listed)).resolve_left other
    have groups : rest.flatMap (fun k' => items.filter (key · = k'))
        = rest.flatMap (fun k' => (items.filter (key · ≠ k)).filter (key · = k')) := by
      refine List.flatMap_congr ?_
      intro k' later
      have other : k' ≠ k := by
        rintro rfl
        exact irrefl _ (least _ later)
      rw [List.filter_filter]
      refine List.filter_congr ?_
      intro a _
      by_cases same : key a = k'
      · simp [same, other]
      · simp [same]
    rw [List.flatMap_cons, groups, tail]
    exact filter_append_filter first

end Groups

namespace Catalog

open ContentFile

variable (catalog : Catalog)

/-- **The files of a title** are those with its id in capitals, in the order of the catalog. -/
theorem versions_eq (titleId : String) :
    catalog.versions titleId
      = if catalog.files.filter (·.titleId = some (upper titleId)) = [] then none
        else some (upper titleId, catalog.files.filter (·.titleId = some (upper titleId))) := by
  have group : ((List.finRange catalog.files.length).filter fun position =>
      catalog.files[position].titleId = some (upper titleId)).map (catalog.files[·]) = _ :=
    TitleIndex.map_filter_finRange catalog.files (upper titleId)
  show (catalog.titles.lookup (upper titleId)).map _ = _
  rw [catalog.indexed, TitleIndex.ofFiles, TitleIndex.lookup_ofPositions, ← group]
  generalize (List.finRange catalog.files.length).filter _ = positions
  cases positions <;> rfl

/-- A title id is listed if a file has it. -/
theorem mem_titleIds (id : String) : id ∈ catalog.titleIds ↔ ∃ file ∈ catalog.files, file.titleId = some id := by
  rw [titleIds, List.mem_mergeSort, catalog.indexed, TitleIndex.mem_ids_ofFiles]

/-- **Title ids are listed in order**, each once. -/
theorem pairwise_titleIds : catalog.titleIds.Pairwise (· < ·) := by
  have sorted : catalog.titleIds.Pairwise fun a b => decide (a ≤ b) = true := by
    refine List.pairwise_mergeSort (fun a b c first second => ?_) (fun a b => ?_) _
    · rw [decide_eq_true_eq] at first second ⊢
      exact String.le_trans first second
    · rw [Bool.or_eq_true, decide_eq_true_eq, decide_eq_true_eq]
      exact String.le_total a b
  have distinct : catalog.titleIds.Nodup := by
    refine (List.mergeSort_perm _ _).nodup_iff.mpr ?_
    rw [catalog.indexed]
    exact TitleIndex.nodup_ids_ofPositions _
  refine (sorted.and distinct).imp ?_
  intro a b both
  obtain ⟨noLater, other⟩ := both
  rw [decide_eq_true_eq] at noLater
  exact String.not_le.mp fun back => other (String.le_antisymm noLater back)

/-- The files that are found by a title id. -/
def group (titleId : String) : List ContentFile :=
  ((catalog.versions titleId).map Prod.snd).getD []

theorem group_eq (titleId : String) :
    catalog.group titleId = catalog.files.filter (·.titleId = some (upper titleId)) := by
  unfold group
  rw [versions_eq]
  split
  · next empty => exact empty.symm
  · rfl

/-- **Capitals stay what they are** in the title ids of files. -/
def HasCapitalIds (files : List ContentFile) : Prop :=
  ∀ file ∈ files, ∀ id, file.titleId = some id → upper id = id

/-- **The groups of the title ids, behind the files without an id, are the files of the catalog.** -/
theorem groups_eq_files (capital : HasCapitalIds catalog.files) :
    catalog.files.filter (·.titleId = none) ++ catalog.titleIds.flatMap catalog.group = catalog.files := by
  have irrefl : ∀ id : Option String, ¬ id < id := by
    intro id less
    cases id with
    | none => exact less
    | some s => exact String.lt_irrefl s less
  have increasing : (none :: catalog.titleIds.map some).Pairwise (· < ·) := by
    refine List.pairwise_cons.mpr ⟨fun id mem => ?_, ?_⟩
    · obtain ⟨s, _, rfl⟩ := List.mem_map.mp mem
      trivial
    · exact List.pairwise_map.mpr catalog.pairwise_titleIds
  have sorted : catalog.files.Pairwise fun a b => ¬ b.titleId < a.titleId := by
    refine catalog.ordered.imp ?_
    intro a b precedes back
    have later := (compare_option_eq_lt compare_string_eq_lt _ _).mpr back
    rcases (precedes_iff a b).mp precedes with before | ⟨same, _⟩
    · have earlier := (compare_option_eq_lt compare_string_eq_lt _ _).mpr before
      exact nomatch (Std.OrientedCmp.gt_of_lt earlier).symm.trans later
    · exact irrefl _ (same ▸ back)
  have covered : ∀ file ∈ catalog.files, file.titleId ∈ none :: catalog.titleIds.map some := by
    intro file mem
    cases title : file.titleId with
    | none => exact List.mem_cons_self
    | some id =>
      have listed := (catalog.mem_titleIds id).mpr ⟨file, mem, title⟩
      exact List.mem_cons_of_mem _ (List.mem_map_of_mem listed)
  have groups : catalog.titleIds.flatMap catalog.group
      = (catalog.titleIds.map some).flatMap fun id => catalog.files.filter (·.titleId = id) := by
    rw [List.flatMap_map]
    refine List.flatMap_congr ?_
    intro id mem
    obtain ⟨file, listed, title⟩ := (catalog.mem_titleIds id).mp mem
    rw [group_eq, capital file listed id title]
  rw [groups]
  exact flatMap_groups irrefl increasing sorted covered

/-- A catalog gives each of its files at a position, which counts from one. -/
theorem atPosition_succ {index : Nat} (inside : index < catalog.files.length) :
    catalog.atPosition (index + 1) = some catalog.files[index] := by
  have from_one : ¬ ((index : Int) + 1 < 1) := by omega
  have back : ((index : Int) + 1 - 1).toNat = index := by omega
  rw [atPosition, if_neg from_one, back, List.getElem?_eq_getElem inside]

/-- Numbered files keep their places, each with the position that its place gives it. -/
theorem getElem?_numbered (files : List ContentFile) (index : Nat) :
    (numbered files)[index]? = files[index]?.map fun file => (index + 1, file) := by
  simp only [numbered, List.getElem?_map, List.getElem?_zipIdx]
  cases files[index]? <;> simp

theorem atPosition_eq_none {position : Int}
    (outside : position < 1 ∨ (catalog.files.length : Int) < position) : catalog.atPosition position = none := by
  unfold atPosition
  split
  · rfl
  · next from_one => exact List.getElem?_eq_none (by omega)

end Catalog

end Gameshelf
