import Mathlib.Data.List.Nodup
import Gameshelf.Catalog.Basic

/-!
The order of a catalog in words (`ContentFile.precedes_iff`), and what sorting by it keeps: files of one
rank stay as they stood (`Catalog.filter_rank`), so files of different ranks make the same catalog in
whatever order they come (`Catalog.ofFiles_of_perm`).
-/

namespace Gameshelf

section Absent

variable {α : Type} [LT α]

/-- An absent value comes before every other. -/
theorem compare_option_eq_lt [Ord α] (lawful : ∀ x y : α, compare x y = .lt ↔ x < y) (a b : Option α) :
    compare a b = .lt ↔ a < b := by
  cases a with
  | none =>
    cases b with
    | none => exact ⟨nofun, nofun⟩
    | some y => exact ⟨fun _ => trivial, fun _ => rfl⟩
  | some x =>
    cases b with
    | none => exact ⟨nofun, nofun⟩
    | some y => exact lawful x y

end Absent

section Stability

variable {α : Type} {le : α → α → Bool}

/-- **Sorting leaves alike items as they stood.** -/
theorem filter_mergeSort (trans : ∀ a b c, le a b = true → le b c = true → le a c = true)
    (total : ∀ a b, (le a b || le b a) = true) {p : α → Bool}
    (alike : ∀ a b, p a = true → p b = true → le a b = true) (items : List α) :
    (items.mergeSort le).filter p = items.filter p := by
  have sorted : (items.filter p).Pairwise fun a b => le a b = true := by
    refine List.pairwise_of_forall_mem_list ?_
    intro a memA b memB
    exact alike a b (List.mem_filter.mp memA).2 (List.mem_filter.mp memB).2
  have kept := (List.sublist_mergeSort trans total sorted List.filter_sublist).filter p
  rw [List.filter_filter] at kept
  simp only [Bool.and_self] at kept
  exact (kept.eq_of_length ((List.mergeSort_perm items le).filter p).length_eq.symm).symm

end Stability

namespace ContentFile

/-- What the order of the catalog looks at. -/
def rank (file : ContentFile) : Option String × Option Int × String :=
  (file.titleId, file.version, file.name)

/-- **A file stands no later than another**: its title id comes first, or at the same title id its version
does, or with the same version its name comes no later. Names and ids compare by code points, and what is
absent comes before all that is there. -/
def NoLater (a b : ContentFile) : Prop :=
  a.titleId < b.titleId ∨ a.titleId = b.titleId ∧
    (a.version < b.version ∨ a.version = b.version ∧ a.name ≤ b.name)

theorem compare_string_eq_lt (a b : String) : compare a b = .lt ↔ a < b :=
  compareOfLessAndEq_eq_lt

theorem isLE_compare_string (a b : String) : (compare a b).isLE = true ↔ a ≤ b := by
  have swapped : compare a b = (compare b a).swap := Std.OrientedCmp.eq_swap
  rw [← String.not_lt, ← compare_string_eq_lt, swapped]
  cases compare b a <;> decide

theorem order_eq (a b : ContentFile) :
    order a b = (compare a.titleId b.titleId).then
      ((compare a.version b.version).then (compare a.name b.name)) := rfl

/-- A comparison in two steps: the second decides where the first finds no difference. -/
theorem isLE_then {first second : Ordering} :
    (first.then second).isLE = true ↔ first = .lt ∨ first = .eq ∧ second.isLE = true := by
  cases first <;> simp [Ordering.then]

/-- **The order of the catalog in words.** -/
theorem precedes_iff (a b : ContentFile) : a.precedes b = true ↔ NoLater a b := by
  have title : compare a.titleId b.titleId = .lt ↔ a.titleId < b.titleId :=
    compare_option_eq_lt compare_string_eq_lt _ _
  have version : compare a.version b.version = .lt ↔ a.version < b.version :=
    compare_option_eq_lt (fun _ _ => Std.compare_eq_lt) _ _
  rw [precedes, order_eq, isLE_then, isLE_then, isLE_compare_string, title, version,
    Std.LawfulEqOrd.compare_eq_iff_eq, Std.LawfulEqOrd.compare_eq_iff_eq]
  rfl

/-- Files that stand no later than each other have one rank. -/
theorem rank_eq_of_precedes {a b : ContentFile} (first : a.precedes b = true) (second : b.precedes a = true) :
    a.rank = b.rank := by
  have same : order a b = .eq := Std.OrientedCmp.isLE_antisymm first second
  rw [order_eq, Ordering.then_eq_eq, Ordering.then_eq_eq] at same
  obtain ⟨title, version, name⟩ := same
  rw [rank, rank, Std.LawfulEqOrd.eq_of_compare title, Std.LawfulEqOrd.eq_of_compare version,
    Std.LawfulEqOrd.eq_of_compare name]

/-- Files of one rank may stand in any order. -/
theorem precedes_of_rank_eq {a b : ContentFile} (same : a.rank = b.rank) : a.precedes b = true := by
  obtain ⟨title, rest⟩ := Prod.mk.inj same
  obtain ⟨version, name⟩ := Prod.mk.inj rest
  exact (precedes_iff a b).mpr (.inr ⟨title, .inr ⟨version, name ▸ String.le_refl _⟩⟩)

end ContentFile

namespace Catalog

open ContentFile

theorem perm_files_ofFiles (files : List ContentFile) : (ofFiles files).files.Perm files :=
  List.mergeSort_perm files precedes

/-- **Files of one rank stay as they stood.** -/
theorem filter_rank (files : List ContentFile) (rank : Option String × Option Int × String) :
    (ofFiles files).files.filter (·.rank = rank) = files.filter (·.rank = rank) := by
  refine filter_mergeSort precedes_trans precedes_total (fun a b rankA rankB => ?_) files
  exact precedes_of_rank_eq ((of_decide_eq_true rankA).trans (of_decide_eq_true rankB).symm)

/-- A catalog is told by its files. -/
theorem ext_files {one other : Catalog} (files : one.files = other.files) : one = other := by
  obtain ⟨files, titles, _, indexed⟩ := one
  obtain ⟨_, _, _, _⟩ := other
  subst files
  subst indexed
  subst_vars
  rfl

/-- **Files of different ranks make one catalog**, in whatever order they come. -/
theorem ofFiles_of_perm {files other : List ContentFile} (perm : other.Perm files)
    (distinct : (files.map rank).Nodup) : ofFiles other = ofFiles files := by
  have whole : (ofFiles other).files.Perm (ofFiles files).files :=
    (perm_files_ofFiles other).trans (perm.trans (perm_files_ofFiles files).symm)
  apply ext_files
  refine List.Perm.eq_of_pairwise ?_ (ofFiles other).ordered (ofFiles files).ordered whole
  intro a b memA memB first second
  have inFiles : a ∈ files := (perm_files_ofFiles files).mem_iff.mp (whole.mem_iff.mp memA)
  have inOther : b ∈ files := (perm_files_ofFiles files).mem_iff.mp memB
  exact List.inj_on_of_nodup_map distinct inFiles inOther (rank_eq_of_precedes first second)

end Catalog

end Gameshelf
