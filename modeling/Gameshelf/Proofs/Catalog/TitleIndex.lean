import Mathlib.Data.List.FinRange
import Mathlib.Data.List.Induction
import Gameshelf.Catalog.Basic
import Gameshelf.Proofs.Lookup

/-!
The index of title ids against the files it is made of: for every id it knows the positions of the files
with that id, in their order, and no others (`lookup_ofPositions`). It knows an id once, and only if a file
has it.
-/

namespace Gameshelf.TitleIndex

variable {π : Type}

section Add

/-- One more position goes to the end of those of its id; all others stay. -/
theorem lookup_add (position : π) (id other : String) (index : TitleIndex π) :
    (add position id index).lookup other
      = if other = id then some ((index.lookup id).getD [] ++ [position]) else index.lookup other := by
  induction index with
  | nil =>
    by_cases same : other = id
    · simp [add, same]
    · rw [add, lookup_cons_eq, if_neg same, if_neg same]
  | cons entry rest ih =>
    obtain ⟨first, positions⟩ := entry
    by_cases here : first = id
    · subst here
      by_cases same : other = first
      · simp [add, same]
      · rw [add, if_pos rfl, lookup_cons_eq other, lookup_cons_eq other, if_neg same, if_neg same, if_neg same]
    · rw [add, if_neg here, lookup_cons_eq other first, ih, lookup_cons_eq other first,
        lookup_cons_eq id first, if_neg (Ne.symm here)]
      by_cases same : other = first
      · rw [if_pos same, if_pos same, if_neg (same ▸ here)]
      · rw [if_neg same, if_neg same]

theorem mem_ids_add (position : π) (id other : String) (index : TitleIndex π) :
    other ∈ (add position id index).ids ↔ other = id ∨ other ∈ index.ids := by
  induction index with
  | nil => simp [add, ids]
  | cons entry rest ih =>
    obtain ⟨first, positions⟩ := entry
    by_cases here : first = id
    · subst here
      simp [add, ids]
    · simp only [ids] at ih
      simp only [add, if_neg here, ids, List.map_cons, List.mem_cons, ih]
      exact or_left_comm

theorem nodup_ids_add (position : π) (id : String) {index : TitleIndex π} (distinct : index.ids.Nodup) :
    (add position id index).ids.Nodup := by
  induction index with
  | nil => simp [add, ids]
  | cons entry rest ih =>
    obtain ⟨first, positions⟩ := entry
    obtain ⟨absent, others⟩ := List.nodup_cons.mp distinct
    by_cases here : first = id
    · simp only [add, if_pos here]
      exact distinct
    · simp only [add, if_neg here]
      refine List.nodup_cons.mpr ⟨?_, ih others⟩
      intro mem
      rcases (mem_ids_add position id first rest).mp mem with same | mem
      · exact here same
      · exact absent mem

end Add

section Positions

variable {titleAt : π → Option String}

/-- One position more, after all others. -/
theorem ofPositions_concat (positions : List π) (position : π) :
    ofPositions titleAt (positions ++ [position])
      = match titleAt position with
        | none => ofPositions titleAt positions
        | some id => add position id (ofPositions titleAt positions) := by
  unfold ofPositions
  rw [List.foldl_append]
  rfl

/-- **An index keeps for an id exactly the positions with that id, in their order.** -/
theorem lookup_ofPositions (positions : List π) (id : String) :
    (ofPositions titleAt positions).lookup id
      = if positions.filter (titleAt · = some id) = [] then none
        else some (positions.filter (titleAt · = some id)) := by
  induction positions using List.reverseRecOn with
  | nil => rfl
  | append_singleton positions position ih =>
    rw [ofPositions_concat, List.filter_append]
    cases title : titleAt position with
    | none => simpa [title] using ih
    | some own =>
      by_cases same : id = own
      · subst same
        simp only [lookup_add, if_true, ih]
        by_cases empty : positions.filter (titleAt · = some id) = []
        · simp [empty, title]
        · simp [empty, title]
      · have other : own ≠ id := fun h => same h.symm
        simp [lookup_add, same, title, other, ih]

theorem mem_ids_ofPositions (positions : List π) (id : String) :
    id ∈ (ofPositions titleAt positions).ids ↔ ∃ position ∈ positions, titleAt position = some id := by
  induction positions using List.reverseRecOn with
  | nil => simp [ofPositions, ids]
  | append_singleton positions position ih =>
    rw [ofPositions_concat]
    cases title : titleAt position with
    | none => simp [ih, title]
    | some own =>
      simp only [mem_ids_add, ih, List.mem_append, List.mem_singleton, or_and_right, exists_or,
        exists_eq_left, title, Option.some.injEq]
      rw [or_comm, eq_comm]

/-- An index knows an id once. -/
theorem nodup_ids_ofPositions (positions : List π) : (ofPositions titleAt positions).ids.Nodup := by
  induction positions using List.reverseRecOn with
  | nil => exact List.nodup_nil
  | append_singleton positions position ih =>
    rw [ofPositions_concat]
    cases titleAt position with
    | none => exact ih
    | some own => exact nodup_ids_add position own ih

end Positions

section Files

variable (files : List ContentFile)

/-- The files at the positions with an id are the files with that id. -/
theorem map_filter_finRange (id : String) :
    ((List.finRange files.length).filter fun position => (files.get position).titleId = some id).map
        files.get
      = files.filter (·.titleId = some id) := by
  have whole : (List.finRange files.length).map files.get = files := List.map_get_finRange files
  conv_rhs => rw [← whole, List.filter_map]
  rfl

theorem mem_ids_ofFiles (id : String) :
    id ∈ (ofFiles files).ids ↔ ∃ file ∈ files, file.titleId = some id := by
  rw [ofFiles, mem_ids_ofPositions]
  constructor
  · rintro ⟨position, _, title⟩
    exact ⟨files[position], List.getElem_mem _, title⟩
  · rintro ⟨file, mem, title⟩
    obtain ⟨position, inside, rfl⟩ := List.getElem_of_mem mem
    exact ⟨⟨position, inside⟩, List.mem_finRange _, title⟩

end Files

end Gameshelf.TitleIndex
