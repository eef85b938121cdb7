import Gameshelf.Download.SafePath
import Gameshelf.Proofs.Disk.FileName

/-!
Requested paths. A request that means a path means names that can stand on a disk, one below the other
(`names_of_safePath?`). A path that is made of such names means itself, if none of them holds a backslash or
begins like a drive (`safePath?_of_plain`).
-/

namespace Gameshelf.Download

open Text

/-- **No component holds a backslash or begins like a drive.** -/
def IsPlain (path : String) : Prop :=
  ∀ component ∈ splitAll (· == '/') path.toList, '\\' ∉ component ∧ startsWithDrive component = false

variable {path : String} {components : List (List Char)}

theorem segmentsOf_of_plain (some : components ≠ []) (whole : path.toList = joinWith ['/'] components)
    (sound : ∀ component ∈ components, Path.IsComponent component)
    (plain : ∀ component ∈ components, '\\' ∉ component) : segmentsOf path = components := by
  have clean : ∀ component ∈ components, ∀ c ∈ component, isSeparator c = false := by
    intro component mem c here
    simp only [isSeparator, Bool.or_eq_false_iff, beq_eq_false_iff_ne]
    constructor
    · rintro rfl
      exact (sound component mem).2.2.2.1 here
    · rintro rfl
      exact plain component mem here
  have idle : ∀ component ∈ components, (!isIdle component) = true := by
    intro component mem
    obtain ⟨filled, more, _⟩ := sound component mem
    simp [isIdle, filled, more]
  rw [segmentsOf, whole, splitAll_joinWith rfl some clean]
  exact List.filter_eq_self.mpr idle

/-- **A plain path is what a request for it means.** -/
theorem safePath?_of_plain (some : components ≠ []) (whole : path.toList = joinWith ['/'] components)
    (sound : ∀ component ∈ components, Path.IsComponent component) (plain : IsPlain path) :
    safePath? path = .some path := by
  have split : splitAll (· == '/') path.toList = components := by
    rw [whole]
    refine splitAll_joinWith rfl some ?_
    intro component mem c here
    apply beq_eq_false_iff_ne.mpr
    rintro rfl
    exact (sound component mem).2.2.2.1 here
  rw [IsPlain, split] at plain
  have segments := segmentsOf_of_plain some whole sound fun component mem => (plain component mem).1
  have allowed : components.any isForbidden = false := by
    apply List.any_eq_false.mpr
    intro component mem
    obtain ⟨_, _, up, _, clean⟩ := sound component mem
    simp [isForbidden, up, clean, (plain component mem).2]
  have filled : components.isEmpty = false := by simpa using some
  simp only [safePath?, segments, allowed, filled, Bool.or_false, Bool.false_eq_true, if_false]
  rw [← whole, String.ofList_toList]

/-- **The names that a relative path leads along.** -/
def namesOf (path : String) : Place :=
  (splitAll (· == '/') path.toList).map fun component => .ofString (String.ofList component)

/-- A segment that says something and is not forbidden is a component. -/
theorem isComponent_of_mem {requested : String} {segment : List Char} (mem : segment ∈ segmentsOf requested)
    (allowed : isForbidden segment = false) : Path.IsComponent segment := by
  obtain ⟨piece, kept⟩ := List.mem_filter.mp mem
  have clean : '/' ∉ segment := fun slashed => nomatch clean_of_mem_splitAll piece '/' slashed
  simp only [isIdle, Bool.not_eq_true', Bool.or_eq_false_iff, List.isEmpty_eq_false_iff,
    beq_eq_false_iff_ne] at kept
  simp only [isForbidden, Bool.or_eq_false_iff, beq_eq_false_iff_ne] at allowed
  obtain ⟨⟨up, marked⟩, _⟩ := allowed
  exact ⟨kept.1, kept.2, up, clean, fun nul => nomatch marked.symm.trans (List.contains_iff_mem.mpr nul)⟩

theorem components_of_safePath? {requested : String} (safe : safePath? requested = some path) :
    ∃ pieces : List String, pieces ≠ [] ∧ path = String.ofList (joinWith ['/'] (pieces.map String.toList)) ∧
      ∀ piece ∈ pieces, Path.IsComponent piece.toList := by
  simp only [safePath?] at safe
  split at safe
  · cases safe
  · next kept =>
    rw [Bool.or_eq_true, not_or, Bool.not_eq_true, Bool.not_eq_true, List.isEmpty_eq_false_iff,
      List.any_eq_false] at kept
    obtain ⟨filled, allowed⟩ := kept
    have lists : ((segmentsOf requested).map String.ofList).map String.toList = segmentsOf requested := by
      simp only [List.map_map, Function.comp_def, String.toList_ofList, List.map_id']
    refine ⟨(segmentsOf requested).map String.ofList, ?_, ?_, ?_⟩
    · exact fun none => filled (List.map_eq_nil_iff.mp none)
    · rw [lists]
      exact (Option.some.inj safe).symm
    · intro piece mem
      obtain ⟨segment, listed, rfl⟩ := List.mem_map.mp mem
      rw [String.toList_ofList]
      exact isComponent_of_mem listed (Bool.eq_false_iff.mpr (allowed segment listed))

/-- **What a request means leads along legal names**, and is read as the path of these names. -/
theorem names_of_safePath? {requested : String} (safe : safePath? requested = some path) :
    namesOf path ≠ [] ∧ (∀ name ∈ namesOf path, name.IsLegal) ∧
      Path.ofText (LooseText.ofString path) = ⟨.relative, (namesOf path).map FileName.text⟩ := by
  obtain ⟨pieces, filled, rfl, components⟩ := components_of_safePath? safe
  have clean : ∀ component ∈ pieces.map String.toList, ∀ c ∈ component, (c == '/') = false := by
    intro component mem c here
    obtain ⟨piece, listed, rfl⟩ := List.mem_map.mp mem
    exact beq_eq_false_iff_ne.mpr fun same => (components piece listed).2.2.2.1 (same ▸ here)
  have names : namesOf (String.ofList (joinWith ['/'] (pieces.map String.toList)))
      = pieces.map FileName.ofString := by
    have split : splitAll (· == '/') (joinWith ['/'] (pieces.map String.toList)) = pieces.map String.toList :=
      splitAll_joinWith rfl (fun none => filled (List.map_eq_nil_iff.mp none)) clean
    rw [namesOf, String.toList_ofList, split, List.map_map]
    exact List.map_congr_left fun piece _ => congrArg FileName.ofString String.ofList_toList
  rw [names]
  refine ⟨fun none => filled (List.map_eq_nil_iff.mp none), ?_, ?_⟩
  · intro name mem
    obtain ⟨piece, listed, rfl⟩ := List.mem_map.mp mem
    exact FileName.isLegal_ofString.mpr (components piece listed)
  · rw [FileName.ofText_joinWith filled components, List.map_map]
    exact congrArg _ (List.map_congr_left fun piece _ => (FileName.text_ofString piece).symm)

end Gameshelf.Download
