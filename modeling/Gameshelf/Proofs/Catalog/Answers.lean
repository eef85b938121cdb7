import Gameshelf.Proofs.Catalog.Groups
import Gameshelf.Proofs.Library.Scan
import Gameshelf.Proofs.Title.Token

/-!
What a catalog answers, against the files it is made of. The catalog keeps positions in its order for every
title id; `ofFiles_describes` says that whatever is asked of it is answered from the files alone, which
therefore make the same catalog in whatever order they come, as long as their ranks differ.
-/

namespace Gameshelf.Catalog

open Text ContentFile

/-- **A catalog describes files**: it holds them all in its order, those of one rank as they stood, and
answers from them by title id and by position. -/
structure Describes (catalog : Catalog) (files : List ContentFile) : Prop where
  whole : catalog.files.Perm files
  ordered : catalog.files.Pairwise NoLater
  stable : ∀ rank, catalog.files.filter (·.rank = rank) = files.filter (·.rank = rank)
  /-- A title is unknown if its id in capitals is that of no file. -/
  unknown : ∀ query, catalog.versions query = none ↔ ∀ file ∈ files, file.titleId ≠ some (upper query)
  known : ∀ query id group, catalog.versions query = some (id, group) →
    id = upper query ∧ group = catalog.files.filter (·.titleId = some (upper query))
  increasing : catalog.titleIds.Pairwise (· < ·)
  listed : ∀ id, id ∈ catalog.titleIds ↔ ∃ file ∈ files, file.titleId = some id
  found : ∀ index (inside : index < catalog.files.length),
    catalog.atPosition (index + 1) = some catalog.files[index]
  beyond : ∀ position : Int, position < 1 ∨ (catalog.files.length : Int) < position →
    catalog.atPosition position = none

theorem describes_ofFiles (files : List ContentFile) : (ofFiles files).Describes files := by
  have whole := perm_files_ofFiles files
  refine ⟨whole, ?ordered, filter_rank files, ?unknown, ?known, pairwise_titleIds _, ?listed,
    fun _ inside => atPosition_succ _ inside, fun _ outside => atPosition_eq_none _ outside⟩
  case ordered => exact (ofFiles files).ordered.imp fun {a b} precedes => (precedes_iff a b).mp precedes
  case unknown =>
    intro query
    have empty : (ofFiles files).versions query = none ↔
        (ofFiles files).files.filter (·.titleId = some (upper query)) = [] := by
      rw [versions_eq]
      split <;> simp_all
    rw [empty, List.filter_eq_nil_iff]
    simp only [decide_eq_true_eq, whole.mem_iff]
  case known =>
    intro query id group known
    rw [versions_eq] at known
    split at known
    · cases known
    · cases known
      exact ⟨rfl, rfl⟩
  case listed =>
    intro id
    rw [mem_titleIds]
    simp only [whole.mem_iff]

/-- The title ids of files that are made of paths are in capitals. -/
theorem hasCapitalIds_of_scan {disk : Disk} {conditions : ScanConditions} {root : Path} {files : List ContentFile}
    (scanned : Library.scan disk conditions root = .ok files) : HasCapitalIds files := by
  intro file mem id title
  obtain ⟨path, size, made⟩ := Library.made_of_scan scanned mem
  obtain ⟨tokens, read, same⟩ := bind_eq_ok.mp made
  cases same
  exact Tokens.upper_titleId_of_ofFile read title

/-- A title id of a catalog has files. -/
theorem group_ne_nil {catalog : Catalog} (capital : HasCapitalIds catalog.files) {id : String}
    (listed : id ∈ catalog.titleIds) : catalog.group id ≠ [] := by
  obtain ⟨file, mem, title⟩ := (catalog.mem_titleIds id).mp listed
  rw [group_eq, capital file mem id title]
  exact List.ne_nil_of_mem (List.mem_filter.mpr ⟨mem, decide_eq_true title⟩)

/-- **The catalog of files says what the files say.** It describes them; files of different ranks make the
same catalog in whatever order they come; and where the title ids are in capitals, as those of every scan are,
the files without an id and the groups of the title ids, none of them empty, are the files of the catalog, one
after the other. -/
theorem ofFiles_describes (files : List ContentFile) :
    (ofFiles files).Describes files ∧
      (∀ other : List ContentFile, other.Perm files → (files.map rank).Nodup → ofFiles other = ofFiles files) ∧
      (HasCapitalIds files →
        (ofFiles files).files.filter (·.titleId = none)
            ++ (ofFiles files).titleIds.flatMap (ofFiles files).group = (ofFiles files).files ∧
          ∀ id ∈ (ofFiles files).titleIds, (ofFiles files).group id ≠ []) ∧
      ∀ disk conditions root, Library.scan disk conditions root = .ok files → HasCapitalIds files := by
  refine ⟨describes_ofFiles files, fun other perm distinct => ofFiles_of_perm perm distinct, ?_,
    fun _ _ _ scanned => hasCapitalIds_of_scan scanned⟩
  intro capital
  have sorted : HasCapitalIds (ofFiles files).files := fun file mem =>
    capital file ((perm_files_ofFiles files).mem_iff.mp mem)
  exact ⟨groups_eq_files _ sorted, fun _ listed => group_ne_nil sorted listed⟩

/-- Files that differ by little: one without an id, one with an empty id, and three with one id, of which one
has no version, and one the version zero. -/
def akin : List ContentFile :=
  [⟨"a", "a", 1, some "AB", some 0, .base⟩, ⟨"b", "b", 1, some "AB", none, .base⟩,
    ⟨"c", "c", 1, some "", none, .unknown⟩, ⟨"d", "d", 1, none, none, .unknown⟩,
    ⟨"e/b", "b", 1, some "AB", some 0, .base⟩]

theorem ofFiles_describes_akin :
    ofFiles akin.reverse = ofFiles akin ∧
      (ofFiles akin).files.filter (·.titleId = none) ++ (ofFiles akin).titleIds.flatMap (ofFiles akin).group
        = (ofFiles akin).files ∧
      (ofFiles akin).versions "ab" ≠ none ∧ (ofFiles akin).versions "abc" = none := by
  have capital : HasCapitalIds akin := by
    intro file mem id title
    simp only [akin, List.mem_cons, List.not_mem_nil, or_false] at mem
    rcases mem with rfl | rfl | rfl | rfl | rfl <;> cases title <;> decide
  obtain ⟨describes, perm, groups, _⟩ := ofFiles_describes akin
  refine ⟨perm _ (List.reverse_perm akin) (by decide), (groups capital).1, ?_, ?_⟩
  · intro unknown
    exact (describes.unknown "ab").mp unknown ⟨"a", "a", 1, some "AB", some 0, .base⟩ (by decide) (by decide)
  · exact (describes.unknown "abc").mpr (by decide)

end Gameshelf.Catalog
