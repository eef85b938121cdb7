import Gameshelf.Proofs.Download.SafePath

/-!
The segments of a requested path. A request is cut at every slash of either kind. It means a path exactly if one
of its segments counts and none bars it, and then the segments that count make up the path
(`safePath?_eq_some_iff`). Such a path leads down from every directory it is seen from, and a request for it
means it again (`safePath?_by_segments`).
-/

namespace Gameshelf

/-- **A path below another by its wording**: it goes on from there by names, and none of them is a step up. -/
def Path.IsBelow (path root : Path) : Prop :=
  ∃ names : List LooseText, names ≠ [] ∧ LooseText.ofString ".." ∉ names ∧
    path = ⟨root.anchor, root.names ++ names⟩

namespace Download

open Text

/-- The segments of a request, cut at every slash of either kind. -/
def cutSegments (requested : String) : List (List Char) :=
  requested.toList.splitOnP fun c => c = '/' ∨ c = '\\'

/-- **Segments that count**: neither empty nor a single dot. -/
def Counts (segment : List Char) : Prop :=
  segment ≠ [] ∧ segment ≠ ['.']

instance (segment : List Char) : Decidable (Counts segment) :=
  inferInstanceAs (Decidable (_ ∧ _))

/-- **Segments that bar a request**: a step up, and one with a NUL in it or with a drive in front. -/
def Bars (segment : List Char) : Prop :=
  segment = ['.', '.'] ∨ '\x00' ∈ segment ∨
    ∃ letter rest, segment = letter :: ':' :: rest ∧ letter.isAlpha = true

section Segments

variable {segment : List Char}

theorem isIdle_eq_false_iff : isIdle segment = false ↔ Counts segment := by
  simp [isIdle, Counts]

theorem startsWithDrive_iff :
    startsWithDrive segment = true ↔ ∃ letter rest, segment = letter :: ':' :: rest ∧ letter.isAlpha = true := by
  have letters (c : Char) : (('a' ≤ c && c ≤ 'z') || ('A' ≤ c && c ≤ 'Z')) = c.isAlpha := by
    show _ = (decide ('A' ≤ c ∧ c ≤ 'Z') || ('a' ≤ c && c ≤ 'z'))
    rw [Bool.decide_and, Bool.or_comm]
  constructor
  · intro starts
    unfold startsWithDrive at starts
    split at starts
    · next letter rest => exact ⟨letter, rest, rfl, letters letter ▸ starts⟩
    · cases starts
  · rintro ⟨letter, rest, rfl, alpha⟩
    exact (letters letter).trans alpha

theorem isForbidden_iff : isForbidden segment = true ↔ Bars segment := by
  simp [isForbidden, Bars, startsWithDrive_iff, or_assoc]

/-- What bars a request is no segment that drops out of it. -/
theorem Bars.counts (bars : Bars segment) : Counts segment := by
  constructor
  · rintro rfl
    simp [Bars] at bars
  · rintro rfl
    simp [Bars] at bars

end Segments

/-- The segments that are kept are those that count. -/
theorem segmentsOf_eq (requested : String) :
    segmentsOf requested = (cutSegments requested).filter (Counts ·) := by
  have slashes : isSeparator = fun c => decide (c = '/' ∨ c = '\\') := by
    funext c
    rw [Bool.eq_iff_iff]
    simp [isSeparator]
  rw [segmentsOf, splitAll_eq_splitOnP, slashes]
  apply List.filter_congr
  intro segment _
  rw [Bool.eq_iff_iff, Bool.not_eq_true', decide_eq_true_iff, isIdle_eq_false_iff]

/-- **What a request means by its segments**: those that count, with slashes between them. -/
theorem safePath?_eq_some_iff {requested path : String} :
    safePath? requested = some path ↔
      (∃ segment ∈ cutSegments requested, Counts segment) ∧
      (∀ segment ∈ cutSegments requested, ¬Bars segment) ∧
      path.toList = ['/'].intercalate ((cutSegments requested).filter (Counts ·)) := by
  have filled : (segmentsOf requested).isEmpty = false ↔ ∃ segment ∈ cutSegments requested, Counts segment := by
    rw [segmentsOf_eq, List.isEmpty_eq_false_iff_exists_mem]
    simp
  have allowed : (segmentsOf requested).any isForbidden = false ↔
      ∀ segment ∈ cutSegments requested, ¬Bars segment := by
    simp only [List.any_eq_false, isForbidden_iff, segmentsOf_eq, List.mem_filter, decide_eq_true_iff]
    exact ⟨fun none segment mem bars => none segment ⟨mem, bars.counts⟩ bars,
      fun none segment mem => none segment mem.1⟩
  have joined : String.ofList (joinWith ['/'] (segmentsOf requested)) = path ↔
      path.toList = ['/'].intercalate ((cutSegments requested).filter (Counts ·)) := by
    rw [joinWith_eq_intercalate, segmentsOf_eq]
    constructor
    · rintro rfl
      exact String.toList_ofList
    · intro same
      rw [← same, String.ofList_toList]
  rw [← filled, ← allowed, ← joined, safePath?]
  simp only [Bool.or_eq_true]
  split
  · next refused =>
    simp only [reduceCtorEq, false_iff, not_and]
    intro filled allowed
    simp [filled, allowed] at refused
  · next kept =>
    simp only [not_or, Bool.not_eq_true] at kept
    simp [kept]

section Meaning

variable {requested path : String}

/-- The segments of a request have no slashes in them. -/
theorem clean_of_mem_cutSegments {segment : List Char} (mem : segment ∈ cutSegments requested) :
    '/' ∉ segment ∧ '\\' ∉ segment := by
  rw [cutSegments, ← splitAll_eq_splitOnP] at mem
  have clean := clean_of_mem_splitAll mem
  constructor
  · intro slash
    cases clean _ slash
  · intro backslash
    cases clean _ backslash

/-- A path is made up of some segments. -/
theorem filter_counts_ne_nil (safe : safePath? requested = some path) :
    (cutSegments requested).filter (Counts ·) ≠ [] := by
  obtain ⟨⟨first, listed, counts⟩, _⟩ := safePath?_eq_some_iff.mp safe
  exact List.ne_nil_of_mem (List.mem_filter.mpr ⟨listed, decide_eq_true counts⟩)

/-- **A path is cut into the segments that make it up.** -/
theorem cutSegments_of_safePath? (safe : safePath? requested = some path) :
    cutSegments path = (cutSegments requested).filter (Counts ·) := by
  obtain ⟨_, _, whole⟩ := safePath?_eq_some_iff.mp safe
  rw [← joinWith_eq_intercalate] at whole
  rw [cutSegments, whole, ← splitAll_eq_splitOnP]
  apply splitAll_joinWith (by decide)
  · exact filter_counts_ne_nil safe
  · intro segment mem c here
    obtain ⟨slash, backslash⟩ := clean_of_mem_cutSegments (List.mem_filter.mp mem).1
    refine decide_eq_false fun separates => ?_
    rcases separates with rfl | rfl
    · exact slash here
    · exact backslash here

/-- No backslash is left in a path, so that forward slashes alone cut it into the same segments. -/
theorem splitOn_of_safePath? (safe : safePath? requested = some path) :
    '\\' ∉ path.toList ∧ path.toList.splitOn '/' = (cutSegments requested).filter (Counts ·) := by
  obtain ⟨_, _, whole⟩ := safePath?_eq_some_iff.mp safe
  constructor
  · intro mem
    rw [whole, ← joinWith_eq_intercalate] at mem
    rcases mem_of_mem_joinWith mem with slash | ⟨segment, kept, here⟩
    · cases List.mem_singleton.mp slash
    · exact (clean_of_mem_cutSegments (List.mem_filter.mp kept).1).2 here
  · rw [whole]
    apply List.splitOn_intercalate
    · intro segment mem
      exact (clean_of_mem_cutSegments (List.mem_filter.mp mem).1).1
    · exact filter_counts_ne_nil safe

/-- A path leads down from every directory. -/
theorem isBelow_of_safePath? (safe : safePath? requested = some path) (root : Path) :
    (root / path).IsBelow root := by
  obtain ⟨pieces, filled, rfl, components⟩ := components_of_safePath? safe
  refine ⟨pieces.map LooseText.ofString, ?_, ?_, ?_⟩
  · simpa using filled
  · intro mem
    obtain ⟨piece, listed, same⟩ := List.mem_map.mp mem
    have up : piece.toList = ['.', '.'] := congrArg String.toList (LooseText.ofString_injective same)
    exact (components piece listed).2.2.1 up
  · show root.join (Path.ofText (LooseText.ofString _)) = _
    rw [FileName.ofText_joinWith filled components]
    rfl

/-- A request for a path means that path. -/
theorem safePath?_idempotent (safe : safePath? requested = some path) : safePath? path = some path := by
  obtain ⟨⟨first, listed, counts⟩, allowed, whole⟩ := safePath?_eq_some_iff.mp safe
  rw [safePath?_eq_some_iff, cutSegments_of_safePath? safe]
  refine ⟨⟨first, List.mem_filter.mpr ⟨listed, decide_eq_true counts⟩, counts⟩, ?_, ?_⟩
  · intro segment mem
    exact allowed segment (List.mem_filter.mp mem).1
  · simpa using whole

end Meaning

/-- **Requested paths by their segments.** A request means a path exactly if one of its segments counts and none
bars it, and then the path is the segments that count, in their order and with slashes between them. The path is
not absolute, nothing in it is a backslash, and none of its segments is empty, a dot or a step up; so it leads
below every directory that it is seen from. A request for the path means the path. -/
theorem safePath?_by_segments (requested : String) :
    (∀ path, safePath? requested = some path ↔
      (∃ segment ∈ cutSegments requested, Counts segment) ∧
      (∀ segment ∈ cutSegments requested, ¬Bars segment) ∧
      path.toList = ['/'].intercalate ((cutSegments requested).filter (Counts ·))) ∧
    ∀ path, safePath? requested = some path →
      (Path.ofText (LooseText.ofString path)).isAbsolute = false ∧
      '\\' ∉ path.toList ∧
      (∀ segment ∈ path.toList.splitOn '/', segment ≠ [] ∧ segment ≠ ['.'] ∧ segment ≠ ['.', '.']) ∧
      (∀ root : Path, (root / path).IsBelow root) ∧
      safePath? path = some path := by
  refine ⟨fun path => safePath?_eq_some_iff, fun path safe => ?_⟩
  obtain ⟨unslashed, cut⟩ := splitOn_of_safePath? safe
  obtain ⟨_, allowed, _⟩ := safePath?_eq_some_iff.mp safe
  refine ⟨?_, unslashed, ?_, isBelow_of_safePath? safe, safePath?_idempotent safe⟩
  · rw [(names_of_safePath? safe).2.2]
    rfl
  · intro segment mem
    rw [cut, List.mem_filter, decide_eq_true_iff] at mem
    obtain ⟨listed, filled, more⟩ := mem
    exact ⟨filled, more, fun up => allowed segment listed (.inl up)⟩

/-- A request with slashes of both kinds, an empty segment and a dot. -/
theorem safePath?_by_segments_mixed :
    safePath? "/a/.\\b//c.nsp" = some "a/b/c.nsp" ∧ ((⟨.root, ["l"]⟩ : Path) / "a/b/c.nsp").IsBelow ⟨.root, ["l"]⟩ ∧
      safePath? "a/b/c.nsp" = some "a/b/c.nsp" := by
  have safe : safePath? "/a/.\\b//c.nsp" = some "a/b/c.nsp" := rfl
  obtain ⟨_, _, _, below, again⟩ := (safePath?_by_segments "/a/.\\b//c.nsp").2 _ safe
  exact ⟨safe, below _, again⟩

end Download

end Gameshelf
