import Gameshelf.Catalog.ContentFile
import Gameshelf.Proofs.Text.Case

/-!
Names of content files: something, a dot and one of four endings, in any letter case of ASCII
(`isContentName_iff`). So none ends in a line feed.
-/

namespace Gameshelf

open Text

section Suffixes

variable {name : String}

/-- The suffix of a name is the part from its last dot, where something stands on both sides. -/
theorem suffixOf_of_split {stem ending : List Char} (split : name.toList = stem ++ '.' :: ending)
    (before : stem ≠ []) (behind : ending ≠ []) (last : '.' ∉ ending) :
    Path.suffixOf name = String.ofList ('.' :: ending) := by
  have reversed : name.toList.reverse = ending.reverse ++ '.' :: stem.reverse := by
    rw [split, List.reverse_append, List.reverse_cons, List.append_assoc, List.singleton_append]
  have plain : ∀ c ∈ ending.reverse, (c != '.') = true := by
    intro c mem
    rw [bne_iff_ne]
    rintro rfl
    exact last (List.mem_reverse.mp mem)
  have taken : (ending.reverse ++ '.' :: stem.reverse).takeWhile (· != '.') = ending.reverse := by
    rw [List.takeWhile_append_of_pos plain, List.takeWhile_cons_of_neg (by decide), List.append_nil]
  have dropped : (ending.reverse ++ '.' :: stem.reverse).dropWhile (· != '.') = '.' :: stem.reverse := by
    rw [List.dropWhile_append_of_pos plain, List.dropWhile_cons_of_neg (by decide)]
  simp only [Path.suffixOf, reversed, taken, dropped, List.reverse_reverse, List.tail_cons, List.isEmpty_reverse,
    List.isEmpty_eq_false_iff.mpr before, List.isEmpty_eq_false_iff.mpr behind, Bool.or_self, Bool.false_eq_true,
    if_false]

/-- A name with a suffix is something in front of it and the suffix. -/
theorem exists_split (some : Path.suffixOf name ≠ "") :
    ∃ stem ending, name.toList = stem ++ '.' :: ending ∧ stem ≠ [] ∧
      Path.suffixOf name = String.ofList ('.' :: ending) := by
  unfold Path.suffixOf at some ⊢
  dsimp only at some ⊢
  split at some
  · exact absurd rfl some
  · next filled =>
    rw [if_neg filled]
    simp only [Bool.or_eq_true, List.isEmpty_iff, not_or] at filled
    have parts := List.takeWhile_append_dropWhile (p := (· != '.')) (l := name.toList.reverse)
    cases rest : name.toList.reverse.dropWhile (· != '.') with
    | nil =>
      rw [rest] at filled
      exact absurd rfl filled.2
    | cons dot stem =>
      have own : dot = '.' := by
        have some : name.toList.reverse.dropWhile (· != '.') ≠ [] := rest ▸ List.cons_ne_nil _ _
        have stops := List.head_dropWhile_not (· != '.') some
        simpa [rest] using stops
      subst own
      rw [rest] at parts filled
      have whole := congrArg List.reverse parts
      rw [List.reverse_append, List.reverse_cons, List.append_assoc, List.singleton_append, List.reverse_reverse]
        at whole
      exact ⟨stem.reverse, _, whole.symm, fun none => filled.2 (List.reverse_eq_nil_iff.mp none), rfl⟩

end Suffixes

section Names

variable {name : String}

/-- The suffixes of content files are ASCII without k. -/
theorem contentSuffixes_letters : ∀ suffix ∈ contentSuffixes, ∀ d ∈ suffix.toList, d.toNat < 0x80 ∧ d ≠ 'k' := by
  simp [contentSuffixes]

/-- **A content file is named** with something, a dot and one of four endings, in any letter case of ASCII. -/
theorem isContentName_iff :
    isContentName name = true ↔ ∃ stem ending, name.toList = stem ++ '.' :: ending ∧ stem ≠ [] ∧
      ending.map Char.toLower ∈ ["nsp".toList, "nsz".toList, "xci".toList, "xcz".toList] := by
  have form : isContentName name = true ↔
      (Path.suffixOf name).toList.map Char.toLower ∈ contentSuffixes.map String.toList := by
    rw [isContentName, List.contains_iff_mem, List.mem_map]
    constructor
    · intro listed
      exact ⟨_, listed, ((lower_eq_iff (contentSuffixes_letters _ listed)).mp rfl).symm⟩
    · rintro ⟨suffix, listed, same⟩
      rwa [(lower_eq_iff (contentSuffixes_letters _ listed)).mpr same.symm]
  have dotted {ending : List Char} : ('.' :: ending).map Char.toLower ∈ contentSuffixes.map String.toList ↔
      ending.map Char.toLower ∈ ["nsp".toList, "nsz".toList, "xci".toList, "xcz".toList] := by
    have dot : Char.toLower '.' = '.' := by decide
    simp [contentSuffixes, dot]
  rw [form]
  constructor
  · intro listed
    have some : Path.suffixOf name ≠ "" := by
      intro none
      rw [none] at listed
      exact absurd listed (by decide)
    obtain ⟨stem, ending, split, before, suffix⟩ := exists_split some
    rw [suffix, String.toList_ofList, dotted] at listed
    exact ⟨stem, ending, split, before, listed⟩
  · rintro ⟨stem, ending, split, before, listed⟩
    have last : '.' ∉ ending := by
      intro mem
      have dot : '.' ∈ ending.map Char.toLower := List.mem_map.mpr ⟨'.', mem, by decide⟩
      simp only [List.mem_cons, List.not_mem_nil, or_false] at listed
      rcases listed with same | same | same | same <;> exact absurd (same ▸ dot) (by decide)
    have behind : ending ≠ [] := by
      rintro rfl
      exact absurd listed (by decide)
    rw [suffixOf_of_split split before behind last, String.toList_ofList, dotted]
    exact listed

/-- **The name of a content file does not end in a line feed.** -/
theorem last_of_isContentName (content : isContentName name = true) :
    ∃ start c, name.toList = start ++ [c] ∧ c ≠ '\n' := by
  obtain ⟨stem, ending, split, -, listed⟩ := isContentName_iff.mp content
  have some : ending ≠ [] := by
    rintro rfl
    exact absurd listed (by decide)
  refine ⟨stem ++ '.' :: ending.dropLast, ending.getLast some, ?_, fun lineFeed => ?_⟩
  · rw [split, List.append_assoc, List.cons_append, List.dropLast_concat_getLast some]
  · have own : '\n' ∈ ending.map Char.toLower :=
      List.mem_map.mpr ⟨'\n', lineFeed ▸ List.getLast_mem some, by decide⟩
    simp only [List.mem_cons, List.not_mem_nil, or_false] at listed
    rcases listed with same | same | same | same <;> exact absurd (same ▸ own) (by decide)

end Names

end Gameshelf
