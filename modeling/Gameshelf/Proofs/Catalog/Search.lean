import Gameshelf.Proofs.Catalog.Order
import Gameshelf.Proofs.Text.Sigma

/-!
Searching a catalog by a text that stands in a name. A query and a name are made small apart from each other, so
a query that stands in a name as it is written is found there unless a capital sigma of it is the other small
letter in the name. The law is exact: a query finds every file that has it in its name or its title id if and
only if it stands steady (`Catalog.search_literal`); the word ΑΣ does not, and misses the file `ΑΣ.nsp`
(`Catalog.search_misses_name`).
-/

namespace Gameshelf

namespace Text

section Occurrences

variable {α : Type} {needle items turned : List α} {x : α}

/-- A text occurs in another exactly if it is a stretch of it. -/
theorem occursIn_iff [BEq α] [LawfulBEq α] : occursIn needle items = true ↔ needle <:+: items := by
  induction items with
  | nil => rw [occursIn, List.isEmpty_iff, List.infix_nil]
  | cons a rest ih =>
    rw [occursIn, Bool.or_eq_true, List.isPrefixOf_iff_prefix, ih, List.infix_cons_iff]

/-- Behind a text of its own length, one more character makes room for a text only if that ends with it. -/
theorem not_infix_concat (lengths : needle.length = turned.length) (other : turned ≠ needle)
    (last : needle.getLast? ≠ some x) : ¬needle <:+: turned ++ [x] := by
  intro within
  rcases List.infix_concat_iff.mp within with ends | within
  · rcases List.suffix_concat_iff.mp ends with rfl | ⟨start, rfl, -⟩
    · exact other (List.length_eq_zero_iff.mp lengths.symm)
    · exact last List.getLast?_concat
  · exact other (within.eq_of_length lengths).symm

theorem not_infix_cons (lengths : needle.length = turned.length) (other : turned ≠ needle)
    (first : needle.head? ≠ some x) : ¬needle <:+: x :: turned := by
  intro within
  rcases List.infix_cons_iff.mp within with starts | within
  · rcases List.prefix_cons_iff.mp starts with rfl | ⟨rest, rfl, -⟩
    · exact other (List.length_eq_zero_iff.mp lengths.symm)
    · exact first rfl
  · exact other (within.eq_of_length lengths).symm

end Occurrences

/-- **A query is found in a text**: its small form occurs in that of the text. -/
def FoundIn (query text : String) : Prop :=
  (lower query).toList <:+: (lower text).toList

/-- **A query stands in a text** as it is written. -/
def StandsIn (query text : String) : Prop :=
  query.toList <:+: text.toList

/-- **A query stands still in a text**: it stands in it at a place where no capital sigma of it turns. -/
def StandsStillIn (query text : String) : Prop :=
  ∃ before after, text.toList = before ++ query.toList ++ after ∧ ¬SigmaTurns before.reverse query.toList after

section Found

variable {query text : String}

/-- **A query that stands still in a text is found in it.** -/
theorem foundIn_of_standsStillIn (still : StandsStillIn query text) : FoundIn query text := by
  obtain ⟨before, after, parts, still⟩ := still
  have own : lowerWithin before.reverse query.toList after = lowerAfter [] query.toList :=
    lowerWithin_eq_iff.mpr still
  rw [FoundIn, lower, lower, String.toList_ofList, String.toList_ofList, parts, List.append_assoc,
    lowerAfter_append, lowerAfter_append, List.append_nil, own]
  exact List.infix_append' _ _ _

instance : Decidable (FoundIn query text) :=
  inferInstanceAs (Decidable (_ <:+: _))

theorem standsStillIn_of_steady (steady : Steady query.toList) (stands : StandsIn query text) :
    StandsStillIn query text := by
  obtain ⟨before, after, parts⟩ := stands
  exact ⟨before, after, parts.symm, steady_iff.mp steady _ _⟩

/-- There is a letter that is its own small form other than a given one. -/
theorem exists_letter (avoided : Option Char) :
    ∃ x, avoided ≠ some x ∧ meetsCased [x] = true ∧ ∀ before after, smallBetween before x after = [x] := by
  have own (x : Char) (letter : meetsCased [x] = true) (other : x ≠ 'Σ') (small : lowerChar x = [x]) :
      meetsCased [x] = true ∧ ∀ before after, smallBetween before x after = [x] :=
    ⟨letter, fun _ _ => by rw [smallBetween, if_neg other, small]⟩
  by_cases first : avoided = some 'a'
  · exact ⟨'b', by rw [first]; decide, own 'b' (by decide +kernel) (by decide) (by decide +kernel)⟩
  · exact ⟨'a', first, own 'a' (by decide +kernel) (by decide) (by decide +kernel)⟩

/-- **A query that does not stand steady is missed** in some text in which it stands. -/
theorem exists_missed_of_not_steady (turns : ¬Steady query.toList) :
    ∃ text, StandsIn query text ∧ ¬FoundIn query text := by
  -- The text is the query with one letter at the end where its sigma turns, and the small query has no such letter
  -- there.
  rcases sigmaTurns_of_not_steady turns with turned | turned
  · obtain ⟨x, last, letter, small⟩ := exists_letter (lowerWithin [] query.toList []).getLast?
    have other := mt lowerWithin_eq_iff.mp (not_not_intro (turned [x] letter))
    have whole : lowerAfter [] (query.toList ++ [x]) = lowerWithin [] query.toList [x] ++ [x] := by
      rw [lowerAfter_append, lowerAfter_eq_lowerWithin _ [x], lowerWithin, lowerWithin, small, List.append_nil]
    rw [lowerAfter_eq_lowerWithin] at other
    refine ⟨String.ofList (query.toList ++ [x]), ⟨[], [x], by rw [String.toList_ofList, List.nil_append]⟩, ?_⟩
    rw [FoundIn, lower, lower, String.toList_ofList, String.toList_ofList, String.toList_ofList, whole,
      lowerAfter_eq_lowerWithin]
    exact not_infix_concat (length_lowerWithin ..) other last
  · obtain ⟨x, first, letter, small⟩ := exists_letter (lowerWithin [] query.toList []).head?
    have other := mt lowerWithin_eq_iff.mp (not_not_intro (turned [x] letter))
    have whole : lowerAfter [] (x :: query.toList) = x :: lowerWithin [x] query.toList [] := by
      rw [lowerAfter_eq_lowerWithin, lowerWithin, small, List.singleton_append]
    rw [lowerAfter_eq_lowerWithin] at other
    refine ⟨String.ofList (x :: query.toList), ⟨[x], [], by rw [String.toList_ofList, List.append_nil]; rfl⟩, ?_⟩
    rw [FoundIn, lower, lower, String.toList_ofList, String.toList_ofList, String.toList_ofList, whole,
      lowerAfter_eq_lowerWithin]
    exact not_infix_cons (length_lowerWithin ..) other first

end Found

end Text

open Text

/-- **A file has what is said of a text** in its name or its title id. -/
def ContentFile.Has (file : ContentFile) (said : String → Prop) : Prop :=
  said file.name ∨ ∃ id ∈ file.titleId, said id

theorem ContentFile.Has.mono {file : ContentFile} {said other : String → Prop} (has : file.Has said)
    (implies : ∀ text, said text → other text) : file.Has other :=
  has.imp (implies _) fun ⟨id, mem, holds⟩ => ⟨id, mem, implies _ holds⟩

namespace Catalog

variable {file : ContentFile} {query : String}

/-- **What a query finds**: the files that have it, all in small letters. -/
theorem mem_search_iff {catalog : Catalog} :
    file ∈ catalog.search query ↔ file ∈ catalog.files ∧ file.Has (FoundIn query) := by
  rw [search, List.mem_filter, matchesQuery, Bool.or_eq_true, occursIn_iff, Option.any_eq_true]
  refine and_congr_right fun _ => or_congr Iff.rfl (exists_congr fun id => and_congr Iff.rfl ?_)
  exact occursIn_iff

theorem mem_search_ofFiles {files : List ContentFile} (mem : file ∈ files) (has : file.Has (FoundIn query)) :
    file ∈ (ofFiles files).search query :=
  mem_search_iff.mpr ⟨(perm_files_ofFiles files).mem_iff.mpr mem, has⟩

/-- **Searching for a text as it is written**, for every query. What is found is a part of the files in their
order. Of any files, every one that has the query in its name or its title id, at a place where no capital sigma
of it turns, is found; and every one that has the query there at all is found if and only if the query stands
steady. -/
theorem search_literal (query : String) :
    (∀ catalog : Catalog, (catalog.search query).Sublist catalog.files) ∧
      (∀ files, ∀ file ∈ files, file.Has (StandsStillIn query) → file ∈ (ofFiles files).search query) ∧
      ((∀ files, ∀ file ∈ files, file.Has (StandsIn query) → file ∈ (ofFiles files).search query) ↔
        Steady query.toList) := by
  have still (files : List ContentFile) : ∀ file ∈ files, file.Has (StandsStillIn query) →
      file ∈ (ofFiles files).search query :=
    fun file mem has => mem_search_ofFiles mem (has.mono fun _ => foundIn_of_standsStillIn)
  refine ⟨fun catalog => List.filter_sublist, still, fun finds => ?_, fun steady files file mem has => ?_⟩
  · by_contra turns
    obtain ⟨text, stands, missed⟩ := exists_missed_of_not_steady turns
    have found := finds [⟨text, text, 0, none, none, .unknown⟩] _ List.mem_cons_self (.inl stands)
    exact (mem_search_iff.mp found).2.elim missed nofun
  · exact still files file mem (has.mono fun _ => standsStillIn_of_steady steady)

/-- A file known by its name alone. -/
def nameOnly (name : String) : ContentFile :=
  ⟨name, name, 1, none, none, .unknown⟩

theorem search_literal_words :
    (StandsStillIn "ΑΣ" "ΑΣ 2.nsp" ∧ nameOnly "ΑΣ 2.nsp" ∈ (ofFiles [nameOnly "ΑΣ 2.nsp"]).search "ΑΣ") ∧
      Steady "game".toList ∧ StandsIn "game" "a game.nsp" ∧
        nameOnly "a game.nsp" ∈ (ofFiles [nameOnly "a game.nsp"]).search "game" := by
  have still : StandsStillIn "ΑΣ" "ΑΣ 2.nsp" :=
    ⟨[], " 2.nsp".toList, by decide +kernel, lowerWithin_eq_iff.mp (by decide +kernel)⟩
  have steady : Steady "game".toList := steady_of_not_mem (by decide +kernel)
  have stands : StandsIn "game" "a game.nsp" := ⟨"a ".toList, ".nsp".toList, by decide +kernel⟩
  exact ⟨⟨still, (search_literal "ΑΣ").2.1 _ _ List.mem_cons_self (.inl still)⟩, steady, stands,
    (search_literal "game").2.2.mpr steady _ _ List.mem_cons_self (.inl stands)⟩

/-- **A file is missed by the first word of its name**: in the name the dot and the letter behind it go on with
the word, in the query the sigma ends it. -/
theorem search_misses_name : ∃ file : ContentFile, StandsIn "ΑΣ" file.name ∧
    file ∉ (ofFiles [file]).search "ΑΣ" := by
  refine ⟨nameOnly "ΑΣ.nsp", ⟨[], ".nsp".toList, by decide +kernel⟩, fun found => ?_⟩
  have missed : ¬FoundIn "ΑΣ" "ΑΣ.nsp" := by decide +kernel
  exact (mem_search_iff.mp found).2.elim missed nofun

end Catalog

end Gameshelf
