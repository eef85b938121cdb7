import Mathlib.Data.List.Forall2
import Gameshelf.Proofs.Title.Id
import Gameshelf.Proofs.Titles.Merging

/-!
The titles of a payload by the ids of its entries. An entry has a title exactly if the capital form of its id is an
id, and then it has one, in the order of the payload. The capital form is taken first, and the ligature ﬀ has two
capitals, so an id may be written with it (`isValid_upper_iff`). Payloads where no id is written so have titles for
their ids alone (`ofPayload_by_ids`).
-/

namespace Gameshelf.Titles

open Text

/-- **An id as an entry may write it**: sixteen hexadecimal digits of either letter case, where the ligature counts as
the two that it joins. -/
def IsWritten (id : String) : Prop :=
  id.toList.length + id.toList.count ligature = 16 ∧ ∀ c ∈ id.toList, Tokens.IsHex c ∨ c = ligature

instance (id : String) : Decidable (IsWritten id) :=
  decidable_of_iff (id.toList.length + id.toList.count ligature = 16 ∧
    id.toList.all (fun c => Tokens.IsHex c ∨ c = ligature) = true) (by simp [IsWritten])

/-- The id that an entry has, if it is text. -/
def ownId? (entry : Json.Members) : Option String :=
  ((Json.obj entry).textAt? "id").bind LooseText.toString?

/-- **A title of an entry**: it is kept under the capital form of the entry's id, with the texts that the entry
gives. -/
def IsTitleOf (entry : Json.Members) (title : LooseText × Info) : Prop :=
  ∃ id ∈ ownId? entry, title.1 = .ofString (upper id) ∧ ∀ part : Part, part.of title.2 = given part entry

section Written

variable {id : String} {cs : List Char}

theorem length_upperChars (written : ∀ c ∈ cs, isHexDigit c = true ∨ c = ligature) :
    (upperChars cs).length = cs.length + cs.count ligature := by
  induction cs with
  | nil => rfl
  | cons c rest ih =>
    obtain ⟨here, others⟩ := List.forall_mem_cons.mp written
    rw [upperChars, List.flatMap_cons, List.length_append, ← upperChars, ih others, List.length_cons]
    rcases here with digit | rfl
    · obtain ⟨d, single, _⟩ := exists_upperChar digit
      have other : c ≠ ligature := by
        rintro rfl
        exact absurd digit (by decide)
      rw [single, List.count_cons_of_ne other, List.length_singleton]
      omega
    · rw [upperChar_ligature, List.count_cons_self, List.length_cons, List.length_singleton]
      omega

/-- **The capital form of a text is an id** exactly if the text writes one. -/
theorem isValid_upper_iff : TitleId.isValid (upper id) = true ↔ IsWritten id := by
  have digits : (∀ c ∈ upperChars id.toList, isHexDigit c = true) ↔
      ∀ c ∈ id.toList, isHexDigit c = true ∨ c = ligature := by
    rw [upperChars, List.forall_mem_flatMap]
    exact forall₂_congr fun _ _ => forall_upperChar_iff
  rw [TitleId.isValid_iff, TitleId.IsId, upper, String.toList_ofList, IsWritten]
  simp only [← Tokens.isHexDigit_iff, digits]
  exact and_congr_left fun written => by rw [length_upperChars written]

/-- Without the ligature an id is written as it is. -/
theorem isId_iff : TitleId.IsId id ↔ IsWritten id ∧ ligature ∉ id.toList := by
  constructor
  · rintro ⟨whole, digits⟩
    have plain : ligature ∉ id.toList := fun mem => absurd (digits _ mem) (by decide)
    rw [IsWritten, List.count_eq_zero_of_not_mem plain]
    exact ⟨⟨whole, fun c mem => .inl (digits c mem)⟩, plain⟩
  · rintro ⟨⟨whole, each⟩, plain⟩
    rw [List.count_eq_zero_of_not_mem plain] at whole
    refine ⟨whole, fun c mem => (each c mem).resolve_right ?_⟩
    rintro rfl
    exact plain mem

end Written

section Entries

/-- What an entry bears is the capital form of the id that it writes. -/
theorem bears_iff {id : String} {entry : Json.Members} :
    Bears id entry ↔ ∃ own ∈ ownId? entry, IsWritten own ∧ upper own = id := by
  unfold Bears ownId?
  rw [Option.map_eq_some_iff]
  constructor
  · rintro ⟨valid, own, has, rfl⟩
    exact ⟨own, has, isValid_upper_iff.mp valid, rfl⟩
  · rintro ⟨own, has, written, rfl⟩
    exact ⟨isValid_upper_iff.mpr written, own, has, rfl⟩

/-- An entry has one title if it writes an id, and none otherwise. -/
theorem titleOf?_by_id (entry : Json.Members) :
    ((∃ id ∈ ownId? entry, IsWritten id) ∧ ∃ title, titleOf? (.obj entry) = some title ∧ IsTitleOf entry title) ∨
    (¬∃ id ∈ ownId? entry, IsWritten id) ∧ titleOf? (.obj entry) = none := by
  obtain ⟨id, info, bears, found, parts⟩ | ⟨none, bearsNone⟩ := titleOf?_cases entry
  · obtain ⟨own, has, written, rfl⟩ := bears_iff.mp bears
    exact .inl ⟨⟨own, has, written⟩, _, found, own, has, rfl, parts⟩
  · refine .inr ⟨?_, none⟩
    rintro ⟨own, has, written⟩
    exact bearsNone _ (bears_iff.mpr ⟨own, has, written, rfl⟩)

/-- The titles of entries are those of the entries that write an id, one for each and in their order. -/
theorem forall₂_titles (entries : List Json.Members) :
    List.Forall₂ IsTitleOf (entries.filter fun entry => ∃ id ∈ ownId? entry, IsWritten id)
      (entries.filterMap fun entry => titleOf? (.obj entry)) := by
  induction entries with
  | nil => exact .nil
  | cons entry rest ih =>
    rw [List.filter_cons, List.filterMap_cons]
    obtain ⟨writes, title, found, isTitle⟩ | ⟨writesNone, none⟩ := titleOf?_by_id entry
    · rw [if_pos (decide_eq_true writes), found]
      exact .cons isTitle ih
    · rw [if_neg (by simpa using writesNone), none]
      exact ih

/-- An entry that has an id writes it. -/
theorem filter_isId_sublist (entries : List Json.Members) :
    (entries.filter fun entry => ∃ id ∈ ownId? entry, TitleId.IsId id).Sublist
      (entries.filter fun entry => ∃ id ∈ ownId? entry, IsWritten id) := by
  refine List.monotone_filter_right entries fun entry has => ?_
  obtain ⟨id, own, isId⟩ := of_decide_eq_true has
  exact decide_eq_true ⟨id, own, (isId_iff.mp isId).1⟩

/-- All entries that write an id have one exactly if none of them writes it with the ligature. -/
theorem filter_isId_eq_iff {entries : List Json.Members} :
    ((entries.filter fun entry => ∃ id ∈ ownId? entry, TitleId.IsId id) =
        entries.filter fun entry => ∃ id ∈ ownId? entry, IsWritten id) ↔
      ∀ entry ∈ entries, ∀ id ∈ ownId? entry, IsWritten id → ligature ∉ id.toList := by
  constructor
  · intro same entry mem id own written
    have kept : entry ∈ entries.filter fun entry => ∃ id ∈ ownId? entry, IsWritten id :=
      List.mem_filter.mpr ⟨mem, decide_eq_true ⟨id, own, written⟩⟩
    rw [← same] at kept
    obtain ⟨id', own', isId⟩ := of_decide_eq_true (List.mem_filter.mp kept).2
    obtain rfl : id' = id := Option.mem_unique own' own
    exact (isId_iff.mp isId).2
  · intro plain
    refine List.filter_congr fun entry mem => decide_eq_decide.mpr ?_
    refine exists_congr fun id => and_congr_right fun own => ?_
    rw [isId_iff]
    exact and_iff_left_of_imp (plain entry mem id own)

end Entries

/-- **The titles of a payload by the ids of its entries.** There is one title for each entry that writes an id, in the
order of the payload and under the capital form of the id, and none for any other entry. So there is one for each
entry that has an id, and none for any other, exactly if no entry writes an id with the ligature. -/
theorem ofPayload_by_ids (entries : Entries) :
    ∃ titles, ofPayload entries.payload = .ok titles ∧
      List.Forall₂ IsTitleOf ((entries.map Prod.snd).filter fun entry => ∃ id ∈ ownId? entry, IsWritten id) titles ∧
      (List.Forall₂ IsTitleOf ((entries.map Prod.snd).filter fun entry => ∃ id ∈ ownId? entry, TitleId.IsId id) titles ↔
        ∀ entry ∈ entries.map Prod.snd, ∀ id ∈ ownId? entry, IsWritten id → ligature ∉ id.toList) := by
  have titles := forall₂_titles (entries.map Prod.snd)
  rw [List.filterMap_map] at titles
  refine ⟨_, ofPayload_payload entries, titles, ?_⟩
  rw [← filter_isId_eq_iff]
  constructor
  · intro alike
    -- Both lists have a title for each of their entries, so they are equally long.
    exact (filter_isId_sublist _).eq_of_length (alike.length_eq.trans titles.length_eq.symm)
  · intro same
    rwa [same]

/-- An id of fifteen characters, the last the ligature, is none, but its entry has a title. -/
theorem ofPayload_ligature :
    ¬TitleId.IsId "0100ABCD123450ﬀ" ∧
    ofPayload (.obj [("1", .obj [("id", .str "0100ABCD123450ﬀ"), ("name", .str "Odd")])]) =
      .ok [("0100ABCD123450FF", { icon := none, banner := none, name := some "Odd" })] := by
  decide +kernel

end Gameshelf.Titles
