import Gameshelf.Proofs.Catalog.Groups
import Gameshelf.Proofs.Shop.Newest
import Gameshelf.Proofs.Title.Id

/-!
The sections of the shop against the files they are made of. Every item of every section stands for the file
at its own position and says of it what its record says (`Sections.says_of_shown`); the games are there from the
last position to the first, of updates and add-ons the newest, and everything together by name, items of one name
as they stood before (`Sections.describes_ofFiles`). A limit leaves the beginning of a section (`upTo_begins`), as
much as it says (`length_upTo`).
-/

namespace Gameshelf.Shop

open Text

namespace Item

/-- **An item stands for a file**: the one at its position, counted from one. -/
def StandsFor (item : Item) (files : List ContentFile) (index : Nat) : Prop :=
  ∃ inside : index < files.length, item = ofFile (index + 1) files[index]

/-- An item of a list of files. -/
def StandsIn (item : Item) (files : List ContentFile) : Prop :=
  ∃ index, item.StandsFor files index

/-- The items of files, in their order. -/
def all (files : List ContentFile) : List Item :=
  (Catalog.numbered files).map fun (position, file) => ofFile position file

/-- **What an item says of a file**: its name, kind and size; its version, zero without one; the id of its game,
which is written for the number of the game if the file has an id; and the file's own id, or its name without
one. -/
structure Says (item : Item) (file : ContentFile) : Prop where
  name : item.name = file.name
  kind : item.kind = file.kind
  size : item.size = file.size
  version : ∀ version, file.version = some version → item.version = version
  unversioned : file.version = none → item.version = 0
  game : ∀ id, file.titleId = some id → TitleId.IsId id →
    Option.Rel TitleId.Writes item.gameId (TitleId.gameNumber? file.kind (TitleId.number id))
  gameless : (∀ id, file.titleId = some id → ¬TitleId.IsId id) → item.gameId = none
  own : ∀ id, file.titleId = some id → id ≠ "" → item.appId = id
  nameless : (∀ id, file.titleId = some id → id = "") → item.appId = file.name

/-- **An item says of its file what the record of the file says.** -/
theorem says_ofFile (position : Int) (file : ContentFile) : (ofFile position file).Says file where
  name := rfl
  kind := rfl
  size := rfl
  version version has := by
    rw [ofFile, has, Option.getD_some]
  unversioned has := by
    rw [ofFile, has, Option.getD_none]
  game id has valid := by
    rw [ofFile, has]
    exact TitleId.writes_base? valid file.kind
  gameless none := by
    rw [ofFile]
    cases has : file.titleId with
    | none => rfl
    | some id =>
      have invalid : (!TitleId.isValid id) = true := by
        rw [Bool.not_eq_true', Bool.eq_false_iff]
        exact fun valid => none id has (TitleId.isValid_iff.mp valid)
      exact if_pos invalid
  own id has filled := by
    have kept : (!id.isEmpty) = true := by simpa using filled
    rw [ofFile, has, Option.filter_some, if_pos kept, Option.getD_some]
  nameless none := by
    rw [ofFile]
    cases has : file.titleId with
    | none => rfl
    | some id =>
      obtain rfl := none id has
      rfl

variable {files : List ContentFile} {item : Item}

theorem getElem?_all (files : List ContentFile) (index : Nat) :
    (all files)[index]? = files[index]?.map (ofFile (index + 1)) := by
  rw [all, List.getElem?_map, Catalog.getElem?_numbered]
  cases files[index]? <;> rfl

theorem mem_all : item ∈ all files ↔ item.StandsIn files := by
  rw [List.mem_iff_getElem?]
  refine exists_congr fun index => ?_
  rw [getElem?_all, Option.map_eq_some_iff]
  constructor
  · rintro ⟨file, found, rfl⟩
    obtain ⟨inside, rfl⟩ := List.getElem?_eq_some_iff.mp found
    exact ⟨inside, rfl⟩
  · rintro ⟨inside, rfl⟩
    exact ⟨files[index], List.getElem?_eq_getElem inside, rfl⟩

/-- Items stand in the order of their positions. -/
theorem pairwise_all (files : List ContentFile) : (all files).Pairwise (·.position < ·.position) := by
  rw [List.pairwise_iff_getElem]
  intro i j insideI insideJ before
  have position {k : Nat} (inside : k < (all files).length) : (all files)[k].position = k + 1 := by
    have found := getElem?_all files k
    rw [List.getElem?_eq_getElem inside] at found
    obtain ⟨file, -, same⟩ := Option.map_eq_some_iff.mp found.symm
    rw [← same]
    rfl
  rw [position, position]
  omega

/-- An item is shown with the address of its position. -/
theorem url_toJson (item : Item) :
    item.toJson.get? "url" = some (.str (.ofString (gameAddress item.position item.name))) := rfl

/-- **Items stand by name**: the first name, all in small letters, comes no later than the second. -/
theorem byName_iff (a b : Item) : byName a b = true ↔ lower a.name ≤ lower b.name :=
  decide_eq_true_iff

theorem byName_trans (a b c : Item) (first : byName a b = true) (second : byName b c = true) :
    byName a c = true := by
  rw [byName_iff] at *
  exact String.le_trans first second

theorem byName_total (a b : Item) : (byName a b || byName b a) = true := by
  rw [Bool.or_eq_true, byName_iff, byName_iff]
  exact String.le_total _ _

/-- Sorting by name leaves items of one name as they stood. -/
theorem filter_mergeSort_byName (items : List Item) (name : String) :
    (items.mergeSort byName).filter (lower ·.name = name) = items.filter (lower ·.name = name) := by
  refine filter_mergeSort byName_trans byName_total (fun a b nameA nameB => ?_) items
  have same : lower a.name = lower b.name := (of_decide_eq_true nameA).trans (of_decide_eq_true nameB).symm
  exact (byName_iff a b).mpr (same ▸ String.le_refl _)

end Item

section UpTo

variable {α : Type}

/-- What a limit leaves is the beginning of a list. -/
theorem upTo_begins (limit : Int) (items : List α) : upTo limit items <+: items := by
  unfold upTo
  split <;> exact List.take_prefix _ _

/-- **A limit leaves as much of a list as it says**: so many elements if there are that many, or with a negative
limit all but so many. -/
theorem length_upTo (limit : Int) (items : List α) :
    ((upTo limit items).length : Int)
      = if 0 ≤ limit then min limit items.length else max 0 (items.length + limit) := by
  unfold upTo
  split
  · rw [List.length_take]
    omega
  · rw [List.length_take]
    omega

end UpTo

namespace Sections

/-- **What the sections of files hold**, before any limit: the games from the last position to the first; of the
updates the newest of each game, of the add-ons the newest form of each; and all of these by name, where items
of one name stay as they stood. -/
structure Describes (sections : Sections) (files : List ContentFile) : Prop where
  games : ∀ item, item ∈ sections.games ↔
    item.StandsIn files ∧ (item.kind = .base ∨ item.kind = .unknown)
  lastFirst : sections.games.Pairwise fun a b => b.position < a.position
  updates : Newest Item.updateKey (fun item => item.StandsIn files ∧ item.kind = .update) sections.updates
  updatesOrdered : sections.updates.Pairwise Item.NoLater
  dlc : Newest Item.appId (fun item => item.StandsIn files ∧ item.kind = .dlc) sections.dlc
  dlcOrdered : sections.dlc.Pairwise Item.NoLater
  whole : sections.everything.Perm (sections.games ++ sections.updates ++ sections.dlc)
  named : sections.everything.Pairwise fun a b => lower a.name ≤ lower b.name
  stable : ∀ name, sections.everything.filter (lower ·.name = name)
    = (sections.games ++ sections.updates ++ sections.dlc).filter (lower ·.name = name)

/-- The items that an answer shows in its five sections. -/
def shown (sections : Sections) (limit : Int) : List (List Item) :=
  [sections.newest limit, sections.newest limit, upTo limit sections.updates, upTo limit sections.dlc,
    sections.everything]

variable {files : List ContentFile}

/-- The items of some kinds are found by the kind. -/
theorem mem_filter_all {kinds : List ContentKind} {item : Item} :
    item ∈ (Item.all files).filter (fun item => kinds.contains item.kind) ↔
      item.StandsIn files ∧ item.kind ∈ kinds := by
  rw [List.mem_filter, Item.mem_all, List.contains_iff_mem]

/-- The newest of the items of one kind. -/
theorem newest_of_kind (key : Item → String) (files : List ContentFile) (kind : ContentKind) :
    let chosen := newestByKey key ((Item.all files).filter fun item => [kind].contains item.kind)
    Newest key (fun item => item.StandsIn files ∧ item.kind = kind) chosen ∧ chosen.Pairwise Item.NoLater := by
  have offered : (fun item : Item => item.StandsIn files ∧ item.kind = kind)
      = (· ∈ (Item.all files).filter fun item => [kind].contains item.kind) := by
    funext item
    rw [mem_filter_all, List.mem_singleton]
  rw [offered]
  exact newestByKey_newest key ((Item.pairwise_all files).filter _)

/-- **The sections of files hold what the files say.** -/
theorem describes_ofFiles (files : List ContentFile) : (ofFiles files).Describes files := by
  obtain ⟨updates, updatesOrdered⟩ := newest_of_kind Item.updateKey files .update
  obtain ⟨dlc, dlcOrdered⟩ := newest_of_kind Item.appId files .dlc
  refine ⟨?games, ?lastFirst, updates, updatesOrdered, dlc, dlcOrdered, List.mergeSort_perm _ _, ?named,
    Item.filter_mergeSort_byName _⟩
  case games =>
    intro item
    show item ∈ ((Item.all files).filter fun item => [.base, .unknown].contains item.kind).reverse ↔ _
    rw [List.mem_reverse, mem_filter_all, List.mem_pair]
  case lastFirst =>
    apply List.pairwise_reverse.mpr
    exact (Item.pairwise_all files).filter _
  case named =>
    have sorted := List.pairwise_mergeSort Item.byName_trans Item.byName_total
      ((ofFiles files).games ++ (ofFiles files).updates ++ (ofFiles files).dlc)
    exact sorted.imp fun {a b} first => (Item.byName_iff a b).mp first

theorem mem_everything {sections : Sections} {item : Item} :
    item ∈ sections.everything ↔ item ∈ sections.games ∨ item ∈ sections.updates ∨ item ∈ sections.dlc := by
  rw [everything, List.mem_mergeSort, List.mem_append, List.mem_append, or_assoc]

/-- No section shows more than there is. -/
theorem subset_everything {sections : Sections} {limit : Int} {items : List Item}
    (listed : items ∈ sections.shown limit) : items ⊆ sections.everything := by
  have newest : sections.newest limit ⊆ sections.everything := by
    intro item mem
    simp only [Sections.newest] at mem
    split at mem
    · exact (upTo_begins limit _).subset mem
    · exact mem_everything.mpr (.inl ((upTo_begins limit _).subset mem))
  simp only [shown, List.mem_cons, List.not_mem_nil, or_false] at listed
  rcases listed with rfl | rfl | rfl | rfl | rfl
  · exact newest
  · exact newest
  · intro item mem
    exact mem_everything.mpr (.inr (.inl ((upTo_begins limit _).subset mem)))
  · intro item mem
    exact mem_everything.mpr (.inr (.inr ((upTo_begins limit _).subset mem)))
  · exact List.Subset.refl _

/-- **Every item that is shown stands for the file at its position**, whatever the limit. -/
theorem standsIn_of_shown {limit : Int} {items : List Item} (listed : items ∈ (ofFiles files).shown limit)
    {item : Item} (mem : item ∈ items) : item.StandsIn files := by
  have describes := describes_ofFiles files
  rcases mem_everything.mp (subset_everything listed mem) with game | update | dlc
  · exact ((describes.games item).mp game).1
  · exact (describes.updates.within item update).1
  · exact (describes.dlc.within item dlc).1

/-- **Every item that is shown says what the record of its file says.** -/
theorem says_of_shown {limit : Int} {items : List Item} (listed : items ∈ (ofFiles files).shown limit) {item : Item}
    (mem : item ∈ items) :
    ∃ (index : Nat) (file : ContentFile), files[index]? = some file ∧ item.position = index + 1 ∧ item.Says file := by
  obtain ⟨index, inside, rfl⟩ := standsIn_of_shown listed mem
  exact ⟨index, files[index], List.getElem?_eq_getElem inside, rfl, Item.says_ofFile _ _⟩

/-- The lists of items in an answer, section by section. -/
def itemLists (answer : Json) : List (List Json) :=
  let items (part : Json) : List Json :=
    match part.get? "items" with
    | some (.arr items) => items
    | _ => []
  match answer.get? "sections" with
  | some (.arr sections) => sections.map items
  | _ => []

/-- An answer shows the items of its sections. -/
theorem itemLists_toJson (sections : Sections) (limit : Int) :
    itemLists (sections.toJson limit) = (sections.shown limit).map (·.map Item.toJson) := rfl

end Sections

end Gameshelf.Shop
