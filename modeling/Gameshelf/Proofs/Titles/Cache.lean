import Gameshelf.Proofs.Register
import Gameshelf.Proofs.Disk.Document
import Gameshelf.Proofs.Text.Case
import Gameshelf.Titles.Cache

/-!
The cache of titles as a document. Titles whose ids are in capitals come back from the document that they are
saved as (`loadCache_of_find`), and what sources bring is of this kind, whatever their payloads hold
(`isCapital_merge`).
-/

namespace Gameshelf.Titles

open Text Json

/-- **An id in capitals** is its own capital form. -/
def IsCapital (id : LooseText) : Prop :=
  id.upper = id

instance (id : LooseText) : Decidable (IsCapital id) :=
  inferInstanceAs (Decidable (_ = _))

section Payload

/-- An entry gives a title only under an id in capitals. -/
theorem isCapital_of_titleOf? {entry : Json} {title : LooseText × Info} (given : titleOf? entry = some title) :
    IsCapital title.1 := by
  unfold titleOf? at given
  obtain ⟨text, _, given⟩ := Option.bind_eq_some_iff.mp given
  obtain ⟨raw, _, given⟩ := Option.bind_eq_some_iff.mp given
  simp only at given
  split at given
  · next valid =>
    have same := congrArg Prod.fst (Option.some.inj given)
    dsimp only at same
    have digits : ∀ c ∈ upperChars raw.toList, isHexDigit c = true := by
      have all := (Bool.and_eq_true_iff.mp valid).2
      rw [upper, String.toList_ofList] at all
      exact List.all_eq_true.mp all
    rw [IsCapital, ← same, LooseText.upper_ofString, upper, upper, String.toList_ofList,
      upperChars_of_isHexDigit digits]
  · cases given

theorem isCapital_of_ofPayload {payload : Json} {titles : List (LooseText × Info)}
    (given : ofPayload payload = .ok titles) : ∀ title ∈ titles, IsCapital title.1 := by
  cases payload with
  | obj members =>
    simp only [ofPayload] at given
    induction members generalizing titles with
    | nil =>
      cases given
      exact nofun
    | cons member rest ih =>
      rw [List.foldr_cons] at given
      split at given
      · next entry others _ more =>
        cases given
        intro title mem
        rcases List.mem_append.mp mem with own | later
        · exact isCapital_of_titleOf? (Option.mem_toList.mp own)
        · exact ih more title later
      · cases given
  | _ => cases given

/-- **What sources bring is kept under ids in capitals.** -/
theorem isCapital_merge {sources : List (List (LooseText × Info))}
    (capital : ∀ source ∈ sources, ∀ title ∈ source, IsCapital title.1) :
    ∀ entry ∈ (merge sources).entries, IsCapital entry.1 := by
  have each : ∀ title ∈ sources.flatten, IsCapital title.1 := by
    intro title mem
    obtain ⟨source, listed, mem⟩ := List.mem_flatten.mp mem
    exact capital source listed title mem
  unfold merge
  generalize sources.flatten = titles at each
  induction titles using List.reverseRecOn with
  | nil => exact nofun
  | append_singleton titles title ih =>
    rw [List.foldl_append]
    intro entry mem
    rcases mem_putSorted mem with rfl | mem
    · exact each title (List.mem_append_right _ List.mem_cons_self)
    · exact ih (fun other mem => each other (List.mem_append_left _ mem)) entry mem

end Payload

section Document

variable {titles : Register Info} {path : Path}

/-- The cache is made of text, in two layers of brackets. -/
theorem textual_cacheDocument (titles : Register Info) : Textual 2 (cacheDocument titles) := by
  have absent {room : Nat} (text : Option LooseText) : Textual room (ofText? text) := by
    cases text with
    | none => exact .null
    | some s => exact .str s
  apply Textual.arr
  intro item mem
  obtain ⟨title, _, rfl⟩ := List.mem_map.mp mem
  have names : ([LooseText.ofString "id", .ofString "icon_url", .ofString "banner_url", .ofString "name"] :
      List LooseText).Nodup := by decide
  unfold cacheItem
  apply Textual.obj
  · simp only [List.map_cons, List.map_nil]
    exact names
  intro member mem
  simp only [List.mem_cons, List.not_mem_nil, or_false] at mem
  rcases mem with rfl | rfl | rfl | rfl
  · exact .str _
  · exact absent _
  · exact absent _
  · exact absent _

/-- An item of the cache gives its title, under its id in capitals. -/
theorem cachedTitle?_cacheItem (title : LooseText × Info) :
    cachedTitle? (cacheItem title) = some (title.1.upper, title.2) := by
  obtain ⟨id, icon, banner, name⟩ := title
  cases icon <;> cases banner <;> cases name <;> rfl

/-- **Titles come back from the document of the cache.** -/
theorem ofCacheDocument_cacheDocument (capital : ∀ entry ∈ titles.entries, IsCapital entry.1) :
    ofCacheDocument path (cacheDocument titles) = .ok titles := by
  have items : (titles.entries.map cacheItem).filterMap cachedTitle? = titles.entries := by
    rw [List.filterMap_map]
    refine (List.filterMap_congr fun entry mem => ?_).trans List.filterMap_some
    rw [Function.comp_apply, cachedTitle?_cacheItem, capital entry mem]
  rw [cacheDocument, ofCacheDocument, items, Register.ofList_entries]

/-- The bytes that titles are saved as. -/
def cacheBytes (titles : Register Info) : Encoding.Bytes :=
  Encoding.encodeUtf8 (document (cacheDocument titles))

/-- **Titles are loaded from the file that they were saved to.** -/
theorem loadCache_of_find [Stack] {disk : Disk} (capital : ∀ entry ∈ titles.entries, IsCapital entry.1)
    (found : disk.find path = .ok (.file (cacheBytes titles))) : loadCache disk path = .ok titles := by
  have content : disk.contentOf path = .ok (cacheBytes titles) := by
    rw [Disk.contentOf, found]
    rfl
  rw [loadCache, Disk.readDocument_write .document ((textual_cacheDocument titles).mono Stack.brackets_fit) content]
  simp only [ofCacheDocument_cacheDocument capital]
  rfl

/-- The disk after titles were saved to a path. -/
def savedTo (path : Path) (titles : Register Info) (disk : Disk) : Disk :=
  ((saveCache path titles).make disk).2

end Document

end Gameshelf.Titles
