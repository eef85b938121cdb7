import Gameshelf.Proofs.Disk.Refusal
import Gameshelf.Proofs.Disk.Replacement
import Gameshelf.Proofs.Titles.Cache

/-!
Saving titles and loading them again, whatever the disk held before. What was saved to a path is loaded from it
exactly if the path did not lead through the entry that the file took (`loadCache_savedTo`): that entry was a
link then, and the path leads nowhere without it. Where the path can be named, saving is refused by the disk at
most (`refusedAtMost_saveCache`).
-/

namespace Gameshelf.Titles

open Text

variable {path : Path} {titles : Register Info} {disk : Disk}

/-- **Titles are saved to a path that can be named**, unless the disk refuses it. -/
theorem refusedAtMost_saveCache (titles : Register Info) {here : Place} (legal : ∀ name ∈ here, name.IsLegal)
    (nameable : path.Nameable) :
    Change.RefusedAtMost here (saveCache path titles) :=
  .bind (Change.refusedAtMost_makeDirectories nameable.parent) fun _ =>
    Change.refusedAtMost_replaceFile legal nameable

section RoundTrip

/-- The disk once the directories above a path are made. -/
def preparedFor (path : Path) (disk : Disk) : Disk :=
  ((Change.makeDirectories path.parent).make disk).2

/-- Titles that were saved have been put in place. -/
theorem replaced_of_saved (saved : ((saveCache path titles).make disk).1 = .ok ()) :
    (Change.replaceFile path (cacheBytes titles)).make (preparedFor path disk)
      = (.ok (), savedTo path titles disk) := by
  have made : (saveCache path titles).make disk = (.ok (), savedTo path titles disk) := Prod.ext saved rfl
  obtain ⟨_, middle, above, replaced⟩ := Change.make_bind_eq_ok.mp made
  have prepared : preparedFor path disk = middle := congrArg Prod.snd above
  rw [prepared]
  exact replaced

/-- **Saving keeps titles**: nothing is refused, and the path does not lead through the entry that the file takes. -/
structure Saves (path : Path) (titles : Register Info) (disk : Disk) : Prop where
  made : ((saveCache path titles).make disk).1 = .ok ()
  clear : ¬(preparedFor path disk).LeadsThroughItself path

/-- **The cache is what was saved.** -/
theorem find_of_saves (isName : path.name.isEmpty = false → Path.IsName path.name) (saves : Saves path titles disk) :
    (savedTo path titles disk).find path = .ok (.file (cacheBytes titles)) :=
  (Change.find_replaceFile_iff isName (replaced_of_saved saves.made)).mpr saves.clear

/-- A cache that the disk refuses is reported. -/
theorem loadCache_of_refused [Stack] {refusal : Refusal} (refused : disk.contentOf path = .error (.refused refusal)) :
    loadCache disk path = .error (.reported (.document (.unreadable refusal))) := by
  rw [loadCache, Disk.readDocument, refused]
  rfl

/-- **What was saved to a path is loaded from it**, exactly if the path did not lead through the entry that the
file took. Such an entry was a link, and then the disk refuses the path from there on. -/
theorem loadCache_savedTo [Stack] (normal : path.IsNormal) (capital : ∀ entry ∈ titles.entries, IsCapital entry.1)
    (saved : ((saveCache path titles).make disk).1 = .ok ()) :
    (loadCache (savedTo path titles disk) path = .ok titles ↔ ¬(preparedFor path disk).LeadsThroughItself path) ∧
    ((preparedFor path disk).LeadsThroughItself path →
      (∃ place target, (preparedFor path disk).locate .made path = .ok place ∧
        (preparedFor path disk).at? place = some (.link target)) ∧
      ∃ refusal, loadCache (savedTo path titles disk) path = .error (.reported (.document (.unreadable refusal)))) := by
  have isName : path.name.isEmpty = false → Path.IsName path.name := by
    intro filled
    refine Path.isName_name normal fun none => ?_
    rw [Path.name, none] at filled
    cases filled
  have replaced := replaced_of_saved saved
  have found := Change.find_replaceFile_iff isName replaced
  -- A path through its own entry can be named, and leads to nothing afterwards.
  have lost (itself : (preparedFor path disk).LeadsThroughItself path) :
      ∃ refusal, loadCache (savedTo path titles disk) path = .error (.reported (.document (.unreadable refusal))) := by
    obtain ⟨place, made, broken⟩ := itself
    cases gone : (savedTo path titles disk).find path with
    | ok node =>
      have file := Change.find_of_replaceFile isName replaced gone
      exact absurd ⟨place, made, broken⟩ (found.mp file)
    | error fault =>
      obtain ⟨refusal, rfl⟩ := Disk.refused_of_find (Disk.nameable_of_locate made) gone
      have unread : (savedTo path titles disk).contentOf path = .error (.refused refusal) := by
        rw [Disk.contentOf, gone]
        rfl
      exact ⟨refusal, loadCache_of_refused unread⟩
  refine ⟨⟨fun loaded itself => ?_, fun clear => loadCache_of_find capital (found.mpr clear)⟩, fun itself => ?_⟩
  · obtain ⟨refusal, refused⟩ := lost itself
    cases loaded.symm.trans refused
  · exact ⟨Change.exists_link_of_leadsThroughItself isName replaced itself, lost itself⟩

/-- Two titles: of the first the icon is absent and the banner empty, the second has a name that no string spells. -/
def twoTitles : Register Info :=
  Register.ofList [("0100ABCD12345000", ⟨none, some (LooseText.ofString ""), some (LooseText.ofString "\"One\"\n")⟩),
    ("0100ABCD12345800", ⟨none, none, some ⟨[0xD83C, 0xDFAE, 0xD800]⟩⟩)]

/-- A disk with a damaged cache. -/
def damagedCache : Disk :=
  ⟨.directory [(.ofString "titledb", .directory [(.ofString "US.en.json", .file [0xFF])])], []⟩

/-- Titles take the place of a damaged cache and are loaded from it. -/
theorem loadCache_savedTo_damagedCache :
    loadCache (savedTo (.ofText "/titledb/US.en.json") twoTitles damagedCache) (.ofText "/titledb/US.en.json")
      = .ok twoTitles := by
  have laws := loadCache_savedTo (Path.isNormal_ofText "/titledb/US.en.json")
    (show ∀ entry ∈ twoTitles.entries, IsCapital entry.1 by decide +kernel)
    (show ((saveCache _ twoTitles).make damagedCache).1 = .ok () by decide +kernel)
  refine laws.1.mpr ?_
  rintro ⟨place, located, broken⟩
  have own : (preparedFor (.ofText "/titledb/US.en.json") damagedCache).locate .made (.ofText "/titledb/US.en.json")
      = .ok [.ofString "titledb", .ofString "US.en.json"] := by decide +kernel
  cases own.symm.trans located
  exact broken (by decide +kernel)

/-- A disk with a link to the directory that it stands in. -/
def linkToItself : Disk :=
  ⟨.directory [(.ofString "c", .link (Encoding.utf8 "."))], []⟩

/-- Titles that take the place of a link which their path leads through are not loaded again. -/
theorem loadCache_savedTo_linkToItself :
    ¬∀ (path : Path) (titles : Register Info) (disk : Disk), path.IsNormal →
      (∀ entry ∈ titles.entries, IsCapital entry.1) → ((saveCache path titles).make disk).1 = .ok () →
      loadCache (savedTo path titles disk) path = .ok titles := by
  intro always
  have loaded := always (.ofText "c/c") twoTitles linkToItself (Path.isNormal_ofText _) (by decide +kernel)
    (by decide +kernel)
  have refused : (loadCache (savedTo (.ofText "c/c") twoTitles linkToItself) (.ofText "c/c")).toOption.isSome
      = false := by decide +kernel
  rw [loaded] at refused
  cases refused

end RoundTrip

end Gameshelf.Titles
