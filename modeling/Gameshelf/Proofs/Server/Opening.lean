import Gameshelf.Proofs.Disk.Resolution
import Gameshelf.Proofs.Library.Complete
import Gameshelf.Proofs.Server.Shop
import Gameshelf.Proofs.Settings.Loading

/-!
Where opening a shop crashes. Every step reports the errors that it expects; what is left are paths that are too
long for the disk and a file of users that breaks the program (`Shop.OpeningBreaks`). A library that is there
resolves to its place and is scanned without a crash, whatever it holds (`Library.crashes_scan_iff`), so an opening
with its settings checked crashes for these causes alone (`Shop.crashes_configure_iff`).
-/

namespace Gameshelf

open Text Encoding

namespace Library

variable {disk : Disk} {root : Path} {start : Place} {written : Bytes} {node : Node} {conditions : ScanConditions}

/-- **A scan of a directory does not crash**, whatever the directory holds, if the walk is not to go too deep: what
ends it is reported. -/
theorem not_crashes_scan (rooted : Rooted disk root start written) (calm : conditions.interruption = none)
    (there : disk.isDirectory root = .ok true) (here : disk.at? start = some node)
    (shallow : ¬∃ bound place, GoesTooDeep disk root conditions start bound place) :
    ¬Crashes (scan disk conditions root) := by
  rw [scan_eq rooted calm there here]
  rcases contentFiles_cases (stepsBelow disk root conditions node) with
    ⟨files, kept, -⟩ | ⟨step, mem, failure, ends, ended⟩
  · rw [kept]
    exact not_crashes_ok files
  · rw [ended]
    rcases failure_of_ends rooted here mem ends with ⟨place, own, refusal, -, -, rfl⟩ | ⟨bound, place, deep, -⟩
    · exact not_crashes_report _
    · exact absurd ⟨bound, place, deep⟩ shallow

/-- **A scan from the place of a directory crashes** exactly if the place is too long to be looked up. -/
theorem crashes_scan_iff (tree : disk.root.IsTree) {entries : List (FileName × Node)}
    (found : disk.at? start = some (.directory entries)) :
    Crashes (scan disk .none (Disk.pathOf start)) ↔ ¬Disk.FitsWhole start := by
  have located := Disk.locate_pathOf tree found
  by_cases fits : Disk.FitsWhole start
  · rw [if_pos fits] at located
    obtain ⟨written, stands, -⟩ := Disk.locate_eq_ok.mp located
    have filled : (Disk.pathOf start).text.units ≠ [] := by
      rw [Disk.pathOf, Path.text_root]
      exact List.cons_ne_nil _ _
    have there : disk.isDirectory (Disk.pathOf start) = .ok true := by
      rw [Disk.isDirectory, Disk.holds, Disk.find_eq_ok.mpr ⟨start, located, found⟩]
      rfl
    have runs : ¬Crashes (scan disk .none (Disk.pathOf start)) :=
      not_crashes_scan ⟨tree, filled, stands, located⟩ rfl there found (not_goesTooDeep rfl)
    exact iff_of_false runs (not_not_intro fits)
  · rw [if_neg fits] at located
    have long : disk.TooLong (Disk.pathOf start) := by
      rw [Disk.TooLong, Disk.find, located, error_bind]
    obtain ⟨crash, crashed⟩ : ∃ crash, disk.isDirectory (Disk.pathOf start) = .error crash :=
      Disk.holds_crash_iff.mpr long
    exact iff_of_true ⟨crash, by simp only [scan, ScanConditions.none, ScanFaults.none, crashed]; rfl⟩ fits

end Library

namespace Users

variable {disk : Disk} {path : Path}

/-- **A value that names no list of users**, and none that counts as absent: a number other than zero, or true. -/
def NoList (users : Json) : Prop :=
  users.isFalsy = false ∧ (∀ items, users ≠ .arr items) ∧ (∀ text, users ≠ .str text) ∧
    ∀ members, users ≠ .obj members

/-- **A file of users breaks the program**: it does as a document, or its list of users is none. -/
def FileBreaks [Stack] (disk : Disk) (path : Path) : Prop :=
  disk.DocumentBreaks path ∨ ∃ members users, disk.readDocument path = .ok (.obj members) ∧
    members.lookup ("users" : LooseText) = some users ∧ NoList users

/-- Items of users are asked of a value that names no list. -/
theorem listed_crash_iff {members : Json.Members} :
    (∃ crash, listed (.obj members) = .error crash) ↔
      ∃ users, members.lookup ("users" : LooseText) = some users ∧ NoList users := by
  have asked : (Json.obj members).get? ("users" : LooseText) = members.lookup ("users" : LooseText) := rfl
  unfold listed NoList
  rw [asked]
  cases members.lookup ("users" : LooseText) with
  | none => exact iff_of_false (fun ⟨_, crashed⟩ => by cases crashed) (fun ⟨_, found, _⟩ => by cases found)
  | some users =>
    have only (P : Json → Prop) : (∃ own, some users = some own ∧ P own) ↔ P users :=
      ⟨fun ⟨_, same, holds⟩ => Option.some.inj same ▸ holds, fun holds => ⟨users, rfl, holds⟩⟩
    rw [only fun users => users.isFalsy = false ∧ (∀ items, users ≠ .arr items) ∧ (∀ text, users ≠ .str text) ∧
      ∀ members, users ≠ .obj members]
    dsimp only
    cases falsy : users.isFalsy with
    | true => exact iff_of_false (fun ⟨_, crashed⟩ => by cases crashed) nofun
    | false =>
      cases users with
      | null => cases falsy
      | bool | int | real => exact iff_of_true ⟨_, rfl⟩ ⟨rfl, nofun, nofun, nofun⟩
      | str text => exact iff_of_false (fun ⟨_, crashed⟩ => by cases crashed) fun no => no.2.2.1 text rfl
      | arr items => exact iff_of_false (fun ⟨_, crashed⟩ => by cases crashed) fun no => no.2.1 items rfl
      | obj own => exact iff_of_false (fun ⟨_, crashed⟩ => by cases crashed) fun no => no.2.2.2 own rfl

theorem crashes_ofDocument_iff {value : Json} : Crashes (ofDocument path value) ↔
    ∃ members users, value = .obj members ∧ members.lookup ("users" : LooseText) = some users ∧ NoList users := by
  cases value with
  | obj members =>
    have only : Crashes (ofDocument path (.obj members)) ↔ ∃ crash, listed (.obj members) = .error crash := by
      rw [ofDocument, crashes_bind_iff, crashes_orCrash_iff, or_iff_left]
      rintro ⟨items, -, crashed⟩
      dsimp only at crashed
      split at crashed
      · exact not_crashes_ok _ crashed
      · exact not_crashes_report _ crashed
    rw [only, listed_crash_iff]
    constructor
    · rintro ⟨users, found, none⟩
      exact ⟨members, users, rfl, found, none⟩
    · rintro ⟨_, users, same, found, none⟩
      cases same
      exact ⟨users, found, none⟩
  | null | bool | int | real | str | arr =>
    exact iff_of_false (not_crashes_report _) fun ⟨_, _, same, _⟩ => by cases same

/-- **Loading users from a file crashes** exactly where the file breaks the program. -/
theorem crashes_load_iff [Stack] : Crashes (load disk (some path)) ↔ FileBreaks disk path := by
  rw [FileBreaks, ← Disk.crashes_readDocument_iff, load]
  cases read : disk.readDocument path with
  | ok value =>
    have mapped : Crashes ((ofDocument path value).map fun users => ofList users.toList)
        ↔ Crashes (ofDocument path value) := by
      unfold Crashes
      cases ofDocument path value <;> simp [Except.map]
    rw [mapped, crashes_ofDocument_iff, or_iff_right (not_crashes_ok _)]
    simp only [Except.ok.injEq]
  | error failure =>
    cases failure with
    | reported error =>
      refine iff_of_false (not_crashes_report _) ?_
      rintro (crashed | ⟨members, users, read, -⟩)
      · exact not_crashes_report _ crashed
      · cases read
    | crash crash => exact iff_of_true ⟨crash, rfl⟩ (.inl ⟨crash, rfl⟩)

end Users

namespace Server

variable {α ε δ : Type} {disk : Disk} {settings : Settings}

theorem crashes_within_iff {embed : ε → δ} {step : Except (Failure ε) α} :
    Crashes (within embed step) ↔ Crashes step := by
  rcases step with (error | crash) | a
  · exact iff_of_false nofun nofun
  · exact iff_of_true ⟨crash, rfl⟩ ⟨crash, rfl⟩
  · exact iff_of_false nofun nofun

/-- What an operation comes to where no shop is open. -/
def outcomeOf (operation : Operation α) : Except (Failure OpeningError) α :=
  (operation.run.run none).1

/-- A step that leaves the open shop alone is one of an outcome. -/
theorem outcomeOf_attempt {β : Type} (result : Except (Failure OpeningError) α) (next : α → Operation β) :
    outcomeOf (attempt result >>= next) = result >>= fun a => outcomeOf (next a) := by
  cases result <;> rfl

namespace Shop

/-- **An opening breaks**, with its settings checked: the path of the library is too long, or that of the users, or
the place that the library's path resolves to; or the library is scanned, and the file of the users breaks the
program. -/
inductive OpeningBreaks [Stack] (disk : Disk) (settings : Settings) : Prop
  | library (long : disk.TooLong settings.libraryRoot)
  | usersPath {path : Path} (there : disk.isDirectory settings.libraryRoot = .ok true)
      (closed : settings.publicShop = false) (file : settings.authFile = some path) (long : disk.TooLong path)
  | place {place : Place} (checked : settings.check disk = .ok ())
      (leads : disk.locate .target settings.libraryRoot = .ok place) (long : ¬Disk.FitsWhole place)
  | users {place : Place} {files : List ContentFile} {path : Path} (checked : settings.check disk = .ok ())
      (leads : disk.locate .target settings.libraryRoot = .ok place)
      (scanned : Library.scan disk .none (Disk.pathOf place) = .ok files) (file : usersFile settings = some path)
      (breaks : Users.FileBreaks disk path)

/-- Settings that have been checked name a directory. -/
theorem directory_of_checked (checked : settings.check disk = .ok ()) : ∃ place entries,
    disk.locate .target settings.libraryRoot = .ok place ∧ disk.at? place = some (.directory entries) := by
  obtain ⟨library, there, rest⟩ := bind_eq_ok.mp checked
  have there := orCrash_eq_ok.mp there
  cases library with
  | false => cases rest
  | true =>
    unfold Disk.isDirectory Disk.holds at there
    cases lookedUp : disk.find settings.libraryRoot with
    | error fault =>
      rw [lookedUp] at there
      cases fault with
      | embeddedNul | unencodable => cases there
      | refused refusal => cases refusal <;> cases there
    | ok node =>
      rw [lookedUp] at there
      obtain ⟨place, leads, found⟩ := Disk.find_eq_ok.mp lookedUp
      cases node with
      | directory entries => exact ⟨place, entries, leads, found⟩
      | file | link | special => cases there

/-- Without a check of the settings, opening a shop resolves, scans, loads and limits, one after the other. -/
theorem outcomeOf_install [Stack] : outcomeOf (install disk settings false) = (do
    let root ← orCrash (disk.resolve settings.libraryRoot)
    let files ← within .scan (Library.scan disk .none root)
    let users ← within .users (Users.load disk (usersFile settings))
    let limit ← orCrash (RateLimit.ofRate settings.ratePerSecond settings.rateBurst)
    .ok { settings, users, limit
          scanner := .idle root settings.scanInterval (.initial (Catalog.ofFiles files))
          titles := .initial settings.titles settings.dataDirectory }) := by
  unfold install
  simp only [Bool.false_eq_true, if_false, outcomeOf_attempt]
  rfl

/-- Behind the check of the settings, an opening crashes for the place of the library or for the file of users. -/
theorem crashes_unchecked_iff [Stack] (tree : disk.root.IsTree) (rate : settings.ratePerSecond ≠ 0)
    (burst : settings.rateBurst ≠ 0) {place : Place} {entries : List (FileName × Node)}
    (leads : disk.locate .target settings.libraryRoot = .ok place)
    (found : disk.at? place = some (.directory entries)) :
    Crashes (outcomeOf (install disk settings false)) ↔ ¬Disk.FitsWhole place ∨
      ∃ files path, Library.scan disk .none (Disk.pathOf place) = .ok files ∧ usersFile settings = some path ∧
        Users.FileBreaks disk path := by
  have limited : ∃ limit, RateLimit.ofRate settings.ratePerSecond settings.rateBurst = .ok limit := by
    rw [RateLimit.ofRate, if_neg rate, if_neg burst]
    exact ⟨_, rfl⟩
  obtain ⟨limit, limited⟩ := limited
  rw [outcomeOf_install, Disk.resolve_of_locate tree leads found, limited]
  simp only [orCrash, ok_bind]
  rw [crashes_bind_iff, crashes_within_iff, Library.crashes_scan_iff tree found]
  refine or_congr_right ⟨?_, ?_⟩
  · rintro ⟨files, scanned, crashed⟩
    rcases crashes_bind_iff.mp crashed with loading | ⟨users, -, done⟩
    · have loading := crashes_within_iff.mp loading
      cases file : usersFile settings with
      | none =>
        rw [file] at loading
        exact absurd loading (not_crashes_ok _)
      | some path =>
        rw [file] at loading
        exact ⟨files, path, within_eq_ok.mp scanned, rfl, Users.crashes_load_iff.mp loading⟩
    · exact absurd done (not_crashes_ok _)
  · rintro ⟨files, path, scanned, file, breaks⟩
    refine ⟨files, within_eq_ok.mpr scanned, crashes_bind_iff.mpr (.inl (crashes_within_iff.mpr ?_))⟩
    rw [file]
    exact Users.crashes_load_iff.mpr breaks

/-- A shop that is opened has the settings that it is opened with. -/
theorem settings_of_configure [Stack] {shop : Shop} {check : Bool} (opened : configure disk settings check = .ok shop) :
    shop.settings = settings := by
  rcases commits_install disk settings check none with ⟨failure, failed⟩ | ⟨own, committed, -, isOf⟩
  · rw [configure, failed] at opened
    cases opened
  · rw [configure, committed] at opened
    cases opened
    exact isOf.configured

/-- **An opening crashes exactly where it breaks**, if requests are limited to a rate and a burst at all. -/
theorem crashes_configure_iff [Stack] (tree : disk.root.IsTree) (rate : settings.ratePerSecond ≠ 0)
    (burst : settings.rateBurst ≠ 0) : Crashes (configure disk settings true) ↔ OpeningBreaks disk settings := by
  have steps : configure disk settings true
      = (within .config (settings.check disk) >>= fun _ => outcomeOf (install disk settings false)) :=
    outcomeOf_attempt _ _
  rw [steps, crashes_bind_iff, crashes_within_iff, Settings.crashes_check_iff]
  constructor
  · rintro ((long | ⟨there, closed, path, file, long⟩) | ⟨_, checked, crashed⟩)
    · exact .library long
    · exact .usersPath there closed file long
    · have checked := within_eq_ok.mp checked
      obtain ⟨place, entries, leads, found⟩ := directory_of_checked checked
      rcases (crashes_unchecked_iff tree rate burst leads found).mp crashed with
        long | ⟨files, path, scanned, file, breaks⟩
      · exact .place checked leads long
      · exact .users checked leads scanned file breaks
  · have behind {place : Place} (checked : settings.check disk = .ok ())
        (leads : disk.locate .target settings.libraryRoot = .ok place)
        (crashes : ¬Disk.FitsWhole place ∨ ∃ files path, Library.scan disk .none (Disk.pathOf place) = .ok files ∧
          usersFile settings = some path ∧ Users.FileBreaks disk path) :
        ∃ u : Unit, within OpeningError.config (settings.check disk) = .ok u ∧
          Crashes (outcomeOf (install disk settings false)) := by
      obtain ⟨own, entries, again, found⟩ := directory_of_checked checked
      cases leads.symm.trans again
      exact ⟨(), within_eq_ok.mpr checked, (crashes_unchecked_iff tree rate burst leads found).mpr crashes⟩
    rintro (long | ⟨there, closed, file, long⟩ | ⟨checked, leads, long⟩ | ⟨checked, leads, scanned, file, breaks⟩)
    · exact .inl (.inl long)
    · exact .inl (.inr ⟨there, closed, _, file, long⟩)
    · exact .inr (behind checked leads (.inl long))
    · exact .inr (behind checked leads (.inr ⟨_, _, scanned, file, breaks⟩))

end Shop

end Server

end Gameshelf
