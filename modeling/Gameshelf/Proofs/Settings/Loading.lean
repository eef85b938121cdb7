import Gameshelf.Proofs.Disk.Document
import Gameshelf.Settings.Sources

/-!
Where settings cannot be had. Loading them crashes for the file that is chosen and for nothing else
(`Settings.crashes_load_iff`), and checking them for paths that are too long (`Settings.crashes_check_iff`): whatever
else is wrong is reported. Settings that are loaded limit requests to a rate and a burst of at least one
(`Settings.rates_of_load`).
-/

namespace Gameshelf

namespace Settings

section Reading

variable {α β : Type} {values : Values}

/-- **What a reading yields**: its result has a property, if there is one. -/
def Reading.Yields (reading : Reading α) (property : α → Prop) : Prop :=
  ∀ a, reading.result = some a → property a

/-- A reading applied to the next yields what each function does for each argument. -/
theorem Reading.yields_andThen {function : Reading (α → β)} {argument : Reading α} {property : β → Prop}
    (each : function.Yields fun f => argument.Yields fun a => property (f a)) :
    (function.andThen argument).Yields property := by
  intro b read
  obtain ⟨f, first, mapped⟩ := Option.bind_eq_some_iff.mp read
  obtain ⟨a, second, rfl⟩ := Option.map_eq_some_iff.mp mapped
  exact each f first a second

/-- A field that must be a number of some size is one. -/
theorem yields_field {name : String} {least standard : Int} (enough : least ≤ standard) :
    (Reading.field values name standard (asIntFrom least)).Yields (least ≤ ·) := by
  intro n read
  unfold Reading.field at read
  split at read
  · cases read
    exact enough
  · split at read
    · next accepted =>
      cases read
      obtain ⟨own, -, checked⟩ := bind_eq_ok.mp accepted
      split at checked
      · cases checked
      · next large =>
        cases checked
        exact Int.not_lt.mp large
    · cases read

/-- **Settings limit requests to a rate and a burst of at least one.** -/
theorem yields_ofValues :
    (ofValues values).Yields fun settings => 1 ≤ settings.ratePerSecond ∧ 1 ≤ settings.rateBurst := by
  unfold ofValues
  iterate 11 refine Reading.yields_andThen ?_
  rintro _ start host - port - root - file - isPublic - interval - data - level - rate rateRead burst burstRead
    titles -
  cases start
  exact ⟨yields_field (by decide) rate rateRead, yields_field (by decide) burst burstRead⟩

end Reading

section Loading

variable {disk : Disk} {sources : Sources} {settings : Settings}

/-- A file of settings that can be read, but not as settings, is reported. -/
theorem crashes_fileValues_iff [Stack] {chosen : Option Path} :
    Crashes (fileValues disk chosen) ↔ ∃ path, chosen = some path ∧ disk.DocumentBreaks path := by
  cases chosen with
  | none => exact iff_of_false (not_crashes_ok _) nofun
  | some path =>
    have ofDocument : Crashes (fileValues disk (some path)) ↔ Crashes (disk.readDocument path) := by
      unfold fileValues
      dsimp only
      rcases disk.readDocument path with (error | crash) | value
      · exact iff_of_false (not_crashes_report _) (not_crashes_report _)
      · exact iff_of_true ⟨crash, rfl⟩ ⟨crash, rfl⟩
      · cases value with
        | obj members => exact iff_of_false (not_crashes_ok _) (not_crashes_ok _)
        | null | bool | int | real | str | arr => exact iff_of_false (not_crashes_report _) (not_crashes_ok _)
    rw [ofDocument, Disk.crashes_readDocument_iff]
    exact ⟨fun breaks => ⟨path, rfl, breaks⟩, fun ⟨_, same, breaks⟩ => Option.some.inj same ▸ breaks⟩

/-- **Loading settings crashes** exactly where the file that is chosen breaks the program: what the other sources
give, and what the file gives when it is read, is refused at most. -/
theorem crashes_load_iff [Stack] :
    Crashes (load disk sources) ↔ ∃ path, sources.filePath = some path ∧ disk.DocumentBreaks path := by
  rw [← crashes_fileValues_iff, load, effectiveValues, crashes_bind_iff, crashes_bind_iff]
  constructor
  · rintro ((crashed | ⟨inFile, -, crashed⟩) | ⟨values, -, crashed⟩)
    · exact crashed
    · rcases crashes_bind_iff.mp crashed with unswitched | ⟨isPublic, -, done⟩
      · exact absurd unswitched not_crashes_mapError
      · exact absurd done (not_crashes_ok _)
    · exact absurd crashed not_crashes_mapError
  · exact fun crashed => .inl (.inl crashed)

theorem rates_of_load [Stack] (loaded : load disk sources = .ok settings) :
    1 ≤ settings.ratePerSecond ∧ 1 ≤ settings.rateBurst := by
  obtain ⟨values, -, read⟩ := bind_eq_ok.mp loaded
  have read := mapError_eq_ok.mp read
  unfold Reading.toExcept at read
  split at read
  · next found =>
    cases read
    exact yields_ofValues settings found
  · cases read

end Loading

section Checking

variable {disk : Disk} {settings : Settings}

/-- The file of users is asked for with a crash if its path is too long. -/
theorem crashes_presence_iff {path : Path} {error : ConfigError} : Crashes (do
    let there ← orCrash (disk.present path)
    if there then return () else report error) ↔ disk.TooLong path := by
  rw [crashes_bind_iff, crashes_orCrash_iff, Disk.present, Disk.holds_crash_iff, or_iff_left]
  rintro ⟨there, -, crashed⟩
  cases there with
  | true => exact not_crashes_ok _ crashed
  | false => exact not_crashes_report _ crashed

/-- **Checking settings crashes for paths that are too long**: that of the library, or for a private shop that of
its users. -/
theorem crashes_check_iff : Crashes (settings.check disk) ↔ disk.TooLong settings.libraryRoot ∨
    disk.isDirectory settings.libraryRoot = .ok true ∧ settings.publicShop = false ∧
      ∃ path, settings.authFile = some path ∧ disk.TooLong path := by
  unfold check
  rw [crashes_bind_iff, crashes_orCrash_iff, Disk.isDirectory, Disk.holds_crash_iff]
  refine or_congr_right ⟨?_, ?_⟩
  · rintro ⟨library, there, crashed⟩
    cases library with
    | false => exact absurd crashed (not_crashes_report _)
    | true =>
      cases closed : settings.publicShop with
      | true =>
        rw [closed] at crashed
        exact absurd crashed (not_crashes_ok _)
      | false =>
        rw [closed] at crashed
        cases file : settings.authFile with
        | none =>
          rw [file] at crashed
          exact absurd crashed (not_crashes_report _)
        | some path =>
          rw [file] at crashed
          exact ⟨orCrash_eq_ok.mp there, rfl, path, rfl, crashes_presence_iff.mp crashed⟩
  · rintro ⟨there, closed, path, file, long⟩
    refine ⟨true, orCrash_eq_ok.mpr there, ?_⟩
    rw [closed, file]
    exact crashes_presence_iff.mpr long

end Checking

end Settings

end Gameshelf
