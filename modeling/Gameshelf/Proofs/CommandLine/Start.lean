import Gameshelf.CommandLine.Run
import Gameshelf.Proofs.Lookup
import Gameshelf.Proofs.Server.Opening

/-!
How a run of the program ends. It listens once, where its settings say, or it reports an error and does not listen
at all; or it crashes, for causes that are named (`StartBreaks`): a file of settings or of users that breaks the
program, a level that has no name, and paths that are too long (`run_reports`). A file of settings with a single
byte that is no text is enough (`run_crashes_strayByte`).
-/

namespace Gameshelf

open Encoding

namespace CommandLine

/-- **A name that a level is known by.** -/
def Level.Known (name : LooseText) : Prop :=
  ∃ entry ∈ Level.named, name = (entry.1 : LooseText)

theorem Level.ofName_crash_iff {name : LooseText} :
    (∃ crash, Level.ofName name = .error crash) ↔ ¬Level.Known name := by
  have known : (name.toString?.bind fun own => Level.named.lookup own).isSome = true ↔ Level.Known name := by
    rw [Option.isSome_iff_exists]
    constructor
    · rintro ⟨level, found⟩
      obtain ⟨own, spelled, found⟩ := Option.bind_eq_some_iff.mp found
      exact ⟨(own, level), mem_of_lookup found, LooseText.toString?_eq_some_iff.mp spelled⟩
    · rintro ⟨⟨own, level⟩, mem, rfl⟩
      have found : Level.named.lookup own = some level := lookup_of_mem (by decide) mem
      exact ⟨level, Option.bind_eq_some_iff.mpr ⟨own, LooseText.toString?_ofString own, found⟩⟩
  rw [← known]
  unfold Level.ofName
  cases name.toString?.bind fun own => Level.named.lookup own with
  | none => exact iff_of_true ⟨_, rfl⟩ Bool.false_ne_true
  | some level => exact iff_of_false nofun (not_not_intro rfl)

section Opening

variable {disk : Disk} {sources : Settings.Sources}

/-- **A start breaks**: the file of settings does; or the settings are loaded, and their level has no name, or the
opening of their shop breaks. -/
inductive StartBreaks [Stack] (disk : Disk) (sources : Settings.Sources) : Prop
  | file {path : Path} (chosen : sources.filePath = some path) (breaks : disk.DocumentBreaks path)
  | level {settings : Settings} (loaded : Settings.load disk sources = .ok settings)
      (unknown : ¬Level.Known settings.logLevel)
  | opening {settings : Settings} (loaded : Settings.load disk sources = .ok settings)
      (known : Level.Known settings.logLevel) (breaks : Server.Shop.OpeningBreaks disk settings)

/-- **The server was started**: it listens once, where the settings say, and the program ends well. -/
def Outcome.Started [Stack] (outcome : Outcome) (disk : Disk) (sources : Settings.Sources) : Prop :=
  ∃ settings, Settings.load disk sources = .ok settings ∧
    outcome.listens = [(settings.host, settings.port)] ∧ outcome.exit = 0

/-- **A failure was reported**: nothing listens, and the program ends with an error that it has told. -/
def Outcome.Reported (outcome : Outcome) : Prop :=
  outcome.listens = [] ∧ outcome.exit = 1 ∧ ∃ error, .failed error ∈ outcome.messages

/-- An outcome without a shop whose messages end in an error is a failure that was reported. -/
theorem reported_of_failed {messages : List Message} {error : Server.OpeningError} {level : Level} :
    Outcome.Reported ⟨messages ++ [.failed error], level, none⟩ :=
  ⟨rfl, rfl, error, List.mem_append_right _ (List.mem_singleton.mpr rfl)⟩

/-- Settings that have been loaded break the start by their level or by the opening of their shop. -/
theorem startBreaks_of_load [Stack] {settings : Settings} (loaded : Settings.load disk sources = .ok settings) :
    StartBreaks disk sources ↔
      ¬Level.Known settings.logLevel ∨ Level.Known settings.logLevel ∧ Server.Shop.OpeningBreaks disk settings := by
  constructor
  · rintro (⟨chosen, breaks⟩ | ⟨again, unknown⟩ | ⟨again, known, breaks⟩)
    · obtain ⟨crash, crashed⟩ := Settings.crashes_load_iff.mpr ⟨_, chosen, breaks⟩
      cases loaded.symm.trans crashed
    · cases loaded.symm.trans again
      exact .inl unknown
    · cases loaded.symm.trans again
      exact .inr ⟨known, breaks⟩
  · rintro (unknown | ⟨known, breaks⟩)
    · exact .level loaded unknown
    · exact .opening loaded known breaks

/-- Where no settings are loaded, a start breaks exactly if loading them crashes. -/
theorem startBreaks_of_not_load [Stack] {failure : Failure ConfigError}
    (failed : Settings.load disk sources = .error failure) :
    StartBreaks disk sources ↔ Crashes (Settings.load disk sources) := by
  rw [Settings.crashes_load_iff]
  constructor
  · rintro (⟨chosen, breaks⟩ | ⟨loaded, -⟩ | ⟨loaded, -, -⟩)
    · exact ⟨_, chosen, breaks⟩
    · cases failed.symm.trans loaded
    · cases failed.symm.trans loaded
  · rintro ⟨path, chosen, breaks⟩
    exact .file chosen breaks

/-- Once settings with a level that has a name are loaded, a start comes to what the opening of their shop does. -/
theorem open?_of_level [Stack] {settings : Settings} {level : Level}
    (loaded : Settings.load disk sources = .ok settings)
    (named : Level.ofName settings.logLevel = .ok level) : ∃ messages : List Message,
      open? disk sources = match Server.Shop.configure disk settings true with
        | .error (.crash crash) => .error crash
        | .error (.reported error) => .ok ⟨messages ++ [.failed error], .info, none⟩
        | .ok shop => .ok ⟨messages, level, some shop⟩ := by
  unfold open?
  simp only [loaded, named, ok_bind]
  refine ⟨[Message.loaded settings].filter fun message => level.admits message.level, ?_⟩
  rcases Server.Shop.configure disk settings true with (error | crash) | shop <;> rfl

/-- **A start that breaks crashes; any other listens or reports.** -/
theorem open?_cases [Stack] (tree : disk.root.IsTree) :
    (StartBreaks disk sources ∧ ∃ crash, open? disk sources = .error crash) ∨
      ¬StartBreaks disk sources ∧ ∃ outcome, open? disk sources = .ok outcome ∧
        (outcome.Started disk sources ∨ outcome.Reported) := by
  rcases loaded : Settings.load disk sources with (error | crash) | settings
  · rw [startBreaks_of_not_load loaded, loaded]
    refine .inr ⟨not_crashes_report _, ⟨[] ++ [.failed (.config error)], .info, none⟩, ?_, .inr reported_of_failed⟩
    simp only [open?, loaded]
  · rw [startBreaks_of_not_load loaded, loaded]
    refine .inl ⟨⟨crash, rfl⟩, crash, ?_⟩
    simp only [open?, loaded]
  · obtain ⟨rate, burst⟩ := Settings.rates_of_load loaded
    have opening : Crashes (Server.Shop.configure disk settings true) ↔ Server.Shop.OpeningBreaks disk settings :=
      Server.Shop.crashes_configure_iff tree (by omega) (by omega)
    rw [startBreaks_of_load loaded, ← opening]
    rcases named : Level.ofName settings.logLevel with crash | level
    · refine .inl ⟨.inl (Level.ofName_crash_iff.mp ⟨crash, named⟩), crash, ?_⟩
      simp only [open?, loaded, named, error_bind]
    · have known : Level.Known settings.logLevel := by
        by_contra unknown
        obtain ⟨crash, crashed⟩ := Level.ofName_crash_iff.mpr unknown
        cases named.symm.trans crashed
      obtain ⟨messages, opens⟩ := open?_of_level loaded named
      rw [opens, or_iff_right (not_not_intro known), and_iff_right known]
      rcases opened : Server.Shop.configure disk settings true with (error | crash) | shop
      · exact .inr ⟨not_crashes_report _, _, rfl, .inr reported_of_failed⟩
      · exact .inl ⟨⟨crash, rfl⟩, crash, rfl⟩
      · refine .inr ⟨not_crashes_ok _, _, rfl, .inl ⟨settings, loaded, ?_, rfl⟩⟩
        rw [Outcome.listens, Option.map_some, Server.Shop.settings_of_configure opened]
        rfl

end Opening

section Running

variable {disk : Disk} {environment : Settings.Environment} {words : List String} {arguments : Arguments}

/-- The sources of settings that a command line adds to an environment. -/
def Arguments.sources (arguments : Arguments) (environment : Settings.Environment) : Settings.Sources :=
  ⟨arguments.config.value?, environment, arguments.values⟩

/-- A run whose command line is accepted opens the shop of all sources. -/
theorem run_of_accepted [Stack] (accepted : Arguments.ofWords words = .ok arguments) :
    run disk environment words = (open? disk (arguments.sources environment)).mapError .crash := by
  rw [run, accepted]
  rfl

/-- **A run listens or reports, unless it breaks.** -/
theorem run_reports [Stack] (accepted : Arguments.ofWords words = .ok arguments) (tree : disk.root.IsTree) :
    ((∃ crash, run disk environment words = .error (.crash crash)) ↔
        StartBreaks disk (arguments.sources environment)) ∧
      (¬StartBreaks disk (arguments.sources environment) →
        ∃ outcome, run disk environment words = .ok outcome ∧
          (outcome.Started disk (arguments.sources environment) ∨ outcome.Reported)) := by
  rw [run_of_accepted accepted]
  rcases open?_cases tree with ⟨breaks, crash, crashed⟩ | ⟨fine, outcome, opened, ends⟩
  · rw [crashed]
    exact ⟨iff_of_true ⟨crash, rfl⟩ breaks, fun fine => absurd breaks fine⟩
  · rw [opened]
    exact ⟨iff_of_false nofun fine, fun _ => ⟨outcome, rfl, ends⟩⟩

/-- A disk with a file of settings that is a single byte, and with an empty directory for a library. -/
def strayByte : Disk :=
  ⟨.directory [(.ofString "c.json", .file [0xFF]), (.ofString "library", .directory [])], []⟩

/-- A command line for a public shop with that file and that library. -/
def strayWords : List String :=
  ["-c", "c.json", "-l", "library", "--public"]

/-- What that command line gives. -/
def strayArguments : Arguments :=
  { Arguments.none with config := .value "c.json", libraryRoot := .value "library", publicShop := true }

/-- **One byte that is no text in the file of settings** ends the program with a crash: nothing is told about it. -/
theorem run_crashes_strayByte : Arguments.ofWords strayWords = .ok strayArguments ∧
    run strayByte [] strayWords = .error (.crash .notUtf8) := by
  have accepted : Arguments.ofWords strayWords = .ok strayArguments := by decide +kernel
  have loaded : Settings.load strayByte (strayArguments.sources []) = .error (.crash .notUtf8) := by decide +kernel
  have opens : open? strayByte (strayArguments.sources []) = .error .notUtf8 := by simp only [open?, loaded]
  refine ⟨accepted, ?_⟩
  rw [run_of_accepted accepted, opens]
  rfl

theorem isTree_strayByte : strayByte.root.IsTree :=
  Node.IsTree.two (by decide) (by decide) (by decide) (.file _) (.directory (by decide) (by decide) nofun)

/-- A command line for the private shop of the disk with one user. -/
def privateWords : List String :=
  ["-l", "/l", "--auth-file", "/u"]

/-- What that command line gives. -/
def privateArguments : Arguments :=
  { Arguments.none with libraryRoot := .value "/l", authFile := .value "/u" }

theorem isTree_diskWith (document : List Char) : (Server.Shop.diskWith document).root.IsTree :=
  Node.IsTree.two (by decide) (by decide) (by decide) (.directory (by decide) (by decide) nofun) (.file _)

/-- The private shop with one user opens, so its start does not break. -/
theorem not_startBreaks_oneUser :
    ¬StartBreaks (Server.Shop.diskWith Server.Shop.oneUser) (privateArguments.sources []) := by
  have loaded : Settings.load (Server.Shop.diskWith Server.Shop.oneUser) (privateArguments.sources [])
      = .ok Server.Shop.closedSettings := by decide +kernel
  have known : Level.Known Server.Shop.closedSettings.logLevel := ⟨("INFO", .info), by decide, rfl⟩
  obtain ⟨shop, installed⟩ := Server.Shop.install_oneUser none
  have opens : Server.Shop.configure (Server.Shop.diskWith Server.Shop.oneUser) Server.Shop.closedSettings true
      = .ok shop := congrArg Prod.fst installed
  have opening := Server.Shop.crashes_configure_iff (isTree_diskWith Server.Shop.oneUser)
    (by decide : Server.Shop.closedSettings.ratePerSecond ≠ 0) (by decide)
  rw [startBreaks_of_load loaded, ← opening, opens]
  rintro (unknown | ⟨-, crashed⟩)
  · exact unknown known
  · exact not_crashes_ok _ crashed

/-- No crash stops the private shop with one user, and one stops the shop with the stray byte. -/
theorem run_reports_oneUser :
    (∃ outcome, run (Server.Shop.diskWith Server.Shop.oneUser) [] privateWords = .ok outcome ∧
      (outcome.Started (Server.Shop.diskWith Server.Shop.oneUser) (privateArguments.sources []) ∨ outcome.Reported)) ∧
    ∃ crash, run strayByte [] strayWords = .error (.crash crash) := by
  constructor
  · have accepted : Arguments.ofWords privateWords = .ok privateArguments := by decide +kernel
    exact (run_reports accepted (isTree_diskWith _)).2 not_startBreaks_oneUser
  · have accepted : Arguments.ofWords strayWords = .ok strayArguments := by decide +kernel
    have breaks : strayByte.DocumentBreaks (Path.ofText "c.json") := by
      refine .inr ⟨[0xFF], by decide +kernel, .inl fun text same => ?_⟩
      have decoded := decodeUtf8?_encodeUtf8 text
      rw [same] at decoded
      cases decoded
    exact (run_reports accepted isTree_strayByte).1.mpr (.file (by decide +kernel) breaks)

end Running

end CommandLine

end Gameshelf
