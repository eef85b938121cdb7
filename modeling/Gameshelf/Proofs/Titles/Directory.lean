import Gameshelf.Proofs.Titles.Saving
import Gameshelf.Titles.Directory

/-!
The directory of titles over a whole run: it refreshes from sources that answer or fail in any way, it is
started anew, and the disk changes elsewhere, in any order and any number of times. What the directory holds is
what the last refresh that obtained any title obtained (`Reached.holds`). The cache on the disk says the same
(`Cached`), and that is why neither a refresh that obtains nothing nor a new start loses any title. Saving has to
keep what it saves for that (`Saves`): a path can lead through a link that stands in the place of the file, and
then it is gone once the file has taken that place.
-/

namespace Gameshelf.Titles.Directory

open Text

section History

/-- What sources give together: those that fail give nothing. -/
def obtained (sources : List Asked) : Register Info :=
  merge (sources.filterMap fun source => source.titles.toOption)

/-- The last of some registers that is not empty; without one, the empty register. -/
def lastFilled (history : List (Register Info)) : Register Info :=
  (history.filter fun titles => !titles.isEmpty).getLast?.getD .empty

theorem lastFilled_concat_empty (history : List (Register Info)) {titles : Register Info}
    (empty : titles.isEmpty = true) : lastFilled (history ++ [titles]) = lastFilled history := by
  rw [lastFilled, List.filter_append, List.filter_cons_of_neg (by simp [empty]), List.filter_nil, List.append_nil,
    lastFilled]

theorem lastFilled_concat (history : List (Register Info)) {titles : Register Info}
    (filled : titles.isEmpty = false) : lastFilled (history ++ [titles]) = titles := by
  rw [lastFilled, List.filter_append, List.filter_cons_of_pos (by simp [filled]), List.filter_nil,
    List.getLast?_concat, Option.getD_some]

/-- The last register with titles is one of the history, unless there is none. -/
theorem lastFilled_cases (history : List (Register Info)) :
    lastFilled history = .empty ∨ lastFilled history ∈ history ∧ (lastFilled history).isEmpty = false := by
  unfold lastFilled
  cases last : (history.filter fun titles => !titles.isEmpty).getLast? with
  | none => exact .inl rfl
  | some titles =>
    obtain ⟨mem, filled⟩ := List.mem_filter.mp (List.mem_of_getLast? last)
    exact .inr ⟨mem, by simpa using filled⟩

/-- Sources give titles under ids in capitals. -/
theorem isCapital_obtained (sources : List Asked) : ∀ entry ∈ (obtained sources).entries, IsCapital entry.1 := by
  apply isCapital_merge
  intro titles mem
  obtain ⟨source, _, given⟩ := List.mem_filterMap.mp mem
  unfold Asked.titles at given
  cases brought : source.brought with
  | error failure => rw [brought] at given; cases given
  | ok payload =>
    rw [brought] at given
    cases read : ofPayload payload with
    | error error => rw [ok_bind, read] at given; cases given
    | ok entries =>
      rw [ok_bind, read] at given
      cases given
      exact isCapital_of_ofPayload read

end History

section Sources

variable {directory : Directory} {disk : Disk} {sources : List Asked} {titles : Register Info}

/-- **A directory asks its sources** in their order, and each answers with some payload or fails as sources do. -/
structure Asks (directory : Directory) (sources : List Asked) : Prop where
  addresses : sources.map Asked.address = directory.sources.map Prod.snd
  answers : ∀ source ∈ sources, ∀ crash, source.brought ≠ .error (.crash crash)

/-- A refresh asks the sources, whatever they answer with. -/
theorem asks_asking {fetch : Fetch} (answers : ∀ address crash, fetch address ≠ .error (.crash crash)) :
    directory.Asks (directory.asking fetch) where
  addresses := by
    rw [asking, List.map_map]
    rfl
  answers := by
    intro source mem
    obtain ⟨named, _, rfl⟩ := List.mem_map.mp mem
    exact answers named.2

/-- A source that answers or fails gives titles or nothing. -/
theorem titles_ne_crash {source : Asked} (answers : ∀ crash, source.brought ≠ .error (.crash crash)) (crash : Crash) :
    source.titles ≠ .error (.crash crash) := by
  intro crashed
  unfold Asked.titles at crashed
  cases brought : source.brought with
  | error failure =>
    rw [brought] at crashed
    cases crashed
    exact answers crash brought
  | ok payload =>
    rw [brought, ok_bind] at crashed
    cases read : ofPayload payload <;> rw [read] at crashed <;> cases crashed

/-- **Sources that fail leave the others as they are**: what is given is what the others give. -/
theorem askAll_of_answers (answers : ∀ source ∈ sources, ∀ crash, source.brought ≠ .error (.crash crash)) :
    (askAll sources).2 = .ok (sources.filterMap fun source => source.titles.toOption) := by
  induction sources with
  | nil => rfl
  | cons source rest ih =>
    obtain ⟨first, others⟩ := List.forall_mem_cons.mp answers
    have later := ih others
    unfold askAll
    cases given : source.titles with
    | ok entries =>
      dsimp only
      rw [later, List.filterMap_cons, given]
      rfl
    | error failure =>
      cases failure with
      | crash crash => exact absurd given (titles_ne_crash first crash)
      | reported error =>
        dsimp only
        rw [later, List.filterMap_cons, given]
        rfl

end Sources

theorem cachePath_congr {directory other : Directory} (config : directory.config = other.config)
    (dataDirectory : directory.dataDirectory = other.dataDirectory) : directory.cachePath = other.cachePath := by
  unfold cachePath
  rw [config, dataDirectory]

/-- The path of the cache ends in a name, if in anything. -/
theorem isName_cachePath (directory : Directory) (filled : directory.cachePath.name.isEmpty = false) :
    Path.IsName directory.cachePath.name := by
  have whole : directory.cachePath = (directory.dataDirectory.join (.ofText "titledb")).join
      (.ofText directory.config.document) := rfl
  have folder : (Path.ofText "titledb").names ≠ [] := by decide
  have document := Path.isNormal_ofText directory.config.document
  rw [whole] at filled ⊢
  generalize Path.ofText directory.config.document = last at document filled ⊢
  obtain ⟨anchor, names⟩ := last
  by_cases some : names = []
  · subst some
    cases anchor with
    | relative =>
      have same (p : Path) : p.join ⟨.relative, []⟩ = p := congrArg (Path.mk p.anchor) (List.append_nil p.names)
      rw [same, Path.name_join folder]
      exact Path.isName_name (Path.isNormal_ofText _) folder
    | root | doubleRoot => cases filled
  · rw [Path.name_join some]
    exact Path.isName_name document some

section Steps

variable {directory : Directory} {disk : Disk} {sources : List Asked} {titles : Register Info}

/-- **What the cache says**: titles as a document; nothing is there as long as there are none. -/
structure Cached (path : Path) (titles : Register Info) (disk : Disk) : Prop where
  absent : titles.isEmpty = true → disk.present path = .ok false
  kept : titles.isEmpty = false → disk.find path = .ok (.file (cacheBytes titles))

/-- Without a cache nothing is loaded. -/
theorem loadCached_of_absent [Stack] (absent : disk.present directory.cachePath = .ok false) (now : Nat) :
    directory.loadCached disk now = .ok (false, directory) := by
  rw [loadCached, absent]
  rfl

/-- The titles of a cache are loaded. -/
theorem loadCached_of_find [Stack] (capital : ∀ entry ∈ titles.entries, IsCapital entry.1)
    (found : disk.find directory.cachePath = .ok (.file (cacheBytes titles))) (now : Nat) :
    directory.loadCached disk now = .ok (true, directory.swap titles now) := by
  have there : disk.present directory.cachePath = .ok true := Disk.present_eq_true.mpr ⟨_, found⟩
  rw [loadCached, there, ok_bind, loadCache_of_find capital found]
  rfl

/-- A directory saves its titles where it can. -/
theorem save_of_saves (saves : Saves directory.cachePath directory.titles disk) :
    directory.save disk = (.ok (), savedTo directory.cachePath directory.titles disk) := by
  have made : (saveCache directory.cachePath directory.titles).make disk = (.ok (), savedTo _ _ _) :=
    Prod.ext saves.made rfl
  rw [save, made]

/-- **What sources give is held** before it is saved, and the refresh returns if saving does. -/
theorem refreshFrom_of_obtained [Stack] (enabled : directory.config.enabled = true)
    (answers : ∀ source ∈ sources, ∀ crash, source.brought ≠ .error (.crash crash))
    (filled : (obtained sources).isEmpty = false) (now : Nat) :
    let held := directory.swap (obtained sources) now
    directory.refreshFrom disk sources now
      = ⟨held, (held.save disk).2, (askAll sources).1, (held.save disk).1.map fun _ => held.size⟩ := by
  have given := askAll_of_answers answers
  unfold obtained at filled ⊢
  unfold refreshFrom
  simp only [enabled, given, filled, Bool.not_true, Bool.false_eq_true, if_false]

/-- **A refresh that obtains titles** takes them in and saves them. -/
theorem refreshFrom_of_filled [Stack] (enabled : directory.config.enabled = true) (asks : directory.Asks sources)
    (filled : (obtained sources).isEmpty = false)
    (saves : Saves directory.cachePath (obtained sources) disk) (now : Nat) :
    directory.refreshFrom disk sources now
      = ⟨directory.swap (obtained sources) now, savedTo directory.cachePath (obtained sources) disk,
          (askAll sources).1, .ok (obtained sources).size⟩ := by
  have saved : (directory.swap (obtained sources) now).save disk
      = (.ok (), savedTo directory.cachePath (obtained sources) disk) := save_of_saves saves
  rw [refreshFrom_of_obtained enabled asks.answers filled now, saved]
  rfl

/-- **A refresh that obtains nothing** comes to loading the cache. -/
theorem refreshFrom_of_empty [Stack] (enabled : directory.config.enabled = true) (asks : directory.Asks sources)
    (empty : (obtained sources).isEmpty = true) {now : Nat} {found : Bool} {loaded : Directory}
    (loads : directory.loadCached disk now = .ok (found, loaded)) :
    directory.refreshFrom disk sources now = ⟨loaded, disk, (askAll sources).1, .ok loaded.size⟩ := by
  have given := askAll_of_answers asks.answers
  unfold obtained at empty
  unfold refreshFrom
  simp only [enabled, given, empty, loads, Bool.not_true, Bool.false_eq_true, if_false, if_true]

end Steps

section Runs

variable {config : Config} {dataDirectory : Path} {directory : Directory} {disk : Disk}
  {history : List (Register Info)}

/-- **The moments of a run**: a directory, the disk, and what its refreshes have obtained so far. The run begins
without a cache, and nobody else writes it. -/
inductive Reached [Stack] (config : Config) (dataDirectory : Path) :
    Directory → Disk → List (Register Info) → Prop where
  | start {disk : Disk} (absent : disk.present (initial config dataDirectory).cachePath = .ok false) :
    Reached config dataDirectory (initial config dataDirectory) disk []
  | refresh {directory : Directory} {disk : Disk} {history : List (Register Info)} {sources : List Asked}
    (now : Nat) (reached : Reached config dataDirectory directory disk history) (asks : directory.Asks sources)
    (saves : (obtained sources).isEmpty = false → Saves directory.cachePath (obtained sources) disk) :
    Reached config dataDirectory (directory.refreshFrom disk sources now).directory
      (directory.refreshFrom disk sources now).disk (history ++ [obtained sources])
  /-- The program is started anew and loads the cache first. -/
  | restart {directory restarted : Directory} {disk : Disk} {history : List (Register Info)} {now : Nat}
    {found : Bool} (reached : Reached config dataDirectory directory disk history)
    (loads : (initial config dataDirectory).loadCached disk now = .ok (found, restarted)) :
    Reached config dataDirectory restarted disk history
  /-- The disk changes, but for the cache. -/
  | elsewhere {directory : Directory} {disk other : Disk} {history : List (Register Info)}
    (reached : Reached config dataDirectory directory disk history)
    (present : other.present directory.cachePath = disk.present directory.cachePath)
    (kept : ∀ node, disk.find directory.cachePath = .ok node → other.find directory.cachePath = .ok node) :
    Reached config dataDirectory directory other history

/-- A refresh of the directory leads on. -/
theorem Reached.refreshed [Stack] {fetch : Fetch} (reached : Reached config dataDirectory directory disk history)
    (answers : ∀ address crash, fetch address ≠ .error (.crash crash))
    (saves : (obtained (directory.asking fetch)).isEmpty = false →
      Saves directory.cachePath (obtained (directory.asking fetch)) disk) (now : Nat) :
    Reached config dataDirectory (directory.refresh disk fetch now).directory (directory.refresh disk fetch now).disk
      (history ++ [obtained (directory.asking fetch)]) :=
  .refresh now reached (asks_asking answers) saves

/-- **What holds at every moment**: the directory has the titles of the last refresh that obtained any, and so has
the cache. -/
structure Holds (config : Config) (dataDirectory : Path) (directory : Directory) (disk : Disk)
    (history : List (Register Info)) : Prop where
  config : directory.config = config
  dataDirectory : directory.dataDirectory = dataDirectory
  titles : directory.titles = lastFilled history
  cached : Cached directory.cachePath (lastFilled history) disk
  capital : ∀ titles ∈ history, ∀ entry ∈ titles.entries, IsCapital entry.1

/-- A directory that is made anew keeps its cache where the one before it did. -/
theorem Holds.path (holds : Holds config dataDirectory directory disk history) :
    (initial config dataDirectory).cachePath = directory.cachePath :=
  cachePath_congr holds.config.symm holds.dataDirectory.symm

/-- Loading the cache restores the titles, whether a directory has them already or was just made. -/
theorem Holds.loads [Stack] (holds : Holds config dataDirectory directory disk history) {other : Directory}
    (samePath : other.cachePath = directory.cachePath)
    (titles : other.titles = lastFilled history ∨ other.titles = .empty) (now : Nat) :
    ∃ found loaded, other.loadCached disk now = .ok (found, loaded) ∧ loaded.config = other.config ∧
      loaded.dataDirectory = other.dataDirectory ∧ loaded.titles = lastFilled history := by
  have cached := holds.cached
  rw [← samePath] at cached
  rcases lastFilled_cases history with empty | ⟨mem, filled⟩
  · have none : (lastFilled history).isEmpty = true := empty ▸ rfl
    refine ⟨false, other, loadCached_of_absent (cached.absent none) now, rfl, rfl, ?_⟩
    rw [empty, or_self] at titles
    rw [empty, titles]
  · exact ⟨true, _, loadCached_of_find (holds.capital _ mem) (cached.kept filled) now, rfl, rfl, rfl⟩

/-- A directory that was just made has no titles, and no cache is there for it. -/
theorem holds_initial (absent : disk.present (initial config dataDirectory).cachePath = .ok false) :
    Holds config dataDirectory (initial config dataDirectory) disk [] where
  config := rfl
  dataDirectory := rfl
  titles := rfl
  cached := ⟨fun _ => absent, nofun⟩
  capital := nofun

/-- **One refresh more.** Where it obtains nothing, the cache gives back what the directory held. -/
theorem Holds.refresh [Stack] (enabled : config.enabled = true)
    (holds : Holds config dataDirectory directory disk history)
    {sources : List Asked} (asks : directory.Asks sources)
    (saves : (obtained sources).isEmpty = false → Saves directory.cachePath (obtained sources) disk) (now : Nat) :
    let next := directory.refreshFrom disk sources now
    next.outcome = .ok (lastFilled (history ++ [obtained sources])).size ∧
      Holds config dataDirectory next.directory next.disk (history ++ [obtained sources]) := by
  intro next
  have on : directory.config.enabled = true := holds.config ▸ enabled
  have capital : ∀ titles ∈ history ++ [obtained sources], ∀ entry ∈ titles.entries, IsCapital entry.1 := by
    intro titles mem
    rcases List.mem_append.mp mem with earlier | new
    · exact holds.capital titles earlier
    · cases List.mem_singleton.mp new
      exact isCapital_obtained sources
  cases kind : (obtained sources).isEmpty with
  | true =>
    have same := lastFilled_concat_empty history kind
    obtain ⟨found, loaded, loads, config, dataDirectory, titles⟩ := holds.loads rfl (.inl holds.titles) now
    have step : next = ⟨loaded, disk, (askAll sources).1, .ok loaded.size⟩ := refreshFrom_of_empty on asks kind loads
    have path : loaded.cachePath = directory.cachePath := cachePath_congr config dataDirectory
    have cached : Cached loaded.cachePath (lastFilled history) disk := path ▸ holds.cached
    have size : loaded.size = (lastFilled history).size := congrArg Register.size titles
    rw [step, same]
    exact ⟨congrArg Except.ok size, config.trans holds.config, dataDirectory.trans holds.dataDirectory,
      titles.trans same.symm, same.symm ▸ cached, capital⟩
  | false =>
    have same := lastFilled_concat history kind
    have step := refreshFrom_of_filled on asks kind (saves kind) now
    have found := find_of_saves (isName_cachePath directory) (saves kind)
    have cached : Cached directory.cachePath (obtained sources)
        (savedTo directory.cachePath (obtained sources) disk) :=
      ⟨fun empty => absurd (kind.symm.trans empty) Bool.false_ne_true, fun _ => found⟩
    rw [show next = _ from step, same]
    exact ⟨rfl, holds.config, holds.dataDirectory, same.symm, same.symm ▸ cached, capital⟩

/-- A new start finds the cache as the directory before it left it. -/
theorem Holds.restart [Stack] (holds : Holds config dataDirectory directory disk history) {now : Nat} {found : Bool}
    {restarted : Directory} (loads : (initial config dataDirectory).loadCached disk now = .ok (found, restarted)) :
    Holds config dataDirectory restarted disk history := by
  obtain ⟨_, loaded, again, sameConfig, sameDirectory, titles⟩ := holds.loads holds.path (.inr rfl) now
  cases again.symm.trans loads
  have there : restarted.cachePath = directory.cachePath :=
    (cachePath_congr sameConfig sameDirectory).trans holds.path
  exact ⟨sameConfig, sameDirectory, titles, there ▸ holds.cached, holds.capital⟩

/-- What happens on the disk but for the cache is no matter. -/
theorem Holds.elsewhere (holds : Holds config dataDirectory directory disk history) {other : Disk}
    (present : other.present directory.cachePath = disk.present directory.cachePath)
    (kept : ∀ node, disk.find directory.cachePath = .ok node → other.find directory.cachePath = .ok node) :
    Holds config dataDirectory directory other history := by
  have cached : Cached directory.cachePath (lastFilled history) other :=
    ⟨fun none => present.trans (holds.cached.absent none), fun some => kept _ (holds.cached.kept some)⟩
  exact ⟨holds.config, holds.dataDirectory, holds.titles, cached, holds.capital⟩

/-- The induction is on the run; every step keeps what holds. -/
theorem Reached.holds [Stack] (enabled : config.enabled = true)
    (reached : Reached config dataDirectory directory disk history) :
    Holds config dataDirectory directory disk history := by
  induction reached with
  | start absent => exact holds_initial absent
  | refresh now _ asks saves ih => exact (ih.refresh enabled asks saves now).2
  | restart _ loads ih => exact ih.restart loads
  | elsewhere _ present kept ih => exact ih.elsewhere present kept

end Runs

section OneTitle

def emptyDisk : Disk := ⟨.directory [], []⟩

/-- A directory that keeps its cache below the root. -/
def unfilled : Directory := initial .default ⟨.root, []⟩

/-- Every source knows one title. -/
def oneTitle : Fetch := fun _ =>
  .ok (.obj [("first", .obj [("id", .str "01000000000100ab"), ("name", .str "One")])])

/-- No source can be reached. -/
def outage : Fetch := fun address => .error (.reported (.unreachable address "timed out"))

end OneTitle

end Gameshelf.Titles.Directory
