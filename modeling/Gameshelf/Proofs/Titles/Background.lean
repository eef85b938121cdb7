import Gameshelf.Proofs.Titles.Sources

/-!
What runs in the background: the cache is loaded once, and then the directory is refreshed in every round,
whatever the sources bring and whatever happens on the disk. Loading gives the titles of the cache or leaves the
directory as it was (`loadCached_cases`), but for a cache that breaks the reader (`CacheBreaks`). Such a
cache ends the run before its first round; no other does (`run_reaches_rounds`).
-/

namespace Gameshelf.Titles

open Text

section Cache

variable {disk : Disk} {path : Path}

/-- **A cache breaks the program**: the disk refuses its path, and not because nothing is there; or its bytes are
those of no text; or the text breaks the reader. -/
def CacheBreaks [Stack] (disk : Disk) (path : Path) : Prop :=
  (∃ refusal, disk.find path = .error (.refused refusal) ∧ Disk.meansAbsent refusal = false) ∨
    ∃ bytes, disk.contentOf path = .ok bytes ∧
      ((∀ text, Encoding.encodeUtf8 text ≠ bytes) ∨ ∃ text, Encoding.encodeUtf8 text = bytes ∧ Json.Breaks text)

/-- A cache whose content cannot be read at all does not break the program, if the path is no cause. -/
theorem not_cacheBreaks_of_fault [Stack] {fault : Fault}
    (absent : ∀ refusal, disk.find path = .error (.refused refusal) →
    Disk.meansAbsent refusal = true) (failed : disk.contentOf path = .error fault) : ¬CacheBreaks disk path := by
  rintro (⟨refusal, refused, other⟩ | ⟨bytes, own, -⟩)
  · rw [absent refusal refused] at other
    cases other
  · cases failed.symm.trans own

/-- Loading a cache crashes where reading its document does. -/
theorem crashes_loadCache_iff [Stack] : Crashes (loadCache disk path) ↔ Crashes (disk.readDocument path) := by
  unfold loadCache
  cases disk.readDocument path with
  | ok value => exact iff_of_false not_crashes_mapError (not_crashes_ok value)
  | error failure =>
    cases failure with
    | reported error => exact iff_of_false (not_crashes_report _) (not_crashes_report error)
    | crash crash => exact iff_of_true ⟨crash, rfl⟩ ⟨crash, rfl⟩

/-- **A cache that has content breaks the program** exactly if loading it crashes. -/
theorem cacheBreaks_iff [Stack] {bytes : Encoding.Bytes} (content : disk.contentOf path = .ok bytes) :
    CacheBreaks disk path ↔ Crashes (loadCache disk path) := by
  have reached : ¬∃ refusal, disk.find path = .error (.refused refusal) ∧ Disk.meansAbsent refusal = false := by
    rintro ⟨refusal, refused, -⟩
    rw [Disk.contentOf, refused] at content
    cases content
  rw [crashes_loadCache_iff, Disk.crashes_readDocument_bytes_iff content, CacheBreaks, or_iff_right reached]
  simp only [content, Except.ok.injEq, exists_eq_left']

/-- What stands at a path has some content, or it is a directory. -/
theorem contentOf_of_find {node : Node} (found : disk.find path = .ok node) :
    (∃ bytes, disk.contentOf path = .ok bytes) ∨ disk.contentOf path = .error (.refused .isDirectory) := by
  rw [Disk.contentOf, found, ok_bind]
  cases node with
  | directory => exact .inr rfl
  | file | link | special => exact .inl ⟨_, rfl⟩

end Cache

namespace Directory

variable {directory : Directory} {disk : Disk}

section Loading

/-- Where something is at the path of the cache, it is loaded. -/
theorem loadCached_of_present [Stack] {node : Node} (found : disk.find directory.cachePath = .ok node) (now : Nat) :
    directory.loadCached disk now = match loadCache disk directory.cachePath with
      | .ok titles => .ok (true, directory.swap titles now)
      | .error (.reported _) => .ok (false, directory)
      | .error (.crash crash) => .error crash := by
  have there : disk.present directory.cachePath = .ok true := Disk.present_eq_true.mpr ⟨node, found⟩
  rw [loadCached, there, ok_bind]
  rcases loadCache disk directory.cachePath with (_ | _) | _ <;> rfl

/-- **Loading the cache gives its titles or leaves the directory as it was**, unless the cache breaks the program;
then it crashes. -/
theorem loadCached_cases [Stack] (directory : Directory) (disk : Disk) (now : Nat) :
    (CacheBreaks disk directory.cachePath ∧ ∃ crash, directory.loadCached disk now = .error crash) ∨
    (¬CacheBreaks disk directory.cachePath ∧
      (directory.loadCached disk now = .ok (false, directory) ∨
        ∃ titles, loadCache disk directory.cachePath = .ok titles ∧
          directory.loadCached disk now = .ok (true, directory.swap titles now))) := by
  cases found : disk.find directory.cachePath with
  | error fault =>
    have failed : disk.contentOf directory.cachePath = .error fault := by
      rw [Disk.contentOf, found]
      rfl
    cases fault with
    | embeddedNul | unencodable =>
      refine .inr ⟨not_cacheBreaks_of_fault (fun _ refused => by cases found.symm.trans refused) failed, .inl ?_⟩
      refine loadCached_of_absent ?_ now
      rw [Disk.present, Disk.holds, found]
    | refused refusal =>
      have answer : disk.present directory.cachePath
          = if Disk.meansAbsent refusal then .ok false else .error (.disk refusal directory.cachePath.text) := by
        rw [Disk.present, Disk.holds, found]
      cases absent : Disk.meansAbsent refusal with
      | true =>
        refine .inr ⟨not_cacheBreaks_of_fault (fun _ refused => ?_) failed, .inl (loadCached_of_absent ?_ now)⟩
        · cases found.symm.trans refused
          exact absent
        · rw [answer, if_pos absent]
      | false =>
        refine .inl ⟨.inl ⟨refusal, found, absent⟩, .disk refusal directory.cachePath.text, ?_⟩
        rw [loadCached, answer, absent]
        rfl
  | ok node =>
    have loads := loadCached_of_present found now
    rcases contentOf_of_find found with ⟨bytes, content⟩ | directory
    · rw [cacheBreaks_iff content]
      cases loaded : loadCache disk directory.cachePath with
      | ok titles =>
        rw [loaded] at loads
        exact .inr ⟨not_crashes_ok titles, .inr ⟨titles, rfl, loads⟩⟩
      | error failure =>
        rw [loaded] at loads
        cases failure with
        | crash crash => exact .inl ⟨⟨crash, rfl⟩, crash, loads⟩
        | reported error => exact .inr ⟨not_crashes_report error, .inl loads⟩
    · rw [loadCache_of_refused directory] at loads
      exact .inr ⟨not_cacheBreaks_of_fault (fun _ refused => by cases found.symm.trans refused) directory, .inl loads⟩

/-- Loading the cache leaves the settings as they are. -/
theorem config_of_loadCached [Stack] {now : Nat} {found : Bool} {loaded : Directory}
    (loads : directory.loadCached disk now = .ok (found, loaded)) : loaded.config = directory.config := by
  rcases loadCached_cases directory disk now with ⟨-, crash, crashed⟩ | ⟨-, same | ⟨titles, -, taken⟩⟩
  · cases loads.symm.trans crashed
  · cases loads.symm.trans same
    rfl
  · cases loads.symm.trans taken
    rfl

end Loading

section Rounds

/-- The settings stay as they are, whatever a refresh comes to. -/
theorem config_refreshFrom [Stack] (directory : Directory) (disk : Disk) (sources : List Asked) (now : Nat) :
    (directory.refreshFrom disk sources now).directory.config = directory.config := by
  unfold refreshFrom
  split
  · rfl
  · dsimp only
    split
    · rfl
    · split
      · cases loads : directory.loadCached disk now with
        | ok loaded => exact config_of_loadCached loads
        | error crash => rfl
      · rfl

/-- The first source is always asked. -/
theorem head?_askAll (source : Asked) (rest : List Asked) :
    (askAll (source :: rest)).1.head? = some source.address := by
  rw [askAll]
  rcases source.titles with (_ | _) | _ <;> rfl

/-- **A refresh begins with the first source**, whatever it comes to. -/
theorem head?_asked_refresh [Stack] (enabled : directory.config.enabled = true)
    (disk : Disk) (fetch : Fetch) (now : Nat) :
    (directory.refresh disk fetch now).asked.head? = some (firstHost ++ directory.config.document) := by
  have asked : (directory.refresh disk fetch now).asked = (askAll (directory.asking fetch)).1 := by
    unfold refresh refreshFrom
    simp only [enabled, Bool.not_true, Bool.false_eq_true, if_false]
    split
    · rfl
    · split
      · cases directory.loadCached disk now <;> rfl
      · rfl
  rw [asked]
  exact head?_askAll _ _

/-- Rounds end as they are meant to, whatever each refresh comes to. -/
theorem outcome_refreshEach [Stack] (rounds : List Round) (directory : Directory) (disk : Disk) :
    (refreshEach rounds directory disk).outcome = .ok () := by
  induction rounds generalizing directory disk with
  | nil => rfl
  | cons round rest ih => exact ih _ _

/-- **What is asked in rounds**: something in each, the first source first. The induction is on the rounds, and a
refresh hands on the settings. -/
theorem asked_refreshEach [Stack] (rounds : List Round) (enabled : directory.config.enabled = true) (disk : Disk) :
    ∃ parts : List (List LooseText), (refreshEach rounds directory disk).asked = parts.flatten ∧
      parts.length = rounds.length ∧
      ∀ part ∈ parts, part.head? = some (firstHost ++ directory.config.document) := by
  induction rounds generalizing directory disk with
  | nil => exact ⟨[], rfl, rfl, nofun⟩
  | cons round rest ih =>
    let first := directory.refresh (round.meanwhile disk) round.fetch round.now
    have config : first.directory.config = directory.config := config_refreshFrom _ _ _ _
    obtain ⟨parts, asked, length, heads⟩ := ih (config ▸ enabled) first.disk
    refine ⟨first.asked :: parts, ?_, ?_, ?_⟩
    · rw [List.flatten_cons, ← asked]
      rfl
    · rw [List.length_cons, List.length_cons, length]
    · rw [config] at heads
      exact List.forall_mem_cons.mpr ⟨head?_asked_refresh enabled _ _ _, heads⟩

/-- **The run in the background refreshes in every round**, whatever the cache holds that does not break the
program: loading gives its titles or leaves the directory as it was, and each round asks the first source. A cache
that breaks the program ends the run before the first round. -/
theorem run_reaches_rounds [Stack] (directory : Directory) (disk : Disk) (now : Nat) (rounds : List Round) :
    (¬CacheBreaks disk directory.cachePath →
      (directory.loadCached disk now = .ok (false, directory) ∨
        ∃ titles, loadCache disk directory.cachePath = .ok titles ∧
          directory.loadCached disk now = .ok (true, directory.swap titles now)) ∧
      (directory.run disk now rounds).outcome = .ok () ∧
      (directory.config.enabled = true →
        ∃ parts : List (List LooseText), (directory.run disk now rounds).asked = parts.flatten ∧
          parts.length = rounds.length ∧
          ∀ part ∈ parts, part.head? = some (firstHost ++ directory.config.document))) ∧
    (CacheBreaks disk directory.cachePath → ∃ crash, directory.loadCached disk now = .error crash ∧
      directory.run disk now rounds = ⟨directory, disk, [], .error crash⟩) := by
  rcases loadCached_cases directory disk now with ⟨breaks, crash, crashed⟩ | ⟨whole, loads⟩
  · refine ⟨fun whole => absurd breaks whole, fun _ => ⟨crash, crashed, ?_⟩⟩
    unfold run
    rw [crashed]
  · obtain ⟨found, loaded, answer⟩ : ∃ found loaded, directory.loadCached disk now = .ok (found, loaded) := by
      rcases loads with same | ⟨titles, -, taken⟩
      · exact ⟨_, _, same⟩
      · exact ⟨_, _, taken⟩
    have goesOn : directory.run disk now rounds = refreshEach rounds loaded disk := by
      unfold run
      rw [answer]
    have config := config_of_loadCached answer
    rw [goesOn, ← config]
    refine ⟨fun _ => ⟨loads, outcome_refreshEach rounds loaded disk, ?_⟩, fun breaks => absurd breaks whole⟩
    exact fun enabled => asked_refreshEach rounds enabled disk

/-- A disk whose cache breaks off. -/
def brokenOffCache : Disk :=
  ⟨.directory [(.ofString "titledb", .directory [(.ofString "US.en.json", .file (Encoding.encodeUtf8 ['[']))])], []⟩

/-- With a cache that breaks off, both rounds of a run ask the source. -/
theorem run_reaches_rounds_brokenOffCache :
    ∃ parts : List (List LooseText),
      (unfilled.run brokenOffCache 0 [⟨id, outage, 1⟩, ⟨id, oneTitle, 2⟩]).asked = parts.flatten ∧ parts.length = 2 ∧
        ∀ part ∈ parts, part.head? = some (firstHost ++ unfilled.config.document) := by
  have content : brokenOffCache.contentOf unfilled.cachePath = .ok (Encoding.encodeUtf8 ['[']) := by decide +kernel
  have whole : ¬CacheBreaks brokenOffCache unfilled.cachePath := by
    rw [cacheBreaks_iff content, crashes_loadCache_iff, Disk.crashes_readDocument_text_iff content]
    decide +kernel
  exact ((run_reaches_rounds unfilled brokenOffCache 0 [⟨id, outage, 1⟩, ⟨id, oneTitle, 2⟩]).1 whole).2.2 rfl

/-- With a byte in its cache that is no text, a run asks no source at all. -/
theorem run_ends_damagedCache :
    (unfilled.run damagedCache 0 [⟨id, outage, 1⟩, ⟨id, oneTitle, 2⟩]).outcome = .error .notUtf8 ∧
    (unfilled.run damagedCache 0 [⟨id, outage, 1⟩, ⟨id, oneTitle, 2⟩]).asked = [] := by
  decide +kernel

end Rounds

end Directory

end Gameshelf.Titles
