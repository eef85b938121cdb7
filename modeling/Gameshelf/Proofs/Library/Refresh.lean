import Gameshelf.Library.Scanner

/-!
Refreshes of a library over a whole run: the library changes, scans meet faults, the scanner refreshes
and readers look at the holder, in any order and any number of times. What the holder says afterwards
is an account of the scans that the refreshes made (`Holder.Accounts`), step by step
(`Holder.Accounts.settle`) and over every run (`refresh_accounts`), and so is all that readers were told on the
way (`ScannerRun.Reading.Accounts`).

Each scan is taken at one moment of its run: the law does not speak of a library that changes while it
is being walked.
-/

namespace Gameshelf

/-- What a scan comes to. -/
abbrev ScanOutcome := Except (Failure ScanError) (List ContentFile)

namespace Holder

/-- The catalogs of the scans that gave files, in their order. -/
def completed (outcomes : List ScanOutcome) : List Catalog :=
  outcomes.filterMap fun outcome => outcome.toOption.map Catalog.ofFiles

/-- Did the last of some scans fail? -/
def LastFailed (outcomes : List ScanOutcome) : Prop :=
  ∃ failure, outcomes.getLast? = some (.error failure)

/-- **A holder accounts for scans** that were made since its first catalog was put in: it holds the
catalog of the last scan that gave files, counts those scans, and is stale while the last scan of all
failed. -/
structure Accounts (first : Catalog) (outcomes : List ScanOutcome) (holder : Holder) : Prop where
  catalog : holder.catalog = (completed outcomes).getLast?.getD first
  generation : holder.generation = (completed outcomes).length
  stale : holder.stale = true ↔ LastFailed outcomes
  lastError : holder.lastError = none ↔ holder.stale = false
  refreshedAt : holder.refreshedAt.isSome = true ↔ 0 < holder.generation

/-- **A status accounts for scans** as the holder does, and tells the number of files of the catalog. -/
structure Status.Accounts (first : Catalog) (outcomes : List ScanOutcome) (status : Status) : Prop where
  files : status.files = ((completed outcomes).getLast?.getD first).size
  generation : status.generation = (completed outcomes).length
  stale : status.stale = true ↔ LastFailed outcomes
  lastError : status.lastError = none ↔ status.stale = false
  refreshedAt : status.refreshedAt.isSome = true ↔ 0 < status.generation

theorem Accounts.status {first : Catalog} {outcomes : List ScanOutcome} {holder : Holder}
    (accounts : Accounts first outcomes holder) : holder.status.Accounts first outcomes where
  files := congrArg Catalog.size accounts.catalog
  generation := accounts.generation
  stale := accounts.stale
  lastError := accounts.lastError
  refreshedAt := accounts.refreshedAt

/-- What a failed scan leaves as it was. -/
structure Keeps (before after : Holder) : Prop where
  catalog : after.catalog = before.catalog
  generation : after.generation = before.generation
  refreshedAt : after.refreshedAt = before.refreshedAt

/-- A holder whose catalog was never replaced accounts for no scans. -/
theorem accounts_initial (first : Catalog) : Accounts first [] (initial first) where
  catalog := rfl
  generation := rfl
  stale := ⟨nofun, nofun⟩
  lastError := ⟨fun _ => rfl, fun _ => rfl⟩
  refreshedAt := ⟨nofun, fun h => absurd h (Nat.lt_irrefl 0)⟩

theorem completed_concat_ok (outcomes : List ScanOutcome) (files : List ContentFile) :
    completed (outcomes ++ [.ok files]) = completed outcomes ++ [Catalog.ofFiles files] := by
  simp only [completed, List.filterMap_append, List.filterMap_cons, Except.toOption, Option.map_some,
    List.filterMap_nil]

theorem completed_concat_error (outcomes : List ScanOutcome) (failure : Failure ScanError) :
    completed (outcomes ++ [.error failure]) = completed outcomes := by
  simp only [completed, List.filterMap_append, List.filterMap_cons, Except.toOption, Option.map_none,
    List.filterMap_nil, List.append_nil]

theorem lastFailed_concat {outcomes : List ScanOutcome} {outcome : ScanOutcome} :
    LastFailed (outcomes ++ [outcome]) ↔ ∃ failure, outcome = .error failure := by
  simp only [LastFailed, List.getLast?_concat, Option.some.injEq]

/-- **One scan more** is accounted for, whatever it came to. -/
theorem Accounts.settle {first : Catalog} {outcomes : List ScanOutcome} {holder : Holder}
    (accounts : Accounts first outcomes holder) (now : Nat) (outcome : ScanOutcome) :
    Accounts first (outcomes ++ [outcome]) (Scanner.settle holder now outcome).2 := by
  cases outcome with
  | ok files =>
    refine ⟨?_, ?_, ?_, ?_, ?_⟩
    · rw [completed_concat_ok, List.getLast?_concat]
      rfl
    · rw [completed_concat_ok, List.length_append, ← accounts.generation]
      rfl
    · rw [lastFailed_concat]
      exact ⟨nofun, nofun⟩
    · exact ⟨fun _ => rfl, fun _ => rfl⟩
    · exact ⟨fun _ => Nat.succ_pos _, fun _ => rfl⟩
  | error failure =>
    refine ⟨?_, ?_, ?_, ?_, accounts.refreshedAt⟩
    · rw [completed_concat_error, ← accounts.catalog]
      rfl
    · rw [completed_concat_error, ← accounts.generation]
      rfl
    · rw [lastFailed_concat]
      exact ⟨fun _ => ⟨failure, rfl⟩, fun _ => rfl⟩
    · exact ⟨nofun, nofun⟩

/-- A scan that fails is told from one that gives files by what becomes of the holder. -/
theorem settle_swapped_iff (holder : Holder) (now : Nat) (outcome : ScanOutcome) :
    let (swapped, after) := Scanner.settle holder now outcome
    (swapped = true ↔ after.generation = holder.generation + 1) ∧
    (swapped = false ↔ Keeps holder after) ∧
    (swapped = true ↔ ∃ files, outcome = .ok files) := by
  cases outcome with
  | ok files =>
    refine ⟨⟨fun _ => rfl, fun _ => rfl⟩, ⟨nofun, fun kept => ?_⟩, ?_⟩
    · exact absurd kept.generation (Nat.succ_ne_self _)
    · exact ⟨fun _ => ⟨files, rfl⟩, fun _ => rfl⟩
  | error failure =>
    refine ⟨⟨nofun, fun grown => ?_⟩, ⟨fun _ => ⟨rfl, rfl, rfl⟩, fun _ => rfl⟩, ?_⟩
    · exact absurd grown.symm (Nat.succ_ne_self _)
    · exact ⟨nofun, nofun⟩

end Holder

/-- What happens in a run of a scanner. -/
inductive ScannerEvent where
  /-- The library changes, in whatever way. -/
  | change (disk : Disk)
  /-- From now on scans meet these conditions. -/
  | meet (conditions : ScanConditions)
  | refresh (now : Nat)
  /-- A reader asks for the catalog. -/
  | snapshot
  /-- A reader asks for the status. -/
  | status

/-- A scanner, and the library as its scans find it. -/
structure ScannerRun where
  disk : Disk
  conditions : ScanConditions
  scanner : Scanner

namespace ScannerRun

/-- What a reader is given. -/
inductive Reading where
  | catalog (catalog : Catalog)
  | status (status : Holder.Status)

/-- **A reading accounts for scans** as the holder does that is read. -/
def Reading.Accounts (first : Catalog) (outcomes : List ScanOutcome) : Reading → Prop
  | .catalog held => held = (Holder.completed outcomes).getLast?.getD first
  | .status told => told.Accounts first outcomes

/-- The holder that readers look at. -/
def holder (run : ScannerRun) : Holder :=
  run.scanner.holder

/-- What a scan would come to now. -/
def scan (run : ScannerRun) : ScanOutcome :=
  Library.scan run.disk run.conditions run.scanner.root

/-- One event. Readers change nothing. -/
def step (run : ScannerRun) : ScannerEvent → ScannerRun
  | .change disk => { run with disk }
  | .meet conditions => { run with conditions }
  | .refresh now => { run with scanner := (run.scanner.refresh run.disk run.conditions now).2 }
  | .snapshot | .status => run

/-- Events one after another. -/
def after (run : ScannerRun) (events : List ScannerEvent) : ScannerRun :=
  events.foldl step run

/-- What the scans of the refreshes among events come to, in their order. -/
def outcomes : ScannerRun → List ScannerEvent → List ScanOutcome
  | _, [] => []
  | run, event :: rest =>
    match event with
    | .refresh _ => run.scan :: (run.step event).outcomes rest
    | _ => (run.step event).outcomes rest

/-- What the reader of an event is given, if it has one. -/
def reading? (run : ScannerRun) : ScannerEvent → Option Reading
  | .snapshot => some (.catalog run.holder.snapshot)
  | .status => some (.status run.holder.status)
  | _ => none

/-- A run in which a scanner has not refreshed yet. -/
def fresh (disk : Disk) (conditions : ScanConditions) (root : Path) (interval : Int) (first : Catalog) :
    ScannerRun :=
  ⟨disk, conditions, .idle root interval (.initial first)⟩

/-- From a holder that accounts for earlier scans, a run leads to one that accounts for these and its
own. The induction is on the events; only a refresh adds a scan. -/
theorem accounts_after {first : Catalog} {past : List ScanOutcome} {run : ScannerRun}
    (accounts : run.holder.Accounts first past) (events : List ScannerEvent) :
    (run.after events).holder.Accounts first (past ++ run.outcomes events) := by
  induction events generalizing run past with
  | nil => exact (List.append_nil past).symm ▸ accounts
  | cons event rest ih =>
    cases event with
    | refresh now =>
      have settled : (run.step (.refresh now)).holder.Accounts first (past ++ [run.scan]) :=
        accounts.settle now run.scan
      have later := ih settled
      rw [List.append_assoc] at later
      exact later
    | change disk => exact ih accounts
    | meet conditions => exact ih accounts
    | snapshot => exact ih accounts
    | status => exact ih accounts

/-- A reader is given what accounts for the scans so far. -/
theorem accounts_reading {first : Catalog} {past : List ScanOutcome} {run : ScannerRun}
    (accounts : run.holder.Accounts first past) {event : ScannerEvent} {reading : Reading}
    (given : run.reading? event = some reading) : reading.Accounts first past := by
  cases event with
  | snapshot =>
    cases given
    exact accounts.catalog
  | status =>
    cases given
    exact accounts.status
  | change | meet | refresh => cases given

/-- **At every moment of every run the holder accounts for the scans so far**, and so does what readers are given,
who change nothing. One refresh more tells whether it replaced the catalog, and keeps the catalog where it did
not. -/
theorem refresh_accounts (disk : Disk) (conditions : ScanConditions) (root : Path) (interval : Int)
    (first : Catalog) (events : List ScannerEvent) :
    let start := fresh disk conditions root interval first
    let reached := start.after events
    reached.holder.Accounts first (start.outcomes events) ∧
    (∀ now, let (swapped, next) := reached.scanner.refresh reached.disk reached.conditions now
      (swapped = true ↔ ∃ files, reached.scan = .ok files) ∧
      (swapped = true ↔ next.holder.generation = reached.holder.generation + 1) ∧
      (swapped = false ↔ Holder.Keeps reached.holder next.holder)) ∧
    (∀ event reading, reached.reading? event = some reading →
      reading.Accounts first (start.outcomes events) ∧ reached.step event = reached) ∧
    reached.step .snapshot = reached ∧ reached.step .status = reached := by
  intro start reached
  have accounts : start.holder.Accounts first [] := Holder.accounts_initial first
  have settled : reached.holder.Accounts first (start.outcomes events) := accounts_after accounts events
  refine ⟨settled, fun now => ?_, fun event reading given => ⟨accounts_reading settled given, ?_⟩, rfl, rfl⟩
  · obtain ⟨grown, kept, complete⟩ := Holder.settle_swapped_iff reached.holder now reached.scan
    exact ⟨complete, grown, kept⟩
  · cases event with
    | snapshot | status => rfl
    | change | meet | refresh => cases given

end ScannerRun

end Gameshelf
