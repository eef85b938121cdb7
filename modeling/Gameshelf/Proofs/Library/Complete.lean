import Mathlib.Data.List.Sort
import Gameshelf.Proofs.Disk.Contents
import Gameshelf.Proofs.Library.Contents
import Gameshelf.Proofs.Library.Listing

/-!
Complete scans. A tree has one list of content files in the order of a walk (`Lists.unique`). A scan gives that
list; or it reports an entry whose metadata it cannot read; or the walk is to go too deep (`GoesTooDeep`) and breaks
off, if no such entry comes before (`scan_exact`).
-/

namespace Gameshelf.Library

open Text Encoding

section Specification

variable (disk : Disk) (root : Path) (conditions : ScanConditions) (start : Place)

/-- **The files to list of a tree**, each once, in the order of a walk. -/
structure Lists (found : List (Place × Bytes)) : Prop where
  exact : ∀ place content, (place, content) ∈ found ↔ Listed disk root conditions start place content
  distinct : (found.map Prod.fst).Nodup
  ordered : found.Pairwise fun a b => Earlier a.1 b.1

/-- **A walk is to go too deep** at a place: directories that can be listed lead to a directory as deep as the walk
goes, which can be listed too, and in it is an entry that is a directory or a link to one. -/
structure GoesTooDeep (bound : WalkBound) (place : Place) : Prop where
  bounded : conditions.bound = some bound
  deep : bound.levels ≤ place.length
  entered : Entered (canEnter disk root conditions) [] place
  lists : canEnter disk root conditions place = true
  branch : ∃ name node, disk.at? (start ++ place ++ [name]) = some node ∧
    (walkerOf disk root conditions).branches (place ++ [name]) node = true

/-- **A scan reports an entry** whose metadata it needs and cannot read. -/
def ReportsEntry : Prop :=
  ∃ place node refusal, Asked disk root conditions start place node ∧ ¬Readable disk root conditions place ∧
    scan disk conditions root = .error (.reported (.metadata (root.join (relativePath place)) refusal))

end Specification

/-- A walk without a bound is never to go too deep. -/
theorem not_goesTooDeep {disk : Disk} {root : Path} {conditions : ScanConditions} {start : Place}
    (unbounded : conditions.bound = none) : ¬∃ bound place, GoesTooDeep disk root conditions start bound place := by
  rintro ⟨bound, place, deep⟩
  cases deep.bounded.symm.trans unbounded

/-- A tree has one such list. -/
theorem Lists.unique {disk : Disk} {root : Path} {conditions : ScanConditions} {start : Place}
    {found others : List (Place × Bytes)} (lists : Lists disk root conditions start found)
    (again : Lists disk root conditions start others) : found = others := by
  have asymm : Std.Asymm fun a b : Place × Bytes => Earlier a.1 b.1 := ⟨fun _ _ => Earlier.asymm⟩
  refine List.Pairwise.eq_of_mem_iff lists.ordered again.ordered ?_
  intro entry
  exact (lists.exact entry.1 entry.2).trans (again.exact entry.1 entry.2).symm

section Rooted

variable {disk : Disk} {root : Path} {conditions : ScanConditions} {start : Place} {written : Bytes} {node : Node}

/-- A directory that a path names is one that it leads to. -/
theorem exists_rooted (tree : disk.root.IsTree) {rootText : LooseText}
    (there : disk.isDirectory (Path.ofText rootText) = .ok true) :
    ∃ start written node, Rooted disk (Path.ofText rootText) start written ∧ disk.at? start = some node ∧
      node.isDirectory = true := by
  obtain ⟨node, found, directory⟩ : ∃ node, disk.find (Path.ofText rootText) = .ok node ∧
      node.isDirectory = true := by
    unfold Disk.isDirectory Disk.holds at there
    cases found : disk.find (Path.ofText rootText) with
    | ok node =>
      rw [found] at there
      exact ⟨node, rfl, Except.ok.inj there⟩
    | error fault =>
      rw [found] at there
      cases fault with
      | embeddedNul | unencodable => cases there
      | refused refusal => cases refusal <;> cases there
  obtain ⟨start, located, here⟩ := Disk.find_eq_ok.mp found
  obtain ⟨written, stands, _⟩ := Disk.locate_eq_ok.mp located
  have filled := Path.text_ne_nil (Path.isNormal_ofText rootText)
  exact ⟨start, written, node, ⟨tree, filled, stands, located⟩, here, directory⟩

/-- The steps of the walk of a scan. -/
def stepsBelow (disk : Disk) (root : Path) (conditions : ScanConditions) (node : Node) : List Step :=
  stepsOf (walkerOf disk root conditions) [] node

theorem scan_eq (rooted : Rooted disk root start written) (calm : conditions.interruption = none)
    (there : disk.isDirectory root = .ok true) (here : disk.at? start = some node) :
    scan disk conditions root = contentFiles disk root conditions (stepsBelow disk root conditions node) := by
  simp only [scan, calm, there, rooted.located, here]
  rfl

/-- What a walk meets stands on the disk, and directories that can be listed lead to it. -/
theorem met_of_walk (rooted : Rooted disk root start written) (here : disk.at? start = some node) {visit : Visit}
    (met : .meet visit ∈ stepsBelow disk root conditions node) :
    visit.place ≠ [] ∧ disk.at? (start ++ visit.place) = some visit.node ∧
      (walkerOf disk root conditions).branches visit.place visit.node = false ∧
      Entered (canEnter disk root conditions) [] visit.place := by
  obtain ⟨rest, filled, place, found, leaf, entered⟩ := met_of_mem (rooted.tree.at? here).1 met
  rw [List.nil_append] at place
  subst place
  exact ⟨filled, (Disk.at?_below here _).trans found, leaf, entered⟩

theorem asked_of_met (rooted : Rooted disk root start written) (here : disk.at? start = some node) {visit : Visit}
    (met : .meet visit ∈ stepsBelow disk root conditions node)
    (named : isContentName (relativePath visit.place).name.shown = true) :
    Asked disk root conditions start visit.place visit.node := by
  obtain ⟨filled, found, leaf, entered⟩ := met_of_walk rooted here met
  exact ⟨filled, found, leaf, entered, named⟩

/-- **A walk meets what stands on the disk**, where directories that can be listed lead to it, or breaks off. -/
theorem met_or_breaksOff (rooted : Rooted disk root start written) (here : disk.at? start = some node) {place : Place}
    {own : Node} (filled : place ≠ []) (found : disk.at? (start ++ place) = some own)
    (leaf : (walkerOf disk root conditions).branches place own = false)
    (entered : Entered (canEnter disk root conditions) [] place) :
    .meet ⟨place, own⟩ ∈ stepsBelow disk root conditions node ∨
      ∃ message, .breakOff message ∈ stepsBelow disk root conditions node :=
  mem_or_breaksOff (rooted.tree.at? here).1
    ⟨filled, List.nil_append place |>.symm, (Disk.at?_below here _).symm.trans found, leaf, entered⟩

/-- **A walk breaks off** exactly if it is to go too deep. -/
theorem breakOff_mem_iff (rooted : Rooted disk root start written) (here : disk.at? start = some node)
    {message : String} :
    .breakOff message ∈ stepsBelow disk root conditions node ↔
      ∃ bound place, GoesTooDeep disk root conditions start bound place ∧ bound.message = message := by
  have tree := (rooted.tree.at? here).1
  have deep {place : Place} {message : String} (ends : conditions.breaksOff? place = some message) :
      ∃ bound, conditions.bound = some bound ∧ bound.levels ≤ place.length ∧ bound.message = message := by
    obtain ⟨bound, bounded, ends⟩ := Option.bind_eq_some_iff.mp ends
    split at ends
    · next deep => exact ⟨bound, bounded, deep, Option.some.inj ends⟩
    · cases ends
  constructor
  · intro ends
    obtain ⟨place, entered, lists, own, entries, found, ⟨name, next⟩, mem, branch⟩ := overruns_of_mem tree ends
    rw [List.nil_append] at lists own branch
    obtain ⟨bound, bounded, levels, same⟩ := deep own
    refine ⟨bound, place, ⟨bounded, levels, entered, lists, name, next, ?_, branch⟩, same⟩
    rw [List.append_assoc, Disk.at?_below here, Node.at?_append, found]
    obtain ⟨below, _⟩ := tree.at? found
    cases below with
    | directory distinct =>
      rw [Option.bind_some, Node.at?_directory, lookup_of_mem distinct mem]
      exact Node.at?_nil _
  · rintro ⟨bound, place, ⟨bounded, levels, entered, lists, name, next, found, branch⟩, rfl⟩
    rw [List.append_assoc, Disk.at?_below here, Node.at?_append] at found
    obtain ⟨directory, within, own⟩ := Option.bind_eq_some_iff.mp found
    obtain ⟨entries, _, rfl, named, last⟩ := Node.at?_cons_eq_some own
    rw [Node.at?_nil] at last
    cases last
    have ends : conditions.breaksOff? place = some bound.message := by
      rw [ScanConditions.breaksOff?, bounded]
      exact if_pos levels
    have overruns : Overruns (walkerOf disk root conditions) [] node bound.message place :=
      ⟨entered, lists, ends, entries, within, (name, next), mem_of_lookup named, branch⟩
    obtain ⟨message, step⟩ := exists_breakOff_of_overruns tree overruns
    obtain ⟨_, _, _, other, _⟩ := overruns_of_mem tree step
    obtain ⟨_, again, _, rfl⟩ := deep other
    cases bounded.symm.trans again
    exact step

/-- A walk that is not to go too deep does not break off. -/
theorem not_breakOff_mem (rooted : Rooted disk root start written) (here : disk.at? start = some node)
    (shallow : ¬∃ bound place, GoesTooDeep disk root conditions start bound place) (message : String) :
    .breakOff message ∉ stepsBelow disk root conditions node := by
  intro ends
  obtain ⟨bound, place, deep, -⟩ := (breakOff_mem_iff rooted here).mp ends
  exact shallow ⟨bound, place, deep⟩

/-- A walk that does not break off meets every file that is to be listed. -/
theorem met_of_listed (rooted : Rooted disk root start written) (here : disk.at? start = some node)
    (directory : node.isDirectory = true) (whole : ∀ message, .breakOff message ∉ stepsBelow disk root conditions node)
    {place : Place} {content : Bytes} (listed : Listed disk root conditions start place content) :
    .meet ⟨place, .file content⟩ ∈ stepsBelow disk root conditions node := by
  have filled : place ≠ [] := by
    rintro rfl
    have found := listed.found
    rw [List.append_nil, here] at found
    cases found
    cases directory
  refine (met_or_breaksOff rooted here filled listed.found rfl listed.entered).resolve_right ?_
  rintro ⟨message, ends⟩
  exact whole message ends

/-- **What a walk lists is what there is to list**, if it does not break off. -/
theorem lists_steps (rooted : Rooted disk root start written) (here : disk.at? start = some node)
    (directory : node.isDirectory = true)
    (whole : ∀ message, .breakOff message ∉ stepsBelow disk root conditions node) :
    Lists disk root conditions start ((stepsBelow disk root conditions node).filterMap Step.listed?) := by
  have kept {visit : Visit} {entry : Place × Bytes} (listed : listed? visit = some entry) :
      entry.1 = visit.place := by
    unfold listed? at listed
    split at listed
    · split at listed
      · cases listed; rfl
      · cases listed
    · cases listed
  have ordered : ((stepsBelow disk root conditions node).filterMap Step.listed?).Pairwise
      fun a b => Earlier a.1 b.1 := by
    refine (pairwise_stepsOf (rooted.tree.at? here).1).filterMap Step.listed? ?_
    intro first second inOrder a listedA b listedB
    cases first with
    | breakOff => cases listedA
    | meet visit =>
      cases second with
      | breakOff => cases listedB
      | meet visit' =>
        rw [kept listedA, kept listedB]
        exact inOrder _ _ rfl rfl
  refine ⟨fun place content => ?_, ?_, ordered⟩
  · rw [List.mem_filterMap]
    constructor
    · rintro ⟨step, mem, listed⟩
      cases step with
      | breakOff => cases listed
      | meet visit =>
        obtain ⟨filled, found, _, entered⟩ := met_of_walk rooted here mem
        obtain ⟨rfl, named, spelled⟩ := (listed?_eq_some_iff filled).mp listed
        exact ⟨found, entered, named, spelled⟩
    · intro listed
      have met := met_of_listed rooted here directory whole listed
      have filled := (met_of_walk rooted here met).1
      exact ⟨_, met, (listed?_eq_some_iff filled).mpr ⟨rfl, listed.named, listed.spelled⟩⟩
  · refine List.pairwise_map.mpr (ordered.imp fun {a b} earlier same => ?_)
    rw [same] at earlier
    exact earlier.asymm earlier

/-- **A scan lists what the walk meets**, where the walk does not break off and the metadata it needs can be read. -/
theorem contentFiles_of_readable (rooted : Rooted disk root start written) (here : disk.at? start = some node)
    (whole : ∀ message, .breakOff message ∉ stepsBelow disk root conditions node)
    (readable : ∀ place node, Asked disk root conditions start place node → Readable disk root conditions place) :
    ∃ files, contentFiles disk root conditions (stepsBelow disk root conditions node) = .ok files ∧
      ((stepsBelow disk root conditions node).filterMap Step.listed?).map record = files.map .ok := by
  refine contentFiles_of_each fun step mem => ?_
  cases step with
  | breakOff message => exact absurd mem (whole message)
  | meet visit =>
    by_cases named : isContentName (relativePath visit.place).name.shown = true
    · have asked := asked_of_met rooted here mem named
      obtain ⟨file?, kept, made⟩ := contentFile?_of_readable rooted asked (readable _ _ asked)
      exact ⟨visit, file?, rfl, kept, made⟩
    · refine ⟨visit, none, rfl, contentFile?_of_other named, ?_⟩
      rw [listed?, if_neg named]
      rfl

/-- **What ends a scan**: an entry is reported whose metadata is needed and cannot be read, or the walk breaks off
where it is to go too deep. -/
theorem failure_of_ends (rooted : Rooted disk root start written) (here : disk.at? start = some node) {step : Step}
    (mem : step ∈ stepsBelow disk root conditions node) {failure : Failure ScanError}
    (ends : Ends disk root conditions step failure) :
    (∃ place node refusal, Asked disk root conditions start place node ∧ ¬Readable disk root conditions place ∧
      failure = .reported (.metadata (root.join (relativePath place)) refusal)) ∨
    ∃ bound place, GoesTooDeep disk root conditions start bound place ∧
      failure = .crash (.unexpected bound.message) := by
  cases ends with
  | breakOff message =>
    obtain ⟨bound, place, deep, rfl⟩ := (breakOff_mem_iff rooted here).mp mem
    exact .inr ⟨bound, place, deep, rfl⟩
  | @metadata visit _ failed =>
    by_cases named : isContentName (relativePath visit.place).name.shown = true
    · have asked := asked_of_met rooted here mem named
      by_cases readable : Readable disk root conditions visit.place
      · obtain ⟨file?, kept, -⟩ := contentFile?_of_readable rooted asked readable
        cases failed.symm.trans kept
      · obtain ⟨refusal, reported⟩ := contentFile?_of_unreadable rooted asked readable
        exact .inl ⟨visit.place, visit.node, refusal, asked, readable, Except.error.inj (failed.symm.trans reported)⟩
    · cases failed.symm.trans (contentFile?_of_other named)

/-- A scan that some step ends comes to a failure of one of the two kinds. -/
theorem failure_of_some_ends (rooted : Rooted disk root start written) (here : disk.at? start = some node)
    (scanned : scan disk conditions root = contentFiles disk root conditions (stepsBelow disk root conditions node))
    (some : ∃ step ∈ stepsBelow disk root conditions node, ∃ failure, Ends disk root conditions step failure) :
    ReportsEntry disk root conditions start ∨ ∃ bound place, GoesTooDeep disk root conditions start bound place ∧
      scan disk conditions root = .error (.crash (.unexpected bound.message)) := by
  rcases contentFiles_cases (stepsBelow disk root conditions node) with
    ⟨_, -, passes⟩ | ⟨step, mem, failure, ends, ended⟩
  · obtain ⟨step, mem, failure, ends⟩ := some
    exact absurd ends (passes step mem failure)
  · rw [ReportsEntry, scanned, ended]
    rcases failure_of_ends rooted here mem ends with
      ⟨place, own, refusal, asked, unreadable, rfl⟩ | ⟨bound, place, deep, rfl⟩
    · exact .inl ⟨place, own, refusal, asked, unreadable, rfl⟩
    · exact .inr ⟨bound, place, deep, rfl⟩

end Rooted

/-- **A file that a scan gives stands at a place that it is to list.** -/
theorem listed_of_scan {disk : Disk} {root : Path} {conditions : ScanConditions} (tree : disk.root.IsTree)
    {files : List ContentFile} (scanned : scan disk conditions root = .ok files) {file : ContentFile}
    (mem : file ∈ files) : ∃ start place content, disk.locate .target root = .ok start ∧
      Listed disk root conditions start place content ∧ record (place, content) = .ok file := by
  obtain ⟨start, visit, located, filled, found, entered, keeps⟩ := visit_of_scan tree scanned mem
  obtain ⟨content, _, same, named, _, spelled, _, made⟩ := content_of_contentFile? keeps
  rw [same] at found
  have utf8 : IsUtf8 visit.place := (text_eq_ofString_iff filled).mp ⟨file.path, spelled⟩
  exact ⟨start, visit.place, content, located, ⟨found, entered, named, utf8⟩, made⟩

section Paths

variable {disk : Disk} {root : Path} {conditions : ScanConditions} {start : Place}
  {found : List (Place × Bytes)} {files : List ContentFile}

/-- Places are told apart by their paths. -/
theorem relativePath_injective {a b : Place} (filledA : a ≠ []) (filledB : b ≠ [])
    (legalA : ∀ name ∈ a, name.IsLegal) (legalB : ∀ name ∈ b, name.IsLegal)
    (same : (relativePath a).text = (relativePath b).text) : a = b := by
  rw [text_relativePath filledA, text_relativePath filledB] at same
  have written : some (Disk.writtenNames a) = some (Disk.writtenNames b) := by
    rw [Disk.writtenNames, Disk.writtenNames, ← FileName.bytesOf?_unitsOf filledA, same,
      FileName.bytesOf?_unitsOf filledB]
  have legs : a.map Leg.down = b.map Leg.down := by
    rw [← Disk.legsOf_joinWith filledA legalA, ← Disk.legsOf_joinWith filledB legalB]
    exact congrArg legsOf (Option.some.inj written)
  exact (List.map_inj_right fun _ _ down => Leg.down.inj down).mp legs

/-- The path of a file that is made of a place is that of the place. -/
theorem paths_of_records (made : found.map record = files.map .ok) :
    files.map ContentFile.path = found.map fun entry => toString (relativePath entry.1) := by
  induction found generalizing files with
  | nil =>
    rw [List.map_nil, eq_comm, List.map_eq_nil_iff] at made
    rw [made]
    rfl
  | cons entry rest ih =>
    obtain ⟨file, others, rfl, first, tail⟩ := List.map_eq_cons_iff.mp made.symm
    rw [List.map_cons, List.map_cons, ih tail.symm, (fields_of_ofPath first.symm).1]

/-- **The paths of listed files are told apart.** -/
theorem nodup_paths (tree : disk.root.IsTree) {node : Node} (here : disk.at? start = some node)
    (directory : node.isDirectory = true) (lists : Lists disk root conditions start found)
    (made : found.map record = files.map .ok) : (files.map ContentFile.path).Nodup := by
  rw [paths_of_records made]
  refine List.pairwise_map.mpr ((List.pairwise_map.mp lists.distinct).imp_of_mem ?_)
  intro a b memA memB other same
  have standing {entry : Place × Bytes} (mem : entry ∈ found) :
      entry.1 ≠ [] ∧ (∀ name ∈ entry.1, name.IsLegal) ∧
        (relativePath entry.1).text = LooseText.ofString (toString (relativePath entry.1)) := by
    obtain ⟨there, _, _, spelled⟩ := (lists.exact entry.1 entry.2).mp mem
    have filled : entry.1 ≠ [] := by
      intro none
      rw [none, List.append_nil, here] at there
      cases there
      cases directory
    refine ⟨filled, fun name mem => (tree.at? there).2 name (List.mem_append_right _ mem), ?_⟩
    obtain ⟨s, text⟩ := (text_eq_ofString_iff filled).mpr spelled
    show _ = LooseText.ofString (relativePath entry.1).text.shown
    rw [text, LooseText.shown_ofString]
  obtain ⟨filledA, legalA, textA⟩ := standing memA
  obtain ⟨filledB, legalB, textB⟩ := standing memB
  refine other (relativePath_injective filledA filledB legalA legalB ?_)
  rw [textA, textB, same]

end Paths

section Contents

variable {disk other : Disk} {root : Path} {conditions : ScanConditions}

theorem leadsToDirectory_of_same (same : Disk.SameContents disk other) :
    leadsToDirectory other root = leadsToDirectory disk root := by
  funext place
  have found := same.find (walkedPath root place)
  unfold leadsToDirectory
  cases here : disk.find (walkedPath root place) with
  | error fault =>
    cases there : other.find (walkedPath root place) with
    | error fault' => rfl
    | ok node => rw [here, there] at found; cases found
  | ok node =>
    cases there : other.find (walkedPath root place) with
    | error fault => rw [here, there] at found; cases found
    | ok node' =>
      rw [here, there] at found
      have alike := congrArg Node.isDirectory (Except.ok.inj found)
      rwa [Node.isDirectory_bare, Node.isDirectory_bare] at alike

theorem walkerOf_of_same (same : Disk.SameContents disk other) :
    walkerOf other root conditions = walkerOf disk root conditions := by
  have leads : leadsToDirectory other root = leadsToDirectory disk root := leadsToDirectory_of_same same
  have lists : canEnter other root conditions = canEnter disk root conditions := by
    funext place
    rw [canEnter, canEnter, leads]
  rw [walkerOf, walkerOf, leads, lists]

theorem contentFiles_of_same (same : Disk.SameContents disk other) (steps : List Step) :
    contentFiles other root conditions steps = contentFiles disk root conditions steps := by
  have each (visit : Visit) : contentFile? other root conditions visit = contentFile? disk root conditions visit := by
    simp only [contentFile?, same.locate]
  induction steps with
  | nil => rfl
  | cons step rest ih =>
    cases step with
    | meet visit => rw [contentFiles, contentFiles, each, ih]
    | breakOff message => rfl

/-- **A scan does not depend on the order in which directories keep their entries.** -/
theorem scan_of_same (same : Disk.SameContents disk other) (tree : disk.root.IsTree)
    (tree' : other.root.IsTree) : scan other conditions root = scan disk conditions root := by
  have steps (start : Place) :
      ((other.at? start).map (stepsOf (walkerOf disk root conditions) [])).getD []
        = ((disk.at? start).map (stepsOf (walkerOf disk root conditions) [])).getD [] := by
    cases here : disk.at? start with
    | none => rw [same.at?_of_none here]
    | some node =>
      have bare := same.nodes start
      rw [here, Option.map_some, Option.map_eq_some_iff] at bare
      obtain ⟨node', there, _⟩ := bare
      have below : SameBelow node node' := by
        intro rest
        rw [← Disk.at?_below here, ← Disk.at?_below there]
        exact same.nodes (start ++ rest)
      rw [there]
      exact stepsOf_of_same (tree.at? here).1 (tree'.at? there).1 below
  simp only [scan, same.isDirectory, same.locate, walkerOf_of_same same, steps, contentFiles_of_same same]

end Contents

/-- **A scan lists the content files of its tree, all of them and nothing else.** It takes the root for a
directory and looks at every place to which real directories lead that can be listed: every directory can whose path
is short enough, unless the system does not let it be.

If the walk is not to go too deep and all metadata that is needed can be read, each regular file with the name of a
content file and a path in UTF-8 is listed once, in the order of the walk, as the content file of its path and its
number of bytes; the paths are told apart. If some metadata cannot be read, there is no list, and such an entry is
reported. Where the walk is to go too deep, there is no list either: it breaks off, unless such an entry
comes before. In all cases the scan comes to the same, in whatever order directories keep their entries.

Where nothing but the length of paths keeps a walk from listing a directory, and the metadata of every content file
can be read, a directory that cannot be listed hides no file. -/
theorem scan_exact {disk : Disk} (tree : disk.root.IsTree) {conditions : ScanConditions}
    (calm : conditions.interruption = none) {rootText : LooseText}
    (there : disk.isDirectory (Path.ofText rootText) = .ok true) :
    let root := Path.ofText rootText
    ∃ start, disk.locate .target root = .ok start ∧
      ((¬∃ bound place, GoesTooDeep disk root conditions start bound place) →
        ((∀ place node, Asked disk root conditions start place node → Readable disk root conditions place) →
          ∃ found files, scan disk conditions root = .ok files ∧ Lists disk root conditions start found ∧
            found.map record = files.map .ok ∧ (files.map ContentFile.path).Nodup) ∧
        ((∃ place node, Asked disk root conditions start place node ∧ ¬Readable disk root conditions place) →
          ReportsEntry disk root conditions start)) ∧
      ((∃ bound place, GoesTooDeep disk root conditions start bound place) →
        ReportsEntry disk root conditions start ∨ ∃ bound place, GoesTooDeep disk root conditions start bound place ∧
          scan disk conditions root = .error (.crash (.unexpected bound.message))) ∧
      (conditions.unlisted = [] →
        (∀ place content, disk.at? (start ++ place) = some (.file content) →
          isContentName (relativePath place).name.shown = true → Readable disk root conditions place) →
        ∀ place content, Listed disk root conditions start place content ↔
          disk.at? (start ++ place) = some (.file content) ∧
            isContentName (relativePath place).name.shown = true ∧ IsUtf8 place) ∧
      ∀ other : Disk, other.root.IsTree → disk.SameContents other →
        scan other conditions root = scan disk conditions root := by
  intro root
  obtain ⟨start, written, node, rooted, here, directory⟩ := exists_rooted tree there
  have scanned : scan disk conditions root
      = contentFiles disk root conditions (stepsBelow disk root conditions node) := scan_eq rooted calm there here
  have ends := failure_of_some_ends rooted here scanned
  refine ⟨start, rooted.located, fun shallow => ⟨fun readable => ?_, ?_⟩, ?_, fun free readable place content => ?_,
    fun other tree' same => scan_of_same same tree tree'⟩
  · have whole := not_breakOff_mem rooted here shallow
    obtain ⟨files, listed, made⟩ := contentFiles_of_readable rooted here whole readable
    have lists := lists_steps rooted here directory whole
    exact ⟨_, files, scanned.trans listed, lists, made, nodup_paths tree here directory lists made⟩
  · rintro ⟨place, own, asked, unreadable⟩
    have met := (met_or_breaksOff rooted here asked.filled asked.found asked.leaf asked.entered).resolve_right
      fun ⟨message, ends⟩ => not_breakOff_mem rooted here shallow message ends
    obtain ⟨refusal, reported⟩ : ∃ refusal, contentFile? disk root conditions ⟨place, own⟩
        = report (.metadata (root.join (relativePath place)) refusal) :=
      contentFile?_of_unreadable rooted asked unreadable
    refine (ends ⟨_, met, _, .metadata reported⟩).resolve_right ?_
    rintro ⟨bound, deepest, deep, -⟩
    exact shallow ⟨bound, deepest, deep⟩
  · rintro ⟨bound, place, deep⟩
    exact ends ⟨_, (breakOff_mem_iff rooted here).mpr ⟨bound, place, deep, rfl⟩, _, .breakOff bound.message⟩
  · refine ⟨fun listed => ⟨listed.found, listed.named, listed.spelled⟩, fun ⟨found, named, spelled⟩ => ?_⟩
    have filled : place ≠ [] := by
      rintro rfl
      rw [List.append_nil, here] at found
      cases found
      cases directory
    have fits := rooted.fits filled found (readable place content found named)
    exact ⟨found, rooted.entered found fits free, named, spelled⟩

section Shelf

/-- A disk with a directory `l`, and in it a directory that is named like a content file and holds one, a
content file in capitals, a link to that, and a file whose name is not UTF-8. -/
def shelf : Disk :=
  ⟨.directory [(.ofString "l", .directory [
    (⟨[0xFF, 0x2E, 0x6E, 0x73, 0x70]⟩, .file [0]),
    (.ofString "c.nsp", .link (utf8 "b.NSZ")),
    (.ofString "b.NSZ", .file [1, 2]),
    (.ofString "a.nsp", .directory [(.ofString "x.xci", .file [])])])], []⟩

theorem isTree_shelf : shelf.root.IsTree := by
  refine .directory (by decide) (by decide) ?_
  intro entry mem
  cases List.mem_singleton.mp mem
  refine .directory (by decide) (by decide) ?_
  intro entry mem
  simp only [List.mem_cons, List.not_mem_nil, or_false] at mem
  rcases mem with rfl | rfl | rfl | rfl
  · exact .file _
  · exact .link _
  · exact .file _
  · refine .directory (by decide) (by decide) ?_
    intro entry mem
    cases List.mem_singleton.mp mem
    exact .file _

/-- What stands on that disk and is no directory. -/
theorem at?_shelf {place : Place} {node : Node} (found : shelf.at? ([.ofString "l"] ++ place) = some node)
    (leaf : node.isDirectory = false) :
    place = [⟨[0xFF, 0x2E, 0x6E, 0x73, 0x70]⟩] ∧ node = .file [0] ∨
    place = [.ofString "c.nsp"] ∧ node = .link (utf8 "b.NSZ") ∨
    place = [.ofString "b.NSZ"] ∧ node = .file [1, 2] ∨
    place = [.ofString "a.nsp", .ofString "x.xci"] ∧ node = .file [] := by
  rw [Disk.at?, Node.at?_append] at found
  cases place with
  | nil => cases found; cases leaf
  | cons name rest =>
    obtain ⟨entries, next, same, named, below⟩ := Node.at?_cons_eq_some found
    cases same
    have mem := mem_of_lookup named
    simp only [List.mem_cons, Prod.mk.injEq, List.not_mem_nil, or_false] at mem
    rcases mem with ⟨rfl, rfl⟩ | ⟨rfl, rfl⟩ | ⟨rfl, rfl⟩ | ⟨rfl, rfl⟩
    · obtain ⟨rfl, rfl⟩ := Node.at?_leaf rfl below
      simp
    · obtain ⟨rfl, rfl⟩ := Node.at?_leaf rfl below
      simp
    · obtain ⟨rfl, rfl⟩ := Node.at?_leaf rfl below
      simp
    · cases rest with
      | nil => cases below; cases leaf
      | cons name rest =>
        obtain ⟨entries, next, same, named, below⟩ := Node.at?_cons_eq_some below
        cases same
        have mem := mem_of_lookup named
        simp only [List.mem_singleton, Prod.mk.injEq] at mem
        obtain ⟨rfl, rfl⟩ := mem
        obtain ⟨rfl, rfl⟩ := Node.at?_leaf rfl below
        simp

/-- A scan reads the metadata of that disk, if none is kept from it. -/
theorem readable_shelf {conditions : ScanConditions} (calm : conditions.unreadable = []) {place : Place} {node : Node}
    (asked : Asked shelf (Path.ofText "/l") conditions [.ofString "l"] place node) :
    Readable shelf (Path.ofText "/l") conditions place := by
  refine ⟨calm ▸ List.not_mem_nil, ?_⟩
  rcases at?_shelf asked.found (branches_eq_false_iff.mp asked.leaf).1 with ⟨rfl, _⟩ | ⟨rfl, _⟩ | ⟨rfl, _⟩ | ⟨rfl, _⟩
  all_goals exact ⟨_, rfl⟩

theorem entered_shelf : Entered (canEnter shelf (Path.ofText "/l") .none) [] [.ofString "a.nsp", .ofString "x.xci"] :=
  entered_cons.mpr ⟨rfl, entered_cons.mpr ⟨rfl, entered_nil⟩⟩

theorem lists_shelf : Lists shelf (Path.ofText "/l") .none [.ofString "l"]
    [([.ofString "b.NSZ"], [1, 2]), ([.ofString "a.nsp", .ofString "x.xci"], [])] := by
  refine ⟨fun place content => ?_, by decide, List.pairwise_pair.mpr trivial⟩
  simp only [List.mem_cons, Prod.mk.injEq, List.not_mem_nil, or_false]
  constructor
  · rintro (⟨rfl, rfl⟩ | ⟨rfl, rfl⟩)
    · exact ⟨rfl, entered_cons.mpr ⟨rfl, entered_nil⟩, by decide, ["b.NSZ"], rfl⟩
    · exact ⟨rfl, entered_shelf, by decide, ["a.nsp", "x.xci"], rfl⟩
  · rintro ⟨found, _, _, spelled⟩
    rcases at?_shelf found rfl with ⟨rfl, _⟩ | ⟨_, link⟩ | ⟨rfl, same⟩ | ⟨rfl, same⟩
    · obtain ⟨s, text⟩ := (text_eq_ofString_iff (List.cons_ne_nil _ _)).mpr spelled
      exact nomatch (LooseText.toString?_eq_some_iff.mpr text)
    · cases link
    · cases same
      exact .inl ⟨rfl, rfl⟩
    · cases same
      exact .inr ⟨rfl, rfl⟩

theorem records_shelf :
    [([.ofString "b.NSZ"], [1, 2]), ([.ofString "a.nsp", .ofString "x.xci"], [])].map record
      = [⟨"b.NSZ", "b.NSZ", 2, none, none, .unknown⟩,
          ⟨"a.nsp/x.xci", "x.xci", 0, none, none, .unknown⟩].map Except.ok := by
  rfl

/-- A walk of that disk that enters no directory below the root. -/
def narrow : ScanConditions := ⟨.none, [], some ⟨0, "maximum recursion depth exceeded"⟩⟩

theorem scan_exact_shelf :
    let root := Path.ofText "/l"
    let unreadable : ScanConditions := (⟨none, [[.ofString "c.nsp"]]⟩ : ScanFaults)
    shelf.root.IsTree ∧ shelf.isDirectory root = .ok true ∧
      scan shelf .none root = .ok [⟨"b.NSZ", "b.NSZ", 2, none, none, .unknown⟩,
        ⟨"a.nsp/x.xci", "x.xci", 0, none, none, .unknown⟩] ∧
      (∃ refusal, scan shelf unreadable root = .error (.reported (.metadata ⟨.root, ["l", "c.nsp"]⟩ refusal))) ∧
      scan shelf narrow root = .error (.crash (.unexpected "maximum recursion depth exceeded")) := by
  intro root unreadable
  have there : shelf.isDirectory (Path.ofText "/l") = .ok true := by rfl
  have located : shelf.locate .target (Path.ofText "/l") = .ok [.ofString "l"] := by rfl
  have calm : ScanConditions.none.interruption = none := rfl
  refine ⟨isTree_shelf, there, ?_, ?_, ?_⟩
  · obtain ⟨start, leads, lists, _⟩ := scan_exact isTree_shelf calm there
    cases located.symm.trans leads
    obtain ⟨found, files, scanned, listing, made, _⟩ :=
      (lists (not_goesTooDeep rfl)).1 fun _ _ asked => readable_shelf rfl asked
    cases listing.unique lists_shelf
    rw [records_shelf] at made
    rw [scanned, (List.map_inj_right fun _ _ => Except.ok.inj).mp made]
  · have busy : unreadable.interruption = none := rfl
    obtain ⟨start, leads, lists, _⟩ := scan_exact isTree_shelf busy there
    cases located.symm.trans leads
    have asked : Asked shelf (Path.ofText "/l") unreadable [.ofString "l"] [.ofString "c.nsp"] (.link (utf8 "b.NSZ")) :=
      ⟨List.cons_ne_nil _ _, rfl, rfl, entered_cons.mpr ⟨rfl, entered_nil⟩, by decide⟩
    obtain ⟨place, node, refusal, asked, busy, failed⟩ :=
      (lists (not_goesTooDeep rfl)).2 ⟨_, _, asked, fun readable => readable.1 (List.mem_singleton_self _)⟩
    obtain rfl : place = [.ofString "c.nsp"] := by
      by_contra other
      refine busy ⟨fun mem => other (List.mem_singleton.mp mem), ?_⟩
      rcases at?_shelf asked.found (branches_eq_false_iff.mp asked.leaf).1 with
        ⟨rfl, _⟩ | ⟨rfl, _⟩ | ⟨rfl, _⟩ | ⟨rfl, _⟩
      all_goals exact ⟨_, rfl⟩
    exact ⟨refusal, failed⟩
  · obtain ⟨start, leads, _, breaksOff, _⟩ := scan_exact isTree_shelf (show narrow.interruption = none from rfl) there
    cases located.symm.trans leads
    have deep : GoesTooDeep shelf (Path.ofText "/l") narrow [.ofString "l"]
        ⟨0, "maximum recursion depth exceeded"⟩ [] :=
      ⟨rfl, Nat.le_refl _, entered_nil, rfl, .ofString "a.nsp", .directory [(.ofString "x.xci", .file [])], rfl, rfl⟩
    rcases breaksOff ⟨_, _, deep⟩ with ⟨place, node, refusal, asked, unread, _⟩ | ⟨bound, place, ⟨bounded, _⟩, ended⟩
    · exact absurd (readable_shelf rfl asked) unread
    · cases bounded
      exact ended

/-- The directory of that disk is not let be listed. -/
def closed : ScanConditions := ⟨.none, [[.ofString "a.nsp"]], none⟩

/-- A directory that the system does not let be listed hides the file in it, though all metadata can be read. -/
theorem scan_exact_closed :
    ¬∀ (disk : Disk) (conditions : ScanConditions) (rootText : LooseText) (start : Place), disk.root.IsTree →
      conditions.interruption = none → conditions.bound = none →
      disk.isDirectory (Path.ofText rootText) = .ok true → disk.locate .target (Path.ofText rootText) = .ok start →
      (∀ place node, Asked disk (Path.ofText rootText) conditions start place node →
        Readable disk (Path.ofText rootText) conditions place) →
      ∃ files, scan disk conditions (Path.ofText rootText) = .ok files ∧
        ∀ place content, disk.at? (start ++ place) = some (.file content) →
          isContentName (relativePath place).name.shown = true → IsUtf8 place →
          ∃ file ∈ files, record (place, content) = .ok file := by
  intro always
  obtain ⟨files, scanned, all⟩ := always shelf closed "/l" [.ofString "l"] isTree_shelf rfl rfl rfl rfl
    fun _ _ asked => readable_shelf rfl asked
  obtain ⟨file, mem, made⟩ := all [.ofString "a.nsp", .ofString "x.xci"] [] rfl (by decide) ⟨["a.nsp", "x.xci"], rfl⟩
  obtain ⟨start, place, content, located, listed, again⟩ := listed_of_scan isTree_shelf scanned mem
  have here : shelf.locate .target (Path.ofText "/l") = .ok [.ofString "l"] := rfl
  cases here.symm.trans located
  have path : toString (relativePath place) = "a.nsp/x.xci" :=
    (fields_of_ofPath again).1.symm.trans (fields_of_ofPath made).1
  rcases at?_shelf listed.found rfl with ⟨rfl, _⟩ | ⟨rfl, _⟩ | ⟨rfl, _⟩ | ⟨rfl, _⟩
  · exact absurd path (by decide)
  · exact absurd path (by decide)
  · exact absurd path (by decide)
  · have shut : canEnter shelf (Path.ofText "/l") closed [.ofString "a.nsp"] = false := by rfl
    have opened := (entered_cons.mp (entered_cons.mp listed.entered).2).1
    cases shut.symm.trans opened

end Shelf

end Gameshelf.Library
