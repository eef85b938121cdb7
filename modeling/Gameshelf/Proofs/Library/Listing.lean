import Gameshelf.Proofs.Library.Scan
import Gameshelf.Proofs.Title.Token

/-!
What a scan does with the entries that a walk meets. It asks for the metadata of those that are named like
content files and are not entered (`Asked`): one that cannot be read is reported
(`contentFile?_of_unreadable`), and one that can gives what is listed of it (`contentFile?_of_readable`). Its
path is short enough to be looked up then, and so are all paths above it, which the walk has therefore entered
(`Rooted.entered`).
-/

namespace Gameshelf.Library

open Text Encoding

/-- **Places with a path in UTF-8**: strings spell the names. -/
def IsUtf8 (place : Place) : Prop :=
  ∃ pieces : List String, place = pieces.map FileName.ofString

section Writing

variable {place : Place}

theorem text_relativePath (filled : place ≠ []) :
    (relativePath place).text = ⟨Path.unitsOf (place.map FileName.text)⟩ := by
  obtain ⟨name, rest, rfl⟩ := List.exists_cons_of_ne_nil filled
  rfl

theorem map_text_ofString (pieces : List String) :
    (pieces.map FileName.ofString).map FileName.text = pieces.map LooseText.ofString := by
  rw [List.map_map]
  exact List.map_congr_left fun s _ => FileName.text_ofString s

/-- **A path is a string exactly if its names are in UTF-8.** -/
theorem text_eq_ofString_iff (filled : place ≠ []) :
    (∃ s, (relativePath place).text = LooseText.ofString s) ↔ IsUtf8 place := by
  rw [text_relativePath filled]
  constructor
  · rintro ⟨s, spelled⟩
    have texts : place.map FileName.text ≠ [] := fun h => filled (List.map_eq_nil_iff.mp h)
    obtain ⟨pieces, same, _⟩ := FileName.pieces_of_unitsOf texts spelled.symm
    exact ⟨pieces, FileName.eq_map_ofString same⟩
  · rintro ⟨pieces, rfl⟩
    exact ⟨_, by rw [map_text_ofString, FileName.ofString_joinWith]⟩

/-- Characters have at least one byte each. -/
theorem length_le_utf8 (s : String) : s.toList.length ≤ (utf8 s).length := by
  unfold utf8 encodeUtf8
  induction s.toList with
  | nil => exact Nat.le_refl _
  | cons c rest ih =>
    have size : 0 < (String.utf8EncodeChar c).length := by
      rw [String.length_utf8EncodeChar]
      exact c.utf8Size_pos
    rw [List.flatMap_cons, List.length_append, List.length_cons]
    omega

/-- **A content file can be made** of a path in UTF-8 that is short enough to be looked up. -/
theorem ofPath_of_short (filled : place ≠ []) (spelled : IsUtf8 place)
    (short : (Disk.writtenNames place).length < pathLimit)
    (names : ∀ name ∈ place, name.bytes.length ≤ nameLimit) (size : Int) :
    ∃ file, ContentFile.ofPath (relativePath place) size = .ok file := by
  obtain ⟨s, text⟩ := (text_eq_ofString_iff filled).mpr spelled
  have around : (relativePath place).text.shown.toList.length ≤ Numeral.digitLimit := by
    have written : some (utf8 s) = some (Disk.writtenNames place) := by
      rw [← FileName.bytesOf?_ofString, ← text, text_relativePath filled]
      exact FileName.bytesOf?_unitsOf filled
    have bytes := length_le_utf8 s
    have limits : pathLimit ≤ Numeral.digitLimit := by decide
    rw [Option.some.inj written] at bytes
    rw [text, LooseText.shown_ofString]
    omega
  have own : (relativePath place).name.shown.toList.length ≤ Numeral.digitLimit := by
    obtain ⟨pieces, rfl⟩ := spelled
    obtain ⟨front, last, rfl⟩ : ∃ front last, pieces = front ++ [last] := by
      have some : pieces ≠ [] := by
        rintro rfl
        exact filled rfl
      exact ⟨_, _, (List.dropLast_concat_getLast some).symm⟩
    have mem : FileName.ofString last ∈ (front ++ [last]).map FileName.ofString :=
      List.mem_map_of_mem (List.mem_append_right _ (List.mem_singleton_self _))
    have few : (utf8 last).length ≤ nameLimit := names _ mem
    have bytes := length_le_utf8 last
    have limits : nameLimit ≤ Numeral.digitLimit := by decide
    rw [shown_name (map_text_ofString (front ++ [last]))]
    omega
  have name : (if (relativePath place).name.isEmpty then toString (relativePath place)
      else (relativePath place).name.shown).toList.length ≤ Numeral.digitLimit := by
    split
    · exact around
    · exact own
  obtain ⟨tokens, read⟩ := Tokens.ofFile_of_short name around
  exact ⟨_, bind_eq_ok.mpr ⟨tokens, read, rfl⟩⟩

end Writing

section Metadata

variable {disk : Disk} {root : Path} {conditions : ScanConditions} {start : Place} {written : Bytes}

/-- **A root that leads to a place** on a disk, and how it is written. -/
structure Rooted (disk : Disk) (root : Path) (start : Place) (written : Bytes) : Prop where
  tree : disk.root.IsTree
  filled : root.text.units ≠ []
  stands : FileName.bytesOf? root.text = some written
  located : disk.locate .target root = .ok start

/-- **The metadata at a place can be read**: it is not among what cannot, and its path can be looked up. -/
def Readable (disk : Disk) (root : Path) (conditions : ScanConditions) (place : Place) : Prop :=
  place ∉ conditions.unreadable ∧ ∃ reached, disk.locate .entry (root.join (relativePath place)) = .ok reached

/-- **An entry whose metadata a scan needs**: directories that can be listed lead to it, it is neither a directory
nor a link to one, and it is named like a content file. -/
structure Asked (disk : Disk) (root : Path) (conditions : ScanConditions) (start place : Place) (node : Node) : Prop
    where
  filled : place ≠ []
  found : disk.at? (start ++ place) = some node
  leaf : (walkerOf disk root conditions).branches place node = false
  entered : Entered (canEnter disk root conditions) [] place
  named : isContentName (relativePath place).name.shown = true

/-- **A file that a scan lists**: directories that can be listed lead to it, its name is that of a content file and
its path is in UTF-8. -/
structure Listed (disk : Disk) (root : Path) (conditions : ScanConditions) (start place : Place) (content : Bytes) :
    Prop where
  found : disk.at? (start ++ place) = some (.file content)
  entered : Entered (canEnter disk root conditions) [] place
  named : isContentName (relativePath place).name.shown = true
  spelled : IsUtf8 place

theorem Rooted.legal (rooted : Rooted disk root start written) {place : Place} {node : Node}
    (found : disk.at? (start ++ place) = some node) : ∀ name ∈ place, name.IsLegal :=
  fun name mem => (rooted.tree.at? found).2 name (List.mem_append_right _ mem)

/-- The path of an entry leads to it, if it is short enough. -/
theorem Rooted.locate_entry (rooted : Rooted disk root start written) {place : Place} {node : Node}
    (filled : place ≠ []) (found : disk.at? (start ++ place) = some node) :
    disk.locate .entry (root.join (relativePath place))
      = if Disk.FitsBelow root written place then .ok (start ++ place)
        else .error (.refused .nameTooLong) :=
  Disk.locate_below rfl filled (rooted.legal found) rooted.filled rooted.stands rooted.located found
    (Disk.takes_entry node)

/-- What can be read is short enough to be looked up. -/
theorem Rooted.fits (rooted : Rooted disk root start written) {place : Place} {node : Node}
    (filled : place ≠ []) (found : disk.at? (start ++ place) = some node)
    (readable : Readable disk root conditions place) : Disk.FitsBelow root written place := by
  obtain ⟨_, reached, entered⟩ := readable
  rw [rooted.locate_entry filled found] at entered
  split at entered
  · next fits => exact fits
  · cases entered

end Metadata

section Steps

variable {disk : Disk} {root : Path} {conditions : ScanConditions} {start : Place} {written : Bytes} {visit : Visit}

/-- What is listed of an entry that a walk meets: its place and its bytes. -/
def listed? (visit : Visit) : Option (Place × Bytes) :=
  if isContentName (relativePath visit.place).name.shown then
    match visit.node, (relativePath visit.place).text.toString? with
    | .file content, some _ => some (visit.place, content)
    | _, _ => none
  else none

/-- The content file of what is listed. -/
def record (entry : Place × Bytes) : Except Numeral.TooLong ContentFile :=
  ContentFile.ofPath (relativePath entry.1) entry.2.length

theorem listed?_eq_some_iff (filled : visit.place ≠ []) {place : Place} {content : Bytes} :
    listed? visit = some (place, content) ↔ visit = ⟨place, .file content⟩ ∧
      isContentName (relativePath place).name.shown = true ∧ IsUtf8 place := by
  obtain ⟨there, node⟩ := visit
  have string : ∀ s, (relativePath there).text.toString? = some s → IsUtf8 there := fun s text =>
    (text_eq_ofString_iff filled).mp ⟨s, LooseText.toString?_eq_some_iff.mp text⟩
  constructor
  · intro listed
    unfold listed? at listed
    split at listed
    · next named =>
      split at listed
      · next s node text =>
        cases listed
        exact ⟨congrArg _ node, named, string s text⟩
      · cases listed
    · cases listed
  · rintro ⟨same, named, spelled⟩
    cases same
    obtain ⟨s, text⟩ := (text_eq_ofString_iff filled).mpr spelled
    simp only [listed?, named, LooseText.toString?_eq_some_iff.mpr text, if_true]

/-- An entry of another name is passed over. -/
theorem contentFile?_of_other (other : ¬isContentName (relativePath visit.place).name.shown = true) :
    contentFile? disk root conditions visit = .ok none := by
  simp only [contentFile?, other, Bool.not_false, if_true]

/-- **An entry whose metadata cannot be read is reported.** -/
theorem contentFile?_of_unreadable (rooted : Rooted disk root start written)
    (asked : Asked disk root conditions start visit.place visit.node)
    (unreadable : ¬Readable disk root conditions visit.place) :
    ∃ refusal, contentFile? disk root conditions visit
      = report (.metadata (root.join (relativePath visit.place)) refusal) := by
  unfold contentFile?
  by_cases known : conditions.unreadable.contains visit.place = true
  · exact ⟨.inputOutput, by simp only [asked.named, known, Bool.not_true, Bool.false_eq_true, if_false, if_true]⟩
  · have entered := rooted.locate_entry asked.filled asked.found
    split at entered
    · have free : visit.place ∉ conditions.unreadable := fun mem => known (List.contains_iff_mem.mpr mem)
      exact absurd ⟨free, _, entered⟩ unreadable
    · exact ⟨.nameTooLong, by simp only [asked.named, known, entered, Bool.not_true, Bool.false_eq_true, if_false]⟩

/-- **An entry whose metadata can be read gives what is listed of it.** -/
theorem contentFile?_of_readable (rooted : Rooted disk root start written)
    (asked : Asked disk root conditions start visit.place visit.node)
    (readable : Readable disk root conditions visit.place) :
    ∃ file?, contentFile? disk root conditions visit = .ok file? ∧
      (listed? visit).map record = file?.map .ok := by
  have fits := rooted.fits asked.filled asked.found readable
  obtain ⟨free, reached, entered⟩ := readable
  have known : conditions.unreadable.contains visit.place = false := by
    rw [Bool.eq_false_iff]
    exact fun mem => free (List.contains_iff_mem.mp mem)
  simp only [contentFile?, listed?, asked.named, known, entered, Bool.not_true, Bool.false_eq_true, if_false,
    if_true]
  -- Only a file whose path is a string is listed, and then it can be made.
  cases node : visit.node with
  | file content =>
    cases text : (relativePath visit.place).text.toString? with
    | none => exact ⟨none, rfl, rfl⟩
    | some s =>
      have spelled : IsUtf8 visit.place :=
        (text_eq_ofString_iff asked.filled).mp ⟨s, LooseText.toString?_eq_some_iff.mp text⟩
      have short := Nat.lt_of_le_of_lt (Nat.le_add_left _ _) fits.1
      obtain ⟨file, made⟩ := ofPath_of_short asked.filled spelled short fits.2 content.length
      exact ⟨some file, by simp only [made], congrArg some made⟩
  | link | special | directory => exact ⟨none, rfl, rfl⟩

end Steps

section Runs

variable {disk : Disk} {root : Path} {conditions : ScanConditions} {steps : List Step}

/-- What is listed of a step: of an entry that is met, if it is. -/
def Step.listed? : Step → Option (Place × Bytes)
  | .meet visit => Library.listed? visit
  | .breakOff _ => none

/-- Entries that give what is listed of them, one by one, do so together. -/
theorem contentFiles_of_each
    (each : ∀ step ∈ steps, ∃ visit file?, step = .meet visit ∧
      contentFile? disk root conditions visit = .ok file? ∧ (listed? visit).map record = file?.map .ok) :
    ∃ files, contentFiles disk root conditions steps = .ok files ∧
      (steps.filterMap Step.listed?).map record = files.map .ok := by
  induction steps with
  | nil => exact ⟨[], rfl, rfl⟩
  | cons step rest ih =>
    obtain ⟨⟨visit, file?, rfl, here, same⟩, others⟩ := List.forall_mem_cons.mp each
    obtain ⟨files, there, records⟩ := ih others
    refine ⟨file?.toList ++ files, ?_, ?_⟩
    · rw [contentFiles, here, ok_bind, there, ok_bind]
      rfl
    · cases file? with
      | none =>
        rw [Option.map_none, Option.map_eq_none_iff] at same
        have none : Step.listed? (.meet visit) = none := same
        rw [List.filterMap_cons_none none]
        exact records
      | some file =>
        rw [Option.map_some, Option.map_eq_some_iff] at same
        obtain ⟨entry, listed, made⟩ := same
        have own : Step.listed? (.meet visit) = some entry := listed
        rw [List.filterMap_cons_some own, List.map_cons, records, made]
        rfl

/-- **A step ends a scan**: an entry whose metadata cannot be read, or the end of the walk. -/
inductive Ends (disk : Disk) (root : Path) (conditions : ScanConditions) : Step → Failure ScanError → Prop
  | metadata {visit : Visit} {failure : Failure ScanError}
      (failed : contentFile? disk root conditions visit = .error failure) :
      Ends disk root conditions (.meet visit) failure
  | breakOff (message : String) : Ends disk root conditions (.breakOff message) (.crash (.unexpected message))

/-- **A scan gives files if no step ends it**, and else comes to the failure of a step that does. -/
theorem contentFiles_cases (steps : List Step) :
    (∃ files, contentFiles disk root conditions steps = .ok files ∧
      ∀ step ∈ steps, ∀ failure, ¬Ends disk root conditions step failure) ∨
    ∃ step ∈ steps, ∃ failure, Ends disk root conditions step failure ∧
      contentFiles disk root conditions steps = .error failure := by
  induction steps with
  | nil => exact .inl ⟨[], rfl, nofun⟩
  | cons step rest ih =>
    cases step with
    | breakOff message => exact .inr ⟨_, List.mem_cons_self, _, .breakOff message, rfl⟩
    | meet visit =>
      cases here : contentFile? disk root conditions visit with
      | error failure =>
        refine .inr ⟨_, List.mem_cons_self, failure, .metadata here, ?_⟩
        rw [contentFiles, here]
        rfl
      | ok file? =>
        have passes : ∀ failure, ¬Ends disk root conditions (.meet visit) failure := by
          rintro failure ⟨failed⟩
          cases here.symm.trans failed
        rw [contentFiles, here, ok_bind]
        rcases ih with ⟨files, kept, others⟩ | ⟨step, mem, failure, ends, ended⟩
        · rw [kept]
          exact .inl ⟨_, rfl, List.forall_mem_cons.mpr ⟨passes, others⟩⟩
        · rw [ended]
          exact .inr ⟨step, List.mem_cons_of_mem _ mem, failure, ends, rfl⟩

end Runs

section Above

variable {disk : Disk} {root : Path} {conditions : ScanConditions} {start : Place} {written : Bytes}

/-- A walk names places below the path by which it names its root. -/
theorem walkedPath_eq (root : Path) (place : Place) :
    walkedPath root place = (walkedPath root []).join (relativePath place) := by
  unfold walkedPath
  split
  · rfl
  · simp only [Path.join, relativePath, Path.isAbsolute, bne_self_eq_false, Bool.false_eq_true, if_false,
      List.map_nil, List.append_nil]

/-- That path is written like the root. -/
theorem text_walkedPath_nil (root : Path) : (walkedPath root []).text = root.text := by
  obtain ⟨anchor, names⟩ := root
  cases anchor with
  | relative =>
    cases names with
    | nil => rfl
    | cons name rest => simp [walkedPath]
  | root | doubleRoot => simp [walkedPath]

/-- The walk from a root finds the same below the path by which it names it. -/
theorem Rooted.walked (rooted : Rooted disk root start written) :
    Rooted disk (walkedPath root []) start written := by
  have same := text_walkedPath_nil root
  obtain ⟨tree, filled, stands, located⟩ := rooted
  refine ⟨tree, ?_, ?_, ?_⟩
  · rw [same]
    exact filled
  · rw [same]
    exact stands
  · have reached : disk.locate .target (walkedPath root []) = disk.locate .target root := by
      simp only [Disk.locate, Disk.bytesOf, same]
    rw [reached]
    exact located

/-- A walk writes at most a dot and a slash more in front of its places. -/
theorem length_leadOf_walked (stands : FileName.bytesOf? root.text = some written) :
    (Disk.leadOf (walkedPath root []) written).length ≤ (Disk.leadOf root written).length + 2 := by
  by_cases nameless : root.names = []
  · rcases Disk.written_of_nameless nameless stands with ⟨rfl, rfl⟩ | ⟨rfl, rfl⟩ | ⟨rfl, rfl⟩ <;> decide
  · have same : walkedPath root [] = root := by
      simp [walkedPath, nameless]
    rw [same]
    exact Nat.le_add_right _ _

/-- **A place above one that can be looked up can be looked up by the walk**: it is shorter by a slash and a
name. -/
theorem Rooted.fits_above (rooted : Rooted disk root start written) {before after : Place}
    (filledBefore : before ≠ []) (filledAfter : after ≠ []) (legal : ∀ name ∈ after, name.IsLegal)
    (fits : Disk.FitsBelow root written (before ++ after)) :
    Disk.FitsBelow (walkedPath root []) written before := by
  obtain ⟨short, names⟩ := fits
  refine ⟨?_, fun name mem => names name (List.mem_append_left _ mem)⟩
  have lead := length_leadOf_walked rooted.stands
  have whole : (Disk.writtenNames (before ++ after)).length
      = (Disk.writtenNames before).length + 1 + (Disk.writtenNames after).length := by
    have filled {place : Place} (some : place ≠ []) : place.map FileName.bytes ≠ [] :=
      fun h => some (List.map_eq_nil_iff.mp h)
    rw [Disk.writtenNames, List.map_append, joinWith_append _ (filled filledBefore) (filled filledAfter),
      List.length_append, List.length_append]
    rfl
  have last : 0 < (Disk.writtenNames after).length := by
    obtain ⟨name, rest, rfl⟩ := List.exists_cons_of_ne_nil filledAfter
    have some : 0 < name.bytes.length := List.length_pos_iff.mpr (legal name List.mem_cons_self).1
    cases rest with
    | nil => exact some
    | cons next more =>
      simp only [Disk.writtenNames, List.map_cons, joinWith, List.length_append]
      omega
  omega

/-- **A directory below a root is led to** exactly if its path is short enough. -/
theorem Rooted.leadsToDirectory_iff (rooted : Rooted disk root start written) {place : Place}
    {entries : List (FileName × Node)} (found : disk.at? (start ++ place) = some (.directory entries)) :
    leadsToDirectory disk root place = true ↔ place = [] ∨ Disk.FitsBelow (walkedPath root []) written place := by
  unfold leadsToDirectory
  cases place with
  | nil =>
    rw [List.append_nil] at found
    rw [Disk.find_eq_ok.mpr ⟨start, rooted.walked.located, found⟩]
    exact iff_of_true rfl (.inl rfl)
  | cons name rest =>
    have some : name :: rest ≠ [] := List.cons_ne_nil _ _
    have plain : Disk.Takes .target (.directory entries) := fun _ _ same => by cases same
    have located := Disk.locate_below rfl some (rooted.legal found) rooted.walked.filled rooted.walked.stands
      rooted.walked.located found plain
    rw [walkedPath_eq, or_iff_right some]
    by_cases fits : Disk.FitsBelow (walkedPath root []) written (name :: rest)
    · rw [if_pos fits] at located
      have leads : disk.find ((walkedPath root []).join (relativePath (name :: rest))) = .ok (.directory entries) :=
        Disk.find_eq_ok.mpr ⟨_, located, found⟩
      rw [leads]
      exact iff_of_true rfl fits
    · rw [if_neg fits] at located
      have refused : disk.find ((walkedPath root []).join (relativePath (name :: rest)))
          = .error (.refused .nameTooLong) := by
        unfold Disk.find relativePath
        rw [located, error_bind]
      rw [refused]
      exact iff_of_false Bool.false_ne_true fits

/-- **A directory can be listed** exactly if its path is short enough and the system lets it be. -/
theorem Rooted.canEnter_iff (rooted : Rooted disk root start written) {place : Place}
    {entries : List (FileName × Node)} (found : disk.at? (start ++ place) = some (.directory entries)) :
    canEnter disk root conditions place = true ↔
      (place = [] ∨ Disk.FitsBelow (walkedPath root []) written place) ∧ place ∉ conditions.unlisted := by
  rw [canEnter, Bool.and_eq_true, rooted.leadsToDirectory_iff found, Bool.not_eq_true', Bool.eq_false_iff, ne_eq,
    List.contains_iff_mem]

/-- **Directories above a place that can be looked up can be listed**, if the system lets them be. -/
theorem Rooted.entered (rooted : Rooted disk root start written) {place : Place} {node : Node}
    (found : disk.at? (start ++ place) = some node) (fits : Disk.FitsBelow root written place)
    (free : conditions.unlisted = []) : Entered (canEnter disk root conditions) [] place := by
  intro before after split filled
  subst split
  obtain ⟨entries, there⟩ : ∃ entries, disk.at? (start ++ before) = some (.directory entries) := by
    obtain ⟨name, rest, rfl⟩ := List.exists_cons_of_ne_nil filled
    rw [← List.append_assoc] at found
    obtain ⟨entries, _, here, _⟩ := Disk.exists_directory found
    exact ⟨entries, here⟩
  have legal : ∀ name ∈ after, name.IsLegal := fun name mem =>
    rooted.legal found name (List.mem_append_right _ mem)
  rw [List.nil_append, rooted.canEnter_iff there, free]
  refine ⟨or_iff_not_imp_left.mpr fun some => rooted.fits_above some filled legal fits, List.not_mem_nil⟩

end Above

end Gameshelf.Library
