import Gameshelf.Proofs.Catalog.ContentFile
import Gameshelf.Proofs.Disk.Walk
import Gameshelf.Proofs.Library.Visits

/-!
What a scan finds. Every file of a scan stands on the disk where its path says, with as many bytes as the
scan gives it (`stands_of_scan`), and is found there by its path (`Stands.find`).
-/

namespace Gameshelf.Library

open Text

/-- The name of a path is the last of its names. -/
theorem shown_name {place : Place} {front : List String} {last : String}
    (texts : place.map FileName.text = (front ++ [last]).map LooseText.ofString) :
    (relativePath place).name.shown = last := by
  show ((place.map FileName.text).getLast?.getD "").shown = last
  rw [texts, List.map_append, List.map_singleton, List.getLast?_concat]
  exact LooseText.shown_ofString last

section Files

variable {disk : Disk} {root : Path} {conditions : ScanConditions} {file : ContentFile}

/-- **A file of a library stands on the disk**: from the place that the library's root leads to, legal
names lead to it, its path is these names as a string, and it has as many bytes as the library knows. -/
structure Stands (disk : Disk) (root : Path) (file : ContentFile) (start place : Place)
    (content : Encoding.Bytes) : Prop where
  located : disk.locate .target root = .ok start
  filled : place ≠ []
  found : disk.at? (start ++ place) = some (.file content)
  legal : ∀ name ∈ place, name.IsLegal
  spelled : (relativePath place).text = LooseText.ofString file.path
  named : isContentName (relativePath place).name.shown = true
  entered : ∃ reached, disk.locate .entry (root.join (relativePath place)) = .ok reached
  sized : file.size = content.length

theorem fields_of_ofPath {path : Path} {size : Int} (made : ContentFile.ofPath path size = .ok file) :
    file.path = toString path ∧ file.size = size := by
  obtain ⟨tokens, _, same⟩ := bind_eq_ok.mp made
  cases same
  exact ⟨rfl, rfl⟩

theorem content_of_contentFile? {visit : Visit}
    (kept : contentFile? disk root conditions visit = .ok (some file)) :
    ∃ content reached, visit.node = .file content ∧
      isContentName (relativePath visit.place).name.shown = true ∧
      disk.locate .entry (root.join (relativePath visit.place)) = .ok reached ∧
      (relativePath visit.place).text = LooseText.ofString file.path ∧ file.size = content.length ∧
      ContentFile.ofPath (relativePath visit.place) content.length = .ok file := by
  simp only [contentFile?] at kept
  by_cases other : (!isContentName (relativePath visit.place).name.shown) = true
  · rw [if_pos other] at kept
    cases kept
  rw [if_neg other] at kept
  by_cases unreadable : conditions.unreadable.contains visit.place = true
  · rw [if_pos unreadable] at kept
    cases kept
  rw [if_neg unreadable] at kept
  cases entered : disk.locate .entry (root.join (relativePath visit.place)) with
  | error fault => rw [entered] at kept; cases fault <;> cases kept
  | ok reached =>
    rw [entered] at kept
    cases string : (relativePath visit.place).text.toString? with
    | none => rw [string] at kept; cases node : visit.node <;> rw [node] at kept <;> cases kept
    | some text =>
      rw [string] at kept
      cases node : visit.node with
      | link | special | directory => rw [node] at kept; cases kept
      | file content =>
        simp only [node] at kept
        cases made : ContentFile.ofPath (relativePath visit.place) content.length with
        | error refusal => rw [made] at kept; cases refusal; cases kept
        | ok built =>
          rw [made] at kept
          cases kept
          obtain ⟨path, size⟩ := fields_of_ofPath made
          have spelled := LooseText.toString?_eq_some_iff.mp string
          have same : file.path = text := by
            rw [path]
            show (relativePath visit.place).text.shown = text
            rw [spelled, LooseText.shown_ofString]
          exact ⟨content, reached, rfl, by simpa using other, rfl, by rw [same]; exact spelled, size, made⟩

/-- What is needed for a file to be kept. -/
theorem contentFile?_eq_some {visit : Visit} {content : Encoding.Bytes} {reached : Place} {text : String}
    (node : visit.node = .file content)
    (named : isContentName (relativePath visit.place).name.shown = true)
    (readable : conditions.unreadable.contains visit.place = false)
    (entered : disk.locate .entry (root.join (relativePath visit.place)) = .ok reached)
    (spelled : (relativePath visit.place).text = LooseText.ofString text)
    (made : ContentFile.ofPath (relativePath visit.place) content.length = .ok file) :
    contentFile? disk root conditions visit = .ok (some file) := by
  have string := LooseText.toString?_eq_some_iff.mpr spelled
  simp only [contentFile?, named, readable, entered, string, node, made, Bool.not_true, Bool.false_eq_true,
    if_false]

/-- A file that is listed was met. -/
theorem visit_of_contentFiles {steps : List Step} {files : List ContentFile}
    (kept : contentFiles disk root conditions steps = .ok files) (mem : file ∈ files) :
    ∃ visit, .meet visit ∈ steps ∧ contentFile? disk root conditions visit = .ok (some file) := by
  induction steps generalizing files with
  | nil =>
    cases kept
    cases mem
  | cons step rest ih =>
    cases step with
    | breakOff message => cases kept
    | meet visit =>
      obtain ⟨first, here, later⟩ := bind_eq_ok.mp kept
      obtain ⟨others, there, same⟩ := bind_eq_ok.mp later
      cases same
      rcases List.mem_append.mp mem with mem | mem
      · refine ⟨visit, List.mem_cons_self, ?_⟩
        rw [here, Option.mem_toList.mp mem]
      · obtain ⟨visit, listed, found⟩ := ih there mem
        exact ⟨visit, List.mem_cons_of_mem _ listed, found⟩

theorem steps_of_scan {files : List ContentFile} (scanned : scan disk conditions root = .ok files) :
    ∃ start, disk.locate .target root = .ok start ∧
      contentFiles disk root conditions
        (((disk.at? start).map (stepsOf (walkerOf disk root conditions) [])).getD []) = .ok files := by
  unfold scan at scanned
  cases broken : conditions.interruption with
  | some message => rw [broken] at scanned; cases scanned
  | none =>
    rw [broken] at scanned
    obtain ⟨there, _, rest⟩ := bind_eq_ok.mp scanned
    cases there with
    | false => cases rest
    | true =>
      cases located : disk.locate .target root with
      | error fault => rw [located] at rest; cases rest
      | ok start =>
        rw [located] at rest
        exact ⟨start, rfl, rest⟩

/-- Every file of a scan is made of a path. -/
theorem made_of_scan {files : List ContentFile} (scanned : scan disk conditions root = .ok files)
    (mem : file ∈ files) : ∃ path size, ContentFile.ofPath path size = .ok file := by
  obtain ⟨_, _, kept⟩ := steps_of_scan scanned
  obtain ⟨_, _, keeps⟩ := visit_of_contentFiles kept mem
  obtain ⟨_, _, _, _, _, _, _, made⟩ := content_of_contentFile? keeps
  exact ⟨_, _, made⟩

/-- **Every file of a scan is kept of an entry** that stands below the root, and directories that can be listed
lead to the entry. -/
theorem visit_of_scan (tree : disk.root.IsTree) {files : List ContentFile}
    (scanned : scan disk conditions root = .ok files) (mem : file ∈ files) :
    ∃ start visit, disk.locate .target root = .ok start ∧ visit.place ≠ [] ∧
      disk.at? (start ++ visit.place) = some visit.node ∧ Entered (canEnter disk root conditions) [] visit.place ∧
      contentFile? disk root conditions visit = .ok (some file) := by
  obtain ⟨start, located, kept⟩ := steps_of_scan scanned
  obtain ⟨visit, met, keeps⟩ := visit_of_contentFiles kept mem
  cases here : disk.at? start with
  | none => rw [here] at met; cases met
  | some node =>
    rw [here, Option.map_some, Option.getD_some] at met
    obtain ⟨place, filled, there, found, _, entered⟩ := met_of_mem (tree.at? here).1 met
    rw [List.nil_append] at there
    subst there
    exact ⟨start, visit, located, filled, (Disk.at?_below here _).trans found, entered, keeps⟩

/-- **Every file of a scan stands on the disk.** -/
theorem stands_of_scan (tree : disk.root.IsTree) {files : List ContentFile}
    (scanned : scan disk conditions root = .ok files) (mem : file ∈ files) :
    ∃ start place content, Stands disk root file start place content := by
  obtain ⟨start, visit, located, filled, found, _, keeps⟩ := visit_of_scan tree scanned mem
  obtain ⟨content, reached, same, named, readable, spelled, sized, _⟩ := content_of_contentFile? keeps
  rw [same] at found
  have legal : ∀ name ∈ visit.place, name.IsLegal := fun name mem =>
    (tree.at? found).2 name (List.mem_append_right _ mem)
  exact ⟨start, visit.place, content, located, filled, found, legal, spelled, named, ⟨reached, readable⟩, sized⟩

end Files

section Standing

variable {disk : Disk} {root : Path} {file : ContentFile} {start place : Place} {content : Encoding.Bytes}

/-- **The path of a file is the names that lead to it.** -/
theorem Stands.pieces (stands : Stands disk root file start place content) :
    ∃ pieces : List String, place = pieces.map FileName.ofString ∧
      place.map FileName.text = pieces.map LooseText.ofString ∧
      file.path.toList = joinWith ['/'] (pieces.map String.toList) ∧
      ∀ piece ∈ pieces, Path.IsComponent piece.toList := by
  have some : place.map FileName.text ≠ [] := fun h => stands.filled (List.map_eq_nil_iff.mp h)
  have text : (relativePath place).text = ⟨Path.unitsOf (place.map FileName.text)⟩ := by
    obtain ⟨name, rest, names⟩ := List.exists_cons_of_ne_nil some
    rw [relativePath, names, Path.text_relative]
  obtain ⟨pieces, texts, chars⟩ := FileName.pieces_of_unitsOf some (stands.spelled.symm.trans text)
  have names := FileName.eq_map_ofString texts
  refine ⟨pieces, names, texts, chars, ?_⟩
  intro piece mem
  exact FileName.isLegal_ofString.mp (stands.legal _ (names ▸ List.mem_map_of_mem mem))

/-- The path of a file leads to it again. -/
theorem Stands.ofText_path (stands : Stands disk root file start place content) :
    Path.ofText (LooseText.ofString file.path) = relativePath place := by
  obtain ⟨pieces, names, texts, chars, components⟩ := stands.pieces
  have some : pieces ≠ [] := by
    rintro rfl
    exact stands.filled names
  have path : file.path = String.ofList (joinWith ['/'] (pieces.map String.toList)) := by
    rw [← chars, String.ofList_toList]
  rw [path, FileName.ofText_joinWith some components, relativePath, texts]

/-- **A file of a library is found by its path.** -/
theorem Stands.find (stands : Stands disk root file start place content) (normal : root.IsNormal) :
    disk.find (root / file.path) = .ok (.file content) := by
  obtain ⟨reached, entered⟩ := stands.entered
  have found := Disk.find_below stands.filled stands.legal (Path.text_ne_nil normal) stands.located
    stands.found nofun entered
  have path : root / file.path = root.join (relativePath place) := congrArg root.join stands.ofText_path
  rw [path]
  exact found

/-- The path of a file ends neither in a line feed nor in a slash. -/
theorem Stands.last (stands : Stands disk root file start place content) :
    ∃ before c, file.path.toList = before ++ [c] ∧ c ≠ '\n' ∧ c ≠ '/' := by
  obtain ⟨pieces, names, texts, chars, components⟩ := stands.pieces
  have some : pieces ≠ [] := by
    rintro rfl
    exact stands.filled names
  obtain ⟨front, last, rfl⟩ : ∃ front last, pieces = front ++ [last] :=
    ⟨_, _, (List.dropLast_concat_getLast some).symm⟩
  have shown : (relativePath place).name.shown = last := shown_name texts
  have named := stands.named
  rw [shown] at named
  obtain ⟨before, c, ends, plain⟩ := last_of_isContentName named
  have unslashed := (components last (List.mem_append_right _ (List.mem_singleton_self _))).2.2.2.1
  rw [ends] at unslashed
  obtain ⟨lead, joined⟩ : ∃ lead, joinWith ['/'] ((front ++ [last]).map String.toList)
      = lead ++ last.toList := by
    rw [List.map_append, List.map_singleton]
    cases front with
    | nil => exact ⟨[], rfl⟩
    | cons first rest =>
      refine ⟨_, joinWith_append ['/'] (List.cons_ne_nil _ _) (List.cons_ne_nil _ _)⟩
  refine ⟨lead ++ before, c, by rw [chars, joined, ends, List.append_assoc], plain, ?_⟩
  rintro rfl
  exact unslashed (List.mem_append_right _ (List.mem_singleton_self _))

end Standing

end Gameshelf.Library
