import Mathlib.Data.List.Basic
import Gameshelf.Proofs.Disk.Temporary

/-!
When a path leads to the file that has taken it. Directories and links stay where they are on a disk on which a
file is put, but for what stood at its place (`at?_put_aside`, `within_put_leaf`), and a path goes along these alone
until its last step (`Within.locate_made`). So a path leads to the file that was put in place exactly if it did not
lead through the entry that the file took (`find_replaceFile_iff`); such an entry was a link
(`exists_link_of_leadsThroughItself`).
-/

namespace Gameshelf

open Text

namespace Node

variable {change : Option Node → Option Node} {place other : Place} {start : Option Node} {old : Node}

/-- **What stands aside of a change** stands there still. -/
theorem at?_modify_aside (change : Option Node → Option Node) (aside : ¬place <+: other)
    (stood : start.bind (·.at? other) = some old) :
    ∃ found, (modify change place start).bind (·.at? other) = some found ∧ found.bare = old.bare := by
  induction place generalizing start other with
  | nil => exact absurd List.nil_prefix aside
  | cons name rest ih =>
    by_cases directory : ∃ entries, start = some (.directory entries)
    · obtain ⟨entries, rfl⟩ := directory
      obtain ⟨others, changed, entry⟩ := modify_directory change name rest entries
      rw [changed, Option.bind_some]
      cases other with
      | nil =>
        rw [Option.bind_some, at?_nil] at stood
        cases stood
        exact ⟨_, at?_nil _, rfl⟩
      | cons first below =>
        rw [Option.bind_some, at?_directory] at stood
        rw [at?_directory, entry]
        by_cases same : first = name
        · subst same
          rw [if_pos rfl]
          exact ih (fun within => aside (List.cons_prefix_cons.mpr ⟨rfl, within⟩)) stood
        · rw [if_neg same]
          exact ⟨old, stood, rfl⟩
    · rw [modify_of_leaf directory]
      exact ⟨old, stood, rfl⟩

/-- Nothing is left of what was taken away. -/
theorem at?_modify_none (place rest : Place) (start : Option Node) :
    (modify (fun _ => none) place start).bind (·.at? (place ++ rest)) = none := by
  induction place generalizing start with
  | nil => rfl
  | cons name below ih =>
    by_cases directory : ∃ entries, start = some (.directory entries)
    · obtain ⟨entries, rfl⟩ := directory
      obtain ⟨others, changed, entry⟩ := modify_directory (fun _ => none) name below entries
      rw [changed, Option.bind_some, List.cons_append, at?_directory, entry, if_pos rfl]
      exact ih _
    · rw [modify_of_leaf directory]
      rcases start with _ | ⟨_ | _ | _ | entries⟩
      · rfl
      · rfl
      · rfl
      · rfl
      · exact absurd ⟨entries, rfl⟩ directory

/-- A change below the root leaves a root. -/
theorem exists_modify (change : Option Node → Option Node) (some : place ≠ []) (node : Node) :
    ∃ root, modify change place (.some node) = .some root := by
  obtain ⟨name, rest, rfl⟩ := List.exists_cons_of_ne_nil some
  by_cases directory : ∃ entries, Option.some node = .some (.directory entries)
  · obtain ⟨entries, same⟩ := directory
    cases same
    obtain ⟨others, changed, _⟩ := modify_directory change name rest entries
    exact ⟨_, changed⟩
  · exact ⟨node, modify_of_leaf directory⟩

end Node

namespace Disk

variable {disk other : Disk} {place reached : Place} {node old : Node} {content : Encoding.Bytes}

section Aside

theorem at?_changed_aside (change : Option Node → Option Node) (aside : ¬place <+: reached)
    (stood : disk.at? reached = some old) :
    ∃ found, ((Node.modify change place (some disk.root)).getD disk.root).at? reached = some found ∧
      found.bare = old.bare := by
  have before : (some disk.root).bind (·.at? reached) = some old := stood
  obtain ⟨found, stands, alike⟩ := Node.at?_modify_aside change aside before
  obtain ⟨root, changed, there⟩ := Option.bind_eq_some_iff.mp stands
  exact ⟨found, by rw [changed, Option.getD_some, there], alike⟩

theorem at?_put_aside (node : Node) (aside : ¬place <+: reached) (stood : disk.at? reached = some old) :
    ∃ found, (disk.put place node).at? reached = some found ∧ found.bare = old.bare :=
  at?_changed_aside _ aside stood

theorem at?_erase_aside (aside : ¬place <+: reached) (stood : disk.at? reached = some old) :
    ∃ found, (disk.erase place).at? reached = some found ∧ found.bare = old.bare :=
  at?_changed_aside _ aside stood

/-- What was erased is gone, and all below it. -/
theorem aside_of_at?_erase (some : place ≠ []) (stands : (disk.erase place).at? reached = .some node) :
    ¬place <+: reached := by
  rintro ⟨rest, rfl⟩
  obtain ⟨root, changed⟩ := Node.exists_modify (fun _ => none) some disk.root
  have gone := Node.at?_modify_none place rest (.some disk.root)
  rw [changed, Option.bind_some] at gone
  rw [at?, erase, changed, Option.getD_some, gone] at stands
  cases stands

/-- Nothing that leads on stands where something does not, or below it. -/
theorem aside_of_leaf (leaf : ∀ top, disk.at? place = some top → ¬top.LeadsOn)
    (stood : disk.at? reached = some old) (leads : old.LeadsOn) : ¬place <+: reached := by
  rintro ⟨rest, rfl⟩
  rw [at?, Node.at?_append] at stood
  obtain ⟨top, here, below⟩ := Option.bind_eq_some_iff.mp stood
  have plain : top.isDirectory = false := by
    cases top with
    | directory => exact absurd trivial (leaf _ here)
    | file | link | special => rfl
  obtain ⟨_, rfl⟩ := Node.at?_leaf plain below
  exact leaf top here leads

end Aside

namespace Within

/-- What leads on stands on a disk that has all directories and links. -/
theorem exists_alike (within : Within disk other) (stands : disk.at? place = some node) (leads : node.LeadsOn) :
    ∃ found, other.at? place = some found ∧ found.bare = node.bare := by
  cases node with
  | directory entries =>
    obtain ⟨others, there⟩ := within.directory place entries stands
    exact ⟨_, there, rfl⟩
  | link target => exact ⟨_, within.link place target stands, rfl⟩
  | file | special => exact leads.elim

/-- The step to where an entry is made leads to its name in a directory, if the name is short enough. -/
theorem walk_made {above : Place} {entries : List (FileName × Node)}
    (here : disk.at? above = some (.directory entries)) (links : Nat) (name : FileName) :
    disk.walk .made links above [.down name]
      = if nameLimit < name.bytes.length then .error .nameTooLong else .ok (above ++ [name]) := by
  have stretch (follow : Place → List Leg → Except Refusal Place) :
      disk.walkWith follow .made above [.down name]
        = if nameLimit < name.bytes.length then .error .nameTooLong else .ok (above ++ [name]) := by
    simp only [Disk.walkWith, here, asksForDirectory, Ending.made, List.isEmpty_nil, Bool.not_true, Bool.false_and,
      Bool.and_false, Bool.false_eq_true, if_false, Bool.not_false, Bool.and_self, if_true]
    split
    · rfl
    · split <;> rfl
  cases links <;> exact stretch _

/-- **A path to where an entry is made** leads there on a disk that has all directories and links. -/
theorem locate_made (within : Within disk other) {path : Path} (isName : Path.IsName path.name)
    (single : path.name ≠ "..") (made : disk.locate .made path = .ok place) : other.locate .made path = .ok place := by
  obtain ⟨written, stands, clean, short, walked⟩ := locate_eq_ok.mp made
  obtain ⟨lead, name, legs⟩ := legsOf_of_name stands clean isName single
  rw [legs] at walked
  obtain ⟨above, left, entries, reaches, here, last⟩ := above_of_walk walked
  obtain ⟨others, there⟩ := within.directory above entries here
  have goes : GoesOn .made [.down name] := .inr ⟨name, List.mem_cons_self⟩
  obtain ⟨left', onward⟩ :=
    (continues_walk goes (List.cons_ne_nil _ _) _ _ _).onward (within.walk reaches here)
  refine locate_eq_ok.mpr ⟨written, stands, clean, short, ?_⟩
  rw [legs, within.here, onward, walk_made there, ← walk_made here left, last]

end Within

section Replaced

/-- A node that is put where nothing leads on hides no directory and no link. -/
theorem within_put_leaf (leaf : ∀ top, disk.at? place = some top → ¬top.LeadsOn) (node : Node) :
    Within disk (disk.put place node) :=
  .of_nodes rfl fun _ _ stands leads => at?_put_aside node (aside_of_leaf leaf stands leads) stands

/-- An entry that does not lead on takes no directory and no link with it. -/
theorem within_erase_leaf (leaf : ∀ top, disk.at? place = some top → ¬top.LeadsOn) :
    Within disk (disk.erase place) :=
  .of_nodes rfl fun _ _ stands leads => at?_erase_aside (aside_of_leaf leaf stands leads) stands

theorem Within.erase_put (within : Within disk other) (some : place ≠ []) (node : Node) :
    Within (disk.erase place) (other.put place node) := by
  refine .of_nodes within.here fun reached found stands leads => ?_
  obtain ⟨old, before, alike⟩ := at?_erase stands
  obtain ⟨there, here, same⟩ := within.exists_alike before (Node.leadsOn_of_bare alike.symm leads)
  obtain ⟨final, stood, kept⟩ := at?_put_aside node (aside_of_at?_erase some stands) here
  exact ⟨final, stood, kept.trans (same.trans alike)⟩

theorem Within.put_erase (within : Within other disk)
    (file : (other.put place (.file content)).at? place = some (.file content)) :
    Within (other.put place (.file content)) (disk.erase place) := by
  refine .of_nodes within.here fun reached found stands leads => ?_
  have leaf : ∀ top, (other.put place (.file content)).at? place = some top → ¬top.LeadsOn := by
    intro top here
    cases file.symm.trans here
    exact id
  obtain ⟨there, here, same⟩ := (within_of_put.trans within).exists_alike stands leads
  obtain ⟨final, stood, kept⟩ := at?_erase_aside (aside_of_leaf leaf stands leads) here
  exact ⟨final, stood, kept.trans same⟩

section Ends

variable {path : Path}

/-- A path that ends in a name and leads to a node leads to where the node's entry is made. -/
theorem exists_made_of_find (isName : Path.IsName path.name) (single : path.name ≠ "..")
    (found : disk.find path = .ok node) : ∃ place, disk.locate .made path = .ok place := by
  obtain ⟨reached, located, -⟩ := find_eq_ok.mp found
  obtain ⟨written, stands, clean, short, walked⟩ := locate_eq_ok.mp located
  obtain ⟨lead, name, legs⟩ := legsOf_of_name stands clean isName single
  rw [legs] at walked
  obtain ⟨above, left, entries, reaches, here, last⟩ := above_of_walk walked
  have small : name.bytes.length ≤ nameLimit := by
    cases left <;> exact (walkWith_down_eq_ok.mp last).2.1
  have goes : GoesOn .made [.down name] := .inr ⟨name, List.mem_cons_self⟩
  obtain ⟨left', onward⟩ := (continues_walk goes (List.cons_ne_nil _ _) _ _ _).onward reaches
  refine ⟨above ++ [name], locate_eq_ok.mpr ⟨written, stands, clean, short, ?_⟩⟩
  rw [legs, onward, Within.walk_made here, if_neg (Nat.not_lt.mpr small)]

/-- A path leads to the file that stands where its entry is made. -/
theorem find_of_made (isName : Path.IsName path.name) (single : path.name ≠ "..")
    (made : disk.locate .made path = .ok place) (file : disk.at? place = some (.file content)) :
    disk.find path = .ok (.file content) := by
  obtain ⟨written, stands, clean, short, walked⟩ := locate_eq_ok.mp made
  obtain ⟨lead, name, legs⟩ := legsOf_of_name stands clean isName single
  rw [legs] at walked
  obtain ⟨above, left, entries, reaches, here, last⟩ := above_of_walk walked
  rw [Within.walk_made here] at last
  split at last
  · cases last
  · next small =>
    cases last
    have step : ∀ links, disk.walk .target links above [.down name] = .ok (above ++ [name]) := by
      intro links
      have arrives {follow : Place → List Leg → Except Refusal Place} :
          disk.walkWith follow .target above [.down name] = .ok (above ++ [name]) :=
        walkWith_down_eq_ok.mpr ⟨⟨entries, here⟩, Nat.not_lt.mp small, _, file, rfl⟩
      cases links <;> exact arrives
    have goes : GoesOn .target [.down name] := .inl rfl
    obtain ⟨left', onward⟩ := (continues_walk goes (List.cons_ne_nil _ _) _ _ _).onward reaches
    refine find_eq_ok.mpr ⟨above ++ [name], locate_eq_ok.mpr ⟨written, stands, clean, short, ?_⟩, file⟩
    rw [legs, onward, step]

/-- **An entry is made in a directory.** -/
theorem above_of_made (isName : Path.IsName path.name) (single : path.name ≠ "..")
    (made : disk.locate .made path = .ok place) :
    ∃ above name entries, place = above ++ [name] ∧ disk.at? above = some (.directory entries) := by
  obtain ⟨written, stands, clean, -, walked⟩ := locate_eq_ok.mp made
  obtain ⟨lead, name, legs⟩ := legsOf_of_name stands clean isName single
  rw [legs] at walked
  obtain ⟨above, left, entries, -, here, last⟩ := above_of_walk walked
  refine ⟨above, name, entries, ?_, here⟩
  cases left <;> exact place_of_made last

end Ends

/-- **A path leads through its own entry**: without the entry it does not lead there any more. -/
def LeadsThroughItself (disk : Disk) (path : Path) : Prop :=
  ∃ place, disk.locate .made path = .ok place ∧ (disk.erase place).locate .made path ≠ .ok place

/-- A path does not lead through an entry that does not lead on. -/
theorem not_leadsThroughItself {path : Path} (isName : Path.IsName path.name) (single : path.name ≠ "..")
    (leaf : ∀ place top, disk.locate .made path = .ok place → disk.at? place = some top → ¬top.LeadsOn) :
    ¬disk.LeadsThroughItself path := by
  rintro ⟨place, made, broken⟩
  exact broken ((within_erase_leaf (leaf place · made)).locate_made isName single made)

/-- **A path leads to the file that has taken it** exactly if it did not lead through its own entry. Meanwhile
the disk may have changed, but for its directories and links. -/
theorem find_put_iff {path : Path} (isName : Path.IsName path.name) (single : path.name ≠ "..")
    (onward : Within disk other) (back : Within other disk) (made : disk.locate .made path = .ok place) :
    (other.put place (.file content)).find path = .ok (.file content) ↔ ¬disk.LeadsThroughItself path := by
  obtain ⟨above, name, entries, rfl, here⟩ := above_of_made isName single made
  obtain ⟨others, there⟩ := onward.directory above entries here
  have file : (other.put (above ++ [name]) (.file content)).at? (above ++ [name]) = some (.file content) :=
    at?_put_self there
  constructor
  · rintro found ⟨place, first, broken⟩
    cases made.symm.trans first
    obtain ⟨reached, then_made⟩ := exists_made_of_find isName single found
    cases made.symm.trans ((within_of_put.trans back).locate_made isName single then_made)
    exact broken ((back.put_erase file).locate_made isName single then_made)
  · intro clear
    have without : (disk.erase (above ++ [name])).locate .made path = .ok (above ++ [name]) :=
      by_contra fun broken => clear ⟨_, made, broken⟩
    have then_made :=
      (onward.erase_put (List.concat_ne_nil name above) (.file content)).locate_made isName single without
    exact find_of_made isName single then_made file

end Replaced

end Disk

namespace Change

variable {disk after : Disk} {path : Path} {content : Encoding.Bytes}

/-- Directories and links stand beside a temporary file as before. -/
theorem within_putTemporary {temporary : Place}
    (made : (putTemporary path content).make disk = (.ok temporary, after)) :
    Disk.Within disk after ∧ Disk.Within after disk := by
  obtain ⟨free, rfl, -⟩ := putTemporary_eq_ok made
  exact ⟨Disk.within_put_leaf (fun _ stands => by cases free.symm.trans stands) _, Disk.within_of_put⟩

/-- **A path leads to the file that was put in place** exactly if it did not lead through its own entry. -/
theorem find_replaceFile_iff (isName : path.name.isEmpty = false → Path.IsName path.name)
    (made : (replaceFile path content).make disk = (.ok (), after)) :
    after.find path = .ok (.file content) ↔ ¬disk.LeadsThroughItself path := by
  obtain ⟨temporary, middle, put, renamed⟩ := make_bind_eq_ok.mp made
  obtain ⟨added, before⟩ := within_putTemporary put
  obtain ⟨-, -, file⟩ := putTemporary_eq_ok put
  obtain ⟨filled, single, place, located, -, rfl⟩ := rename_eq_ok renamed
  have removed : Disk.Within middle (middle.erase temporary) :=
    Disk.within_erase_leaf fun _ stands => by cases file.symm.trans stands; exact id
  exact Disk.find_put_iff (isName filled) single (added.trans removed) (Disk.within_of_erase.trans before)
    (before.locate_made (isName filled) single located)

/-- A file is put in place through its own entry only where a link stood. -/
theorem exists_link_of_leadsThroughItself (isName : path.name.isEmpty = false → Path.IsName path.name)
    (made : (replaceFile path content).make disk = (.ok (), after)) (itself : disk.LeadsThroughItself path) :
    ∃ place target, disk.locate .made path = .ok place ∧ disk.at? place = some (.link target) := by
  obtain ⟨temporary, middle, put, renamed⟩ := make_bind_eq_ok.mp made
  obtain ⟨added, before⟩ := within_putTemporary put
  obtain ⟨filled, single, place, located, plain, -⟩ := rename_eq_ok renamed
  have own := before.locate_made (isName filled) single located
  by_contra linkless
  refine Disk.not_leadsThroughItself (isName filled) single (fun other top first stands => ?_) itself
  cases own.symm.trans first
  cases top with
  | directory entries =>
    obtain ⟨others, there⟩ := added.directory place entries stands
    exact absurd there (plain others)
  | link target => exact absurd ⟨place, target, own, stands⟩ linkless
  | file | special => exact id

end Change

end Gameshelf
