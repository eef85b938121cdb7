import Gameshelf.Disk.Change
import Gameshelf.Proofs.Disk.Contents
import Gameshelf.Proofs.Disk.Walk

/-!
Files that are put in place and read again. A node that is put on a disk stands there, and elsewhere nothing
comes up that was not there before (`at?_put`, `at?_put_self`). So once a file has taken a path, the path
leads to that file, if it still leads anywhere (`find_put_erase`): a path can lead through its own entry, and
then nothing but the file is left of it.
-/

namespace Gameshelf

namespace Node

section Entries

variable {name other : FileName} {node : Node} {entries : List (FileName × Node)}

/-- An entry that is put in is found by its name, and all others as before. -/
theorem lookup_putEntry :
    (putEntry name node entries).lookup other = if other = name then some node else entries.lookup other := by
  induction entries with
  | nil => exact lookup_cons_eq other name node []
  | cons entry rest ih =>
    obtain ⟨first, old⟩ := entry
    by_cases here : first = name
    · subst here
      rw [putEntry, if_pos rfl, lookup_cons_eq, lookup_cons_eq]
      split <;> rfl
    · rw [putEntry, if_neg here, lookup_cons_eq, lookup_cons_eq, ih]
      by_cases same : other = first
      · rw [if_pos same, if_pos same, if_neg (same ▸ here)]
      · rw [if_neg same, if_neg same]

theorem lookup_dropEntry :
    (dropEntry name entries).lookup other = if other = name then none else entries.lookup other := by
  unfold dropEntry
  induction entries with
  | nil => exact (ite_self none).symm
  | cons entry rest ih =>
    obtain ⟨first, old⟩ := entry
    by_cases here : first = name
    · subst here
      rw [List.filter_cons_of_neg (by simp), ih, lookup_cons_eq]
      split <;> rfl
    · rw [List.filter_cons_of_pos (by simpa using here), lookup_cons_eq, lookup_cons_eq, ih]
      by_cases same : other = first
      · rw [if_pos same, if_pos same, if_neg (same ▸ here)]
      · rw [if_neg same, if_neg same]

end Entries

/-- **A node that leads on**: a directory or a link. -/
def LeadsOn : Node → Prop
  | .directory _ | .link _ => True
  | .file _ | .special => False

/-- Nodes that are alike lead on alike. -/
theorem leadsOn_of_bare {a b : Node} (same : a.bare = b.bare) (leads : a.LeadsOn) : b.LeadsOn := by
  cases a <;> cases b <;> trivial

section Modify

variable {change : Option Node → Option Node}

/-- Below what is no directory nothing is changed. -/
theorem modify_of_leaf {name : FileName} {rest : Place} {start : Option Node}
    (leaf : ¬∃ entries, start = some (.directory entries)) : modify change (name :: rest) start = start := by
  unfold modify
  split
  · contradiction
  · next => exact absurd ⟨_, rfl⟩ leaf
  · rfl

/-- A change below a directory leaves a directory. -/
theorem modify_directory (change : Option Node → Option Node) (name : FileName) (rest : Place)
    (entries : List (FileName × Node)) :
    ∃ others, modify change (name :: rest) (some (.directory entries)) = some (.directory others) ∧
      ∀ other, others.lookup other
        = if other = name then modify change rest (entries.lookup name) else entries.lookup other := by
  cases changed : modify change rest (entries.lookup name) with
  | none => exact ⟨dropEntry name entries, by rw [modify, changed], fun _ => lookup_dropEntry⟩
  | some node => exact ⟨putEntry name node entries, by rw [modify, changed], fun _ => lookup_putEntry⟩

/-- **What stands below a change was put there, or stood there before**, but for what is below it in turn. -/
theorem at?_modify {place other : Place} {start : Option Node} {found : Node}
    (stands : (modify change place start).bind (·.at? other) = some found) :
    (∃ rest, other = place ++ rest ∧
        (change (start.bind (·.at? place))).bind (·.at? rest) = some found) ∨
      ∃ old, start.bind (·.at? other) = some old ∧ old.bare = found.bare := by
  induction place generalizing start other with
  | nil =>
    have here : start.bind (·.at? []) = start := by
      cases start with
      | none => rfl
      | some node => exact at?_nil node
    rw [here]
    exact .inl ⟨other, rfl, stands⟩
  | cons name rest ih =>
    by_cases directory : ∃ entries, start = some (.directory entries)
    · obtain ⟨entries, rfl⟩ := directory
      obtain ⟨others, changed, entry⟩ := modify_directory change name rest entries
      rw [changed, Option.bind_some] at stands
      cases other with
      | nil =>
        rw [at?_nil] at stands
        cases stands
        exact .inr ⟨_, at?_nil _, rfl⟩
      | cons first below =>
        rw [at?_directory, entry] at stands
        by_cases same : first = name
        · subst same
          rw [if_pos rfl] at stands
          rcases ih stands with ⟨rest', rfl, put⟩ | ⟨old, before, alike⟩
          · refine .inl ⟨rest', rfl, ?_⟩
            rwa [Option.bind_some, at?_directory]
          · refine .inr ⟨old, ?_, alike⟩
            rwa [Option.bind_some, at?_directory]
        · rw [if_neg same] at stands
          refine .inr ⟨found, ?_, rfl⟩
          rwa [Option.bind_some, at?_directory]
    · rw [modify_of_leaf directory] at stands
      exact .inr ⟨found, stands, rfl⟩

/-- **What is put into a directory stands there.** -/
theorem at?_modify_self {above : Place} {name : FileName} {node : Node} {start : Option Node}
    {entries : List (FileName × Node)} (here : start.bind (·.at? above) = some (.directory entries)) :
    (modify (fun _ => some node) (above ++ [name]) start).bind (·.at? (above ++ [name])) = some node := by
  induction above generalizing start with
  | nil =>
    obtain ⟨_, rfl, same⟩ := Option.bind_eq_some_iff.mp here
    cases (at?_nil _).symm.trans same
    obtain ⟨others, changed, entry⟩ := modify_directory (fun _ => some node) name [] entries
    rw [List.nil_append, changed, Option.bind_some, at?_directory, entry, if_pos rfl]
    exact at?_nil node
  | cons first above ih =>
    obtain ⟨_, rfl, there⟩ := Option.bind_eq_some_iff.mp here
    obtain ⟨outer, next, rfl, named, below⟩ := at?_cons_eq_some there
    obtain ⟨others, changed, entry⟩ := modify_directory (fun _ => some node) first (above ++ [name]) outer
    rw [List.cons_append, changed, Option.bind_some, at?_directory, entry, if_pos rfl, named]
    exact ih below

end Modify

end Node

namespace Disk

variable {disk : Disk} {place other : Place} {node found : Node}

/-- The root is there before a change and after it. -/
theorem at?_changed {change : Option Node → Option Node}
    (stands : ((Node.modify change place (some disk.root)).getD disk.root).at? other = some found) :
    (∃ rest, other = place ++ rest ∧ (change (disk.at? place)).bind (·.at? rest) = some found) ∨
      ∃ old, disk.at? other = some old ∧ old.bare = found.bare := by
  cases changed : Node.modify change place (some disk.root) with
  | none =>
    rw [changed] at stands
    exact .inr ⟨found, stands, rfl⟩
  | some root =>
    rw [changed] at stands
    have below : (Node.modify change place (some disk.root)).bind (·.at? other) = some found := by
      rw [changed]
      exact stands
    exact Node.at?_modify below

/-- **What stands on a disk after a node was put there** is below that node, or was there before. -/
theorem at?_put (stands : (disk.put place node).at? other = some found) :
    (∃ rest, other = place ++ rest ∧ node.at? rest = some found) ∨
      ∃ old, disk.at? other = some old ∧ old.bare = found.bare :=
  at?_changed stands

/-- **What stands on a disk after something was erased** was there before. -/
theorem at?_erase (stands : (disk.erase place).at? other = some found) :
    ∃ old, disk.at? other = some old ∧ old.bare = found.bare := by
  rcases at?_changed stands with ⟨_, _, none⟩ | before
  · cases none
  · exact before

/-- **A node that is put into a directory stands there.** -/
theorem at?_put_self {above : Place} {name : FileName} {entries : List (FileName × Node)}
    (here : disk.at? above = some (.directory entries)) :
    (disk.put (above ++ [name]) node).at? (above ++ [name]) = some node := by
  have stands : (Node.modify (fun _ => some node) (above ++ [name]) (some disk.root)).bind
      (·.at? (above ++ [name])) = some node := Node.at?_modify_self here
  obtain ⟨root, changed, there⟩ := Option.bind_eq_some_iff.mp stands
  rw [at?, put, changed]
  exact there

section Within

variable {other : Disk} {follow follow' : Place → List Leg → Except Refusal Place}

/-- **A disk has the directories and the links of another.** -/
structure Within (disk other : Disk) : Prop where
  here : other.here = disk.here
  directory : ∀ place entries, disk.at? place = some (.directory entries) →
    ∃ others, other.at? place = some (.directory others)
  link : ∀ place target, disk.at? place = some (.link target) → other.at? place = some (.link target)

/-- Where a walk to what is there goes on at an entry: a link is followed. -/
def fromEntry (disk : Disk) (follow : Place → List Leg → Except Refusal Place) (place : Place) (name : FileName)
    (rest : List Leg) : Node → Except Refusal Place
  | .link target => follow (startOf place target) (legsOf target ++ rest)
  | _ => disk.walkWith follow .target (place ++ [name]) rest

theorem walkWith_entry {place : Place} {entries : List (FileName × Node)} {name : FileName} {node : Node}
    (here : disk.at? place = some (.directory entries)) (named : entries.lookup name = some node) (rest : List Leg) :
    disk.walkWith follow .target place (.down name :: rest)
      = if nameLimit < name.bytes.length then .error .nameTooLong else disk.fromEntry follow place name rest node := by
  cases node with
  | link target => exact walkWith_link (.inl rfl) here named (Bool.and_false _)
  | file | special | directory => exact walkWith_down (.inl rfl) here named nofun

/-- **A step down that leads on**: the name is short enough, and some entry has it. -/
theorem walkWith_down_eq_ok {place reached : Place} {name : FileName} {rest : List Leg} :
    disk.walkWith follow .target place (.down name :: rest) = .ok reached ↔
      (∃ entries, disk.at? place = some (.directory entries)) ∧ name.bytes.length ≤ nameLimit ∧
      ∃ node, disk.at? (place ++ [name]) = some node ∧ disk.fromEntry follow place name rest node = .ok reached := by
  by_cases directory : ∃ entries, disk.at? place = some (.directory entries)
  · obtain ⟨entries, here⟩ := directory
    rw [← lookup_eq_at? here name]
    cases named : entries.lookup name with
    | none =>
      rw [walkWith_absent (.inl rfl) here named]
      constructor
      · intro arrives
        split at arrives <;> cases arrives
      · rintro ⟨_, _, _, none, _⟩
        cases none
    | some node =>
      rw [walkWith_entry here named]
      by_cases long : nameLimit < name.bytes.length
      · rw [if_pos long]
        exact ⟨nofun, fun ⟨_, short, _⟩ => absurd short (Nat.not_le.mpr long)⟩
      · rw [if_neg long]
        constructor
        · intro leads
          exact ⟨⟨entries, here⟩, Nat.not_lt.mp long, node, rfl, leads⟩
        · rintro ⟨_, _, _, same, leads⟩
          cases same
          exact leads
  · rw [walkWith_nowhere directory]
    exact ⟨nofun, fun ⟨stands, _⟩ => absurd stands directory⟩

/-- A walk from what is no directory arrives at no directory. -/
theorem not_directory_of_walkWith {node : Node} {place reached : Place} {legs : List Leg}
    (stands : disk.at? place = some node) (leaf : node.isDirectory = false)
    (arrives : disk.walkWith follow .target place legs = .ok reached) :
    ¬∃ entries, disk.at? reached = some (.directory entries) := by
  have nowhere : ¬∃ entries, disk.at? place = some (.directory entries) := by
    rintro ⟨entries, directory⟩
    cases stands.symm.trans directory
    cases leaf
  cases legs with
  | nil =>
    cases arrives
    exact nowhere
  | cons leg rest => exact absurd (directory_of_walkWith arrives) nowhere

namespace Within

/-- A disk has the directories and the links of another, if everything that leads on there stands here too. -/
theorem of_nodes (here : other.here = disk.here)
    (leads : ∀ place node, disk.at? place = some node → node.LeadsOn →
      ∃ found, other.at? place = some found ∧ found.bare = node.bare) : Within disk other where
  here := here
  directory := by
    intro place entries stands
    obtain ⟨found, there, alike⟩ := leads place _ stands trivial
    cases found with
    | directory others => exact ⟨others, there⟩
    | file | link | special => cases alike
  link := by
    intro place target stands
    obtain ⟨found, there, alike⟩ := leads place _ stands trivial
    rw [there, Node.eq_of_bare alike.symm rfl]

theorem trans {third : Disk} (first : Within disk other) (second : Within other third) : Within disk third where
  here := second.here.trans first.here
  directory := by
    intro place entries stands
    obtain ⟨others, there⟩ := first.directory place entries stands
    exact second.directory place others there
  link := fun place target stands => second.link place target (first.link place target stands)

/-- Steps that arrive at a directory lead there on a disk that has all directories and links. -/
theorem walkWith (within : Within disk other)
    (alike : ∀ place legs reached entries, follow place legs = .ok reached →
      disk.at? reached = some (.directory entries) → follow' place legs = .ok reached)
    {place reached : Place} {legs : List Leg} {entries : List (FileName × Node)}
    (arrives : disk.walkWith follow .target place legs = .ok reached)
    (there : disk.at? reached = some (.directory entries)) :
    other.walkWith follow' .target place legs = .ok reached := by
  induction legs generalizing place with
  | nil => exact arrives
  | cons leg rest ih =>
    obtain ⟨inner, stands⟩ := directory_of_walkWith arrives
    obtain ⟨others, standsThere⟩ := within.directory place inner stands
    cases leg with
    | slash =>
      rw [walkWith_idle stands (.inl rfl)] at arrives
      rw [walkWith_idle standsThere (.inl rfl)]
      exact ih arrives
    | stay =>
      rw [walkWith_idle stands (.inr rfl)] at arrives
      rw [walkWith_idle standsThere (.inr rfl)]
      exact ih arrives
    | up =>
      simp only [Disk.walkWith, stands] at arrives
      simp only [Disk.walkWith, standsThere]
      exact ih arrives
    | down name =>
      obtain ⟨-, short, node, stands, leads⟩ := walkWith_down_eq_ok.mp arrives
      refine walkWith_down_eq_ok.mpr ⟨⟨others, standsThere⟩, short, ?_⟩
      cases node with
      | link target => exact ⟨_, within.link _ _ stands, alike _ _ _ _ leads there⟩
      | directory below =>
        obtain ⟨belowThere, directory⟩ := within.directory _ _ stands
        exact ⟨_, directory, ih leads⟩
      | file | special => exact absurd ⟨entries, there⟩ (not_directory_of_walkWith stands rfl leads)

/-- **A walk that arrives at a directory** leads there on a disk that has all directories and links. -/
theorem walk (within : Within disk other) {links : Nat} {place reached : Place} {legs : List Leg}
    {entries : List (FileName × Node)} (arrives : disk.walk .target links place legs = .ok reached)
    (there : disk.at? reached = some (.directory entries)) :
    other.walk .target links place legs = .ok reached := by
  induction links generalizing place reached legs entries with
  | zero => exact within.walkWith (fun _ _ _ _ refused _ => by cases refused) arrives there
  | succ links ih => exact within.walkWith (fun _ _ _ _ followed stands => ih followed stands) arrives there

end Within

end Within

section Replaced

/-- No directory and no link comes up with a file. -/
theorem within_of_put : Within (disk.put place (.file content)) disk := by
  refine .of_nodes rfl fun reached node stands leads => ?_
  rcases at?_put stands with ⟨rest, rfl, below⟩ | before
  · obtain ⟨_, rfl⟩ := Node.at?_leaf rfl below
    exact leads.elim
  · exact before

theorem within_of_erase : Within (disk.erase place) disk :=
  .of_nodes rfl fun _ _ stands _ => at?_erase stands

/-- A disk whose file was put in place has no directory and no link that was not there before. -/
theorem within_put_erase {source : Place} {content : Encoding.Bytes} :
    Within ((disk.erase source).put place (.file content)) disk :=
  within_of_put.trans within_of_erase

/-- The step to where an entry is made is a name in a directory. -/
theorem place_of_made {follow : Place → List Leg → Except Refusal Place} {above reached : Place}
    {name : FileName} (arrives : disk.walkWith follow .made above [.down name] = .ok reached) :
    reached = above ++ [name] := by
  obtain ⟨entries, here⟩ := directory_of_walkWith arrives
  simp only [walkWith, here, asksForDirectory, Ending.made, List.isEmpty_nil, Bool.not_true, Bool.false_and,
    Bool.and_false, Bool.false_eq_true, if_false, Bool.not_false, Bool.and_self, if_true] at arrives
  split at arrives
  · cases arrives
  split at arrives <;> cases arrives <;> rfl

/-- The last step to a file. -/
theorem walk_down_file {links : Nat} {above reached : Place} {name : FileName} {content : Encoding.Bytes}
    (file : disk.at? (above ++ [name]) = some (.file content))
    (arrives : disk.walk .target links above [.down name] = .ok reached) : reached = above ++ [name] := by
  have stretch {follow : Place → List Leg → Except Refusal Place}
      (arrives : disk.walkWith follow .target above [.down name] = .ok reached) : reached = above ++ [name] := by
    obtain ⟨_, _, node, stands, leads⟩ := walkWith_down_eq_ok.mp arrives
    cases file.symm.trans stands
    cases leads
    rfl
  cases links <;> exact stretch arrives

/-- The last step of a path that can be looked up is the one to its last name. -/
theorem legsOf_of_name {path : Path} {written : Encoding.Bytes}
    (stands : FileName.bytesOf? path.text = some written) (clean : 0 ∉ written) (isName : Path.IsName path.name)
    (single : path.name ≠ "..") : ∃ lead name, legsOf written = lead ++ [.down name] := by
  obtain ⟨anchor, names⟩ := path
  obtain rfl | ⟨front, last, rfl⟩ := names.eq_nil_or_concat'
  · exact absurd rfl isName.1
  have named : (Path.mk anchor (front ++ [last])).name = last := by
    rw [Path.name, List.getLast?_concat, Option.getD_some]
  rw [named] at isName single
  have step {own : Encoding.Bytes} (stands : FileName.bytesOf? last = some own) (clean : 0 ∉ own) :
      legsOf own = [.down ⟨own⟩] := by
    have legal := FileName.isLegal_of_bytesOf? stands isName single clean
    exact legsOf_joinWith (List.cons_ne_nil _ _) (List.forall_mem_singleton.mpr legal)
  rcases Path.text_concat anchor front last with alone | ⟨before, after⟩
  · rw [alone] at stands
    exact ⟨[], ⟨written⟩, step stands clean⟩
  · rw [after] at stands
    obtain ⟨first, own, -, there, rfl⟩ := FileName.bytesOf?_of_append stands
    refine ⟨legsOf first, ⟨own⟩, ?_⟩
    rw [legsOf_append, step there fun nul => clean (by simp [nul])]

/-- A walk to a name has reached a directory before its last step. -/
theorem above_of_walk {ending : Ending} {links : Nat} {start reached : Place} {lead : List Leg} {name : FileName}
    (arrives : disk.walk ending links start (lead ++ [.down name]) = .ok reached) :
    ∃ above left entries, disk.walk .target links start lead = .ok above ∧
      disk.at? above = some (.directory entries) ∧ disk.walk ending left above [.down name] = .ok reached := by
  have goes : GoesOn ending [.down name] := .inr ⟨name, List.mem_cons_self⟩
  obtain ⟨above, left, reaches, last⟩ :=
    (continues_walk goes (List.cons_ne_nil _ _) links start lead).from_middle arrives
  obtain ⟨entries, here⟩ : ∃ entries, disk.at? above = some (.directory entries) := by
    cases left <;> exact directory_of_walkWith last
  exact ⟨above, left, entries, reaches, here, last⟩

/-- A directory above a file that was put was there before. -/
theorem directory_before_put {above below : Place} {content : Encoding.Bytes} {entries : List (FileName × Node)}
    (below_ne : below ≠ []) (here : (disk.put (above ++ below) (.file content)).at? above = some (.directory entries)) :
    ∃ others, disk.at? above = some (.directory others) := by
  rcases at?_put here with ⟨rest, same, -⟩ | ⟨old, before, alike⟩
  · have length := congrArg List.length same
    have some := List.length_pos_of_ne_nil below_ne
    simp only [List.length_append] at length
    omega
  · cases old with
    | directory others => exact ⟨others, before⟩
    | file | link | special => cases alike

/-- **A file that has taken a path is found there**, if anything is. -/
theorem find_put_erase {path : Path} {source : Place} {content : Encoding.Bytes} (isName : Path.IsName path.name)
    (single : path.name ≠ "..") (made : disk.locate .made path = .ok place)
    (found : ((disk.erase source).put place (.file content)).find path = .ok node) :
    ((disk.erase source).put place (.file content)).find path = .ok (.file content) := by
  have within : Within ((disk.erase source).put place (.file content)) disk := within_put_erase
  obtain ⟨written, stands, clean, -, walked⟩ := locate_eq_ok.mp made
  obtain ⟨reached, located, -⟩ := find_eq_ok.mp found
  obtain ⟨_, same, -, -, walkedThen⟩ := locate_eq_ok.mp located
  cases stands.symm.trans same
  obtain ⟨lead, name, legs⟩ := legsOf_of_name stands clean isName single
  rw [legs] at walked walkedThen
  -- Both walks reach the same directory, since the one after the change meets nothing new on its way.
  obtain ⟨above, left, _, reaches, _, last⟩ := above_of_walk walked
  obtain ⟨aboveThen, _, entries, reachesThen, here, lastThen⟩ := above_of_walk walkedThen
  cases reaches.symm.trans (within.walk reachesThen here)
  obtain rfl : place = above ++ [name] := by
    cases left <;> exact place_of_made last
  obtain ⟨others, before⟩ := directory_before_put (List.cons_ne_nil _ _) here
  have file : ((disk.erase source).put (above ++ [name]) (.file content)).at? (above ++ [name])
      = some (.file content) := at?_put_self before
  refine find_eq_ok.mpr ⟨reached, located, ?_⟩
  rw [walk_down_file file lastThen, file]

end Replaced

end Disk

namespace Change

variable {α β : Type} {disk after : Disk}

/-- **Changes that follow one another**: the second is made where the first has succeeded, on the disk that it
left. -/
theorem make_bind (change : Change α) (next : α → Change β) (disk : Disk) :
    (change >>= next).make disk
      = match change.make disk with
        | (.ok a, middle) => (next a).make middle
        | (.error fault, middle) => (.error fault, middle) := by
  simp only [make, ExceptT.run_bind, StateT.run_bind]
  rcases StateT.run (ExceptT.run change) disk with ⟨_ | _, _⟩ <;> rfl

/-- Changes that follow one another succeed where each of them does. -/
theorem make_bind_eq_ok {change : Change α} {next : α → Change β} {b : β} :
    (change >>= next).make disk = (.ok b, after) ↔
      ∃ a middle, change.make disk = (.ok a, middle) ∧ (next a).make middle = (.ok b, after) := by
  rw [make_bind]
  rcases change.make disk with ⟨fault | a, middle⟩
  · exact ⟨nofun, fun ⟨_, _, same, _⟩ => nomatch same⟩
  · constructor
    · intro made
      exact ⟨a, middle, rfl, made⟩
    · rintro ⟨_, _, same, made⟩
      cases same
      exact made

/-- A question leaves the disk as it is. -/
theorem make_ask_eq_ok {question : Disk → Except Fault α} {a : α} (made : (ask question).make disk = (.ok a, after)) :
    question disk = .ok a ∧ after = disk := by
  unfold ask at made
  obtain ⟨_, _, same, made⟩ := make_bind_eq_ok.mp made
  cases same
  cases answer : question disk with
  | error fault => rw [answer] at made; cases made
  | ok value => rw [answer] at made; cases made; exact ⟨rfl, rfl⟩

/-- **What taking a path comes to**: the file is put where the path leads, where no directory stood, and the other
entry is gone. The path ends in a name. -/
theorem rename_eq_ok {source : Place} {path : Path} {content : Encoding.Bytes}
    (made : (rename source path content).make disk = (.ok (), after)) :
    path.name.isEmpty = false ∧ path.name ≠ ".." ∧
      ∃ place, disk.locate .made path = .ok place ∧ (∀ entries, disk.at? place ≠ some (.directory entries)) ∧
        after = (disk.erase source).put place (.file content) := by
  unfold rename at made
  by_cases nameless : (path.name.isEmpty || path.name == "..") = true
  · rw [if_pos nameless] at made
    cases made
  · rw [if_neg nameless] at made
    simp only [Bool.not_eq_true, Bool.or_eq_false_iff, beq_eq_false_iff_ne] at nameless
    refine ⟨nameless.1, nameless.2, ?_⟩
    obtain ⟨place, middle, located, onward⟩ := make_bind_eq_ok.mp made
    obtain ⟨found, rfl⟩ := make_ask_eq_ok located
    obtain ⟨_, _, same, last⟩ := make_bind_eq_ok.mp onward
    cases same
    split at last
    · cases last
    · next plain =>
      cases last
      exact ⟨place, found, plain, rfl⟩

/-- **A file that has been put in place in one step is found there**, if anything is. -/
theorem find_of_replaceFile {path : Path} {content : Encoding.Bytes} {node : Node}
    (isName : path.name.isEmpty = false → Path.IsName path.name)
    (made : (replaceFile path content).make disk = (.ok (), after)) (found : after.find path = .ok node) :
    after.find path = .ok (.file content) := by
  obtain ⟨temporary, middle, -, renamed⟩ := make_bind_eq_ok.mp made
  obtain ⟨filled, single, place, located, -, rfl⟩ := rename_eq_ok renamed
  exact Disk.find_put_erase (isName filled) single located found

end Change

end Gameshelf
