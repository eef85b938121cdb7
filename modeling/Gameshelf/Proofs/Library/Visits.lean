import Gameshelf.Library.Scan
import Gameshelf.Proofs.Disk.Basic
import Gameshelf.Proofs.Disk.FileName

/-!
What a walk through a library comes to. It meets entries that it does not take for directories and to which
directories lead that can be listed (`met_of_mem`), and all of them if it does not break off (`mem_or_breaksOff`);
it breaks off where it is to go too deep (`overruns_of_mem`, `exists_breakOff_of_overruns`). The names alone decide
the order of what it meets (`pairwise_stepsOf`).
-/

namespace Gameshelf

namespace FileName

/-- **A name comes before another** in listings, which are in the order of code points. -/
def Before (a b : FileName) : Prop :=
  compare a.text b.text = .lt

theorem Before.asymm {a b : FileName} (before : Before a b) : ¬Before b a :=
  fun back => nomatch (Std.OrientedCmp.gt_of_lt before).symm.trans back

/-- Listed names come one before the other where they differ. -/
theorem before_of_le {a b : FileName} (listed : a.le b = true) (other : a ≠ b) : Before a b := by
  unfold le at listed
  cases order : compare a.text b.text with
  | lt => exact order
  | eq => exact absurd (text_injective (Std.LawfulEqOrd.eq_of_compare order)) other
  | gt => rw [order] at listed; cases listed

theorem le_trans (a b c : FileName) (first : a.le b = true) (second : b.le c = true) : a.le c = true :=
  Std.TransCmp.isLE_trans first second

theorem le_total (a b : FileName) : (a.le b || b.le a) = true := by
  have swapped : compare b.text a.text = (compare a.text b.text).swap := Std.OrientedCmp.eq_swap
  simp only [le, swapped]
  cases compare a.text b.text <;> rfl

end FileName

namespace Library

section Order

/-- **The order of a walk**: the files of a directory by name, then its directories by name, each with all
that is below it. -/
def Earlier : Place → Place → Prop
  | [a], [b] => a.Before b
  | [_], _ :: _ :: _ => True
  | a :: x :: first, b :: y :: second => a.Before b ∨ a = b ∧ Earlier (x :: first) (y :: second)
  | _, _ => False

theorem Earlier.asymm {a b : Place} (earlier : Earlier a b) : ¬Earlier b a := by
  fun_induction Earlier a b with
  | case1 a b => exact FileName.Before.asymm earlier
  | case2 => simp [Earlier]
  | case3 a x first b y second ih =>
    simp only [Earlier]
    rintro (back | ⟨rfl, back⟩)
    · rcases earlier with before | ⟨rfl, _⟩
      · exact before.asymm back
      · exact back.asymm back
    · rcases earlier with before | ⟨_, later⟩
      · exact before.asymm before
      · exact ih later back
  | case4 => exact earlier.elim

theorem earlier_cons {name : FileName} {first second : Place} (someFirst : first ≠ [])
    (someSecond : second ≠ []) (earlier : Earlier first second) : Earlier (name :: first) (name :: second) := by
  obtain ⟨x, first, rfl⟩ := List.exists_cons_of_ne_nil someFirst
  obtain ⟨y, second, rfl⟩ := List.exists_cons_of_ne_nil someSecond
  exact .inr ⟨rfl, earlier⟩

/-- The order is the same wherever a walk begins. -/
theorem earlier_append {base first second : Place} (someFirst : first ≠ []) (someSecond : second ≠ [])
    (earlier : Earlier first second) : Earlier (base ++ first) (base ++ second) := by
  induction base with
  | nil => exact earlier
  | cons name base ih =>
    exact earlier_cons (List.append_ne_nil_of_right_ne_nil _ someFirst)
      (List.append_ne_nil_of_right_ne_nil _ someSecond) ih

variable {α : Type} {named : List (FileName × α)}

theorem mem_byName {entry : FileName × α} : entry ∈ byName named ↔ entry ∈ named :=
  List.mem_mergeSort

/-- Elements with different names stand one before the other by name. -/
theorem pairwise_byName (distinct : (named.map Prod.fst).Nodup) :
    (byName named).Pairwise fun a b => a.1.Before b.1 := by
  have sorted : (byName named).Pairwise fun a b => a.1.le b.1 = true :=
    List.pairwise_mergeSort (fun a b c => FileName.le_trans a.1 b.1 c.1)
      (fun a b => FileName.le_total a.1 b.1) named
  have names : (byName named).Pairwise fun a b => a.1 ≠ b.1 :=
    List.pairwise_map.mp (((List.mergeSort_perm _ _).map Prod.fst).nodup_iff.mpr distinct)
  exact (sorted.and names).imp fun both => FileName.before_of_le both.1 both.2

end Order

section Entries

variable {walker : Walker} {base : Place} {entries : List (FileName × Node)}

/-- **An entry that a walk meets** is no directory, and no link that leads to one. -/
theorem branches_eq_false_iff {place : Place} {node : Node} :
    walker.branches place node = false ↔
      node.isDirectory = false ∧ ∀ target, node = .link target → walker.leads place = false := by
  cases node with
  | directory => exact ⟨nofun, fun none => nomatch none.1⟩
  | link target => exact ⟨fun none => ⟨rfl, fun _ _ => none⟩, fun none => none.2 target rfl⟩
  | file | special => exact ⟨fun _ => ⟨rfl, nofun⟩, fun _ => rfl⟩

/-- A walk takes what has something below it for a directory, and every directory. -/
theorem branches_of_at? {place rest : Place} {node below : Node} (found : node.at? rest = some below)
    (onward : rest = [] → below.isDirectory = true) : walker.branches place node = true := by
  cases kind : node.isDirectory with
  | true =>
    cases node with
    | directory => rfl
    | file | link | special => cases kind
  | false =>
    obtain ⟨rfl, rfl⟩ := Node.at?_leaf kind found
    exact absurd (onward rfl) (Bool.eq_false_iff.mp kind)

/-- The entries among the files of a directory. -/
theorem mem_filesAmong {name : FileName} {visit : Visit} :
    (name, visit) ∈ filesAmong walker base entries ↔
      visit.place = base ++ [name] ∧ (name, visit.node) ∈ entries ∧
        walker.branches visit.place visit.node = false := by
  obtain ⟨place, shown⟩ := visit
  rw [filesAmong, List.mem_filterMap]
  constructor
  · rintro ⟨⟨own, node⟩, listed, kept⟩
    by_cases taken : walker.branches (base ++ [own]) node = true
    · cases (if_pos taken).symm.trans kept
    · cases (if_neg taken).symm.trans kept
      exact ⟨rfl, listed, Bool.eq_false_iff.mpr taken⟩
  · rintro ⟨rfl, listed, meets⟩
    exact ⟨(name, shown), listed, if_neg (Bool.eq_false_iff.mp meets)⟩

/-- Files of a directory have different names. -/
theorem nodup_filesAmong (distinct : (entries.map Prod.fst).Nodup) :
    ((filesAmong walker base entries).map Prod.fst).Nodup := by
  refine List.pairwise_map.mpr ((List.pairwise_map.mp distinct).filterMap _ ?_)
  rintro ⟨a, node⟩ ⟨b, node'⟩ other x keptX y keptY
  by_cases takenX : walker.branches (base ++ [a]) node = true
  · cases (if_pos takenX).symm.trans keptX
  by_cases takenY : walker.branches (base ++ [b]) node' = true
  · cases (if_pos takenY).symm.trans keptY
  cases (if_neg takenX).symm.trans keptX
  cases (if_neg takenY).symm.trans keptY
  exact other

/-- The steps of a walk in one entry of a directory: none if the walk does not take it for a directory, and the end
of the walk if it is deep enough. -/
def stepsIn (walker : Walker) (base : Place) (entry : FileName × Node) : List Step :=
  match walker.breaksOff? base with
  | none => stepsOf walker (base ++ [entry.1]) entry.2
  | some message => if walker.branches (base ++ [entry.1]) entry.2 then [.breakOff message] else []

theorem branchesAmong_eq :
    branchesAmong walker base entries = entries.map fun entry => (entry.1, stepsIn walker base entry) := by
  induction entries with
  | nil => rfl
  | cons entry rest ih =>
    rw [branchesAmong, ih, List.map_cons]
    rfl

theorem nodup_branchesAmong (distinct : (entries.map Prod.fst).Nodup) :
    ((branchesAmong walker base entries).map Prod.fst).Nodup := by
  rw [branchesAmong_eq, List.map_map]
  exact distinct

/-- The steps of a walk in a directory that it lists. -/
theorem mem_stepsOf_directory (listed : walker.lists base = true) {step : Step} :
    step ∈ stepsOf walker base (.directory entries) ↔
      (∃ name visit, (name, visit) ∈ filesAmong walker base entries ∧ step = .meet visit) ∨
      ∃ entry ∈ entries, step ∈ stepsIn walker base entry := by
  rw [stepsOf, if_pos listed, List.mem_append]
  refine or_congr ?_ ?_
  · simp only [List.mem_map, mem_byName, Prod.exists, eq_comm]
  · simp only [List.mem_flatMap, mem_byName, branchesAmong_eq, List.mem_map]
    constructor
    · rintro ⟨_, ⟨entry, mem, rfl⟩, step⟩
      exact ⟨entry, mem, step⟩
    · rintro ⟨entry, mem, step⟩
      exact ⟨_, ⟨entry, mem, rfl⟩, step⟩

end Entries

section Steps

variable {walker : Walker} {base : Place} {node : Node}

/-- **Every directory on the way can be listed**, from a base down to what the names lead to. -/
def Entered (lists : Place → Bool) (base names : Place) : Prop :=
  ∀ before after, names = before ++ after → after ≠ [] → lists (base ++ before) = true

theorem entered_nil {lists : Place → Bool} : Entered lists base [] :=
  fun _ _ split filled => absurd (List.append_eq_nil_iff.mp split.symm).2 filled

theorem entered_cons {lists : Place → Bool} {name : FileName} {rest : Place} :
    Entered lists base (name :: rest) ↔ lists base = true ∧ Entered lists (base ++ [name]) rest := by
  constructor
  · intro entered
    refine ⟨?_, fun before after split some => ?_⟩
    · simpa using entered [] (name :: rest) rfl (List.cons_ne_nil _ _)
    · simpa using entered (name :: before) after (by rw [split, List.cons_append]) some
  · rintro ⟨here, below⟩ before after split some
    cases before with
    | nil => rwa [List.append_nil]
    | cons first before =>
      obtain ⟨rfl, others⟩ := List.cons.inj split
      simpa using below before after others some

/-- **An entry below a base that a walk is to meet**: directories that can be listed lead to it, and the walk does
not take it for a directory. -/
structure Meets (walker : Walker) (base : Place) (node : Node) (visit : Visit) (rest : Place) : Prop where
  filled : rest ≠ []
  place : visit.place = base ++ rest
  found : node.at? rest = some visit.node
  leaf : walker.branches visit.place visit.node = false
  entered : Entered walker.lists base rest

/-- **A directory below a base where a walk is to go too deep**: directories that can be listed lead to it, it can be
listed itself, and the walk takes one of its entries for a directory. -/
structure Overruns (walker : Walker) (base : Place) (node : Node) (message : String) (rest : Place) : Prop where
  entered : Entered walker.lists base rest
  lists : walker.lists (base ++ rest) = true
  message : walker.breaksOff? (base ++ rest) = some message
  branch : ∃ entries, node.at? rest = some (.directory entries) ∧
    ∃ entry ∈ entries, walker.branches (base ++ rest ++ [entry.1]) entry.2 = true

/-- What a walk is to meet in an entry of a directory it is to meet in the directory. -/
theorem Meets.cons {entries : List (FileName × Node)} {name : FileName} {visit : Visit} {rest : Place}
    (distinct : (entries.map Prod.fst).Nodup) (listed : (name, node) ∈ entries) (lists : walker.lists base = true)
    (meets : Meets walker (base ++ [name]) node visit rest) :
    Meets walker base (.directory entries) visit (name :: rest) where
  filled := List.cons_ne_nil _ _
  place := by rw [meets.place, List.append_assoc, List.singleton_append]
  found := by
    rw [Node.at?_directory, lookup_of_mem distinct listed]
    exact meets.found
  leaf := meets.leaf
  entered := entered_cons.mpr ⟨lists, meets.entered⟩

theorem Overruns.cons {entries : List (FileName × Node)} {name : FileName} {message : String} {rest : Place}
    (distinct : (entries.map Prod.fst).Nodup) (listed : (name, node) ∈ entries) (lists : walker.lists base = true)
    (overruns : Overruns walker (base ++ [name]) node message rest) :
    Overruns walker base (.directory entries) message (name :: rest) := by
  obtain ⟨entered, below, message, others, found, branch⟩ := overruns
  rw [List.append_assoc, List.singleton_append] at below message branch
  refine ⟨entered_cons.mpr ⟨lists, entered⟩, below, message, others, ?_, branch⟩
  rw [Node.at?_directory, lookup_of_mem distinct listed]
  exact found

/-- A walk that goes on below a base takes the steps of each entry. -/
theorem stepsIn_of_endless (endless : walker.breaksOff? base = none) (entry : FileName × Node) :
    stepsIn walker base entry = stepsOf walker (base ++ [entry.1]) entry.2 := by
  rw [stepsIn, endless]

/-- A walk that is deep enough breaks off at each entry that it is to go into. -/
theorem mem_stepsIn_of_deep {message : String} (deep : walker.breaksOff? base = some message)
    {entry : FileName × Node} {step : Step} :
    step ∈ stepsIn walker base entry ↔
      step = .breakOff message ∧ walker.branches (base ++ [entry.1]) entry.2 = true := by
  rw [stepsIn, deep]
  dsimp only
  split
  · next branch => rw [List.mem_singleton, and_iff_left branch]
  · next leaf => exact iff_of_false List.not_mem_nil fun both => leaf both.2

/-- **A walk meets nothing but what it is to meet.** -/
theorem met_of_mem (tree : node.IsTree) {visit : Visit} (met : .meet visit ∈ stepsOf walker base node) :
    ∃ rest, Meets walker base node visit rest := by
  induction tree generalizing base with
  | file | link | special => cases met
  | @directory entries distinct legal below ih =>
    by_cases listed : walker.lists base = true
    · rcases (mem_stepsOf_directory listed).mp met with ⟨name, _, file, same⟩ | ⟨entry, mem, step⟩
      · cases same
        obtain ⟨place, own, leaf⟩ := mem_filesAmong.mp file
        refine ⟨[name], List.cons_ne_nil _ _, place, ?_, leaf, entered_cons.mpr ⟨listed, entered_nil⟩⟩
        rw [Node.at?_directory, lookup_of_mem distinct own]
        exact Node.at?_nil _
      · cases ends : walker.breaksOff? base with
        | none =>
          rw [stepsIn_of_endless ends] at step
          obtain ⟨rest, meets⟩ := ih entry mem step
          exact ⟨entry.1 :: rest, meets.cons distinct mem listed⟩
        | some message => cases ((mem_stepsIn_of_deep ends).mp step).1
    · rw [stepsOf, if_neg listed] at met
      cases met

/-- **A walk breaks off nowhere but where it is to go too deep.** -/
theorem overruns_of_mem (tree : node.IsTree) {message : String}
    (ends : .breakOff message ∈ stepsOf walker base node) : ∃ rest, Overruns walker base node message rest := by
  induction tree generalizing base with
  | file | link | special => cases ends
  | @directory entries distinct legal below ih =>
    by_cases listed : walker.lists base = true
    · rcases (mem_stepsOf_directory listed).mp ends with ⟨_, _, _, same⟩ | ⟨entry, mem, step⟩
      · cases same
      · cases deep : walker.breaksOff? base with
        | none =>
          rw [stepsIn_of_endless deep] at step
          obtain ⟨rest, overruns⟩ := ih entry mem step
          exact ⟨entry.1 :: rest, overruns.cons distinct mem listed⟩
        | some own =>
          obtain ⟨same, branch⟩ := (mem_stepsIn_of_deep deep).mp step
          cases same
          have here := (List.append_nil base).symm
          refine ⟨[], entered_nil, here ▸ listed, here ▸ deep, entries, Node.at?_nil _, entry, mem, ?_⟩
          rw [List.append_nil]
          exact branch
    · rw [stepsOf, if_neg listed] at ends
      cases ends

/-- **A walk that is to go too deep breaks off.** It does so at the latest there: on the way it is to go on below
directories, and breaks off at the first that is deep enough. -/
theorem exists_breakOff_of_overruns (tree : node.IsTree) {message : String} {rest : Place}
    (overruns : Overruns walker base node message rest) :
    ∃ message, .breakOff message ∈ stepsOf walker base node := by
  induction tree generalizing base rest with
  | file | link | special =>
    obtain ⟨_, _, _, _, found, _⟩ := overruns
    cases (Node.at?_leaf rfl found).2
  | @directory entries distinct legal below ih =>
    obtain ⟨entered, lists, deep, others, found, entry, mem, branch⟩ := overruns
    cases rest with
    | nil =>
      rw [Node.at?_nil] at found
      cases found
      rw [List.append_nil] at lists deep branch
      have ends := (mem_stepsIn_of_deep deep).mpr ⟨rfl, branch⟩
      exact ⟨message, (mem_stepsOf_directory lists).mpr (.inr ⟨entry, mem, ends⟩)⟩
    | cons name more =>
      obtain ⟨listed, onward⟩ := entered_cons.mp entered
      obtain ⟨_, next, same, named, there⟩ := Node.at?_cons_eq_some found
      cases same
      have own := mem_of_lookup named
      cases ends : walker.breaksOff? base with
      | none =>
        have further : Overruns walker (base ++ [name]) next message more := by
          rw [← List.singleton_append, ← List.append_assoc] at lists deep branch
          exact ⟨onward, lists, deep, others, there, entry, mem, branch⟩
        obtain ⟨message, step⟩ := ih _ own further
        refine ⟨message, (mem_stepsOf_directory listed).mpr (.inr ⟨_, own, ?_⟩)⟩
        rw [stepsIn_of_endless ends]
        exact step
      | some first =>
        have directory : walker.branches (base ++ [name]) next = true := branches_of_at? there fun _ => rfl
        have step : .breakOff first ∈ stepsIn walker base (name, next) :=
          (mem_stepsIn_of_deep ends).mpr ⟨rfl, directory⟩
        exact ⟨first, (mem_stepsOf_directory listed).mpr (.inr ⟨_, own, step⟩)⟩

/-- **A walk meets all that it is to meet, or breaks off.** -/
theorem mem_or_breaksOff (tree : node.IsTree) {visit : Visit} {rest : Place}
    (meets : Meets walker base node visit rest) :
    .meet visit ∈ stepsOf walker base node ∨ ∃ message, .breakOff message ∈ stepsOf walker base node := by
  induction tree generalizing base rest with
  | file | link | special => exact absurd (Node.at?_leaf rfl meets.found).1 meets.filled
  | @directory entries distinct legal below ih =>
    obtain ⟨filled, place, found, leaf, entered⟩ := meets
    obtain ⟨name, more, rfl⟩ := List.exists_cons_of_ne_nil filled
    obtain ⟨_, next, same, named, there⟩ := Node.at?_cons_eq_some found
    cases same
    obtain ⟨listed, onward⟩ := entered_cons.mp entered
    have own := mem_of_lookup named
    by_cases last : more = []
    · subst last
      rw [Node.at?_nil] at there
      cases there
      exact .inl ((mem_stepsOf_directory listed).mpr (.inl ⟨name, visit, mem_filesAmong.mpr ⟨place, own, leaf⟩, rfl⟩))
    have inside {step : Step} (mem : step ∈ stepsIn walker base (name, next)) :
        step ∈ stepsOf walker base (.directory entries) :=
      (mem_stepsOf_directory listed).mpr (.inr ⟨_, own, mem⟩)
    cases ends : walker.breaksOff? base with
    | none =>
      have further : Meets walker (base ++ [name]) next visit more := by
        refine ⟨last, ?_, there, leaf, onward⟩
        rw [place, List.append_assoc, List.singleton_append]
      rw [stepsIn_of_endless ends] at inside
      exact (ih _ own further).imp inside fun ⟨message, step⟩ => ⟨message, inside step⟩
    | some message =>
      have directory : walker.branches (base ++ [name]) next = true :=
        branches_of_at? there fun none => absurd none last
      exact .inr ⟨message, inside ((mem_stepsIn_of_deep ends).mpr ⟨rfl, directory⟩)⟩

/-- What a walk meets in an entry of a directory stands below both. -/
theorem place_of_stepsIn {entries : List (FileName × Node)} (below : ∀ entry ∈ entries, entry.2.IsTree)
    {entry : FileName × Node} (listed : entry ∈ entries) {visit : Visit}
    (met : .meet visit ∈ stepsIn walker base entry) :
    ∃ rest, rest ≠ [] ∧ visit.place = base ++ entry.1 :: rest := by
  cases ends : walker.breaksOff? base with
  | none =>
    rw [stepsIn_of_endless ends] at met
    obtain ⟨rest, meets⟩ := met_of_mem (below entry listed) met
    exact ⟨rest, meets.filled, by rw [meets.place, List.append_assoc, List.singleton_append]⟩
  | some message => cases ((mem_stepsIn_of_deep ends).mp met).1

/-- **Steps in the order of a walk**: where both meet an entry, the first comes earlier. -/
def InOrder (first second : Step) : Prop :=
  ∀ a b, first = .meet a → second = .meet b → Earlier a.place b.place

/-- **A walk meets its entries in its order.** -/
theorem pairwise_stepsOf (tree : node.IsTree) : (stepsOf walker base node).Pairwise InOrder := by
  induction tree generalizing base with
  | file | link | special =>
    simp only [stepsOf]
    exact List.Pairwise.nil
  | @directory entries distinct legal below ih =>
    by_cases listed : walker.lists base = true
    · have single (name : FileName) : [name] ≠ [] := List.cons_ne_nil _ _
      have branch {named : FileName × List Step} (mem : named ∈ byName (branchesAmong walker base entries)) :
          ∃ entry ∈ entries, named = (entry.1, stepsIn walker base entry) := by
        rw [mem_byName, branchesAmong_eq] at mem
        obtain ⟨entry, listed, rfl⟩ := List.mem_map.mp mem
        exact ⟨entry, listed, rfl⟩
      rw [stepsOf, if_pos listed]
      refine List.pairwise_append.mpr ⟨?files, ?directories, ?across⟩
      case files =>
        refine List.pairwise_map.mpr ?_
        refine (pairwise_byName (nodup_filesAmong distinct)).imp_of_mem ?_
        rintro a b memA memB before _ _ ⟨⟩ ⟨⟩
        rw [(mem_filesAmong.mp (mem_byName.mp memA)).1, (mem_filesAmong.mp (mem_byName.mp memB)).1]
        exact earlier_append (single _) (single _) before
      case directories =>
        refine List.pairwise_flatMap.mpr ⟨fun named mem => ?_, ?_⟩
        · obtain ⟨entry, own, rfl⟩ := branch mem
          cases ends : walker.breaksOff? base with
          | none =>
            rw [stepsIn_of_endless ends]
            exact ih entry own
          | some message =>
            refine List.pairwise_of_forall_mem_list fun a memA b _ visit _ met _ => ?_
            rw [((mem_stepsIn_of_deep ends).mp memA).1] at met
            cases met
        · refine (pairwise_byName (nodup_branchesAmong distinct)).imp_of_mem ?_
          rintro _ _ memA memB before _ metA _ metB a b rfl rfl
          obtain ⟨entryA, ownA, rfl⟩ := branch memA
          obtain ⟨entryB, ownB, rfl⟩ := branch memB
          obtain ⟨x, filledX, placeX⟩ := place_of_stepsIn below ownA metA
          obtain ⟨y, filledY, placeY⟩ := place_of_stepsIn below ownB metB
          obtain ⟨_, _, rfl⟩ := List.exists_cons_of_ne_nil filledX
          obtain ⟨_, _, rfl⟩ := List.exists_cons_of_ne_nil filledY
          rw [placeX, placeY]
          exact earlier_append (List.cons_ne_nil _ _) (List.cons_ne_nil _ _) (.inl before)
      case across =>
        rintro _ memA _ memB a b rfl rfl
        obtain ⟨⟨name, _⟩, file, same⟩ := List.mem_map.mp memA
        cases same
        obtain ⟨named, own, met⟩ := List.mem_flatMap.mp memB
        obtain ⟨entry, listed, rfl⟩ := branch own
        obtain ⟨rest, filled, place⟩ := place_of_stepsIn below listed met
        obtain ⟨_, _, rfl⟩ := List.exists_cons_of_ne_nil filled
        rw [(mem_filesAmong.mp (mem_byName.mp file)).1, place]
        exact earlier_append (single _) (List.cons_ne_nil _ _) trivial
    · rw [stepsOf, if_neg listed]
      exact List.Pairwise.nil

end Steps

end Library

end Gameshelf
