import Gameshelf.Proofs.Disk.Basic
import Gameshelf.Proofs.Disk.FileName
import Gameshelf.Proofs.Failure

/-!
Walks. A walk goes on from where its first part leads (`continues_walk`), and a walk along the names of
entries takes them as they are, since no link is among them (`walk_names`). A path below a root therefore
leads to what stands at its names below the place that the root leads to, unless it is too long or one of
its names is (`locate_below`).
-/

namespace Gameshelf.Disk

open Text

variable {disk : Disk} {ending : Ending} {follow : Place → List Leg → Except Refusal Place}

section Steps

/-- A step that names no entry stays in a directory. -/
theorem walkWith_idle {place : Place} {entries : List (FileName × Node)} {leg : Leg} {rest : List Leg}
    (here : disk.at? place = some (.directory entries)) (idle : leg = .slash ∨ leg = .stay) :
    walkWith disk follow ending place (leg :: rest) = walkWith disk follow ending place rest := by
  rcases idle with rfl | rfl <;> simp only [walkWith, here]

/-- No step leads away from what is no directory. -/
theorem walkWith_nowhere {place : Place} {leg : Leg} {rest : List Leg}
    (nowhere : ¬∃ entries, disk.at? place = some (.directory entries)) :
    walkWith disk follow ending place (leg :: rest) = .error .notDirectory := by
  unfold walkWith
  split
  · next entries here => exact absurd ⟨entries, here⟩ nowhere
  · rfl

/-- Only a directory can be stepped from. -/
theorem directory_of_walkWith {place reached : Place} {leg : Leg} {rest : List Leg}
    (arrives : walkWith disk follow ending place (leg :: rest) = .ok reached) :
    ∃ entries, disk.at? place = some (.directory entries) := by
  refine Classical.byContradiction ?_
  intro nowhere
  rw [walkWith_nowhere nowhere] at arrives
  cases arrives

/-- **A walk goes on**: everything must be there, or there is another name to come. Until then nothing is
made. -/
def GoesOn (ending : Ending) (rest : List Leg) : Prop :=
  ending.mayMiss = false ∨ ∃ name, Leg.down name ∈ rest

theorem GoesOn.settled {rest : List Leg} (goes : GoesOn ending rest) :
    (ending.mayMiss && asksForDirectory rest) = false ∧ (rest.isEmpty && ending.mayMiss) = false := by
  rcases goes with present | ⟨name, mem⟩
  · rw [present, Bool.false_and, Bool.and_false]
    exact ⟨rfl, rfl⟩
  · have down : rest.all (· == .slash) = false :=
      List.all_eq_false.mpr ⟨.down name, mem, by simp⟩
    rw [asksForDirectory, down, Bool.and_false, Bool.and_false,
      List.isEmpty_eq_false_iff.mpr (List.ne_nil_of_mem mem), Bool.false_and]
    exact ⟨rfl, rfl⟩

theorem GoesOn.append {second : List Leg} (goes : GoesOn ending second) (first : List Leg) :
    GoesOn ending (first ++ second) :=
  goes.imp_right fun ⟨name, mem⟩ => ⟨name, List.mem_append_right _ mem⟩

/-- The step to an entry that is no link, or is one that is not followed. -/
theorem walkWith_down {place : Place} {entries : List (FileName × Node)} {name : FileName} {node : Node}
    {rest : List Leg} (goes : GoesOn ending rest)
    (here : disk.at? place = some (.directory entries)) (named : entries.lookup name = some node)
    (taken : ∀ target, node = .link target → rest = [] ∧ ending.follows = false) :
    walkWith disk follow ending place (.down name :: rest)
      = if nameLimit < name.bytes.length then .error .nameTooLong
        else walkWith disk follow ending (place ++ [name]) rest := by
  have settled := goes.settled.1
  cases node with
  | link target =>
    obtain ⟨rfl, stays⟩ := taken target rfl
    simp only [walkWith, here, settled, named, stays, Bool.false_eq_true, if_false, List.isEmpty_nil,
      Bool.not_false, Bool.and_self, if_true]
  | file | special | directory => simp only [walkWith, here, settled, named, Bool.false_eq_true, if_false]

/-- The step to a link on the way. -/
theorem walkWith_link {place : Place} {entries : List (FileName × Node)} {name : FileName}
    {target : Encoding.Bytes} {rest : List Leg} (goes : GoesOn ending rest)
    (here : disk.at? place = some (.directory entries)) (named : entries.lookup name = some (.link target))
    (goesOn : (rest.isEmpty && !ending.follows) = false) :
    walkWith disk follow ending place (.down name :: rest)
      = if nameLimit < name.bytes.length then .error .nameTooLong
        else follow (startOf place target) (legsOf target ++ rest) := by
  have settled := goes.settled.1
  simp only [walkWith, here, settled, named, goesOn, Bool.false_eq_true, if_false]

/-- A step to a name that no entry has leads nowhere. -/
theorem walkWith_absent {place : Place} {entries : List (FileName × Node)} {name : FileName}
    {rest : List Leg} (goes : GoesOn ending rest)
    (here : disk.at? place = some (.directory entries)) (absent : entries.lookup name = none) :
    walkWith disk follow ending place (.down name :: rest)
      = if nameLimit < name.bytes.length then .error .nameTooLong else .error .noEntry := by
  have settled := goes.settled
  simp only [walkWith, here, settled, absent, Bool.false_eq_true, if_false]

end Steps

section Stages

variable {second : List Leg}

/-- **A walk continues another**: it ends with the refusal that the other ends with, or takes more steps from
where the other arrives, with what is left of the links that it may follow. -/
def Continues (disk : Disk) (ending : Ending) (second : List Leg) (whole part : Except Refusal Place) : Prop :=
  match part with
  | .error refusal => whole = .error refusal
  | .ok middle => ∃ left, whole = walk disk ending left middle second

namespace Continues

variable {whole part : Except Refusal Place}

/-- A walk goes on from where the other arrives. -/
theorem onward {middle : Place} (continues : Continues disk ending second whole part)
    (arrives : part = .ok middle) : ∃ left, whole = walk disk ending left middle second := by
  subst arrives
  exact continues

/-- A walk that arrives has gone on from where the other arrives. -/
theorem from_middle {reached : Place} (continues : Continues disk ending second whole part)
    (arrives : whole = .ok reached) :
    ∃ middle left, part = .ok middle ∧ walk disk ending left middle second = .ok reached := by
  cases part with
  | error refusal =>
    have refused : whole = .error refusal := continues
    cases refused.symm.trans arrives
  | ok middle =>
    obtain ⟨left, onward⟩ := continues
    exact ⟨middle, left, rfl, onward.symm.trans arrives⟩

end Continues

/-- One stretch between links: a walk continues its first part, if the walks through links do. -/
theorem continues_walkWith (goes : GoesOn ending second) (more : second ≠ [])
    {follow' : Place → List Leg → Except Refusal Place}
    (stretch : ∃ links, walkWith disk follow' ending = walk disk ending links)
    (beyond : ∀ place legs, Continues disk ending second (follow' place (legs ++ second)) (follow place legs))
    (place : Place) (first : List Leg) :
    Continues disk ending second (walkWith disk follow' ending place (first ++ second))
      (walkWith disk follow .target place first) := by
  induction first generalizing place with
  | nil =>
    obtain ⟨links, same⟩ := stretch
    exact ⟨links, by rw [List.nil_append, same]⟩
  | cons leg rest ih =>
    rw [List.cons_append]
    by_cases stands : ∃ entries, disk.at? place = some (.directory entries)
    · obtain ⟨entries, here⟩ := stands
      cases leg with
      | slash =>
        rw [walkWith_idle here (.inl rfl), walkWith_idle here (.inl rfl)]
        exact ih place
      | stay =>
        rw [walkWith_idle here (.inr rfl), walkWith_idle here (.inr rfl)]
        exact ih place
      | up =>
        simp only [walkWith, here]
        exact ih place.dropLast
      | down name =>
        cases named : entries.lookup name with
        | none =>
          rw [walkWith_absent (goes.append rest) here named, walkWith_absent (.inl rfl) here named]
          split <;> rfl
        | some node =>
          by_cases link : ∃ target, node = .link target
          · obtain ⟨target, rfl⟩ := link
            have goesOn : ((rest ++ second).isEmpty && !ending.follows) = false := by
              rw [List.isEmpty_eq_false_iff.mpr (List.append_ne_nil_of_right_ne_nil _ more), Bool.false_and]
            rw [walkWith_link (goes.append rest) here named goesOn,
              walkWith_link (.inl rfl) here named (Bool.and_false _), ← List.append_assoc]
            split
            · rfl
            · exact beyond _ _
          · have none (target : Encoding.Bytes) : node ≠ .link target := fun same => link ⟨target, same⟩
            rw [walkWith_down (goes.append rest) here named fun target same => absurd same (none target),
              walkWith_down (.inl rfl) here named fun target same => absurd same (none target)]
            split
            · rfl
            · exact ih _
    · rw [walkWith_nowhere stands, walkWith_nowhere stands]
      rfl

/-- **A walk continues its first part.** -/
theorem continues_walk (goes : GoesOn ending second) (more : second ≠ []) (links : Nat) (place : Place)
    (first : List Leg) :
    Continues disk ending second (walk disk ending links place (first ++ second))
      (walk disk .target links place first) := by
  induction links generalizing place first with
  | zero =>
    have refused : Continues disk ending second (.error .tooManyLinks) (.error .tooManyLinks) := rfl
    exact continues_walkWith goes more ⟨0, rfl⟩ (fun _ _ => refused) place first
  | succ links ih => exact continues_walkWith goes more ⟨links + 1, rfl⟩ ih place first

end Stages

section Names

/-- **A node that a walk may end at**: any but a link that is to be followed. -/
def Takes (ending : Ending) (node : Node) : Prop :=
  ending.follows = true → ∀ target, node ≠ .link target

theorem takes_entry (node : Node) : Takes .entry node :=
  fun follows => nomatch follows

/-- A walk along the names of entries: each is taken as it is, if it is short enough. -/
theorem walkWith_names (present : ending.mayMiss = false) {place names : Place} {node : Node}
    (found : disk.at? (place ++ names) = some node) (taken : names ≠ [] → Takes ending node) :
    walkWith disk follow ending place (names.map .down)
      = if ∀ name ∈ names, name.bytes.length ≤ nameLimit then .ok (place ++ names)
        else .error .nameTooLong := by
  induction names generalizing place with
  | nil =>
    rw [List.append_nil, if_pos nofun]
    rfl
  | cons name rest ih =>
    obtain ⟨entries, next, here, named, there⟩ := exists_directory found
    have last : ∀ target, next = .link target → rest.map Leg.down = [] ∧ ending.follows = false := by
      rintro target rfl
      cases rest with
      | cons => cases there
      | nil =>
        refine ⟨rfl, Bool.eq_false_iff.mpr fun follows => ?_⟩
        rw [Node.at?_nil] at there
        exact taken (List.cons_ne_nil _ _) follows target (Option.some.inj there).symm
    have onward : disk.at? (place ++ [name] ++ rest) = some node := by
      rw [List.append_assoc, List.singleton_append]
      exact found
    rw [List.map_cons, walkWith_down (.inl present) here named last,
      ih onward fun _ => taken (List.cons_ne_nil _ _), List.append_assoc, List.singleton_append]
    simp only [List.forall_mem_cons]
    by_cases long : nameLimit < name.bytes.length
    · rw [if_pos long, if_neg fun short => Nat.not_lt.mpr short.1 long]
    · simp only [if_neg long, Nat.not_lt.mp long, true_and]

theorem walk_names (present : ending.mayMiss = false) {links : Nat} {place names : Place} {node : Node}
    (found : disk.at? (place ++ names) = some node) (taken : names ≠ [] → Takes ending node) :
    walk disk ending links place (names.map .down)
      = if ∀ name ∈ names, name.bytes.length ≤ nameLimit then .ok (place ++ names)
        else .error .nameTooLong := by
  cases links <;> exact walkWith_names present found taken

end Names

section Paths

/-- Names between slashes are steps down. -/
theorem legsOf_joinWith {place : Place} (some : place ≠ []) (legal : ∀ name ∈ place, name.IsLegal) :
    legsOf (joinWith [slashByte] (place.map FileName.bytes)) = place.map .down := by
  have pieces : splitAll (· == slashByte) (joinWith [slashByte] (place.map FileName.bytes))
      = place.map FileName.bytes := by
    refine splitAll_joinWith (p := (· == slashByte)) rfl (fun h => some (List.map_eq_nil_iff.mp h))
      fun piece mem b here => ?_
    obtain ⟨name, listed, rfl⟩ := List.mem_map.mp mem
    exact beq_eq_false_iff_ne.mpr fun same => (legal name listed).2.2.2.1 (same ▸ here)
  rw [legsOf, pieces, List.map_map]
  exact List.map_congr_left fun name mem => Leg.ofName_bytes (legal name mem)

/-- The steps of a path around a slash. -/
theorem legsOf_append (before after : Encoding.Bytes) :
    legsOf (before ++ slashByte :: after) = legsOf before ++ legsOf after := by
  rw [legsOf, splitAll_append (p := (· == slashByte)) rfl, List.map_append]
  rfl

/-- Steps that stay where they are taken from. -/
def IsIdle (leg : Leg) : Prop :=
  leg = .slash ∨ leg = .stay

/-- No walk leads away from what is no directory. -/
theorem walk_nowhere {links : Nat} {place : Place} {legs : List Leg} (more : legs ≠ [])
    (nowhere : ¬∃ entries, disk.at? place = some (.directory entries)) :
    walk disk ending links place legs = .error .notDirectory := by
  obtain ⟨leg, rest, rfl⟩ := List.exists_cons_of_ne_nil more
  cases links <;> exact walkWith_nowhere nowhere

/-- Steps that stay lead nowhere else. -/
theorem walkWith_idles {place : Place} {entries : List (FileName × Node)} {lead : List Leg}
    (here : disk.at? place = some (.directory entries)) (idle : ∀ leg ∈ lead, IsIdle leg) (rest : List Leg) :
    walkWith disk follow ending place (lead ++ rest) = walkWith disk follow ending place rest := by
  induction lead with
  | nil => rfl
  | cons leg lead ih =>
    obtain ⟨first, others⟩ := List.forall_mem_cons.mp idle
    rw [List.cons_append, walkWith_idle here first, ih others]

theorem walk_idles {links : Nat} {place : Place} {entries : List (FileName × Node)} {lead : List Leg}
    (here : disk.at? place = some (.directory entries)) (idle : ∀ leg ∈ lead, IsIdle leg) (rest : List Leg) :
    walk disk ending links place (lead ++ rest) = walk disk ending links place rest := by
  cases links <;> exact walkWith_idles here idle rest

/-- A walk of nothing but steps that stay arrives where it starts. -/
theorem walk_of_idles {links : Nat} {place : Place} {entries : List (FileName × Node)} {lead : List Leg}
    (here : disk.at? place = some (.directory entries)) (idle : ∀ leg ∈ lead, IsIdle leg) :
    walk disk ending links place lead = .ok place := by
  have walked : walk disk ending links place (lead ++ []) = walk disk ending links place [] :=
    walk_idles here idle []
  rw [List.append_nil] at walked
  rw [walked]
  cases links <;> rfl

theorem startOf_append {first : Encoding.Bytes} (filled : first ≠ []) (here : Place)
    (rest : Encoding.Bytes) : startOf here (first ++ rest) = startOf here first := by
  obtain ⟨b, bytes, rfl⟩ := List.exists_cons_of_ne_nil filled
  rfl

/-- A path that begins with a name starts where the program stands. -/
theorem startOf_of_down {written : Encoding.Bytes} {name : FileName} {rest : List Leg}
    (legs : legsOf written = .down name :: rest) (here : Place) : startOf here written = here := by
  cases written with
  | nil => rfl
  | cons b bytes =>
    by_cases same : b = slashByte
    · subst same
      cases legs
    · exact if_neg fun h => same (by simpa using h)

/-- The bytes of a path, if it can be looked up at all. -/
theorem bytesOf_eq_ok {path : Path} {written : Encoding.Bytes} :
    bytesOf path = .ok written ↔ FileName.bytesOf? path.text = some written ∧ 0 ∉ written := by
  unfold bytesOf bytesOfText
  cases FileName.bytesOf? path.text with
  | none => exact ⟨nofun, fun ⟨same, _⟩ => nomatch same⟩
  | some own =>
    dsimp only
    by_cases nul : own.contains 0 = true
    · rw [if_pos nul]
      refine ⟨nofun, fun ⟨same, clean⟩ => ?_⟩
      cases same
      exact absurd (List.contains_iff_mem.mp nul) clean
    · rw [if_neg nul]
      have clean : 0 ∉ own := fun mem => nul (List.contains_iff_mem.mpr mem)
      exact ⟨fun same => by cases same; exact ⟨rfl, clean⟩, fun ⟨same, _⟩ => by cases same; rfl⟩

/-- What a path leads to, step by step. -/
theorem locate_eq_ok {path : Path} {reached : Place} :
    disk.locate ending path = .ok reached ↔
      ∃ written, FileName.bytesOf? path.text = some written ∧ 0 ∉ written ∧ written.length < pathLimit ∧
        walk disk ending linkLimit (startOf disk.here written) (legsOf written) = .ok reached := by
  unfold locate
  constructor
  · intro arrives
    obtain ⟨written, named, arrives⟩ := bind_eq_ok.mp arrives
    obtain ⟨stands, clean⟩ := bytesOf_eq_ok.mp named
    split at arrives
    · cases arrives
    · next short =>
      refine ⟨written, stands, clean, Nat.not_le.mp short, ?_⟩
      cases walked : walk disk ending linkLimit (startOf disk.here written) (legsOf written) with
      | error refusal => rw [walked] at arrives; cases arrives
      | ok place => rw [walked] at arrives; cases arrives; rfl
  · rintro ⟨written, stands, clean, short, arrives⟩
    rw [bytesOf_eq_ok.mpr ⟨stands, clean⟩, ok_bind, if_neg (Nat.not_le.mpr short), arrives]
    rfl

/-- What is found is what stands where a path leads. -/
theorem find_eq_ok {path : Path} {node : Node} :
    disk.find path = .ok node ↔
      ∃ place, disk.locate .target path = .ok place ∧ disk.at? place = some node := by
  unfold find
  rw [bind_eq_ok]
  refine exists_congr fun place => and_congr_right fun _ => ?_
  cases disk.at? place with
  | none => exact ⟨nofun, nofun⟩
  | some stands =>
    constructor
    · intro same
      exact congrArg some (Except.ok.inj same)
    · intro same
      exact congrArg _ (Option.some.inj same)

/-- A path is present where it leads to something. -/
theorem present_eq_true {path : Path} : disk.present path = .ok true ↔ ∃ node, disk.find path = .ok node := by
  unfold present holds
  cases disk.find path with
  | ok node => exact ⟨fun _ => ⟨node, rfl⟩, fun _ => rfl⟩
  | error fault =>
    refine ⟨fun there => ?_, nofun⟩
    cases fault with
    | refused refusal =>
      dsimp only at there
      split at there <;> cases there
    | embeddedNul | unencodable => cases there

/-- What stands in front of the names of a path below a root that is written so. Nothing is written for a
path that starts where the program stands, and a root ends in its slash already. -/
def leadOf (root : Path) (written : Encoding.Bytes) : Encoding.Bytes :=
  if root.names = [] then (if root.anchor = .relative then [] else written)
  else written ++ [slashByte]

/-- The names of a place as they are written. -/
def writtenNames (place : Place) : Encoding.Bytes :=
  joinWith [slashByte] (place.map FileName.bytes)

section Below

variable {root : Path} {place : Place} {written : Encoding.Bytes}

/-- The ways in which a root without names is written. -/
theorem written_of_nameless (nameless : root.names = [])
    (stands : FileName.bytesOf? root.text = some written) :
    root = ⟨.relative, []⟩ ∧ written = [dotByte] ∨ root = ⟨.root, []⟩ ∧ written = [slashByte] ∨
      root = ⟨.doubleRoot, []⟩ ∧ written = [slashByte, slashByte] := by
  obtain ⟨anchor, names⟩ := root
  cases nameless
  cases anchor with
  | relative => exact .inl ⟨rfl, (Option.some.inj stands).symm⟩
  | root => exact .inr (.inl ⟨rfl, (Option.some.inj stands).symm⟩)
  | doubleRoot => exact .inr (.inr ⟨rfl, (Option.some.inj stands).symm⟩)

/-- A path below a root with names is written as the root, a slash and the names. -/
theorem text_below (named : root.names ≠ []) (some : place ≠ []) :
    (root.join ⟨.relative, place.map FileName.text⟩).text
      = ⟨root.text.units ++ Path.slash :: Path.unitsOf (place.map FileName.text)⟩ :=
  Path.text_append named fun h => some (List.map_eq_nil_iff.mp h)

/-- **A path below a root is written** with the names behind the root. -/
theorem bytesOf?_below (some : place ≠ []) (stands : FileName.bytesOf? root.text = .some written) :
    FileName.bytesOf? (root.join ⟨.relative, place.map FileName.text⟩).text
      = .some (leadOf root written ++ writtenNames place) := by
  have below := FileName.bytesOf?_unitsOf some
  by_cases nameless : root.names = []
  · have nothing : FileName.bytesOf? ⟨[]⟩ = .some [] := rfl
    obtain ⟨name, others, rfl⟩ := List.exists_cons_of_ne_nil some
    rcases written_of_nameless nameless stands with ⟨rfl, rfl⟩ | ⟨rfl, rfl⟩ | ⟨rfl, rfl⟩
    · exact below
    · exact (congrArg _ (Path.text_root _)).trans (FileName.bytesOf?_append nothing below)
    · exact (congrArg _ (Path.text_doubleRoot _)).trans
        (FileName.bytesOf?_append nothing (FileName.bytesOf?_append nothing below))
  · rw [text_below nameless some, leadOf, if_neg nameless, List.append_assoc, List.singleton_append]
    exact FileName.bytesOf?_append stands below

/-- **The steps below a root** are those of the root and then down. The last slash or dot of a root without
names is not among them. -/
theorem legsOf_below (some : place ≠ []) (legal : ∀ name ∈ place, name.IsLegal) (filled : root.text.units ≠ [])
    (stands : FileName.bytesOf? root.text = .some written) (here : Place) :
    ∃ lead, legsOf (leadOf root written ++ writtenNames place) = lead ++ place.map .down ∧
      startOf here (leadOf root written ++ writtenNames place) = startOf here written ∧
      (legsOf written = lead ∨
        ∃ last, legsOf written = lead ++ [last] ∧ ∀ leg ∈ lead ++ [last], IsIdle leg) := by
  have legs : legsOf (writtenNames place) = place.map .down := legsOf_joinWith some legal
  by_cases nameless : root.names = []
  · obtain ⟨name, others, rfl⟩ := List.exists_cons_of_ne_nil some
    rcases written_of_nameless nameless stands with ⟨rfl, rfl⟩ | ⟨rfl, rfl⟩ | ⟨rfl, rfl⟩
    · have idle : ∀ leg ∈ [] ++ [Leg.stay], IsIdle leg := fun _ mem => .inr (by simpa using mem)
      exact ⟨[], legs, startOf_of_down legs here, .inr ⟨.stay, rfl, idle⟩⟩
    · have idle : ∀ leg ∈ [Leg.slash] ++ [.slash], IsIdle leg := fun _ mem => .inl (by simpa using mem)
      exact ⟨[.slash], congrArg _ legs, rfl, .inr ⟨.slash, rfl, idle⟩⟩
    · have idle : ∀ leg ∈ [Leg.slash, .slash] ++ [.slash], IsIdle leg := fun _ mem => .inl (by simpa using mem)
      exact ⟨[.slash, .slash], congrArg _ (congrArg _ legs), rfl, .inr ⟨.slash, rfl, idle⟩⟩
  · rw [leadOf, if_neg nameless, List.append_assoc, List.singleton_append]
    refine ⟨legsOf written, by rw [legsOf_append, legs], ?_, .inl rfl⟩
    exact startOf_append (FileName.bytesOf?_ne_nil stands filled) _ _

/-- **A walk below a root goes on from where the root leads.** -/
theorem continues_below (present : ending.mayMiss = false) (some : place ≠ [])
    (legal : ∀ name ∈ place, name.IsLegal) (filled : root.text.units ≠ [])
    (stands : FileName.bytesOf? root.text = .some written) (links : Nat) (here : Place) :
    Continues disk ending (place.map .down)
      (walk disk ending links (startOf here (leadOf root written ++ writtenNames place))
        (legsOf (leadOf root written ++ writtenNames place)))
      (walk disk .target links (startOf here written) (legsOf written)) := by
  obtain ⟨lead, legs, starts, steps⟩ := legsOf_below some legal filled stands here
  have onward : place.map Leg.down ≠ [] := fun h => some (List.map_eq_nil_iff.mp h)
  rw [legs, starts]
  rcases steps with same | ⟨last, same, idle⟩
  · rw [same]
    exact continues_walk (.inl present) onward links _ lead
  · rw [same]
    by_cases directory : ∃ entries, disk.at? (startOf here written) = .some (.directory entries)
    · obtain ⟨entries, stood⟩ := directory
      rw [walk_of_idles stood idle]
      exact ⟨links, walk_idles stood (fun leg mem => idle leg (List.mem_append_left _ mem)) _⟩
    · have one : lead ++ [last] ≠ [] := List.append_ne_nil_of_right_ne_nil _ (List.cons_ne_nil _ _)
      rw [walk_nowhere (List.append_ne_nil_of_right_ne_nil _ onward) directory, walk_nowhere one directory]
      rfl

/-- No NUL is written below a root, where none is written for the root and names are legal. -/
theorem clean_below (clean : 0 ∉ written) (legal : ∀ name ∈ place, name.IsLegal) :
    0 ∉ leadOf root written ++ writtenNames place := by
  have lead : 0 ∉ leadOf root written := by
    unfold leadOf
    split
    · split
      · exact List.not_mem_nil
      · exact clean
    · simpa [slashByte] using clean
  have names : 0 ∉ writtenNames place := by
    unfold writtenNames
    induction place with
    | nil => exact List.not_mem_nil
    | cons name rest ih =>
      obtain ⟨first, others⟩ := List.forall_mem_cons.mp legal
      have tail := ih others
      cases rest with
      | nil => exact first.2.2.2.2
      | cons next more =>
        simp only [List.map_cons, joinWith, List.mem_append, not_or, List.mem_singleton] at tail ⊢
        exact ⟨⟨first.2.2.2.2, by decide⟩, tail⟩
  rw [List.mem_append, not_or]
  exact ⟨lead, names⟩

/-- **Paths below a root that are short enough** to be looked up, with names that are. -/
def FitsBelow (root : Path) (written : Encoding.Bytes) (place : Place) : Prop :=
  (leadOf root written).length + (writtenNames place).length < pathLimit ∧
    ∀ name ∈ place, name.bytes.length ≤ nameLimit

instance (root : Path) (written : Encoding.Bytes) (place : Place) : Decidable (FitsBelow root written place) :=
  inferInstanceAs (Decidable (_ ∧ _))

/-- **A path below a root leads to its names** below the place that the root leads to, if it is short
enough. -/
theorem locate_below {start : Place} {node : Node} (present : ending.mayMiss = false) (some : place ≠ [])
    (legal : ∀ name ∈ place, name.IsLegal) (filled : root.text.units ≠ [])
    (stands : FileName.bytesOf? root.text = .some written) (located : disk.locate .target root = .ok start)
    (found : disk.at? (start ++ place) = .some node) (taken : Takes ending node) :
    disk.locate ending (root.join ⟨.relative, place.map FileName.text⟩)
      = if FitsBelow root written place then .ok (start ++ place) else .error (.refused .nameTooLong) := by
  obtain ⟨_, same, clean, _, arrives⟩ := locate_eq_ok.mp located
  cases stands.symm.trans same
  have bytes := bytesOf?_below some stands
  have whole : 0 ∉ leadOf root written ++ writtenNames place := clean_below clean legal
  obtain ⟨left, walked⟩ := (continues_below present some legal filled stands _ _).onward arrives
  rw [walk_names present found fun _ => taken] at walked
  simp only [locate, bytesOf, bytesOfText, bytes, List.contains_iff_mem, whole, if_false, ok_bind,
    walked, List.length_append]
  by_cases long : pathLimit ≤ (leadOf root written).length + (writtenNames place).length
  · have none : ¬FitsBelow root written place := fun fits => Nat.not_lt.mpr long fits.1
    rw [if_pos long, if_neg none]
    rfl
  · have short := Nat.not_le.mp long
    rw [if_neg long]
    by_cases names : ∀ name ∈ place, name.bytes.length ≤ nameLimit
    · have fits : FitsBelow root written place := ⟨short, names⟩
      rw [if_pos names, if_pos fits]
      rfl
    · have none : ¬FitsBelow root written place := fun fits => names fits.2
      rw [if_neg names, if_neg none]
      rfl

/-- **A path below a root leads to what stands at its names**, if it can be looked up at all. -/
theorem find_below {start reached : Place} {node : Node} (some : place ≠ [])
    (legal : ∀ name ∈ place, name.IsLegal) (filled : root.text.units ≠ [])
    (located : disk.locate .target root = .ok start)
    (found : disk.at? (start ++ place) = .some node) (plain : ∀ target, node ≠ .link target)
    (entered : disk.locate .entry (root.join ⟨.relative, place.map FileName.text⟩) = .ok reached) :
    disk.find (root.join ⟨.relative, place.map FileName.text⟩) = .ok node := by
  obtain ⟨written, stands, _⟩ := locate_eq_ok.mp located
  have takes : Takes .target node := fun _ => plain
  have target := locate_below rfl some legal filled stands located found takes
  rw [locate_below rfl some legal filled stands located found (takes_entry node)] at entered
  split at entered
  · next fits =>
    rw [if_pos fits] at target
    exact find_eq_ok.mpr ⟨start ++ place, target, found⟩
  · cases entered

/-- A root is written as something if a path below it is. -/
theorem exists_written (some : place ≠ [])
    (stands : FileName.bytesOf? (root.join ⟨.relative, place.map FileName.text⟩).text = .some written) :
    ∃ lead, FileName.bytesOf? root.text = .some lead := by
  by_cases nameless : root.names = []
  · obtain ⟨anchor, names⟩ := root
    cases nameless
    cases anchor <;> exact ⟨_, rfl⟩
  · rw [text_below nameless some] at stands
    obtain ⟨lead, _, here, _⟩ := FileName.bytesOf?_of_append stands
    exact ⟨lead, here⟩

/-- A root can be looked up as it is written if a path below it can. -/
theorem fits_of_below (stands : FileName.bytesOf? root.text = .some written) {rest : Encoding.Bytes}
    (clean : 0 ∉ leadOf root written ++ rest) (short : (leadOf root written ++ rest).length < pathLimit) :
    0 ∉ written ∧ written.length < pathLimit := by
  by_cases nameless : root.names = []
  · rcases written_of_nameless nameless stands with ⟨_, rfl⟩ | ⟨_, rfl⟩ | ⟨_, rfl⟩ <;> decide
  · rw [leadOf, if_neg nameless, List.append_assoc] at clean short
    rw [List.length_append] at short
    exact ⟨fun mem => clean (List.mem_append_left _ mem), by omega⟩

/-- **A path below a root leads somewhere only if the root does**, and then down from there. -/
theorem locate_of_below {reached : Place} (present : ending.mayMiss = false) (some : place ≠ [])
    (legal : ∀ name ∈ place, name.IsLegal) (filled : root.text.units ≠ [])
    (arrives : disk.locate ending (root.join ⟨.relative, place.map FileName.text⟩) = .ok reached) :
    ∃ start left, disk.locate .target root = .ok start ∧
      walk disk ending left start (place.map .down) = .ok reached := by
  obtain ⟨whole, stands, clean, short, walked⟩ := locate_eq_ok.mp arrives
  obtain ⟨written, rooted⟩ := exists_written some stands
  cases (bytesOf?_below some rooted).symm.trans stands
  obtain ⟨start, left, first, onward⟩ :=
    (continues_below present some legal filled rooted linkLimit disk.here).from_middle walked
  obtain ⟨clean, short⟩ := fits_of_below rooted clean short
  exact ⟨start, left, locate_eq_ok.mpr ⟨written, rooted, clean, short, first⟩, onward⟩

end Below

end Paths

end Gameshelf.Disk
