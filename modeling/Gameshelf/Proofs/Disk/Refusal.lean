import Gameshelf.Proofs.Disk.Change

/-!
Paths that can be named: bytes stand for their text, without a NUL. Nothing but the disk itself refuses them
(`refused_of_find`), and where it is asked what is there, it refuses for absence or for length alone
(`holds_crash_iff`). So a file is put in place at such a path, and the directories above it are made, unless the
disk refuses it (`refusedAtMost_replaceFile`, `refusedAtMost_makeDirectories`): no fault of another kind comes up
halfway.
-/

namespace Gameshelf

open Text

namespace Path

/-- **A path can be named**: bytes stand for it, and no NUL is among them. -/
def Nameable (path : Path) : Prop :=
  ∃ written, FileName.bytesOf? path.text = some written ∧ 0 ∉ written

/-- What is above a path can be named if the path can. -/
theorem Nameable.front {anchor : Anchor} {names more : List LooseText}
    (nameable : (Path.mk anchor (names ++ more)).Nameable) : (Path.mk anchor names).Nameable := by
  by_cases some : names = []
  · subst some
    cases anchor with
    | relative => exact ⟨[dotByte], rfl, by decide⟩
    | root => exact ⟨[slashByte], rfl, by decide⟩
    | doubleRoot => exact ⟨[slashByte, slashByte], rfl, by decide⟩
  · by_cases others : more = []
    · rwa [others, List.append_nil] at nameable
    · obtain ⟨written, stands, clean⟩ := nameable
      rw [text_append some others] at stands
      obtain ⟨first, second, here, -, rfl⟩ := FileName.bytesOf?_of_append stands
      exact ⟨first, here, fun nul => clean (List.mem_append_left _ nul)⟩

/-- The last name of a path can be named if the path can. -/
theorem Nameable.last {anchor : Anchor} {names : List LooseText} {last : LooseText}
    (nameable : (Path.mk anchor (names ++ [last])).Nameable) : (Path.mk .relative [last]).Nameable := by
  obtain ⟨written, stands, clean⟩ := nameable
  have alone : (Path.mk .relative [last]).text = last := text_relative last []
  rw [Nameable, alone]
  rcases text_concat anchor names last with whole | ⟨before, whole⟩
  · exact ⟨written, whole ▸ stands, clean⟩
  · rw [whole] at stands
    obtain ⟨first, second, -, there, rfl⟩ := FileName.bytesOf?_of_append stands
    exact ⟨second, there, fun nul => clean (by simp [nul])⟩

/-- The name of a path can be named alone if the path can. -/
theorem Nameable.name {path : Path} (nameable : path.Nameable) : (Path.mk .relative [path.name]).Nameable := by
  obtain ⟨anchor, names⟩ := path
  obtain rfl | ⟨front, last, rfl⟩ := names.eq_nil_or_concat'
  · exact ⟨[], rfl, List.not_mem_nil⟩
  · rw [Path.name, List.getLast?_concat]
    exact nameable.last

theorem Nameable.parent {path : Path} (nameable : path.Nameable) : path.parent.Nameable := by
  obtain ⟨anchor, names⟩ := path
  obtain rfl | ⟨front, last, rfl⟩ := names.eq_nil_or_concat'
  · exact nameable
  · rw [Path.parent, List.dropLast_concat]
    exact nameable.front

end Path

namespace Disk

variable {disk : Disk} {ending : Ending} {path : Path} {fault : Fault}

section Nameable

/-- **What can be named is refused at most.** -/
theorem refused_of_locate (nameable : path.Nameable) (failed : disk.locate ending path = .error fault) :
    ∃ refusal, fault = .refused refusal := by
  obtain ⟨written, stands⟩ := nameable
  rw [locate, bytesOf_eq_ok.mpr stands, ok_bind] at failed
  split at failed
  · cases failed
    exact ⟨_, rfl⟩
  · cases walked : walk disk ending linkLimit (startOf disk.here written) (legsOf written) with
    | ok place => rw [walked] at failed; cases failed
    | error refusal => rw [walked] at failed; cases failed; exact ⟨refusal, rfl⟩

theorem refused_of_find (nameable : path.Nameable) (failed : disk.find path = .error fault) :
    ∃ refusal, fault = .refused refusal := by
  unfold find at failed
  rcases bind_eq_error.mp failed with refused | ⟨place, _, absent⟩
  · exact refused_of_locate nameable refused
  · split at absent
    · cases absent
    · cases absent
      exact ⟨_, rfl⟩

/-- Paths that lead somewhere can be named. -/
theorem nameable_of_locate {place : Place} (arrives : disk.locate ending path = .ok place) : path.Nameable := by
  obtain ⟨written, stands, clean, -⟩ := locate_eq_ok.mp arrives
  exact ⟨written, stands, clean⟩

/-- Paths of legal names can be named. -/
theorem nameable_pathOf {place : Place} (legal : ∀ name ∈ place, name.IsLegal) : (pathOf place).Nameable := by
  have stands : FileName.bytesOf? (Path.mk .root []).text = some [slashByte] := rfl
  by_cases some : place = []
  · subst some
    exact ⟨_, stands, by decide⟩
  · have whole := bytesOf?_below some stands
    have clean : 0 ∉ [slashByte] := by decide
    exact ⟨_, whole, clean_below clean legal⟩

end Nameable

section Presence

variable {follow : Place → List Leg → Except Refusal Place} {place : Place} {legs : List Leg} {refusal : Refusal}

/-- A walk to what is there is refused since nothing is there, or for a name that is too long; so it is if the walks
through links are. -/
theorem refusal_of_walkWith (beyond : ∀ place legs refusal, follow place legs = .error refusal →
      meansAbsent refusal = true ∨ refusal = .nameTooLong)
    (refused : walkWith disk follow .target place legs = .error refusal) :
    meansAbsent refusal = true ∨ refusal = .nameTooLong := by
  induction legs generalizing place with
  | nil => cases refused
  | cons leg rest ih =>
    by_cases stands : ∃ entries, disk.at? place = some (.directory entries)
    · obtain ⟨entries, here⟩ := stands
      cases leg with
      | slash => exact ih (walkWith_idle here (.inl rfl) ▸ refused)
      | stay => exact ih (walkWith_idle here (.inr rfl) ▸ refused)
      | up =>
        simp only [walkWith, here] at refused
        exact ih refused
      | down name =>
        cases named : entries.lookup name with
        | none =>
          rw [walkWith_absent (.inl rfl) here named] at refused
          split at refused
          · exact .inr (Except.error.inj refused).symm
          · cases refused
            exact .inl rfl
        | some node =>
          by_cases link : ∃ target, node = .link target
          · obtain ⟨target, rfl⟩ := link
            rw [walkWith_link (.inl rfl) here named (Bool.and_false _)] at refused
            split at refused
            · exact .inr (Except.error.inj refused).symm
            · exact beyond _ _ _ refused
          · rw [walkWith_down (.inl rfl) here named fun target same => absurd ⟨target, same⟩ link] at refused
            split at refused
            · exact .inr (Except.error.inj refused).symm
            · exact ih refused
    · rw [walkWith_nowhere stands] at refused
      cases refused
      exact .inl rfl

theorem refusal_of_walk {links : Nat} (refused : walk disk .target links place legs = .error refusal) :
    meansAbsent refusal = true ∨ refusal = .nameTooLong := by
  induction links generalizing place legs refusal with
  | zero =>
    refine refusal_of_walkWith (fun _ _ _ followed => ?_) refused
    cases followed
    exact .inl rfl
  | succ links ih => exact refusal_of_walkWith (fun _ _ _ followed => ih followed) refused

/-- No disk has a say in how a path is written. -/
theorem bytesOf_ne_refused (refusal : Refusal) : bytesOf path ≠ .error (.refused refusal) := by
  unfold bytesOf bytesOfText
  split
  · exact nofun
  · split <;> exact nofun

/-- **The disk finds a path too long**: the path itself, or a name on the way. -/
def TooLong (disk : Disk) (path : Path) : Prop :=
  disk.find path = .error (.refused .nameTooLong)

/-- What is looked for is refused since nothing is there, or for its length. -/
theorem refusal_of_find (refused : disk.find path = .error (.refused refusal)) :
    meansAbsent refusal = true ∨ refusal = .nameTooLong := by
  unfold find at refused
  rcases bind_eq_error.mp refused with lost | ⟨place, _, absent⟩
  · unfold locate at lost
    rcases bind_eq_error.mp lost with unwritten | ⟨written, _, lost⟩
    · exact absurd unwritten (bytesOf_ne_refused refusal)
    · split at lost
      · cases lost
        exact .inr rfl
      · cases walked : walk disk .target linkLimit (startOf disk.here written) (legsOf written) with
        | ok place => rw [walked] at lost; cases lost
        | error own =>
          rw [walked] at lost
          cases lost
          exact refusal_of_walk walked
  · split at absent
    · cases absent
    · cases absent
      exact .inl rfl

/-- **Asking what is there crashes for length alone.** -/
theorem holds_crash_iff {test : Node → Bool} :
    (∃ crash, disk.holds test path = .error crash) ↔ disk.TooLong path := by
  unfold holds TooLong
  cases found : disk.find path with
  | ok node => exact ⟨nofun, nofun⟩
  | error fault =>
    cases fault with
    | embeddedNul | unencodable => exact ⟨nofun, nofun⟩
    | refused refusal =>
      rcases refusal_of_find found with absent | rfl
      · dsimp only
        rw [if_pos absent]
        refine iff_of_false nofun fun long => ?_
        cases long
        cases absent
      · exact iff_of_true ⟨_, rfl⟩ rfl

end Presence

section Worded

/-- Steps are along legal names, where no NUL is written. -/
theorem isLegal_of_mem_legsOf {written : Encoding.Bytes} (clean : 0 ∉ written) {name : FileName}
    (mem : .down name ∈ legsOf written) : name.IsLegal := by
  obtain ⟨piece, part, leg⟩ := List.mem_map.mp mem
  have unslashed : slashByte ∉ piece := fun slash => by simpa using clean_of_mem_splitAll part _ slash
  have unnulled : 0 ∉ piece := fun nul => clean (subset_of_mem_splitAll part nul)
  unfold Leg.ofName at leg
  split at leg
  · cases leg
  · next filled =>
    split at leg
    · cases leg
    · next stay =>
      split at leg
      · cases leg
      · next up =>
        cases leg
        exact ⟨by simpa using filled, by simpa using stay, by simpa using up, unslashed, unnulled⟩

/-- Steps along legal names from a place of legal names lead to one. -/
theorem isLegal_of_mem_wordedWalk {place : Place} {legs : List Leg} (start : ∀ name ∈ place, name.IsLegal)
    (legal : ∀ name, .down name ∈ legs → name.IsLegal) : ∀ name ∈ wordedWalk place legs, name.IsLegal := by
  induction legs generalizing place with
  | nil => exact start
  | cons leg rest ih =>
    have later : ∀ name, .down name ∈ rest → name.IsLegal := fun name mem => legal name (List.mem_cons_of_mem _ mem)
    cases leg with
    | slash | stay => exact ih start later
    | up => exact ih (fun name mem => start name (List.dropLast_subset place mem)) later
    | down first =>
      refine ih (fun name mem => ?_) later
      rcases List.mem_append.mp mem with before | here
      · exact start name before
      · rw [List.mem_singleton.mp here]
        exact legal first List.mem_cons_self

/-- **A path that can be named names another by its wording**, which can be named as well. -/
theorem exists_worded (here : ∀ name ∈ disk.here, name.IsLegal) (nameable : path.Nameable) :
    ∃ worded, disk.worded path = .ok worded ∧ worded.Nameable := by
  obtain ⟨written, stands, clean⟩ := nameable
  refine ⟨_, by rw [worded, bytesOf_eq_ok.mpr ⟨stands, clean⟩, ok_bind]; rfl, nameable_pathOf ?_⟩
  refine isLegal_of_mem_wordedWalk ?_ fun name mem => isLegal_of_mem_legsOf clean mem
  unfold startOf
  split
  · exact nofun
  · exact here

end Worded

end Disk

namespace Change

variable {α β : Type} {here : Place} {path : Path}

/-- What failed may be made up for by another change, on the disk that it left. -/
theorem make_tryCatch (change : Change α) (handler : Fault → Change α) (disk : Disk) :
    (tryCatch change handler).make disk
      = match change.make disk with
        | (.ok a, middle) => (.ok a, middle)
        | (.error fault, middle) => (handler fault).make middle := by
  have run : change.make disk = StateT.run change disk := rfl
  rw [run]
  simp only [make, MonadExcept.tryCatch, tryCatchThe, MonadExceptOf.tryCatch, ExceptT.tryCatch, ExceptT.run_mk,
    StateT.run_bind]
  rcases StateT.run change disk with ⟨_ | _, _⟩ <;> rfl

/-- **A change that is refused at most**, made by a program that stands at a place: the disk alone stands in its
way, and the program stays where it is. -/
def RefusedAtMost (here : Place) (change : Change α) : Prop :=
  ∀ disk : Disk, disk.here = here →
    (change.make disk).2.here = here ∧
      ∀ fault, (change.make disk).1 = .error fault → ∃ refusal, fault = .refused refusal

namespace RefusedAtMost

theorem pure (a : α) : RefusedAtMost here (Pure.pure a : Change α) :=
  fun _ same => ⟨same, nofun⟩

theorem throw (refusal : Refusal) : RefusedAtMost here (throw (.refused refusal) : Change α) :=
  fun _ same => ⟨same, fun _ failed => ⟨refusal, (Except.error.inj failed).symm⟩⟩

theorem bind {change : Change α} {next : α → Change β} (first : RefusedAtMost here change)
    (second : ∀ a, RefusedAtMost here (next a)) : RefusedAtMost here (change >>= next) := by
  intro disk same
  obtain ⟨stays, refused⟩ := first disk same
  rw [make_bind]
  rcases made : change.make disk with ⟨fault | a, middle⟩
  · rw [made] at stays refused
    exact ⟨stays, fun _ failed => refused _ (congrArg _ (Except.error.inj failed))⟩
  · rw [made] at stays
    exact second a middle stays

/-- What was refused may be made up for by another change. -/
theorem tryCatch {change : Change α} {handler : Fault → Change α} (first : RefusedAtMost here change)
    (second : ∀ refusal, RefusedAtMost here (handler (.refused refusal))) :
    RefusedAtMost here (tryCatch change handler) := by
  intro disk same
  obtain ⟨stays, refused⟩ := first disk same
  rw [make_tryCatch]
  rcases made : change.make disk with ⟨fault | a, middle⟩
  · rw [made] at stays refused
    obtain ⟨refusal, rfl⟩ := refused fault rfl
    exact second refusal middle stays
  · rw [made] at stays
    exact ⟨stays, nofun⟩

/-- The disk is looked at, and the program stays. -/
theorem look {next : Disk → Change α}
    (second : ∀ disk : Disk, disk.here = here → RefusedAtMost here (next disk)) :
    RefusedAtMost here (getThe Disk >>= next) :=
  fun disk same => second disk same disk same

theorem ask {question : Disk → Except Fault α}
    (refused : ∀ disk : Disk, disk.here = here →
      ∀ fault, question disk = .error fault → ∃ refusal, fault = .refused refusal) :
    RefusedAtMost here (ask question) := by
  refine .look fun disk same => ?_
  cases answer : question disk with
  | ok a => exact .pure a
  | error fault =>
    obtain ⟨refusal, rfl⟩ := refused disk same fault answer
    exact .throw refusal

theorem put (place : Place) (node : Node) : RefusedAtMost here (modifyThe Disk (·.put place node) : Change Unit) :=
  fun _ same => ⟨same, nofun⟩

theorem erase (place : Place) : RefusedAtMost here (modifyThe Disk (·.erase place) : Change Unit) :=
  fun _ same => ⟨same, nofun⟩

theorem locate {ending : Ending} (nameable : path.Nameable) : RefusedAtMost here (locate ending path) :=
  ask fun _ _ _ failed => Disk.refused_of_locate nameable failed

end RefusedAtMost

section Directories

theorem refusedAtMost_makeDirectory (nameable : path.Nameable) : RefusedAtMost here (makeDirectory path) := by
  refine .bind (.locate nameable) fun place => .look fun disk _ => ?_
  split
  · exact .throw _
  · exact .put _ _

theorem refusedAtMost_unlessDirectory (nameable : path.Nameable) (refusal : Refusal) :
    RefusedAtMost here (unlessDirectory path (.refused refusal)) := by
  refine .look fun disk _ => ?_
  cases found : disk.find path with
  | ok node =>
    cases node with
    | directory => exact .pure ()
    | file | link | special => exact .throw refusal
  | error fault =>
    obtain ⟨other, rfl⟩ := Disk.refused_of_find nameable found
    dsimp only
    split
    · exact .throw refusal
    · exact .throw other

theorem refusedAtMost_ensureDirectory (nameable : path.Nameable) : RefusedAtMost here (ensureDirectory path) :=
  .tryCatch (refusedAtMost_makeDirectory nameable) (refusedAtMost_unlessDirectory nameable)

theorem refusedAtMost_ensureDirectories {anchor : Anchor} {names : List LooseText}
    (nameable : (Path.mk anchor names.reverse).Nameable) : RefusedAtMost here (ensureDirectories anchor names) := by
  induction names with
  | nil => exact refusedAtMost_ensureDirectory nameable
  | cons first rest ih =>
    have above : (Path.mk anchor rest.reverse).Nameable := Path.Nameable.front (List.reverse_cons ▸ nameable)
    refine .tryCatch (refusedAtMost_makeDirectory nameable) fun refusal => ?_
    cases refusal with
    | noEntry => exact .bind (ih above) fun _ => refusedAtMost_ensureDirectory nameable
    | _ => exact refusedAtMost_unlessDirectory nameable _

/-- **Directories are made above a path that can be named**, unless the disk refuses it. -/
theorem refusedAtMost_makeDirectories (nameable : path.Nameable) : RefusedAtMost here (makeDirectories path) := by
  refine refusedAtMost_ensureDirectories ?_
  rwa [List.reverse_reverse]

end Directories

section Files

variable {content : Encoding.Bytes}

theorem refusedAtMost_putTemporary (legal : ∀ name ∈ here, name.IsLegal) (nameable : path.Nameable) :
    RefusedAtMost here (putTemporary path content) := by
  have named : RefusedAtMost here (Change.ask fun _ => Disk.bytesOf ⟨.relative, [path.name]⟩) := by
    obtain ⟨written, stands⟩ := nameable.name
    refine .ask fun _ _ fault failed => ?_
    cases (Disk.bytesOf_eq_ok.mpr stands).symm.trans failed
  have found : RefusedAtMost here (Change.ask fun disk => do disk.locate .target (← disk.worded path.parent)) := by
    refine .ask fun disk same fault failed => ?_
    obtain ⟨worded, stands, above⟩ := Disk.exists_worded (same ▸ legal) nameable.parent
    rw [stands, ok_bind] at failed
    exact Disk.refused_of_locate above failed
  refine .bind named fun name => .bind found fun directory => .look fun disk _ => ?_
  split
  · dsimp only
    split
    · exact .throw _
    · exact .bind (.put _ _) fun _ => .pure _
  · exact .throw _

theorem refusedAtMost_rename (nameable : path.Nameable) (source : Place) :
    RefusedAtMost here (rename source path content) := by
  unfold rename
  split
  case' isTrue => refine .bind (.throw _) fun _ => ?_
  all_goals
    refine .bind (.locate nameable) fun place => .look fun disk _ => ?_
    split
    · exact .throw _
    · exact .bind (.erase _) fun _ => .put _ _

/-- **A file is put in place at a path that can be named**, unless the disk refuses it. -/
theorem refusedAtMost_replaceFile (legal : ∀ name ∈ here, name.IsLegal) (nameable : path.Nameable) :
    RefusedAtMost here (replaceFile path content) :=
  .bind (refusedAtMost_putTemporary legal nameable) fun temporary => refusedAtMost_rename nameable temporary

end Files

end Change

end Gameshelf
