import Gameshelf.Disk.Resolution
import Gameshelf.Proofs.Disk.Refusal
import Gameshelf.Proofs.Disk.Route

/-!
Resolving a path that leads somewhere. The resolution takes names by their wording and remembers the links that it
is in the middle of; a walk looks at what stands at each name and counts the links that it follows. Where the walk
arrives, they agree: the resolution never comes back to a link that it is in the middle of, for the walk would
have to follow that link again and again (`Journey.resolves`), and it settles at the place where the walk arrives
(`resolve_of_locate`).
-/

namespace Gameshelf

open Text Encoding

namespace Stand

variable {stand : Stand}

theorem place_down (stand : Stand) (name : FileName) (program : Place) :
    (stand.down name).place program = stand.place program ++ [name] := by
  obtain ⟨_ | steps, names⟩ := stand
  · rfl
  · exact (List.append_assoc _ _ _).symm

theorem place_up (stand : Stand) (program : Place) :
    stand.up.place program = (stand.place program).dropLast := by
  obtain ⟨above, names⟩ := stand
  obtain rfl | ⟨front, last, rfl⟩ := names.eq_nil_or_concat'
  · cases above with
    | none => rfl
    | some steps =>
      have fewer : min (program.length - steps) program.length - 1 = program.length - (steps + 1) := by omega
      simp only [up, List.isEmpty_nil, if_true, place, Option.map_some, List.append_nil, List.dropLast_eq_take,
        List.length_take, List.take_take, fewer]
      congr 1
      omega
  · have filled : (front ++ [last]).isEmpty = false := by simp
    cases above <;> simp [up, place, ← List.append_assoc]

theorem place_startOf (stand : Stand) (written : Bytes) (program : Place) :
    (stand.startOf written).place program = Disk.startOf (stand.place program) written := by
  unfold startOf Disk.startOf
  split <;> rfl

end Stand

namespace Disk

variable {disk : Disk} {place reached : Place} {legs : List Leg} {count : Nat}

section Journeys

/-- **A journey** takes steps from a place and arrives, and follows so many links on its way. Only directories can
be stepped from, and a link is followed to its end before the steps behind it are taken. -/
inductive Journey (disk : Disk) : Place → List Leg → Place → Nat → Prop
  | arrived {place : Place} : Journey disk place [] place 0
  | idle {place reached : Place} {leg : Leg} {rest : List Leg} {count : Nat} (stays : IsIdle leg)
      (onward : Journey disk place rest reached count) : Journey disk place (leg :: rest) reached count
  | up {place reached : Place} {rest : List Leg} {count : Nat}
      (onward : Journey disk place.dropLast rest reached count) : Journey disk place (.up :: rest) reached count
  | down {place reached : Place} {name : FileName} {rest : List Leg} {count : Nat}
      (plain : ∀ target, disk.at? (place ++ [name]) ≠ some (.link target))
      (onward : Journey disk (place ++ [name]) rest reached count) :
      Journey disk place (.down name :: rest) reached count
  | link {place next reached : Place} {name : FileName} {rest : List Leg} {target : Bytes} {within after : Nat}
      (stands : disk.at? (place ++ [name]) = some (.link target))
      (through : Journey disk (startOf place target) (legsOf target) next within)
      (onward : Journey disk next rest reached after) :
      Journey disk place (.down name :: rest) reached (within + after + 1)

namespace Journey

/-- A journey in two parts. -/
theorem split {first second : List Leg} (journey : Journey disk place (first ++ second) reached count) :
    ∃ middle before after, Journey disk place first middle before ∧ Journey disk middle second reached after ∧
      before + after = count := by
  induction first generalizing place count with
  | nil => exact ⟨place, 0, count, .arrived, journey, Nat.zero_add count⟩
  | cons leg rest ih =>
    rw [List.cons_append] at journey
    cases journey with
    | idle stays onward =>
      obtain ⟨middle, before, after, first, second, sum⟩ := ih onward
      exact ⟨middle, before, after, .idle stays first, second, sum⟩
    | up onward =>
      obtain ⟨middle, before, after, first, second, sum⟩ := ih onward
      exact ⟨middle, before, after, .up first, second, sum⟩
    | down plain onward =>
      obtain ⟨middle, before, after, first, second, sum⟩ := ih onward
      exact ⟨middle, before, after, .down plain first, second, sum⟩
    | link stands through onward =>
      obtain ⟨middle, before, after, first, second, sum⟩ := ih onward
      exact ⟨middle, _, after, .link stands through first, second, by omega⟩

theorem not_isIdle_up : ¬IsIdle .up := by
  rintro (same | same) <;> cases same

theorem not_isIdle_down (name : FileName) : ¬IsIdle (.down name) := by
  rintro (same | same) <;> cases same

/-- **There is one journey of steps from a place**: it arrives at one place and follows one number of links. -/
theorem unique {other : Place} {again : Nat} (journey : Journey disk place legs reached count)
    (another : Journey disk place legs other again) : reached = other ∧ count = again := by
  induction journey generalizing other again with
  | arrived =>
    cases another with
    | arrived => exact ⟨rfl, rfl⟩
  | idle stays _ ih =>
    cases another with
    | idle _ onward => exact ih onward
    | up => exact absurd stays not_isIdle_up
    | down | link => exact absurd stays (not_isIdle_down _)
  | up _ ih =>
    cases another with
    | idle stays => exact absurd stays not_isIdle_up
    | up onward => exact ih onward
  | down plain _ ih =>
    cases another with
    | idle stays => exact absurd stays (not_isIdle_down _)
    | down _ onward => exact ih onward
    | link stands => exact absurd stands (plain _)
  | link stands _ _ first second =>
    cases another with
    | idle stays => exact absurd stays (not_isIdle_down _)
    | down plain => exact absurd stands (plain _)
    | link again through onward =>
      cases stands.symm.trans again
      obtain ⟨rfl, rfl⟩ := first through
      obtain ⟨rfl, rfl⟩ := second onward
      exact ⟨rfl, rfl⟩

end Journey

/-- One stretch between links is a journey, if the walks through links are journeys with fewer links. -/
theorem journey_of_walkWith {follow : Place → List Leg → Except Refusal Place} {bound : Nat}
    (beyond : ∀ place legs reached, follow place legs = .ok reached →
      ∃ count < bound, Journey disk place legs reached count)
    (arrives : walkWith disk follow .target place legs = .ok reached) :
    ∃ count ≤ bound, Journey disk place legs reached count := by
  induction legs generalizing place with
  | nil =>
    cases Except.ok.inj arrives
    exact ⟨0, Nat.zero_le _, .arrived⟩
  | cons leg rest ih =>
    obtain ⟨entries, here⟩ := directory_of_walkWith arrives
    cases leg with
    | slash =>
      rw [walkWith_idle here (.inl rfl)] at arrives
      obtain ⟨count, few, onward⟩ := ih arrives
      exact ⟨count, few, .idle (.inl rfl) onward⟩
    | stay =>
      rw [walkWith_idle here (.inr rfl)] at arrives
      obtain ⟨count, few, onward⟩ := ih arrives
      exact ⟨count, few, .idle (.inr rfl) onward⟩
    | up =>
      simp only [walkWith, here] at arrives
      obtain ⟨count, few, onward⟩ := ih arrives
      exact ⟨count, few, .up onward⟩
    | down name =>
      rcases walkWith_down_cases arrives with ⟨plain, arrives⟩ | ⟨target, stands, followed⟩
      · obtain ⟨count, few, onward⟩ := ih arrives
        exact ⟨count, few, .down plain onward⟩
      · obtain ⟨count, fewer, whole⟩ := beyond _ _ _ followed
        obtain ⟨next, before, after, through, onward, sum⟩ := whole.split
        exact ⟨before + after + 1, by omega, .link stands through onward⟩

/-- **A walk that arrives is a journey** with no more links than it may follow. -/
theorem journey_of_walk {links : Nat} (arrives : walk disk .target links place legs = .ok reached) :
    ∃ count ≤ links, Journey disk place legs reached count := by
  induction links generalizing place legs reached with
  | zero => exact journey_of_walkWith (fun _ _ _ refused => by cases refused) arrives
  | succ links ih =>
    refine journey_of_walkWith (fun place legs reached followed => ?_) arrives
    obtain ⟨count, few, journey⟩ := ih followed
    exact ⟨count, Nat.lt_succ_of_le few, journey⟩

end Journeys

section Settling

variable {busy : List Stand} {stand : Stand} {rest : List Bytes} {name : Bytes} {depth : Nat}

theorem resolveDeep_nil : resolveDeep disk depth busy stand [] = .settled stand := by
  cases depth <;> rfl

theorem resolveDeep_idle (idle : IsIdle (Leg.ofName name)) :
    resolveDeep disk depth busy stand (name :: rest) = resolveDeep disk depth busy stand rest := by
  rcases idle with leg | leg <;> cases depth <;> simp only [resolveDeep, resolveWith, leg]

theorem resolveDeep_up (leg : Leg.ofName name = .up) :
    resolveDeep disk depth busy stand (name :: rest) = resolveDeep disk depth busy stand.up rest := by
  cases depth <;> simp only [resolveDeep, resolveWith, leg]

theorem resolveDeep_down {file : FileName} (leg : Leg.ofName name = .down file)
    (plain : ∀ target, disk.at? ((stand.down file).place disk.here) ≠ some (.link target)) :
    resolveDeep disk depth busy stand (name :: rest) = resolveDeep disk depth busy (stand.down file) rest := by
  cases depth <;> simp only [resolveDeep, resolveWith, leg]

theorem resolveDeep_link {file : FileName} {target : Bytes} (leg : Leg.ofName name = .down file)
    (stands : disk.at? ((stand.down file).place disk.here) = some (.link target)) (free : stand.down file ∉ busy)
    {reached : Stand}
    (settles : resolveDeep disk depth (stand.down file :: busy) (stand.startOf target)
      (splitAll (· == slashByte) target) = .settled reached) :
    resolveDeep disk (depth + 1) busy stand (name :: rest) = resolveDeep disk (depth + 1) busy reached rest := by
  have unbusy : busy.contains (stand.down file) = false :=
    Bool.eq_false_iff.mpr fun mem => free (List.contains_iff_mem.mp mem)
  simp only [resolveDeep, resolveWith, leg, stands, unbusy, settles, Bool.false_eq_true, if_false]

/-- **Links that a resolution is in the middle of** while so many links are still to be followed: the journey
through each of them follows at least as many. -/
def Outlast (disk : Disk) (busy : List Stand) (count : Nat) : Prop :=
  ∀ stand ∈ busy, ∀ place name target next within, stand.place disk.here = place ++ [name] →
    disk.at? (place ++ [name]) = some (.link target) →
    Journey disk (startOf place target) (legsOf target) next within → count ≤ within

theorem Outlast.mono {fewer : Nat} (outlast : Outlast disk busy count) (few : fewer ≤ count) :
    Outlast disk busy fewer :=
  fun stand mem place name target next within same stands through =>
    few.trans (outlast stand mem place name target next within same stands through)

/-- **A resolution settles where a journey arrives.** -/
theorem Journey.resolves (journey : Journey disk place legs reached count) {names : List Bytes}
    (steps : names.map Leg.ofName = legs) (starts : stand.place disk.here = place)
    (outlast : Outlast disk busy count) (deep : count ≤ depth) :
    ∃ settled, resolveDeep disk depth busy stand names = .settled settled ∧ settled.place disk.here = reached := by
  induction journey generalizing names stand busy depth with
  | arrived =>
    cases List.map_eq_nil_iff.mp steps
    exact ⟨stand, resolveDeep_nil, starts⟩
  | idle stays _ ih =>
    obtain ⟨name, rest, rfl, rfl, rfl⟩ := List.map_eq_cons_iff.mp steps
    rw [resolveDeep_idle stays]
    exact ih rfl starts outlast deep
  | up _ ih =>
    obtain ⟨name, rest, rfl, leg, rfl⟩ := List.map_eq_cons_iff.mp steps
    rw [resolveDeep_up leg]
    exact ih rfl (by rw [Stand.place_up, starts]) outlast deep
  | @down place reached file restLegs count plain _ ih =>
    obtain ⟨name, rest, rfl, leg, rfl⟩ := List.map_eq_cons_iff.mp steps
    have next : (stand.down file).place disk.here = place ++ [file] := by rw [Stand.place_down, starts]
    rw [resolveDeep_down leg (by rw [next]; exact plain)]
    exact ih rfl next outlast deep
  | @link place next reached file restLegs target within after stands through onward first second =>
    obtain ⟨name, rest, rfl, leg, rfl⟩ := List.map_eq_cons_iff.mp steps
    have here : (stand.down file).place disk.here = place ++ [file] := by rw [Stand.place_down, starts]
    obtain ⟨depth, rfl⟩ : ∃ d, depth = d + 1 := ⟨depth - 1, by omega⟩
    -- A link that is busy takes more links than are left.
    have free : stand.down file ∉ busy := by
      intro mem
      have many := outlast _ mem _ _ _ _ _ here stands through
      omega
    have outlastWithin : Outlast disk (stand.down file :: busy) within := by
      refine List.forall_mem_cons.mpr ⟨?_, outlast.mono (by omega)⟩
      intro directory link held next' within' same holds again
      obtain ⟨rfl, rfl⟩ := List.append_singleton_inj.mp (here.symm.trans same)
      cases stands.symm.trans holds
      exact (through.unique again).2.le
    obtain ⟨middle, settles, arrives⟩ : ∃ settled, resolveDeep disk depth (stand.down file :: busy)
        (stand.startOf target) (splitAll (· == slashByte) target) = .settled settled ∧
          settled.place disk.here = next :=
      first rfl (by rw [Stand.place_startOf, starts]) outlastWithin (by omega)
    rw [resolveDeep_link leg (by rw [here]; exact stands) free settles]
    exact second rfl arrives (outlast.mono (by omega)) (by omega)

end Settling

section Writing

theorem wordedWalk_ups (place : Place) (steps : Nat) (rest : List Leg) :
    wordedWalk place (List.replicate steps .up ++ rest) = wordedWalk (place.take (place.length - steps)) rest := by
  induction steps generalizing place with
  | zero => rw [Nat.sub_zero, List.take_length]; rfl
  | succ steps ih =>
    have fewer : min (place.length - 1 - steps) (place.length - 1) = place.length - (steps + 1) := by omega
    rw [List.replicate_succ, List.cons_append, wordedWalk, ih, List.length_dropLast, List.dropLast_eq_take,
      List.take_take, fewer]

theorem wordedWalk_downs (place names : Place) : wordedWalk place (names.map .down) = place ++ names := by
  induction names generalizing place with
  | nil => exact (List.append_nil place).symm
  | cons name rest ih => rw [List.map_cons, wordedWalk, ih, List.append_assoc, List.singleton_append]

/-- **A piece of a written path**: something, without slashes. -/
def IsPiece (piece : Bytes) : Prop :=
  piece ≠ [] ∧ slashByte ∉ piece

theorem head?_joinWith {pieces : List Bytes} (each : ∀ piece ∈ pieces, IsPiece piece) :
    (joinWith [slashByte] pieces).head? ≠ some slashByte := by
  cases pieces with
  | nil => exact nofun
  | cons piece rest =>
    obtain ⟨filled, unslashed⟩ := each piece List.mem_cons_self
    obtain ⟨b, bytes, rfl⟩ := List.exists_cons_of_ne_nil filled
    intro first
    have same : b = slashByte := by cases rest <;> exact Option.some.inj first
    exact unslashed (same ▸ List.mem_cons_self)

theorem legsOf_joinWith_pieces {pieces : List Bytes} (nonempty : pieces ≠ [])
    (each : ∀ piece ∈ pieces, IsPiece piece) :
    legsOf (joinWith [slashByte] pieces) = pieces.map Leg.ofName := by
  have cut : splitAll (· == slashByte) (joinWith [slashByte] pieces) = pieces :=
    splitAll_joinWith (p := (· == slashByte)) rfl nonempty fun piece mem b here =>
      beq_eq_false_iff_ne.mpr fun same => (each piece mem).2 (same ▸ here)
  rw [legsOf, cut]

theorem takeWhile_slash_of_head? {written : Bytes} (head : written.head? ≠ some slashByte) :
    written.takeWhile (· == slashByte) = [] := by
  cases written with
  | nil => rfl
  | cons b bytes => exact List.takeWhile_cons_of_neg fun same => head (by rw [eq_of_beq same]; rfl)

/-- The path of a wording that begins with one slash at most. -/
theorem wordedOf_eq {written : Bytes} {slashes : Nat} (few : slashes < 2)
    (begins : (written.takeWhile (· == slashByte)).length = slashes) :
    disk.wordedOf written = pathOf (wordedWalk (startOf disk.here written) (legsOf written)) := by
  have single : Path.anchorOf slashes ≠ .doubleRoot := by
    unfold Path.anchorOf
    split
    · exact nofun
    · rw [if_neg (by omega)]
      exact nofun
  unfold wordedOf
  rw [begins]
  dsimp only
  split
  · next anchor => exact absurd anchor single
  · rfl

/-- The steps of the names between slashes, from where they start. -/
theorem wordedWalk_joinWith {pieces : List Bytes} (each : ∀ piece ∈ pieces, IsPiece piece) (place : Place) :
    wordedWalk place (legsOf (joinWith [slashByte] pieces)) = wordedWalk place (pieces.map Leg.ofName) := by
  cases pieces with
  | nil => rfl
  | cons piece rest => rw [legsOf_joinWith_pieces (List.cons_ne_nil _ _) each]

section Names

variable {names : List FileName} (legal : ∀ name ∈ names, name.IsLegal)
include legal

theorem isPiece_of_legal : ∀ piece ∈ names.map FileName.bytes, IsPiece piece := by
  intro piece mem
  obtain ⟨name, listed, rfl⟩ := List.mem_map.mp mem
  obtain ⟨filled, -, -, unslashed, -⟩ := legal name listed
  exact ⟨filled, unslashed⟩

theorem downs_of_legal : (names.map FileName.bytes).map Leg.ofName = names.map .down := by
  rw [List.map_map]
  exact List.map_congr_left fun name mem => Leg.ofName_bytes (legal name mem)

/-- Names below the root are worded as they stand. -/
theorem wordedOf_belowRoot : disk.wordedOf (Stand.mk none names).written = pathOf names := by
  have pieces := isPiece_of_legal legal
  have written : (Stand.mk none names).written = slashByte :: joinWith [slashByte] (names.map FileName.bytes) := rfl
  have begins : ((Stand.mk none names).written.takeWhile (· == slashByte)).length = 1 := by
    rw [written, List.takeWhile_cons, if_pos BEq.rfl, takeWhile_slash_of_head? (head?_joinWith pieces)]
    rfl
  have legs : legsOf (Stand.mk none names).written
      = .slash :: legsOf (joinWith [slashByte] (names.map FileName.bytes)) := legsOf_append [] _
  rw [wordedOf_eq (by decide) begins, legs, wordedWalk, wordedWalk_joinWith pieces, downs_of_legal legal,
    wordedWalk_downs]
  rfl

/-- Names below a directory above the program are worded from where the program stands. -/
theorem wordedOf_belowHere (steps : Nat) :
    disk.wordedOf (Stand.mk (some steps) names).written
      = pathOf (disk.here.take (disk.here.length - steps) ++ names) := by
  have pieces : ∀ piece ∈ List.replicate steps [dotByte, dotByte] ++ names.map FileName.bytes, IsPiece piece := by
    intro piece mem
    rcases List.mem_append.mp mem with dots | name
    · rw [List.eq_of_mem_replicate dots]
      exact ⟨nofun, by decide⟩
    · exact isPiece_of_legal legal piece name
  have written : (Stand.mk (some steps) names).written
      = joinWith [slashByte] (List.replicate steps [dotByte, dotByte] ++ names.map FileName.bytes) := rfl
  have starts : startOf disk.here (Stand.mk (some steps) names).written = disk.here :=
    if_neg fun head => head?_joinWith pieces (eq_of_beq head)
  have begins : ((Stand.mk (some steps) names).written.takeWhile (· == slashByte)).length = 0 := by
    rw [written, takeWhile_slash_of_head? (head?_joinWith pieces)]
    rfl
  have ups : (List.replicate steps [dotByte, dotByte]).map Leg.ofName = List.replicate steps .up :=
    List.map_replicate
  rw [wordedOf_eq (by decide) begins, starts, written, wordedWalk_joinWith pieces, List.map_append, ups,
    downs_of_legal legal, wordedWalk_ups, wordedWalk_downs]

end Names

/-- **A path without links names its place** by its wording. -/
theorem wordedOf_written {stand : Stand} (legal : ∀ name ∈ stand.names, name.IsLegal) :
    disk.wordedOf stand.written = pathOf (stand.place disk.here) := by
  obtain ⟨_ | steps, names⟩ := stand
  · exact wordedOf_belowRoot legal
  · exact wordedOf_belowHere legal steps

end Writing

section Resolving

variable {entries : List (FileName × Node)}

/-- **A place is short enough** for its absolute path to be looked up. -/
def FitsWhole (place : Place) : Prop :=
  FitsBelow ⟨.root, []⟩ [slashByte] place

instance (place : Place) : Decidable (FitsWhole place) :=
  inferInstanceAs (Decidable (FitsBelow _ _ _))

/-- Nothing but slashes leads to the root. -/
theorem locate_root (here : disk.at? [] = some (.directory entries)) : disk.locate .target ⟨.root, []⟩ = .ok [] := by
  have idle : ∀ leg ∈ [Leg.slash, .slash], IsIdle leg := fun _ mem => .inl (by simpa using mem)
  exact locate_eq_ok.mpr ⟨[slashByte], rfl, by decide, by decide, walk_of_idles here idle⟩

/-- **The absolute path of a directory leads to it**, if it is short enough. -/
theorem locate_pathOf (tree : disk.root.IsTree) (found : disk.at? place = some (.directory entries)) :
    disk.locate .target (pathOf place)
      = if FitsWhole place then .ok place else .error (.refused .nameTooLong) := by
  by_cases isRoot : place = []
  · subst isRoot
    exact locate_root found
  · obtain ⟨name, rest, rfl⟩ := List.exists_cons_of_ne_nil isRoot
    have under : disk.at? ([] ++ name :: rest) = some (.directory entries) := found
    obtain ⟨above, _, here, -⟩ := exists_directory under
    have filled : (Path.mk .root []).text.units ≠ [] := by decide
    have stands : FileName.bytesOf? (Path.mk .root []).text = some [slashByte] := rfl
    have takes : Takes .target (.directory entries) := fun _ => nofun
    have below := locate_below rfl isRoot (tree.at? found).2 filled stands (locate_root here) found takes
    by_cases fits : FitsBelow ⟨.root, []⟩ [slashByte] (name :: rest)
    · rw [if_pos fits] at below
      rw [if_pos (show FitsWhole (name :: rest) from fits)]
      exact below
    · rw [if_neg fits] at below
      rw [if_neg (show ¬FitsWhole (name :: rest) from fits)]
      exact below

/-- **A path that leads to a directory resolves to its place.** -/
theorem resolve_of_locate [Stack] {path : Path} (tree : disk.root.IsTree)
    (located : disk.locate .target path = .ok place) (found : disk.at? place = some (.directory entries)) :
    disk.resolve path = .ok (pathOf place) := by
  obtain ⟨written, stands, clean, -, walked⟩ := locate_eq_ok.mp located
  obtain ⟨count, few, journey⟩ := journey_of_walk walked
  have starts : (Stand.here.startOf written).place disk.here = startOf disk.here written := by
    have own : Stand.here.place disk.here = disk.here := by simp [Stand.here, Stand.place]
    rw [Stand.place_startOf, own]
  obtain ⟨settled, settles, arrives⟩ : ∃ settled, resolveDeep disk Stack.links [] (Stand.here.startOf written)
      (splitAll (· == slashByte) written) = .settled settled ∧ settled.place disk.here = place :=
    journey.resolves rfl starts (fun _ none => nomatch none) (few.trans Stack.links_fit)
  have legal : ∀ name ∈ settled.names, name.IsLegal := by
    intro name mem
    refine (tree.at? found).2 name ?_
    rw [← arrives, Stand.place]
    split
    · exact mem
    · exact List.mem_append_right _ mem
  have resolved : disk.wordedOf (disk.resolveWritten written).written = pathOf place := by
    rw [resolveWritten, settles, Resolution.written, wordedOf_written legal, arrives]
  have loopless : disk.find (pathOf place) ≠ .error (.refused .tooManyLinks) := by
    intro loop
    unfold find at loop
    rw [locate_pathOf tree found] at loop
    split at loop
    · rw [ok_bind, found] at loop
      cases loop
    · cases loop
  simp only [resolve, bytesOf_eq_ok.mpr ⟨stands, clean⟩, Except.mapError, ok_bind, resolved]
  rfl

end Resolving

end Disk

end Gameshelf
