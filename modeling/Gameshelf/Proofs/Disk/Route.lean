import Gameshelf.Proofs.Disk.Walk

/-!
Routes. The names of a path lead from a place one after the other: down the tree as long as they name no
links, and through each link to where it leads (`Route`). What a path below a root arrives at is where the
route of its names from that root's place ends (`route_of_locate`). Without links a route goes straight
down (`Route.straight`), and one that does not end below a place it starts at has left that place through a
link (`Route.inside_or_leaves`).
-/

namespace Gameshelf.Disk

/-- **A link leads to a place** from the directory it stands in. -/
def Leads (disk : Disk) (directory : Place) (name : FileName) (next : Place) : Prop :=
  ∃ target links, disk.at? (directory ++ [name]) = some (.link target) ∧
    walk disk .target links (startOf directory target) (legsOf target) = .ok next

/-- **The route of names from a place.** -/
inductive Route (disk : Disk) : Place → List FileName → Place → Prop
  | arrived {place : Place} : Route disk place [] place
  | down {place reached : Place} {name : FileName} {rest : List FileName}
      (plain : ∀ target, disk.at? (place ++ [name]) ≠ some (.link target))
      (onward : Route disk (place ++ [name]) rest reached) : Route disk place (name :: rest) reached
  | link {place next reached : Place} {name : FileName} {rest : List FileName}
      (leads : Leads disk place name next) (onward : Route disk next rest reached) :
      Route disk place (name :: rest) reached

variable {disk : Disk} {place reached : Place} {names : List FileName}

section Walks

/-- A walk in two parts goes on from where the first part leads, also if nothing is left to walk. -/
theorem walk_split {links : Nat} {first second : List Leg}
    (arrives : walk disk .target links place (first ++ second) = .ok reached) :
    ∃ middle left, walk disk .target links place first = .ok middle ∧
      walk disk .target left middle second = .ok reached := by
  by_cases more : second = []
  · subst more
    rw [List.append_nil] at arrives
    exact ⟨reached, 0, arrives, rfl⟩
  · exact (continues_walk (.inl rfl) more links place first).from_middle arrives

/-- A step down that is taken: into an entry that is no link, or to a link that is followed. -/
theorem walkWith_down_cases {follow : Place → List Leg → Except Refusal Place} {name : FileName}
    {rest : List Leg} (arrives : walkWith disk follow .target place (.down name :: rest) = .ok reached) :
    ((∀ target, disk.at? (place ++ [name]) ≠ some (.link target)) ∧
      walkWith disk follow .target (place ++ [name]) rest = .ok reached) ∨
    ∃ target, disk.at? (place ++ [name]) = some (.link target) ∧
      follow (startOf place target) (legsOf target ++ rest) = .ok reached := by
  obtain ⟨entries, here⟩ := directory_of_walkWith arrives
  have there := lookup_eq_at? here name
  cases named : entries.lookup name with
  | none =>
    rw [walkWith_absent (.inl rfl) here named] at arrives
    split at arrives <;> cases arrives
  | some node =>
    rw [named] at there
    by_cases link : ∃ target, node = .link target
    · obtain ⟨target, rfl⟩ := link
      rw [walkWith_link (.inl rfl) here named (Bool.and_false _)] at arrives
      split at arrives
      · cases arrives
      · exact .inr ⟨target, there.symm, arrives⟩
    · have plain : ∀ target, node ≠ .link target := fun target same => link ⟨target, same⟩
      rw [walkWith_down (.inl rfl) here named fun target same => absurd same (plain target)] at arrives
      split at arrives
      · cases arrives
      · exact .inl ⟨fun target same => plain target (Option.some.inj (there.trans same)), arrives⟩

/-- The first step down of a walk: into an entry that is no link, or through a link. -/
theorem walk_down_cases {links : Nat} {name : FileName} {rest : List Leg}
    (arrives : walk disk .target links place (.down name :: rest) = .ok reached) :
    ((∀ target, disk.at? (place ++ [name]) ≠ some (.link target)) ∧
      walk disk .target links (place ++ [name]) rest = .ok reached) ∨
    ∃ next left, Leads disk place name next ∧ walk disk .target left next rest = .ok reached := by
  cases links with
  | zero =>
    rcases walkWith_down_cases arrives with down | ⟨_, _, followed⟩
    · exact .inl down
    · cases followed
  | succ links =>
    rcases walkWith_down_cases arrives with down | ⟨target, here, followed⟩
    · exact .inl down
    · obtain ⟨next, left, leads, onward⟩ := walk_split followed
      exact .inr ⟨next, left, ⟨target, links, here, leads⟩, onward⟩

/-- **A walk along names takes their route.** -/
theorem route_of_walk {links : Nat}
    (arrives : walk disk .target links place (names.map .down) = .ok reached) : Route disk place names reached := by
  induction names generalizing links place with
  | nil =>
    have same : place = reached := by
      cases links <;> cases arrives <;> rfl
    exact same ▸ .arrived
  | cons name rest ih =>
    rcases walk_down_cases arrives with ⟨plain, onward⟩ | ⟨next, left, leads, onward⟩
    · exact .down plain (ih onward)
    · exact .link leads (ih onward)

/-- **A path below a root arrives where the route of its names ends**, which starts where the root leads. -/
theorem route_of_locate {root : Path} (some : names ≠ []) (legal : ∀ name ∈ names, name.IsLegal)
    (filled : root.text.units ≠ [])
    (arrives : disk.locate .target (root.join ⟨.relative, names.map FileName.text⟩) = .ok reached) :
    ∃ start, disk.locate .target root = .ok start ∧ Route disk start names reached := by
  obtain ⟨start, left, located, onward⟩ := locate_of_below rfl some legal filled arrives
  exact ⟨start, located, route_of_walk onward⟩

end Walks

namespace Route

/-- **Without links a route goes straight down.** -/
theorem straight (route : Route disk place names reached)
    (linkless : ∀ before, before <+: names → ∀ target, disk.at? (place ++ before) ≠ some (.link target)) :
    reached = place ++ names := by
  induction route with
  | arrived => exact (List.append_nil _).symm
  | @down place reached name rest _ _ ih =>
    have below : ∀ before, before <+: rest →
        ∀ target, disk.at? (place ++ [name] ++ before) ≠ some (.link target) := by
      intro before leads
      rw [List.append_assoc]
      exact linkless (name :: before) (List.cons_prefix_cons.mpr ⟨rfl, leads⟩)
    rw [ih below, List.append_assoc, List.singleton_append]
  | @link place next reached name rest leads _ _ =>
    obtain ⟨target, _, here, _⟩ := leads
    exact absurd here (linkless [name] (List.cons_prefix_cons.mpr ⟨rfl, List.nil_prefix⟩) target)

end Route

/-- **A route of names leaves a place through a link**: it comes to a link below that place, and the link
leads to somewhere else. -/
def Leaves (disk : Disk) (bound place : Place) (names : List FileName) : Prop :=
  ∃ before name after directory next, names = before ++ name :: after ∧
    Route disk place before directory ∧ bound <+: directory ∧
    Leads disk directory name next ∧ ¬bound <+: next

namespace Route

/-- **A route that starts below a place ends below it, or leaves it through a link.** -/
theorem inside_or_leaves {bound : Place} (route : Route disk place names reached) (inside : bound <+: place) :
    bound <+: reached ∨ Leaves disk bound place names := by
  induction route with
  | arrived => exact .inl inside
  | @down place reached name rest plain _ ih =>
    rcases ih (inside.trans (List.prefix_append _ _)) with below | leaves
    · exact .inl below
    · obtain ⟨before, link, after, directory, next, rfl, route, leaves⟩ := leaves
      exact .inr ⟨name :: before, link, after, directory, next, rfl, .down plain route, leaves⟩
  | @link place next reached name rest leads _ ih =>
    by_cases within : bound <+: next
    · rcases ih within with below | leaves
      · exact .inl below
      · obtain ⟨before, link, after, directory, beyond, rfl, route, leaves⟩ := leaves
        exact .inr ⟨name :: before, link, after, directory, beyond, rfl, .link leads route, leaves⟩
    · exact .inr ⟨[], name, rest, place, next, rfl, .arrived, inside, leads, within⟩

end Route

end Gameshelf.Disk
