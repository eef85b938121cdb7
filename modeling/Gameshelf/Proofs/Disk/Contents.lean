import Gameshelf.Proofs.Disk.Basic
import Gameshelf.Proofs.Failure

/-!
Disks with the same contents: only the order in which directories keep their entries tells them apart.
Paths lead to the same places on both (`SameContents.locate`), since an entry is looked up by its name.
-/

namespace Gameshelf

/-- A node without what is below it. -/
def Node.bare : Node → Node
  | .directory _ => .directory []
  | other => other

theorem Node.isDirectory_bare (node : Node) : node.bare.isDirectory = node.isDirectory := by
  cases node <;> rfl

/-- Nodes that are alike without what is below them are alike, or both directories. -/
theorem Node.eq_of_bare {a b : Node} (same : a.bare = b.bare) (other : a.isDirectory = false) : a = b := by
  cases a with
  | directory => cases other
  | file | link | special => cases b <;> simp_all [bare]

namespace Disk

/-- **Disks with the same contents**: the program stands at the same place, and at every place stand the same
files, links and special files, and directories at the same places. -/
structure SameContents (disk other : Disk) : Prop where
  here : other.here = disk.here
  nodes : ∀ place, (other.at? place).map Node.bare = (disk.at? place).map Node.bare

variable {disk other : Disk}

namespace SameContents

theorem at?_of_other (same : SameContents disk other) {place : Place} {node : Node}
    (found : disk.at? place = some node) (leaf : node.isDirectory = false) :
    other.at? place = some node := by
  have bare := same.nodes place
  rw [found, Option.map_some, Option.map_eq_some_iff] at bare
  obtain ⟨there, here, alike⟩ := bare
  rw [here, Node.eq_of_bare alike.symm leaf]

theorem at?_of_none (same : SameContents disk other) {place : Place} (absent : disk.at? place = none) :
    other.at? place = none := by
  have bare := same.nodes place
  rwa [absent, Option.map_none, Option.map_eq_none_iff] at bare

theorem at?_of_directory (same : SameContents disk other) {place : Place}
    {entries : List (FileName × Node)} (found : disk.at? place = some (.directory entries)) :
    ∃ others, other.at? place = some (.directory others) := by
  have bare := same.nodes place
  rw [found, Option.map_some, Option.map_eq_some_iff] at bare
  obtain ⟨there, here, alike⟩ := bare
  cases there with
  | directory others => exact ⟨others, here⟩
  | file | link | special => cases alike

/-- **Steps lead to the same place.** -/
theorem walkWith (same : SameContents disk other) {follow follow' : Place → List Leg → Except Refusal Place}
    (alike : ∀ place legs, follow' place legs = follow place legs) (ending : Ending) (place : Place)
    (legs : List Leg) :
    other.walkWith follow' ending place legs = disk.walkWith follow ending place legs := by
  induction legs generalizing place with
  | nil => rfl
  | cons leg rest ih =>
    cases here : disk.at? place with
    | none =>
      have there := same.at?_of_none here
      simp only [Disk.walkWith, here, there]
    | some node =>
      cases node with
      | file | link | special =>
        have there := same.at?_of_other here rfl
        simp only [Disk.walkWith, here, there]
      | directory entries =>
        obtain ⟨others, there⟩ := same.at?_of_directory here
        cases leg with
        | slash | stay | up => simp only [Disk.walkWith, here, there, ih]
        | down name =>
          simp only [Disk.walkWith, here, there, lookup_eq_at? here, lookup_eq_at? there]
          cases entry : disk.at? (place ++ [name]) with
          | none => rw [same.at?_of_none entry]
          | some node =>
            cases node with
            | file | link | special => rw [same.at?_of_other entry rfl]; simp only [ih, alike]
            | directory =>
              obtain ⟨_, found⟩ := same.at?_of_directory entry
              rw [found]
              simp only [ih]

theorem walk (same : SameContents disk other) (ending : Ending) (links : Nat) (place : Place)
    (legs : List Leg) : other.walk ending links place legs = disk.walk ending links place legs := by
  induction links generalizing place legs with
  | zero => exact same.walkWith (fun _ _ => rfl) ending place legs
  | succ links ih => exact same.walkWith ih ending place legs

/-- **A path leads to the same place** on disks with the same contents. -/
theorem locate (same : SameContents disk other) (ending : Ending) (path : Path) :
    other.locate ending path = disk.locate ending path := by
  simp only [Disk.locate, same.here, same.walk]

/-- A path leads to the same node, or to directories that only keep their entries differently. -/
theorem find (same : SameContents disk other) (path : Path) :
    (other.find path).map Node.bare = (disk.find path).map Node.bare := by
  simp only [Disk.find, same.locate]
  cases disk.locate .target path with
  | error fault => rfl
  | ok place =>
    simp only [ok_bind]
    cases here : disk.at? place with
    | none => rw [same.at?_of_none here]
    | some node =>
      have bare := same.nodes place
      rw [here, Option.map_some, Option.map_eq_some_iff] at bare
      obtain ⟨there, found, alike⟩ := bare
      rw [found]
      exact congrArg Except.ok alike

theorem isDirectory (same : SameContents disk other) (path : Path) :
    other.isDirectory path = disk.isDirectory path := by
  have found := same.find path
  unfold Disk.isDirectory holds
  cases here : disk.find path with
  | error fault =>
    cases there : other.find path with
    | error fault' =>
      rw [here, there] at found
      cases found
      rfl
    | ok node => rw [here, there] at found; cases found
  | ok node =>
    cases there : other.find path with
    | error fault => rw [here, there] at found; cases found
    | ok node' =>
      rw [here, there] at found
      have alike := congrArg Node.isDirectory (Except.ok.inj found)
      rw [Node.isDirectory_bare, Node.isDirectory_bare] at alike
      exact congrArg Except.ok alike

end SameContents

end Disk

end Gameshelf
