import Gameshelf.Disk.Walk
import Gameshelf.Proofs.Lookup

/-!
Disks as a system keeps them: the names of a directory are legal and tell its entries apart. What stands
at a place below a place stands where the names of both lead one after the other.
-/

namespace Gameshelf

/-- **Names that an entry can have**: not empty, neither a single nor a double dot, and without slashes
and NULs. -/
def FileName.IsLegal (name : FileName) : Prop :=
  name.bytes ≠ [] ∧ name.bytes ≠ [dotByte] ∧ name.bytes ≠ [dotByte, dotByte] ∧
    slashByte ∉ name.bytes ∧ 0 ∉ name.bytes

instance (name : FileName) : Decidable name.IsLegal :=
  inferInstanceAs (Decidable (_ ∧ _ ∧ _ ∧ _ ∧ _))

/-- Legal names lead down. -/
theorem Leg.ofName_bytes {name : FileName} (legal : name.IsLegal) : Leg.ofName name.bytes = .down name := by
  obtain ⟨filled, stay, up, _⟩ := legal
  rw [Leg.ofName, if_neg (by simpa using filled), if_neg (by simpa using stay), if_neg (by simpa using up)]

namespace Node

/-- **Nodes that a disk can hold**: every directory tells its entries apart by legal names. -/
inductive IsTree : Node → Prop
  | file (content : Encoding.Bytes) : IsTree (.file content)
  | link (target : Encoding.Bytes) : IsTree (.link target)
  | special : IsTree .special
  | directory {entries : List (FileName × Node)} (distinct : (entries.map Prod.fst).Nodup)
      (legal : ∀ entry ∈ entries, entry.1.IsLegal) (below : ∀ entry ∈ entries, entry.2.IsTree) :
      IsTree (.directory entries)

/-- A directory of two entries with different legal names is a tree if what they hold is. -/
theorem IsTree.two {name other : FileName} {node below : Node} (different : name ≠ other) (legal : name.IsLegal)
    (otherLegal : other.IsLegal) (tree : node.IsTree) (otherTree : below.IsTree) :
    (Node.directory [(name, node), (other, below)]).IsTree := by
  have distinct : [name, other].Nodup :=
    List.nodup_cons.mpr ⟨fun again => different (List.mem_singleton.mp again), List.pairwise_singleton _ other⟩
  refine .directory distinct (fun entry mem => ?_) fun entry mem => ?_
  · rcases List.mem_pair.mp mem with rfl | rfl
    · exact legal
    · exact otherLegal
  · rcases List.mem_pair.mp mem with rfl | rfl
    · exact tree
    · exact otherTree

@[simp] theorem at?_nil (node : Node) : node.at? [] = some node := by
  cases node <;> rfl

theorem at?_directory (entries : List (FileName × Node)) (name : FileName) (rest : Place) :
    (directory entries).at? (name :: rest) = (entries.lookup name).bind (·.at? rest) := by
  rw [at?]
  cases entries.lookup name <;> rfl

/-- Below a name there is something only in a directory. -/
theorem at?_cons_eq_some {node below : Node} {name : FileName} {rest : Place}
    (found : node.at? (name :: rest) = some below) :
    ∃ entries next, node = .directory entries ∧ entries.lookup name = some next ∧
      next.at? rest = some below := by
  cases node with
  | directory entries =>
    rw [at?_directory] at found
    obtain ⟨next, named, there⟩ := Option.bind_eq_some_iff.mp found
    exact ⟨entries, next, rfl, named, there⟩
  | file | link | special => cases found

/-- Below what is no directory there is nothing else. -/
theorem at?_leaf {node below : Node} {place : Place} (leaf : node.isDirectory = false)
    (found : node.at? place = some below) : place = [] ∧ node = below := by
  cases place with
  | nil => exact ⟨rfl, Option.some.inj ((at?_nil node).symm.trans found)⟩
  | cons name rest =>
    obtain ⟨entries, _, rfl, _⟩ := at?_cons_eq_some found
    cases leaf

/-- What stands at a place below a place. -/
theorem at?_append (node : Node) (first second : Place) :
    node.at? (first ++ second) = (node.at? first).bind (·.at? second) := by
  induction first generalizing node with
  | nil => rw [at?_nil]; rfl
  | cons name rest ih =>
    cases node with
    | directory entries =>
      rw [List.cons_append, at?_directory, at?_directory, Option.bind_assoc]
      exact congrArg _ (funext ih)
    | file | link | special => rfl

/-- A node of a tree is a tree, and legal names lead to it. -/
theorem IsTree.at? {node below : Node} {place : Place} (tree : node.IsTree)
    (found : node.at? place = some below) : below.IsTree ∧ ∀ name ∈ place, name.IsLegal := by
  induction place generalizing node with
  | nil =>
    rw [at?_nil] at found
    exact ⟨Option.some.inj found ▸ tree, nofun⟩
  | cons name rest ih =>
    obtain ⟨entries, next, rfl, named, there⟩ := at?_cons_eq_some found
    cases tree with
    | directory _ legal trees =>
      have mem := mem_of_lookup named
      obtain ⟨tree, others⟩ := ih (trees _ mem) there
      exact ⟨tree, List.forall_mem_cons.mpr ⟨legal _ mem, others⟩⟩

end Node

namespace Disk

variable {disk : Disk}

/-- What stands at a place below a node stands below the node. -/
theorem at?_below {place : Place} {node : Node} (here : disk.at? place = some node) (rest : Place) :
    disk.at? (place ++ rest) = node.at? rest := by
  rw [at?, Node.at?_append, ← at?, here]
  rfl

/-- An entry of a directory is what stands at its name. -/
theorem lookup_eq_at? {place : Place} {entries : List (FileName × Node)}
    (here : disk.at? place = some (.directory entries)) (name : FileName) :
    entries.lookup name = disk.at? (place ++ [name]) := by
  rw [at?_below here, Node.at?_directory]
  cases entries.lookup name with
  | none => rfl
  | some node => exact (Node.at?_nil node).symm

/-- Above what stands on a disk there are directories. -/
theorem exists_directory {place rest : Place} {name : FileName} {node : Node}
    (found : disk.at? (place ++ name :: rest) = some node) :
    ∃ entries next, disk.at? place = some (.directory entries) ∧ entries.lookup name = some next ∧
      next.at? rest = some node := by
  rw [at?, Node.at?_append] at found
  obtain ⟨_, here, below⟩ := Option.bind_eq_some_iff.mp found
  obtain ⟨entries, next, rfl, named, there⟩ := Node.at?_cons_eq_some below
  exact ⟨entries, next, here, named, there⟩

end Disk

end Gameshelf
