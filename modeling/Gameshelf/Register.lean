import Gameshelf.Text.Loose

/-!
Registers: tables from text to values, in the order of the keys. Every register is sorted, so a key
stands in it once, and two registers with the same look-ups are the same.
-/

namespace Gameshelf

/-- Does a key come before another? -/
def KeyBefore (a b : LooseText) : Prop :=
  compare a b = .lt

/-- Entries with one of them put in at its place; an entry with the same key gives way. -/
def putSorted {β : Type} (key : LooseText) (value : β) : List (LooseText × β) → List (LooseText × β)
  | [] => [(key, value)]
  | (first, old) :: rest =>
    match compare key first with
    | .lt => (key, value) :: (first, old) :: rest
    | .eq => (key, value) :: rest
    | .gt => (first, old) :: putSorted key value rest

theorem mem_putSorted {β : Type} {key : LooseText} {value : β} {entries : List (LooseText × β)}
    {entry : LooseText × β} (h : entry ∈ putSorted key value entries) :
    entry = (key, value) ∨ entry ∈ entries := by
  induction entries with
  | nil => simpa [putSorted] using h
  | cons first rest ih =>
    unfold putSorted at h
    split at h
    · simpa using h
    · rcases List.mem_cons.1 h with rfl | h
      · exact .inl rfl
      · exact .inr (List.mem_cons_of_mem _ h)
    · rcases List.mem_cons.1 h with rfl | h
      · exact .inr List.mem_cons_self
      · exact (ih h).imp_right (List.mem_cons_of_mem _)

theorem pairwise_putSorted {β : Type} (key : LooseText) (value : β) {entries : List (LooseText × β)}
    (sorted : entries.Pairwise fun a b => KeyBefore a.1 b.1) :
    (putSorted key value entries).Pairwise fun a b => KeyBefore a.1 b.1 := by
  induction entries with
  | nil => simp [putSorted]
  | cons first rest ih =>
    obtain ⟨above, sorted⟩ := List.pairwise_cons.1 sorted
    unfold putSorted
    split
    · next lt =>
      refine List.pairwise_cons.2 ⟨fun entry mem => ?_, List.pairwise_cons.2 ⟨above, sorted⟩⟩
      rcases List.mem_cons.1 mem with rfl | mem
      · exact lt
      · exact Std.TransCmp.lt_trans lt (above entry mem)
    · next eq =>
      obtain rfl := Std.LawfulEqOrd.eq_of_compare eq
      exact List.pairwise_cons.2 ⟨above, sorted⟩
    · next gt =>
      refine List.pairwise_cons.2 ⟨fun entry mem => ?_, ih sorted⟩
      rcases mem_putSorted mem with rfl | mem
      · exact Std.OrientedCmp.lt_of_gt gt
      · exact above entry mem

/-- A table from text to values. -/
structure Register (β : Type) where
  entries : List (LooseText × β)
  sorted : entries.Pairwise fun a b => KeyBefore a.1 b.1

namespace Register

variable {β : Type}

def empty : Register β := ⟨[], .nil⟩

def size (register : Register β) : Nat :=
  register.entries.length

def isEmpty (register : Register β) : Bool :=
  register.entries.isEmpty

def get? (register : Register β) (key : LooseText) : Option β :=
  register.entries.lookup key

/-- Gives a key a value, in place of the one it had. -/
def insert (register : Register β) (key : LooseText) (value : β) : Register β :=
  ⟨putSorted key value register.entries, pairwise_putSorted key value register.sorted⟩

/-- The register of pairs; of pairs with one key the last counts. -/
def ofList (pairs : List (LooseText × β)) : Register β :=
  pairs.foldl (fun register pair => register.insert pair.1 pair.2) empty

def keys (register : Register β) : List LooseText :=
  register.entries.map Prod.fst

end Register

end Gameshelf
