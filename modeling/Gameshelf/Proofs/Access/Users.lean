import Mathlib.Data.List.DropRight
import Gameshelf.Access.Users
import Gameshelf.Proofs.Failure
import Gameshelf.Proofs.Register

/-!
Users that are loaded. Names and passwords of users are trimmed and not blank, so reading the list of users
again gives the same users (`ofList_toList`): none is lost on the way from a file to the shop, and a file that
is accepted names at least one (`load_eq_ok`).
-/

namespace Gameshelf

namespace Text

/-- What is trimmed stays as it is. -/
theorem trimBy_trimBy {α : Type} (p : α → Bool) (items : List α) :
    trimBy p (trimBy p items) = trimBy p items := by
  have lead : (items.dropWhile p).dropWhile p = items.dropWhile p := List.dropWhile_idempotent p items
  have trimmed : trimBy p items = (items.dropWhile p).rdropWhile p := rfl
  generalize items.dropWhile p = rest at lead trimmed
  have first : (rest.rdropWhile p).dropWhile p = rest.rdropWhile p := by
    rw [List.dropWhile_eq_self_iff] at lead ⊢
    intro filled
    have within := List.rdropWhile_prefix p rest
    rw [within.getElem filled]
    exact lead (Nat.lt_of_lt_of_le filled within.length_le)
  rw [trimmed]
  show ((rest.rdropWhile p).dropWhile p).rdropWhile p = _
  rw [first, List.rdropWhile_idempotent]

end Text

namespace Users

/-- **A text that is trimmed and not blank.** -/
def IsFilled (text : LooseText) : Prop :=
  text.trim = text ∧ text.isEmpty = false

theorem isFilled_trim {text : LooseText} (filled : ¬text.trim.isEmpty = true) : IsFilled text.trim := by
  refine ⟨?_, Bool.eq_false_iff.mpr filled⟩
  exact congrArg LooseText.mk (Text.trimBy_trimBy _ _)

/-- Names and passwords of users are filled. -/
theorem isFilled_of_mem {list : List User} {name password : LooseText}
    (mem : (name, password) ∈ (ofList list).entries) : IsFilled name ∧ IsFilled password := by
  obtain ⟨user, _, kept⟩ := List.mem_filterMap.mp (Register.mem_of_mem_ofList mem)
  simp only at kept
  split at kept
  · cases kept
  · next filled =>
    cases kept
    rw [Bool.or_eq_true, not_or] at filled
    exact ⟨isFilled_trim filled.1, isFilled_trim filled.2⟩

/-- **Users come back from their list**: no name and no password is trimmed again. -/
theorem ofList_toList (list : List User) : ofList (ofList list).toList = ofList list := by
  have entries : (ofList list).toList.filterMap (fun user =>
      if user.name.trim.isEmpty || user.password.trim.isEmpty then none
      else some (user.name.trim, user.password.trim)) = (ofList list).entries := by
    rw [toList, List.filterMap_map]
    refine (List.filterMap_congr fun entry mem => ?_).trans List.filterMap_some
    obtain ⟨⟨name, filledName⟩, ⟨password, filledPassword⟩⟩ := isFilled_of_mem mem
    simp [name, password, filledName, filledPassword]
  show Register.ofList _ = _
  exact (congrArg Register.ofList entries).trans (Register.ofList_entries _)

/-- The users of a document are those of an object and of the objects in its list, at least one. -/
theorem ofDocument_eq_ok {path : Path} {value : Json} {users : Users}
    (read : ofDocument path value = .ok users) :
    ∃ members items, value = .obj members ∧ listed (.obj members) = .ok items ∧
      users = ofList ((userIn? (.obj members)).toList ++ items.filterMap userIn?) ∧
      users.isEnabled = true := by
  cases value with
  | obj members =>
    obtain ⟨items, found, rest⟩ := bind_eq_ok.mp read
    by_cases enabled :
        (ofList ((userIn? (.obj members)).toList ++ items.filterMap userIn?)).isEnabled = true
    · simp only [if_pos enabled] at rest
      cases rest
      exact ⟨members, items, rfl, orCrash_eq_ok.mp found, rfl, enabled⟩
    · simp only [if_neg enabled] at rest
      cases rest
  | _ => cases read

/-- **What users are loaded from a file**: those of the object in it, and of the objects in its list. There is
at least one. -/
theorem load_eq_ok [Stack] {disk : Disk} {path : Path} {users : Users} (loaded : load disk (some path) = .ok users) :
    ∃ members items, disk.readDocument path = .ok (.obj members) ∧ listed (.obj members) = .ok items ∧
      users = ofList ((userIn? (.obj members)).toList ++ items.filterMap userIn?) ∧
      users.isEnabled = true := by
  cases read : disk.readDocument path with
  | error failure =>
    simp only [load, read] at loaded
    cases failure <;> cases loaded
  | ok value =>
    simp only [load, read] at loaded
    cases found : ofDocument path value with
    | error failure => rw [found] at loaded; cases loaded
    | ok given =>
      obtain ⟨members, items, rfl, list, same, enabled⟩ := ofDocument_eq_ok found
      have again : users = ofList given.toList := by
        rw [found] at loaded
        exact (Except.ok.inj loaded).symm
      rw [same, ofList_toList, ← same] at again
      rw [again]
      exact ⟨members, items, rfl, list, same, enabled⟩

end Users

end Gameshelf
