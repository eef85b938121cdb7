import Gameshelf.Shop.Entry
import Gameshelf.Proofs.Encoding.Percent
import Gameshelf.Proofs.Text.Words

/-!
Download addresses. The slashes of a path stay and all else is escaped as far as it must be, so reading an
address gives the path again (`decode_encodePath`).
-/

namespace Gameshelf.Shop

open Text Encoding

/-- A path is escaped character by character, its slashes left as they are. -/
theorem toList_encodePath (path : String) :
    (encodePath path).toList = Percent.encode ('/' :: segmentSafe) path.toList := by
  rw [encodePath, String.toList_ofList]
  generalize path.toList = cs
  induction cs with
  | nil => rfl
  | cons c rest ih =>
    obtain ⟨piece, pieces, split⟩ :=
      List.exists_cons_of_ne_nil (splitAll_ne_nil (p := (· == '/')) rest)
    rw [split] at ih
    rw [Percent.encode, List.flatMap_cons]
    by_cases slash : c = '/'
    · subst slash
      rw [splitAll_cons_of_pos rfl, split]
      exact congrArg ('/' :: ·) ih
    · have other : (c == '/') = false := beq_eq_false_iff_ne.mpr slash
      have cut : splitAll (· == '/') (c :: rest) = (c :: piece) :: pieces :=
        splitAll_cons_of_neg (p := (· == '/')) other split
      have same : Percent.encodeChar ('/' :: segmentSafe) c = Percent.encodeChar segmentSafe c := by
        simp only [Percent.encodeChar, List.contains_cons, other, Bool.false_or]
      have first : Percent.encode segmentSafe (c :: piece)
          = Percent.encodeChar segmentSafe c ++ Percent.encode segmentSafe piece := List.flatMap_cons
      rw [cut, List.map_cons, first, joinWith_cons_append, same]
      exact congrArg _ ih

theorem mayStay_segmentSafe : Percent.MayStay ('/' :: segmentSafe) := by
  have every : ('/' :: segmentSafe).all (fun c => c.toNat < 0x80 && c != '%') = true := by decide
  intro c mem
  obtain ⟨ascii, plain⟩ := Bool.and_eq_true_iff.mp (List.all_eq_true.mp every c mem)
  exact ⟨of_decide_eq_true ascii, bne_iff_ne.mp plain⟩

/-- **Reading an address gives the path again.** -/
theorem decode_encodePath (path : String) :
    String.ofList (Percent.decode (encodePath path).toList) = path := by
  rw [toList_encodePath, Percent.decode_encode mayStay_segmentSafe, String.ofList_toList]

end Gameshelf.Shop
