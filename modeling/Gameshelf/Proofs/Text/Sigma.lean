import Mathlib.Tactic.ByContra
import Gameshelf.Text.Case

/-!
Small forms of parts of a text. The small form of a text is that of its parts in their places
(`lowerAfter_append`), and a part has its own small form there unless a capital sigma in it turns: at an end of
the part, where the word that the sigma stands in goes on outside it (`lowerWithin_eq_iff`). The texts whose
small form is the same in every place are those that stand steady (`steady_iff`).
-/

namespace Gameshelf.Text

variable {before before' cs after after' : List Char}

/-- **A word ends between two texts**: the last letter before it has none behind it. The text before is given
nearest first. -/
def EndsWord (before after : List Char) : Prop :=
  meetsCased before = true ∧ meetsCased after = false

instance : Decidable (EndsWord before after) :=
  inferInstanceAs (Decidable (_ ∧ _))

/-- The small form of a character where it stands. -/
def smallBetween (before : List Char) (c : Char) (after : List Char) : List Char :=
  if c = 'Σ' then (if meetsCased before && !meetsCased after then ['ς'] else ['σ']) else lowerChar c

/-- **The small form of a text where it stands**, between a text before it, given nearest first, and one after
it. -/
def lowerWithin : List Char → List Char → List Char → List Char
  | _, [], _ => []
  | before, c :: rest, after => smallBetween before c (rest ++ after) ++ lowerWithin (c :: before) rest after

section Parts

/-- **The small form of a text is that of its parts** where they stand. -/
theorem lowerAfter_append (before cs after : List Char) :
    lowerAfter before (cs ++ after) = lowerWithin before cs after ++ lowerAfter (cs.reverse ++ before) after := by
  induction cs generalizing before with
  | nil => rfl
  | cons c rest ih =>
    have first : lowerAfter before (c :: (rest ++ after))
        = smallBetween before c (rest ++ after) ++ lowerAfter (c :: before) (rest ++ after) := rfl
    rw [List.cons_append, first, ih, lowerWithin, List.reverse_cons, List.append_assoc, List.append_assoc,
      List.singleton_append]

theorem lowerAfter_eq_lowerWithin (before cs : List Char) : lowerAfter before cs = lowerWithin before cs [] := by
  have parts := lowerAfter_append before cs []
  rwa [List.append_nil, lowerAfter, List.append_nil] at parts

/-- What is passed over does not hide the letter that comes after it; anything else does. -/
theorem meetsCased_append (front rest : List Char) :
    meetsCased (front ++ rest) = if front.all isCaseIgnorable then meetsCased rest else meetsCased front := by
  induction front with
  | nil => rfl
  | cons c front ih =>
    cases passed : isCaseIgnorable c with
    | true =>
      have here (items : List Char) : meetsCased (c :: items) = meetsCased items := by
        rw [meetsCased, List.dropWhile_cons_of_pos passed, meetsCased]
      rw [List.cons_append, here, here, ih, List.all_cons, passed, Bool.true_and]
    | false =>
      have here (items : List Char) : meetsCased (c :: items) = isCased c := by
        rw [meetsCased, List.dropWhile_cons_of_neg (by rw [passed]; exact Bool.false_ne_true)]
        rfl
      rw [List.cons_append, here, here, List.all_cons, passed, Bool.false_and, if_neg Bool.false_ne_true]

theorem meetsCased_append_of_passed {front : List Char} (passed : front.all isCaseIgnorable = true)
    (rest : List Char) : meetsCased (front ++ rest) = meetsCased rest := by
  rw [meetsCased_append, if_pos passed]

theorem meetsCased_append_of_stopped {front : List Char} (stopped : front.all isCaseIgnorable = false)
    (rest : List Char) : meetsCased (front ++ rest) = meetsCased front := by
  rw [meetsCased_append, if_neg (Bool.eq_false_iff.mp stopped)]

/-- No letter is met where everything is passed over. -/
theorem meetsCased_of_passed {front : List Char} (passed : front.all isCaseIgnorable = true) :
    meetsCased front = false := by
  have whole := meetsCased_append_of_passed passed []
  rwa [List.append_nil] at whole

end Parts

section Places

theorem smallBetween_eq_iff {c : Char} : smallBetween before c after = smallBetween before' c after' ↔
    (c = 'Σ' → (EndsWord before after ↔ EndsWord before' after')) := by
  unfold smallBetween EndsWord
  by_cases sigma : c = 'Σ'
  · simp only [sigma, true_implies]
    cases meetsCased before <;> cases meetsCased after <;> cases meetsCased before' <;>
      cases meetsCased after' <;> decide
  · simp only [if_neg sigma, true_iff]
    exact fun same => absurd same sigma

theorem length_smallBetween (before after before' after' : List Char) (c : Char) :
    (smallBetween before c after).length = (smallBetween before' c after').length := by
  unfold smallBetween
  split
  · split <;> split <;> rfl
  · rfl

/-- A text has small forms of one length everywhere. -/
theorem length_lowerWithin (before cs after before' after' : List Char) :
    (lowerWithin before cs after).length = (lowerWithin before' cs after').length := by
  induction cs generalizing before before' with
  | nil => rfl
  | cons c rest ih =>
    rw [lowerWithin, lowerWithin, List.length_append, List.length_append, ih (c :: before) (c :: before'),
      length_smallBetween before (rest ++ after) before' (rest ++ after')]

/-- **A text has one small form in two places** exactly if each of its capital sigmas ends a word in both or in
neither. -/
theorem lowerWithin_eq_iff_endsWord : lowerWithin before cs after = lowerWithin before' cs after' ↔
    ∀ u v, cs = u ++ 'Σ' :: v →
      (EndsWord (u.reverse ++ before) (v ++ after) ↔ EndsWord (u.reverse ++ before') (v ++ after')) := by
  induction cs generalizing before before' with
  | nil => exact ⟨fun _ u v parts => absurd parts.symm (List.append_ne_nil_of_right_ne_nil u nofun), fun _ => rfl⟩
  | cons c rest ih =>
    have cut : lowerWithin before (c :: rest) after = lowerWithin before' (c :: rest) after' ↔
        smallBetween before c (rest ++ after) = smallBetween before' c (rest ++ after') ∧
          lowerWithin (c :: before) rest after = lowerWithin (c :: before') rest after' :=
      ⟨fun same => List.append_inj same (length_smallBetween ..), fun ⟨first, others⟩ => by
        rw [lowerWithin, lowerWithin, first, others]⟩
    rw [cut, smallBetween_eq_iff, ih]
    -- The sigma is the first character, or it stands in the rest.
    constructor
    · rintro ⟨first, others⟩ (_ | ⟨d, u⟩) v parts
      · obtain ⟨rfl, rfl⟩ := List.cons.inj parts
        exact first rfl
      · obtain ⟨rfl, rfl⟩ := List.cons.inj parts
        rw [List.reverse_cons, List.append_assoc, List.append_assoc]
        exact others u v rfl
    · intro all
      refine ⟨fun sigma => all [] rest (by rw [sigma, List.nil_append]), fun u v parts => ?_⟩
      have own := all (c :: u) v (by rw [parts, List.cons_append])
      rwa [List.reverse_cons, List.append_assoc, List.append_assoc] at own

end Places

/-- **A capital sigma of a text turns** where the text stands. It ends a word of the text alone, and behind the
text the word goes on; or it begins the text, but for characters that are passed over, and ends a word that
began before the text. -/
inductive SigmaTurns (before cs after : List Char) : Prop
  | goesOn {u v : List Char} (parts : cs = u ++ 'Σ' :: v) (letter : meetsCased u.reverse = true)
      (passed : v.all isCaseIgnorable = true) (next : meetsCased after = true)
  | wentBefore {u v : List Char} (parts : cs = u ++ 'Σ' :: v) (passed : u.all isCaseIgnorable = true)
      (letter : meetsCased before = true) (ends : meetsCased (v ++ after) = false)

/-- **A text that stands steady**: a capital sigma that follows a letter in it has a character behind it that is
not passed over, and one that nothing but passed characters stand before has a letter behind it. -/
def Steady (cs : List Char) : Prop :=
  ∀ u v, cs = u ++ 'Σ' :: v →
    (meetsCased u.reverse = true → v.all isCaseIgnorable = false) ∧
      (u.all isCaseIgnorable = true → meetsCased v = true)

section Turning

/-- **A text has its own small form where it stands** exactly if no capital sigma of it turns. -/
theorem lowerWithin_eq_iff : lowerWithin before cs after = lowerAfter [] cs ↔ ¬SigmaTurns before cs after := by
  rw [lowerAfter_eq_lowerWithin, lowerWithin_eq_iff_endsWord]
  simp only [List.append_nil]
  constructor
  · rintro same (⟨parts, letter, passed, next⟩ | ⟨parts, passed, letter, ends⟩)
    · have alone := (same _ _ parts).mpr ⟨letter, meetsCased_of_passed passed⟩
      have goesOn := alone.2
      rw [meetsCased_append_of_passed passed, next] at goesOn
      cases goesOn
    · have passed : List.all (List.reverse _) isCaseIgnorable = true := List.all_reverse.trans passed
      have alone := (same _ _ parts).mp ⟨by rw [meetsCased_append_of_passed passed, letter], ends⟩
      have none := alone.1
      rw [meetsCased_of_passed passed] at none
      cases none
  · intro still u v parts
    cases kind : u.all isCaseIgnorable with
    | true =>
      have passed : u.reverse.all isCaseIgnorable = true := List.all_reverse.trans kind
      rw [EndsWord, EndsWord, meetsCased_append_of_passed passed, meetsCased_of_passed passed]
      exact ⟨fun ⟨letter, ends⟩ => absurd (.wentBefore parts kind letter ends) still, fun alone => nomatch alone.1⟩
    | false =>
      have stopped : u.reverse.all isCaseIgnorable = false := List.all_reverse.trans kind
      rw [EndsWord, EndsWord, meetsCased_append_of_stopped stopped]
      refine and_congr_right fun letter => ?_
      cases behind : v.all isCaseIgnorable with
      | false => rw [meetsCased_append_of_stopped behind]
      | true =>
        rw [meetsCased_append_of_passed behind, meetsCased_of_passed behind]
        exact iff_of_true (Bool.eq_false_iff.mpr fun next => still (.goesOn parts letter behind next)) rfl

/-- A text without capital sigmas stands steady. -/
theorem steady_of_not_mem (without : 'Σ' ∉ cs) : Steady cs :=
  fun _ _ parts => absurd (parts ▸ List.mem_append_right _ List.mem_cons_self) without

/-- In a text that does not stand steady a sigma turns at any letter behind it, or at any letter before it. -/
theorem sigmaTurns_of_not_steady (turns : ¬Steady cs) :
    (∀ after, meetsCased after = true → SigmaTurns [] cs after) ∨
      ∀ before, meetsCased before = true → SigmaTurns before cs [] := by
  by_contra! still
  obtain ⟨⟨after, next, still⟩, before, letter, stillBefore⟩ := still
  refine turns fun u v parts => ⟨fun own => ?_, fun passed => ?_⟩
  · exact Bool.eq_false_iff.mpr fun passed => still (.goesOn parts own passed next)
  · by_contra ends
    exact stillBefore (.wentBefore parts passed letter (by rw [List.append_nil]; exact Bool.eq_false_iff.mpr ends))

/-- **In a steady text no sigma turns**, wherever it stands, and in no other text. -/
theorem steady_iff : Steady cs ↔ ∀ before after, ¬SigmaTurns before cs after := by
  constructor
  · rintro steady before after (⟨parts, letter, passed, -⟩ | ⟨parts, passed, -, ends⟩)
    · cases passed.symm.trans ((steady _ _ parts).1 letter)
    · have letter := (steady _ _ parts).2 passed
      have stopped : List.all _ isCaseIgnorable = false :=
        Bool.eq_false_iff.mpr fun all => by cases letter.symm.trans (meetsCased_of_passed all)
      rw [meetsCased_append_of_stopped stopped, letter] at ends
      cases ends
  · intro still
    by_contra turns
    have letter : meetsCased ['a'] = true := by decide +kernel
    rcases sigmaTurns_of_not_steady turns with turned | turned
    · exact still _ _ (turned _ letter)
    · exact still _ _ (turned _ letter)

end Turning

end Gameshelf.Text
