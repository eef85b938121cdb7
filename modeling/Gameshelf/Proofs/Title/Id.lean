import Gameshelf.Proofs.Text.Hexadecimal
import Gameshelf.Proofs.Title.Places

/-!
Title ids as numbers. The last three digits of an id are the place of its number within a block of 0x1000, so the
number tells the kind (`kind_eq`) and the number of the game (`writes_base?`). An id in capitals is told by its
number, hence the ids of one game are those of three places: the game's own, the update's behind it in the same
block, and all others of the block above (`base?_by_number`).
-/

namespace Gameshelf.TitleId

open Text

/-- **An id**: sixteen hexadecimal digits of either letter case. -/
def IsId (id : String) : Prop :=
  id.toList.length = 16 ∧ ∀ c ∈ id.toList, Tokens.IsHex c

instance (c : Char) : Decidable (Tokens.IsHex c) :=
  inferInstanceAs (Decidable (_ ∨ _))

instance (id : String) : Decidable (IsId id) :=
  decidable_of_iff (id.toList.length = 16 ∧ id.toList.all (Tokens.IsHex ·) = true) (by simp [IsId])

/-- The number of an id. -/
def number (id : String) : Nat :=
  hexNumber id.toList

/-- **The id that is written for a number**: sixteen digits, the letters in capitals. -/
structure Writes (id : String) (n : Nat) : Prop where
  whole : id.toList.length = 16
  capitals : ∀ c ∈ id.toList, IsCapitalHex c
  number : number id = n

/-- **The id of a game**: in capitals, with three zeros at its end, and its own game. -/
structure IsGame (own : String) : Prop where
  valid : isValid own = true
  capitals : upper own = own
  ends : "000".toList <:+ own.toList
  kind : kind (some own) = .base
  itself : base? .base (some own) = some own

/-- The number of the game that an id of a kind belongs to: the first of its block, or of the block below. -/
def gameNumber? (kind : ContentKind) (n : Nat) : Option Nat :=
  match kind with
  | .base | .unknown => some n
  | .update => some (n / 0x1000 * 0x1000)
  | .dlc => if n < 0x1000 then none else some ((n / 0x1000 - 1) * 0x1000)

section Writing

variable {id other : String} {n : Nat}

theorem isValid_iff : isValid id = true ↔ IsId id := by
  rw [isValid, Bool.and_eq_true, beq_iff_eq, List.all_eq_true]
  exact and_congr Iff.rfl (forall₂_congr fun _ _ => Tokens.isHexDigit_iff)

/-- There is one id for a number. -/
theorem Writes.unique (one : Writes id n) (another : Writes other n) : id = other :=
  String.toList_inj.mp <| eq_of_hexNumber_eq (one.whole.trans another.whole.symm) one.capitals another.capitals
    (one.number.trans another.number.symm)

theorem Writes.isId (written : Writes id n) : IsId id :=
  ⟨written.whole, fun c mem => (written.capitals c mem).imp_right .inr⟩

theorem Writes.upper_eq (written : Writes id n) : upper id = id := by
  rw [upper, upperChars_capitals written.capitals, String.ofList_toList]

/-- The capital form of an id is written for the same number. -/
theorem writes_upper (valid : IsId id) : Writes (upper id) (number id) := by
  obtain ⟨whole, capitals, same⟩ := upperChars_digits fun c mem => Tokens.isHexDigit_iff.mpr (valid.2 c mem)
  refine ⟨?_, ?_, ?_⟩
  · rw [upper, String.toList_ofList, whole, valid.1]
  · rw [upper, String.toList_ofList]
    exact capitals
  · rw [number, upper, String.toList_ofList, same]
    rfl

end Writing

section Blocks

variable {id own : String} {block tail ends : List Char} {n : Nat}

/-- **The two parts of an id**: thirteen digits for its block, and three for the place in it. -/
theorem exists_block (valid : IsId id) :
    ∃ block tail, upperChars id.toList = block ++ tail ∧ block.length = 13 ∧ tail.length = 3 ∧
      (∀ c ∈ block, IsCapitalHex c) ∧ (∀ c ∈ tail, IsCapitalHex c) ∧
      number id = hexNumber block * 0x1000 + hexNumber tail ∧ hexNumber tail < 0x1000 := by
  obtain ⟨whole, capitals, same⟩ := upperChars_digits fun c mem => Tokens.isHexDigit_iff.mpr (valid.2 c mem)
  rw [valid.1] at whole
  have parts := List.take_append_drop 13 (upperChars id.toList)
  have long : ((upperChars id.toList).drop 13).length = 3 := by rw [List.length_drop, whole]
  rw [← parts] at capitals same
  obtain ⟨first, last⟩ := List.forall_mem_append.mp capitals
  have bound := hexNumber_lt ((upperChars id.toList).drop 13)
  rw [hexNumber_append, long] at same
  rw [long] at bound
  exact ⟨_, _, parts.symm, by rw [List.length_take, whole]; rfl, long, first, last, same.symm, bound⟩

/-- The end of an id by the number of its last three digits. -/
theorem isSuffixOf_iff (long : tail.length = 3) (capitals : ∀ c ∈ tail, IsCapitalHex c) (three : ends.length = 3)
    (plain : ∀ c ∈ ends, IsCapitalHex c) :
    ends.isSuffixOf (block ++ tail) = true ↔ hexNumber tail = hexNumber ends := by
  rw [List.isSuffixOf_iff_suffix]
  constructor
  · intro suffix
    have short : ends <:+ tail := List.suffix_of_suffix_length_le suffix (List.suffix_append _ _) (by omega)
    rw [short.eq_of_length (by omega)]
  · intro same
    rw [eq_of_hexNumber_eq (long.trans three.symm) capitals plain same]
    exact List.suffix_append _ _

/-- **The number of an id tells its kind.** -/
theorem kind_eq (valid : IsId id) :
    kind (some id)
      = if number id % 0x1000 = 0 then .base else if number id % 0x1000 = 0x800 then .update else .dlc := by
  obtain ⟨block, tail, digits, _, long, _, capitals, same, bound⟩ := exists_block valid
  have zeros : "000".toList.isSuffixOf (block ++ tail) = true ↔ _ :=
    isSuffixOf_iff long capitals rfl (forall_mem_of_all (by decide))
  have eight : "800".toList.isSuffixOf (block ++ tail) = true ↔ _ :=
    isSuffixOf_iff long capitals rfl (forall_mem_of_all (by decide))
  have place : number id % 0x1000 = hexNumber tail := by omega
  have zero : hexNumber "000".toList = 0 := by decide
  have half : hexNumber "800".toList = 0x800 := by decide
  simp only [kind, digits, zeros, eight, zero, half, place]

/-- The id with the digits of a block and three zeros. -/
theorem writes_block (long : block.length = 13) (capitals : ∀ c ∈ block, IsCapitalHex c) :
    Writes (String.ofList (block ++ "000".toList)) (hexNumber block * 0x1000) := by
  refine ⟨?_, ?_, ?_⟩
  · rw [String.toList_ofList, List.length_append, long]
    rfl
  · rw [String.toList_ofList]
    exact List.forall_mem_append.mpr ⟨capitals, forall_mem_of_all (by decide)⟩
  · have zeros : hexNumber "000".toList = 0 := by decide
    have power : 16 ^ "000".toList.length = 0x1000 := rfl
    rw [number, String.toList_ofList, hexNumber_append, zeros, power, Nat.add_zero]

/-- **The id of the game is written for the number of the game**, and there is none where the number has none. -/
theorem writes_base? (valid : IsId id) (kind : ContentKind) :
    Option.Rel Writes (base? kind (some id)) (gameNumber? kind (number id)) := by
  have whole : ¬(!isValid id) = true := by rw [isValid_iff.mpr valid]; decide
  obtain ⟨block, tail, digits, long, length, capitals, _, same, bound⟩ := exists_block valid
  have first : (upperChars id.toList).take 13 = block := by rw [digits, ← long, List.take_left]
  have above : number id / 0x1000 = hexNumber block := by omega
  simp only [base?, if_neg whole, first]
  cases kind with
  | base | unknown => exact .some (writes_upper valid)
  | update =>
    rw [gameNumber?, above]
    exact .some (writes_block long capitals)
  | dlc =>
    rw [gameNumber?, ofHex_eq_hexNumber, above]
    cases next : hexNumber block with
    | zero =>
      rw [if_pos (by omega)]
      exact .none
    | succ below =>
      have fits : below < 16 ^ 13 := by
        have most := hexNumber_lt block
        rw [long] at most
        omega
      obtain ⟨thirteen, plain, value⟩ := digitsIn_hexDigitUpper fits (by decide)
      have written := writes_block thirteen plain
      rw [value] at written
      rw [if_neg (by omega)]
      exact .some written

theorem base?_eq_none_iff (valid : IsId id) {kind : ContentKind} :
    base? kind (some id) = none ↔ kind = .dlc ∧ number id < 0x1000 := by
  have derived := writes_base? valid kind
  have none : gameNumber? kind (number id) = none ↔ kind = .dlc ∧ number id < 0x1000 := by
    cases kind <;> simp [gameNumber?]
  rw [← none]
  generalize base? kind (some id) = found, gameNumber? kind (number id) = game at derived
  cases derived with
  | none => simp
  | some => simp

/-- **What is found belongs to the number of the id**, and is in capitals. -/
theorem base?_eq_some_iff (valid : IsId id) {kind : ContentKind} :
    base? kind (some id) = some own ↔ gameNumber? kind (number id) = some (number own) ∧ Writes own (number own) := by
  have derived := writes_base? valid kind
  generalize base? kind (some id) = found, gameNumber? kind (number id) = game at derived
  cases derived with
  | none => simp
  | @some found game written =>
    simp only [Option.some.injEq]
    constructor
    · rintro rfl
      exact ⟨written.number.symm, written.number.symm ▸ written⟩
    · rintro ⟨rfl, same⟩
      exact written.unique same

/-- Whatever it belongs to, what is found is written for its number. -/
theorem writes_of_base? {kind : ContentKind} {id : Option String} (found : base? kind id = some own) :
    Writes own (number own) := by
  cases id with
  | none => cases found
  | some id =>
    by_cases valid : isValid id = true
    · exact ((base?_eq_some_iff (isValid_iff.mp valid)).mp found).2
    · rw [base?, if_pos (by simpa using valid)] at found
      cases found

theorem exists_base? (valid : IsId id) {kind : ContentKind} (game : gameNumber? kind (number id) = some n) :
    ∃ own, base? kind (some id) = some own ∧ Writes own n := by
  have derived := writes_base? valid kind
  rw [game] at derived
  generalize base? kind (some id) = found at derived
  cases derived with
  | @some own _ written => exact ⟨own, rfl, written⟩

/-- **The numbers of one game**: its own, the one of its update, and those of the add-ons in the block above. -/
theorem gameNumber?_eq_some_iff (valid : IsId id) : gameNumber? (kind (some id)) (number id) = some n ↔
    n % 0x1000 = 0 ∧ (number id = n ∨ number id = n + 0x800 ∨
      kind (some id) = .dlc ∧ number id / 0x1000 = n / 0x1000 + 1) := by
  rw [kind_eq valid]
  split_ifs
  all_goals simp only [gameNumber?, Option.some.injEq, Option.ite_none_left_eq_some, true_and, false_and,
    or_false]
  all_goals omega

/-- An id in capitals that is written for the first number of a block is that of a game. -/
theorem Writes.isGame (written : Writes own n) (first : n % 0x1000 = 0) : IsGame own := by
  have valid := written.isId
  have base : kind (some own) = .base := by rw [kind_eq valid, written.number, if_pos first]
  refine ⟨isValid_iff.mpr valid, written.upper_eq, ?_, base, ?_⟩
  · have ends : "000".toList.isSuffixOf (upperChars own.toList) = true := by
      by_contra other
      simp only [kind, if_neg other] at base
      split at base <;> cases base
    rw [upperChars_capitals written.capitals] at ends
    exact List.isSuffixOf_iff_suffix.mp ends
  · rw [base?_eq_some_iff valid, gameNumber?, written.number]
    exact ⟨rfl, written⟩

end Blocks

/-- **The game of an id by numbers.** A game is its own; an update stands 0x800 behind its game, and an add-on in the
block above it, so that only add-ons of the first block have no game. What is found is always the id of a game,
and the ids that lead to it are its own, that of its update, and those of all add-ons in the block above it. -/
theorem base?_by_number {id : String} (valid : IsId id) :
    let kind := TitleId.kind (some id)
    let game := base? kind (some id)
    (kind = .base → game = some (upper id)) ∧
    (kind = .update → ∃ own, game = some own ∧ Writes own (number id - 0x800)) ∧
    (kind = .dlc → 0x1000 ≤ number id → ∃ own, game = some own ∧ Writes own ((number id / 0x1000 - 1) * 0x1000)) ∧
    (game = none ↔ kind = .dlc ∧ number id < 0x1000) ∧
    ∀ own, game = some own → IsGame own ∧ ∀ other, IsId other →
      (base? (TitleId.kind (some other)) (some other) = some own ↔
        number other = number own ∨ number other = number own + 0x800 ∨
          TitleId.kind (some other) = .dlc ∧ number other / 0x1000 = number own / 0x1000 + 1) := by
  intro kind game
  refine ⟨?base, ?update, ?addOn, base?_eq_none_iff valid, ?own⟩
  case base =>
    intro announced
    have capital := writes_upper valid
    refine (base?_eq_some_iff valid).mpr ?_
    rw [announced, gameNumber?, capital.number]
    exact ⟨rfl, capital⟩
  case update =>
    intro announced
    have place := announced.symm.trans (kind_eq valid)
    split_ifs at place with _ eight
    have first : number id - 0x800 = number id / 0x1000 * 0x1000 := by omega
    refine exists_base? valid ?_
    rw [announced, first]
    rfl
  case addOn =>
    intro announced late
    refine exists_base? valid ?_
    rw [announced]
    exact if_neg (Nat.not_lt.mpr late)
  case own =>
    intro own found
    obtain ⟨belongs, written⟩ := (base?_eq_some_iff valid).mp found
    have first := ((gameNumber?_eq_some_iff valid).mp belongs).1
    refine ⟨written.isGame first, fun other another => ?_⟩
    rw [base?_eq_some_iff another, and_iff_left written, gameNumber?_eq_some_iff another, and_iff_right first]

/-- The last id of the block of add-ons above a game, in small letters, and the update of the game. -/
theorem base?_by_number_blockEnd :
    IsId "0100abcd12346fff" ∧ kind (some "0100abcd12346fff") = .dlc ∧ 0x1000 ≤ number "0100abcd12346fff" ∧
    (∃ own, base? .dlc (some "0100abcd12346fff") = some own ∧
      Writes own ((number "0100abcd12346fff" / 0x1000 - 1) * 0x1000)) ∧
    IsId "0100ABCD12345800" ∧ base? .dlc (some "0100abcd12346fff") = some "0100ABCD12345000" ∧
    base? (kind (some "0100ABCD12345800")) (some "0100ABCD12345800") = some "0100ABCD12345000" := by
  have valid : IsId "0100abcd12346fff" := by decide +kernel
  have update : IsId "0100ABCD12345800" := by decide +kernel
  have addOn : kind (some "0100abcd12346fff") = .dlc := rfl
  have late : 0x1000 ≤ number "0100abcd12346fff" := by decide
  have game : base? .dlc (some "0100abcd12346fff") = some "0100ABCD12345000" := rfl
  obtain ⟨_, _, written, _, ids⟩ := base?_by_number valid
  rw [addOn] at written ids
  refine ⟨valid, addOn, late, written rfl late, update, game, ?_⟩
  exact ((ids _ game).2 _ update).mpr (.inr (.inl (by decide +kernel)))

/-- An add-on of the first block has no game. -/
example : base? .dlc (some "0000000000000001") = none := by rfl

end Gameshelf.TitleId
