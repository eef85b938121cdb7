import Mathlib.Data.List.Basic
import Mathlib.Data.List.Induction
import Mathlib.Data.Nat.Bitwise
import Gameshelf.Encoding.Base64
import Gameshelf.Proofs.Text.Words

/-!
Base64 by its bits. A text spells bytes if it is symbols and then padding, the bits of the bytes begin the
bits of the symbols, and two bits for every padding character are left over (`Spells`); it is then made of
whole groups of four (`Spells.whole`). Every text that is written spells the bytes it was written from
(`spells_encode`). Every text is read as what it spells, and whole groups also with padding behind them that
nothing calls for (`decode?_eq_some_iff`).
-/

namespace Gameshelf.Encoding.Base64

open Text

/-- The lowest bits of a number, the highest of them first. -/
def bits (width n : Nat) : List Bool :=
  (List.range width).reverse.map n.testBit

/-- The number whose digits, of some bits each, are given, the highest first. -/
def numeral (width : Nat) (digits : List Nat) : Nat :=
  digits.foldl (fun high low => 2 ^ width * high + low) 0

/-- **Six-bit values hold bytes**: the bits of the bytes come first, and two are left over for every
padding character. -/
structure Holds (values : List Nat) (padding : Nat) (bytes : Bytes) : Prop where
  begins : (bytes.map UInt8.toNat).flatMap (bits 8) <+: values.flatMap (bits 6)
  left : values.length * 6 = bytes.length * 8 + padding * 2
  padding_le : padding ≤ 2

/-- **A text spells bytes**: it is symbols and then padding, and the symbols hold the bytes. -/
def Spells (token : List Char) (bytes : Bytes) : Prop :=
  ∃ values padding, token = values.map symbol ++ List.replicate padding '=' ∧ (∀ v ∈ values, v < 64) ∧
    Holds values padding bytes

section Bits

variable {width low high m n : Nat}

theorem length_bits (width n : Nat) : (bits width n).length = width := by
  rw [bits, List.length_map, List.length_reverse, List.length_range]

/-- The bits of two numbers one after the other are those of one number. -/
theorem bits_append (small : low < 2 ^ width) (highWidth : Nat) :
    bits highWidth high ++ bits width low = bits (width + highWidth) (2 ^ width * high + low) := by
  simp only [bits, List.range_add, List.reverse_append, List.map_append, List.map_reverse, List.map_map]
  congr 2
  · refine List.map_congr_left fun i _ => ?_
    simp [Nat.testBit_two_pow_mul_add high small]
  · refine List.map_congr_left fun i mem => ?_
    simp [Nat.testBit_two_pow_mul_add high small, List.mem_range.mp mem]

theorem numeral_concat (width : Nat) (digits : List Nat) (digit : Nat) :
    numeral width (digits ++ [digit]) = 2 ^ width * numeral width digits + digit := by
  rw [numeral, List.foldl_append]
  rfl

/-- The bits of digits one after the other are those of their number. -/
theorem flatMap_bits {digits : List Nat} (small : ∀ digit ∈ digits, digit < 2 ^ width) :
    digits.flatMap (bits width) = bits (digits.length * width) (numeral width digits) := by
  induction digits using List.reverseRecOn with
  | nil => rw [List.length_nil, Nat.zero_mul]; rfl
  | append_singleton digits digit ih =>
    rw [List.forall_mem_append, List.forall_mem_singleton] at small
    rw [List.flatMap_append, ih small.1, List.flatMap_singleton, bits_append small.2, List.length_append,
      List.length_singleton, Nat.succ_mul, Nat.add_comm, numeral_concat]

/-- Numbers that fit are told apart by their bits. -/
theorem bits_inj (smallM : m < 2 ^ width) (smallN : n < 2 ^ width) : bits width m = bits width n ↔ m = n := by
  refine ⟨fun same => Nat.eq_of_testBit_eq fun i => ?_, fun same => same ▸ rfl⟩
  have agree := List.map_inj_left.mp same
  by_cases inside : i < width
  · exact agree i (List.mem_reverse.mpr (List.mem_range.mpr inside))
  · have above : 2 ^ width ≤ 2 ^ i := Nat.pow_le_pow_right (by decide) (by omega)
    rw [Nat.testBit_lt_two_pow (by omega), Nat.testBit_lt_two_pow (by omega)]

/-- Bits begin others of the same number if they are the highest of them. -/
theorem bits_prefix_iff (smallM : m < 2 ^ high) (smallN : n < 2 ^ (low + high)) :
    bits high m <+: bits (low + high) n ↔ m = n / 2 ^ low := by
  have cut : bits (low + high) n = bits high (n / 2 ^ low) ++ bits low (n % 2 ^ low) := by
    rw [bits_append (Nat.mod_lt _ (Nat.two_pow_pos low)), Nat.div_add_mod]
  have smallTop : n / 2 ^ low < 2 ^ high := by
    rw [Nat.div_lt_iff_lt_mul (Nat.two_pow_pos low), ← Nat.pow_add, Nat.add_comm high]
    exact smallN
  rw [cut, ← bits_inj smallM smallTop]
  constructor
  · rintro ⟨rest, same⟩
    exact (List.append_inj same (by rw [length_bits, length_bits])).1
  · intro same
    rw [same]
    exact List.prefix_append _ _

theorem numeral_lt {digits : List Nat} (small : ∀ digit ∈ digits, digit < 2 ^ width) :
    numeral width digits < 2 ^ (digits.length * width) := by
  induction digits using List.reverseRecOn with
  | nil => exact Nat.two_pow_pos _
  | append_singleton digits digit ih =>
    rw [List.forall_mem_append, List.forall_mem_singleton] at small
    rw [List.length_append, List.length_singleton, Nat.succ_mul, Nat.pow_add, numeral_concat]
    exact Nat.mul_add_lt_mul_of_lt_of_lt (ih small.1) small.2

/-- Stretches of one length begin with one another part by part. -/
theorem append_prefix_append_iff {α : Type} {first second : List α} (same : first.length = second.length)
    (rest others : List α) : first ++ rest <+: second ++ others ↔ first <+: second ∧ rest <+: others := by
  constructor
  · rintro ⟨more, whole⟩
    rw [List.append_assoc] at whole
    obtain ⟨rfl, later⟩ := List.append_inj whole same
    exact ⟨List.prefix_refl _, more, later⟩
  · rintro ⟨here, begins⟩
    rw [here.eq_of_length same]
    exact (List.prefix_append_right_inj second).mpr begins

end Bits

section Groups

variable {a b c d padding : Nat} {rest : List Nat} {bytes : Bytes}

/-- A byte by its number. -/
theorem toNat_eq_iff (x : UInt8) {n : Nat} (small : n < 256) : x.toNat = n ↔ x = UInt8.ofNat n := by
  constructor
  · rintro rfl
    exact UInt8.ofNat_toNat.symm
  · rintro rfl
    exact UInt8.toNat_ofNat_of_lt' small

/-- The bits of bytes begin those of values if the number of the bytes is what is left of the other without its
lowest bits. -/
theorem begins_iff {values : List Nat} (small : ∀ v ∈ values, v < 2 ^ 6) (spare : Nat)
    (length : values.length * 6 = spare + bytes.length * 8) :
    (bytes.map UInt8.toNat).flatMap (bits 8) <+: values.flatMap (bits 6)
      ↔ numeral 8 (bytes.map UInt8.toNat) = numeral 6 values / 2 ^ spare := by
  have octets : ∀ n ∈ bytes.map UInt8.toNat, n < 2 ^ 8 := List.forall_mem_map.mpr fun x _ => x.toNat_lt
  have smallBytes := numeral_lt octets
  have smallValues := numeral_lt small
  rw [List.length_map] at smallBytes
  rw [length] at smallValues
  rw [flatMap_bits octets, flatMap_bits small, length, List.length_map, bits_prefix_iff smallBytes smallValues]

theorem holds_nil : Holds [] padding bytes ↔ padding = 0 ∧ bytes = [] := by
  constructor
  · rintro ⟨_, left, _⟩
    rw [List.length_nil] at left
    exact ⟨by omega, List.length_eq_zero_iff.mp (by omega)⟩
  · rintro ⟨rfl, rfl⟩
    exact ⟨List.prefix_refl _, rfl, by decide⟩

/-- One symbol is too few for a byte. -/
theorem not_holds_one : ¬ Holds [a] padding bytes := by
  rintro ⟨_, left, le⟩
  rw [List.length_singleton] at left
  omega

/-- Two symbols hold one byte, and four bits are left. -/
theorem holds_two (smallA : a < 64) (smallB : b < 64) :
    Holds [a, b] padding bytes ↔ padding = 2 ∧ bytes = [UInt8.ofNat (a * 4 + b / 16)] := by
  have sextets : ∀ v ∈ [a, b], v < 2 ^ 6 := by
    simp only [List.forall_mem_cons]
    exact ⟨smallA, smallB, nofun⟩
  have one (x : UInt8) : ([x].map UInt8.toNat).flatMap (bits 8) <+: [a, b].flatMap (bits 6)
      ↔ x = UInt8.ofNat (a * 4 + b / 16) := by
    rw [begins_iff sextets 4 rfl, ← toNat_eq_iff _ (by omega)]
    simp only [numeral, List.map_cons, List.map_nil, List.foldl_cons, List.foldl_nil]
    omega
  constructor
  · rintro ⟨begins, left, le⟩
    simp only [List.length_cons, List.length_nil] at left
    obtain ⟨x, rfl⟩ := List.length_eq_one_iff.mp (show bytes.length = 1 by omega)
    rw [List.length_singleton] at left
    exact ⟨by omega, congrArg ([·]) ((one x).mp begins)⟩
  · rintro ⟨rfl, rfl⟩
    exact ⟨(one _).mpr rfl, rfl, le_rfl⟩

/-- Three symbols hold two bytes, and two bits are left. -/
theorem holds_three (smallA : a < 64) (smallB : b < 64) (smallC : c < 64) :
    Holds [a, b, c] padding bytes
      ↔ padding = 1 ∧ bytes = [UInt8.ofNat (a * 4 + b / 16), UInt8.ofNat (b % 16 * 16 + c / 4)] := by
  have sextets : ∀ v ∈ [a, b, c], v < 2 ^ 6 := by
    simp only [List.forall_mem_cons]
    exact ⟨smallA, smallB, smallC, nofun⟩
  have both (x y : UInt8) : ([x, y].map UInt8.toNat).flatMap (bits 8) <+: [a, b, c].flatMap (bits 6)
      ↔ x = UInt8.ofNat (a * 4 + b / 16) ∧ y = UInt8.ofNat (b % 16 * 16 + c / 4) := by
    have smallY := y.toNat_lt
    rw [begins_iff sextets 2 rfl, ← toNat_eq_iff _ (by omega), ← toNat_eq_iff _ (by omega)]
    simp only [numeral, List.map_cons, List.map_nil, List.foldl_cons, List.foldl_nil]
    omega
  constructor
  · rintro ⟨begins, left, le⟩
    simp only [List.length_cons, List.length_nil] at left
    obtain ⟨x, y, rfl⟩ := List.length_eq_two.mp (show bytes.length = 2 by omega)
    obtain ⟨rfl, rfl⟩ := (both x y).mp begins
    simp only [List.length_cons, List.length_nil] at left
    exact ⟨by omega, rfl⟩
  · rintro ⟨rfl, rfl⟩
    exact ⟨(both _ _).mpr ⟨rfl, rfl⟩, rfl, by decide⟩

/-- A whole group holds three bytes, and the groups after it hold the others. -/
theorem holds_group (smallA : a < 64) (smallB : b < 64) (smallC : c < 64) (smallD : d < 64) :
    Holds (a :: b :: c :: d :: rest) padding bytes ↔ ∃ tail, Holds rest padding tail ∧
      UInt8.ofNat (a * 4 + b / 16) :: UInt8.ofNat (b % 16 * 16 + c / 4) :: UInt8.ofNat (c % 4 * 64 + d) :: tail
        = bytes := by
  have sextets : ∀ v ∈ [a, b, c, d], v < 2 ^ 6 := by
    simp only [List.forall_mem_cons]
    exact ⟨smallA, smallB, smallC, smallD, nofun⟩
  have three (x y z : UInt8) : ([x, y, z].map UInt8.toNat).flatMap (bits 8) <+: [a, b, c, d].flatMap (bits 6)
      ↔ x = UInt8.ofNat (a * 4 + b / 16) ∧ y = UInt8.ofNat (b % 16 * 16 + c / 4)
        ∧ z = UInt8.ofNat (c % 4 * 64 + d) := by
    have smallY := y.toNat_lt
    have smallZ := z.toNat_lt
    rw [begins_iff sextets 0 rfl, ← toNat_eq_iff _ (by omega), ← toNat_eq_iff _ (by omega),
      ← toNat_eq_iff _ (by omega)]
    simp only [numeral, List.map_cons, List.map_nil, List.foldl_cons, List.foldl_nil]
    omega
  have cut (x y z : UInt8) (tail : Bytes) :
      ((x :: y :: z :: tail).map UInt8.toNat).flatMap (bits 8)
          <+: (a :: b :: c :: d :: rest).flatMap (bits 6)
        ↔ ([x, y, z].map UInt8.toNat).flatMap (bits 8) <+: [a, b, c, d].flatMap (bits 6)
          ∧ (tail.map UInt8.toNat).flatMap (bits 8) <+: rest.flatMap (bits 6) := by
    rw [← append_prefix_append_iff (by simp [length_bits])]
    simp only [List.map_cons, List.map_nil, List.flatMap_cons, List.flatMap_nil, List.append_nil,
      List.append_assoc]
  constructor
  · rintro ⟨begins, left, le⟩
    simp only [List.length_cons] at left
    obtain ⟨x, y, z, tail, rfl⟩ : ∃ x y z tail, bytes = x :: y :: z :: tail := by
      match bytes, left with
      | [], left | [_], left | [_, _], left => simp only [List.length_cons, List.length_nil] at left; omega
      | x :: y :: z :: tail, _ => exact ⟨x, y, z, tail, rfl⟩
    obtain ⟨here, others⟩ := (cut x y z tail).mp begins
    obtain ⟨rfl, rfl, rfl⟩ := (three x y z).mp here
    simp only [List.length_cons] at left
    exact ⟨tail, ⟨others, by omega, le⟩, rfl⟩
  · rintro ⟨tail, ⟨others, left, le⟩, rfl⟩
    refine ⟨(cut _ _ _ tail).mpr ⟨(three _ _ _).mpr ⟨rfl, rfl, rfl⟩, others⟩, ?_, le⟩
    simp only [List.length_cons]
    omega

/-- **Values are read as the bytes that they hold**, with the padding they are given or with none. -/
theorem bytesOf?_eq_some_iff {values : List Nat} (small : ∀ v ∈ values, v < 64) :
    bytesOf? values padding = some bytes ↔ Holds values padding bytes ∨ Holds values 0 bytes := by
  fun_induction bytesOf? values padding generalizing bytes with
  | case1 padding => simp [holds_nil, eq_comm]
  | case2 a b =>
    simp only [List.forall_mem_cons] at small
    simp [holds_two small.1 small.2.1, eq_comm]
  | case3 a b c =>
    simp only [List.forall_mem_cons] at small
    simp [holds_three small.1 small.2.1 small.2.2.1, eq_comm]
  | case4 a b c d rest padding ih =>
    simp only [List.forall_mem_cons] at small
    obtain ⟨smallA, smallB, smallC, smallD, small⟩ := small
    simp only [holds_group smallA smallB smallC smallD, Option.map_eq_some_iff, ih small, or_and_right,
      exists_or]
  | case5 values padding notNil notTwo notThree notGroup =>
    refine ⟨nofun, fun holds => ?_⟩
    -- What is left of the values has the wrong length, or the padding of no last group.
    match values, small with
    | [], _ => exact absurd rfl notNil
    | [a], _ => exact (holds.elim not_holds_one not_holds_one).elim
    | [a, b], small =>
      simp only [List.forall_mem_cons] at small
      rcases holds with holds | holds
      · exact (notTwo a b rfl ((holds_two small.1 small.2.1).mp holds).1).elim
      · cases ((holds_two small.1 small.2.1).mp holds).1
    | [a, b, c], small =>
      simp only [List.forall_mem_cons] at small
      rcases holds with holds | holds
      · exact (notThree a b c rfl ((holds_three small.1 small.2.1 small.2.2.1).mp holds).1).elim
      · cases ((holds_three small.1 small.2.1 small.2.2.1).mp holds).1
    | a :: b :: c :: d :: rest, _ => exact (notGroup a b c d rest rfl).elim

end Groups

section Symbols

theorem value?_symbol : ∀ n < 64, value? (symbol n) = some n := by decide +kernel

theorem symbol_of_value? {c : Char} {n : Nat} (read : value? c = some n) : n < 64 ∧ symbol n = c := by
  obtain ⟨inside, same, _⟩ := List.idxOf?_eq_some_iff.mp read
  refine ⟨inside, ?_⟩
  rw [symbol, List.getD_eq_getElem _ _ inside, same]

/-- What is read as values is the symbols of these values. -/
theorem mapM_value?_eq_some_iff {cs : List Char} {values : List Nat} :
    cs.mapM value? = some values ↔ cs = values.map symbol ∧ ∀ v ∈ values, v < 64 := by
  induction cs generalizing values with
  | nil =>
    constructor
    · rintro ⟨⟩
      exact ⟨rfl, nofun⟩
    · rintro ⟨none, _⟩
      rw [List.map_eq_nil_iff.mp none.symm]
      rfl
  | cons c cs ih =>
    simp only [List.mapM_cons, Option.bind_eq_bind, Option.bind_eq_some_iff, Option.pure_def,
      Option.some.injEq, ih]
    constructor
    · rintro ⟨v, first, rest, ⟨rfl, small⟩, rfl⟩
      obtain ⟨smallV, rfl⟩ := symbol_of_value? first
      exact ⟨rfl, List.forall_mem_cons.mpr ⟨smallV, small⟩⟩
    · rintro ⟨same, small⟩
      cases values with
      | nil => cases same
      | cons v rest =>
        cases same
        obtain ⟨smallV, small⟩ := List.forall_mem_cons.mp small
        exact ⟨v, value?_symbol v smallV, rest, ⟨rfl, small⟩, rfl⟩

/-- No symbol is padding, white space or outside ASCII. -/
theorem symbol_plain : ∀ n < 64, symbol n ≠ '=' ∧ isBlank (symbol n) = false ∧ (symbol n).toNat < 0x80 := by
  decide +kernel

end Symbols

section Texts

variable {token : List Char} {bytes : Bytes}

/-- Padding is no symbol. -/
theorem not_mem_symbols {values : List Nat} (small : ∀ v ∈ values, v < 64) : '=' ∉ values.map symbol := by
  intro mem
  obtain ⟨v, listed, same⟩ := List.mem_map.mp mem
  exact (symbol_plain v (small v listed)).1 same

/-- A text is cut where its padding begins. -/
theorem cut_padding {values : List Nat} (small : ∀ v ∈ values, v < 64) (padding : Nat) :
    (values.map symbol ++ List.replicate padding '=').takeWhile (· != '=') = values.map symbol ∧
      (values.map symbol ++ List.replicate padding '=').dropWhile (· != '=')
        = List.replicate padding '=' := by
  have plain : ∀ c ∈ values.map symbol, (c != '=') = true := fun c mem =>
    bne_iff_ne.mpr fun same => not_mem_symbols small (same ▸ mem)
  refine span_append plain fun c first => ?_
  rw [List.eq_of_mem_replicate (List.mem_of_mem_head? first)]
  rfl

/-- **A text is read if it is symbols and then padding**, and there is no padding alone. -/
theorem decode?_eq_some_iff_bytesOf? :
    decode? token = some bytes ↔ ∃ values padding, token = values.map symbol ++ List.replicate padding '=' ∧
      (∀ v ∈ values, v < 64) ∧ (padding = 0 ∨ values ≠ []) ∧ bytesOf? values padding = some bytes := by
  simp only [decode?, Option.bind_eq_bind, Option.bind_eq_some_iff, Option.ite_none_right_eq_some,
    mapM_value?_eq_some_iff]
  constructor
  · rintro ⟨values, ⟨symbols, small⟩, allowed, read⟩
    rw [Bool.and_eq_true, List.all_eq_true] at allowed
    have padded : token.dropWhile (· != '=') = List.replicate (token.dropWhile (· != '=')).length '=' :=
      List.eq_replicate_iff.mpr ⟨rfl, fun c mem => eq_of_beq (allowed.1 c mem)⟩
    refine ⟨values, _, ?_, small, ?_, read⟩
    · rw [← symbols, ← padded, List.takeWhile_append_dropWhile]
    · cases values with
      | nil =>
        have none : (token.dropWhile (· != '=')).isEmpty = true := by
          simpa only [List.isEmpty_nil, Bool.true_and, Bool.not_not] using allowed.2
        exact .inl (List.length_eq_zero_iff.mpr (List.isEmpty_iff.mp none))
      | cons v rest => exact .inr (List.cons_ne_nil _ _)
  · rintro ⟨values, padding, rfl, small, allowed, read⟩
    obtain ⟨front, back⟩ := cut_padding small padding
    rw [front, back]
    refine ⟨values, ⟨rfl, small⟩, ?_, by rwa [List.length_replicate]⟩
    rcases allowed with rfl | some
    · simp
    · simp [some]

/-- **A text is read as the bytes that it spells**, and whole groups of it with any padding behind them:
what is read is spelled by the text or by a text of symbols alone before the padding. -/
theorem decode?_eq_some_iff :
    decode? token = some bytes ↔ ∃ written surplus, token = written ++ List.replicate surplus '=' ∧
      Spells written bytes ∧ (surplus = 0 ∨ written ≠ [] ∧ '=' ∉ written) := by
  rw [decode?_eq_some_iff_bytesOf?]
  constructor
  · rintro ⟨values, padding, rfl, small, allowed, read⟩
    rcases (bytesOf?_eq_some_iff small).mp read with holds | holds
    · exact ⟨_, 0, (List.append_nil _).symm, ⟨values, padding, rfl, small, holds⟩, .inl rfl⟩
    · refine ⟨values.map symbol, padding, rfl, ⟨values, 0, (List.append_nil _).symm, small, holds⟩, ?_⟩
      exact allowed.imp_right fun some => ⟨mt List.map_eq_nil_iff.mp some, not_mem_symbols small⟩
  · rintro ⟨_, surplus, rfl, ⟨values, padding, rfl, small, holds⟩, allowed⟩
    -- Without surplus all padding is that of the last group; with surplus that group has none.
    rcases allowed with rfl | ⟨some, bare⟩
    · refine ⟨values, padding, List.append_nil _, small, ?_, (bytesOf?_eq_some_iff small).mpr (.inl holds)⟩
      by_contra neither
      rw [not_or, not_not] at neither
      obtain ⟨padded, rfl⟩ := neither
      exact padded (holds_nil.mp holds).1
    · have unpadded : padding = 0 := by
        by_contra padded
        exact bare (List.mem_append_right _ (List.mem_replicate.mpr ⟨padded, rfl⟩))
      subst unpadded
      rw [List.replicate_zero, List.append_nil] at some
      refine ⟨values, surplus, by rw [List.replicate_zero, List.append_nil], small, .inr ?_,
        (bytesOf?_eq_some_iff small).mpr (.inr holds)⟩
      rintro rfl
      exact some rfl

/-- **What is written spells the bytes** it is written from. -/
theorem spells_encode (bytes : Bytes) : Spells (encode bytes) bytes := by
  fun_induction encode bytes with
  | case1 => exact ⟨[], 0, rfl, nofun, holds_nil.mpr ⟨rfl, rfl⟩⟩
  | case2 a =>
    have small := a.toNat_lt
    refine ⟨[a.toNat / 4, a.toNat % 4 * 16], 2, rfl, ?_, ?_⟩
    · simp only [List.forall_mem_cons]
      exact ⟨by omega, by omega, nofun⟩
    · refine (holds_two (by omega) (by omega)).mpr ⟨rfl, ?_⟩
      rw [← (toNat_eq_iff a (by omega)).mp (by omega)]
  | case3 a b =>
    have smallA := a.toNat_lt
    have smallB := b.toNat_lt
    refine ⟨[a.toNat / 4, a.toNat % 4 * 16 + b.toNat / 16, b.toNat % 16 * 4], 1, rfl, ?_, ?_⟩
    · simp only [List.forall_mem_cons]
      exact ⟨by omega, by omega, by omega, nofun⟩
    · refine (holds_three (by omega) (by omega) (by omega)).mpr ⟨rfl, ?_⟩
      rw [← (toNat_eq_iff a (by omega)).mp (by omega),
        ← (toNat_eq_iff b (by omega)).mp (by omega)]
  | case4 a b c rest ih =>
    have smallA := a.toNat_lt
    have smallB := b.toNat_lt
    have smallC := c.toNat_lt
    obtain ⟨values, padding, written, small, holds⟩ := ih
    refine ⟨a.toNat / 4 :: (a.toNat % 4 * 16 + b.toNat / 16) :: (b.toNat % 16 * 4 + c.toNat / 64)
      :: c.toNat % 64 :: values, padding, ?_, ?_, ?_⟩
    · rw [written]
      rfl
    · simp only [List.forall_mem_cons]
      exact ⟨by omega, by omega, by omega, by omega, small⟩
    · refine (holds_group (by omega) (by omega) (by omega) (by omega)).mpr ⟨rest, holds, ?_⟩
      rw [← (toNat_eq_iff a (by omega)).mp (by omega),
        ← (toNat_eq_iff b (by omega)).mp (by omega),
        ← (toNat_eq_iff c (by omega)).mp (by omega)]

/-- A text that is read has no white space in it and nothing outside ASCII. -/
theorem plain_of_decode? (read : decode? token = some bytes) :
    ∀ c ∈ token, isBlank c = false ∧ c.toNat < 0x80 := by
  obtain ⟨values, padding, rfl, small, _, _⟩ := decode?_eq_some_iff_bytesOf?.mp read
  refine List.forall_mem_append.mpr ⟨List.forall_mem_map.mpr fun v mem => (symbol_plain v (small v mem)).2, ?_⟩
  intro c mem
  rw [List.eq_of_mem_replicate mem]
  decide +kernel

theorem Spells.ne_nil (spells : Spells token bytes) (some : bytes ≠ []) : token ≠ [] := by
  obtain ⟨values, padding, rfl, small, holds⟩ := spells
  intro none
  obtain ⟨noSymbols, _⟩ := List.append_eq_nil_iff.mp none
  rw [List.map_eq_nil_iff.mp noSymbols] at holds
  exact some (holds_nil.mp holds).2

/-- A text that spells bytes is made of whole groups of four. -/
theorem Spells.whole (spells : Spells token bytes) : 4 ∣ token.length := by
  obtain ⟨values, padding, rfl, _, holds⟩ := spells
  have left := holds.left
  rw [List.length_append, List.length_map, List.length_replicate]
  omega

/-- No text that spells bytes has more than two characters of padding. -/
theorem count_padding_le (spells : Spells token bytes) : token.count '=' ≤ 2 := by
  obtain ⟨values, padding, rfl, small, holds⟩ := spells
  rw [List.count_append, List.count_eq_zero.mpr (not_mem_symbols small), List.count_replicate_self, Nat.zero_add]
  exact holds.padding_le

end Texts

end Gameshelf.Encoding.Base64
