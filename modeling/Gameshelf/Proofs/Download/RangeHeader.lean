import Gameshelf.Proofs.Download.ByteRange

/-!
The grammar of range headers: the unit `bytes=` and then one stretch, from a position to another, from a
position to the end of the file, or so many bytes at its end. What a header asks for is said without the
reader (`Asks`), and the reader finds exactly that and refuses all else (`ofHeader_grammar`), as long as no
run of digits in the header is longer than may be read. A numeral that is longer is met only where nothing
before it is out of order (`ofHeader_eq_oversized_iff`).
-/

namespace Gameshelf.Download.ByteRange

open Text

/-- **Numerals of positions**: ASCII digits, at least one. -/
def IsNumeral (cs : List Char) : Prop :=
  cs ≠ [] ∧ ∀ c ∈ cs, isDigit c = true

/-- The number that digits spell. -/
def number (digits : List Char) : Nat :=
  Numeral.ofDigits (digits.map digitValue)

/-- **What a header asks for** of a file of a size: the first and the last position of a stretch. -/
inductive Asks (header : String) (size : Nat) : Nat → Nat → Prop
  /-- From a position to another. -/
  | between {first last : List Char} (begins : IsNumeral first) (ends : IsNumeral last)
      (whole : header.toList = "bytes=".toList ++ (first ++ '-' :: last))
      (ordered : number first ≤ number last) (inside : number last < size) :
      Asks header size (number first) (number last)
  /-- From a position to the end of the file. -/
  | onward {first : List Char} (begins : IsNumeral first)
      (whole : header.toList = "bytes=".toList ++ (first ++ ['-'])) (inside : number first < size) :
      Asks header size (number first) (size - 1)
  /-- So many bytes at the end of the file, or all that it has. -/
  | suffix {count : List Char} (counts : IsNumeral count)
      (whole : header.toList = "bytes=".toList ++ '-' :: count) (some : 1 ≤ number count)
      (filled : 0 < size) : Asks header size (size - number count) (size - 1)

section Parts

variable {header : String} {size : Nat} {cs first last : List Char} {range : ByteRange}

/-- A numeral is read unless it is too long. -/
theorem position_of_isNumeral (numeral : IsNumeral cs) :
    position cs = if Numeral.digitLimit < cs.length then .error .oversizedNumeral else .ok (number cs) := by
  have digits : (cs.isEmpty || !cs.all isDigit) = false := by
    simpa [IsNumeral] using numeral
  unfold position Numeral.natOfDigits
  rw [digits, if_neg Bool.false_ne_true]
  split <;> rfl

theorem position_of_not_isNumeral (other : ¬IsNumeral cs) : position cs = .error .notSatisfiable := by
  apply if_pos
  apply Decidable.byContradiction
  intro digits
  exact other (by simpa [IsNumeral] using digits)

/-- A position that is read is a numeral, and its number. -/
theorem isNumeral_of_position {n : Nat} (read : position cs = .ok n) : IsNumeral cs ∧ number cs = n := by
  by_cases numeral : IsNumeral cs
  · rw [position_of_isNumeral numeral] at read
    split at read
    · cases read
    · exact ⟨numeral, Except.ok.inj read⟩
  · rw [position_of_not_isNumeral numeral] at read
    cases read

/-- A numeral that is short enough is read. -/
theorem position_of_short (numeral : IsNumeral cs) (short : cs.length ≤ Numeral.digitLimit) :
    position cs = .ok (number cs) := by
  rw [position_of_isNumeral numeral, if_neg (Nat.not_lt.mpr short)]

/-- A numeral in a readable header is short enough. -/
theorem IsNumeral.short (numeral : IsNumeral cs) (readable : Numeral.Readable header.toList)
    (within : cs <:+: header.toList) : cs.length ≤ Numeral.digitLimit :=
  readable cs within (List.all_eq_true.mpr numeral.2)

/-- The range between two positions is there if they stand in their order within the file. -/
theorem between_eq_ok_iff {first last : Nat} :
    between first last size = .ok range ↔
      first ≤ last ∧ last < size ∧ range.first = first ∧ range.last = last := by
  obtain ⟨begins, ends, ordered⟩ := range
  unfold between
  split
  · next inside => simp [inside, eq_comm]
  · next outside => simpa using fun ordered inside => absurd ⟨ordered, inside⟩ outside

/-- The last bytes of a file are there if some are asked for and some are there. -/
theorem suffix_eq_ok_iff {count : Nat} :
    suffix count size = .ok range ↔
      1 ≤ count ∧ 0 < size ∧ range.first = size - count ∧ range.last = size - 1 := by
  obtain ⟨begins, ends, ordered⟩ := range
  unfold suffix
  split
  · next some => simp [some, Nat.succ_le_of_lt some.1, eq_comm]
  · next none => simpa using fun some filled => absurd ⟨Nat.lt_of_succ_le some, filled⟩ none

/-- Two numerals name the range between them. -/
theorem named_between (begins : IsNumeral first) (ends : IsNumeral last)
    (shortFirst : first.length ≤ Numeral.digitLimit) (shortLast : last.length ≤ Numeral.digitLimit)
    (ordered : number first ≤ number last) (inside : number last < size) :
    named first last size = .ok ⟨number first, number last, ordered⟩ := by
  have firstRead := position_of_short begins shortFirst
  have lastRead := position_of_short ends shortLast
  obtain ⟨c, cs, rfl⟩ := List.exists_cons_of_ne_nil begins.1
  obtain ⟨d, ds, rfl⟩ := List.exists_cons_of_ne_nil ends.1
  show (do
    let first ← position (c :: cs)
    let last ← position (d :: ds)
    between first last size) = _
  rw [firstRead, lastRead]
  exact between_eq_ok_iff.mpr ⟨ordered, inside, rfl, rfl⟩

/-- Digits are no hyphens and no commas. -/
theorem spells_of_digits (begins : ∀ c ∈ first, isDigit c = true) (ends : ∀ c ∈ last, isDigit c = true)
    (whole : header.toList = "bytes=".toList ++ (first ++ '-' :: last)) : Spells header first last where
  whole
  hyphen mem := absurd (begins _ mem) (by decide)
  single := by
    intro mem
    rcases List.mem_append.mp mem with mem | mem
    · exact absurd (begins _ mem) (by decide)
    · rcases List.mem_cons.mp mem with comma | mem
      · exact absurd comma (by decide)
      · exact absurd (ends _ mem) (by decide)

end Parts

section Grammar

variable {header : String} {size : Nat}

/-- A range that is found is asked for. -/
theorem asks_of_ofHeader {range : ByteRange} (found : ofHeader header size = .ok range) :
    Asks header size range.first range.last := by
  obtain refused | ⟨first, last, -, spells, asked⟩ := ofHeader_cases header size
  · cases refused.symm.trans found
  rw [asked] at found
  unfold named at found
  split at found
  · obtain ⟨count, read, found⟩ := bind_eq_ok.mp found
    obtain ⟨counts, rfl⟩ := isNumeral_of_position read
    obtain ⟨some, filled, first, last⟩ := suffix_eq_ok_iff.mp found
    rw [first, last]
    exact .suffix counts spells.whole some filled
  · obtain ⟨first, read, found⟩ := bind_eq_ok.mp found
    obtain ⟨begins, rfl⟩ := isNumeral_of_position read
    obtain ⟨ordered, inside, first, last⟩ := between_eq_ok_iff.mp found
    rw [first, last]
    exact .onward begins spells.whole (Nat.lt_of_le_of_lt ordered inside)
  · obtain ⟨first, read, found⟩ := bind_eq_ok.mp found
    obtain ⟨begins, rfl⟩ := isNumeral_of_position read
    obtain ⟨last, read, found⟩ := bind_eq_ok.mp found
    obtain ⟨ends, rfl⟩ := isNumeral_of_position read
    obtain ⟨ordered, inside, first, last⟩ := between_eq_ok_iff.mp found
    rw [first, last]
    exact .between begins ends spells.whole ordered inside

/-- What a readable header asks for is found. -/
theorem ofHeader_of_asks (readable : Numeral.Readable header.toList) {first last : Nat}
    (asks : Asks header size first last) : ∃ ordered, ofHeader header size = .ok ⟨first, last, ordered⟩ := by
  cases asks with
  | @between first last begins ends whole ordered inside =>
    have spells := spells_of_digits begins.2 ends.2 whole
    refine ⟨ordered, ?_⟩
    rw [ofHeader_of_spells (Nat.zero_lt_of_lt inside) spells]
    exact named_between begins ends (begins.short readable spells.first_within)
      (ends.short readable spells.last_within) ordered inside
  | @onward first begins whole inside =>
    have spells : Spells header first [] := spells_of_digits begins.2 nofun whole
    have filled : 0 < size := Nat.zero_lt_of_lt inside
    have read := position_of_short begins (begins.short readable spells.first_within)
    refine ⟨Nat.le_sub_one_of_lt inside, ?_⟩
    rw [ofHeader_of_spells filled spells]
    obtain ⟨c, cs, rfl⟩ := List.exists_cons_of_ne_nil begins.1
    show (do between (← position (c :: cs)) (size - 1) size) = _
    rw [read]
    exact between_eq_ok_iff.mpr ⟨Nat.le_sub_one_of_lt inside, Nat.sub_one_lt_of_lt filled, rfl, rfl⟩
  | @suffix count counts whole some filled =>
    have spells : Spells header [] count := spells_of_digits nofun counts.2 whole
    have read := position_of_short counts (counts.short readable spells.last_within)
    refine ⟨by omega, ?_⟩
    rw [ofHeader_of_spells filled spells]
    show (do suffix (← position count) size) = _
    rw [read]
    exact suffix_eq_ok_iff.mpr ⟨some, filled, rfl, rfl⟩

/-- A number is written as a numeral, and the numeral spells it. -/
theorem isNumeral_toDigits (n : Nat) : IsNumeral (Nat.toDigits 10 n) ∧ number (Nat.toDigits 10 n) = n :=
  ⟨⟨Nat.toDigits_ne_nil, fun _ mem => Numeral.isDigit_of_mem_toDigits mem⟩, Numeral.ofDigits_toDigits n⟩

/-- Two positions that are written into a header are read from it. -/
theorem ofHeader_written {first last : Nat} (ordered : first ≤ last) (inside : last < size)
    (short : last < 10 ^ Numeral.digitLimit) :
    ofHeader s!"bytes={first}-{last}" size = .ok ⟨first, last, ordered⟩ := by
  have whole : (s!"bytes={first}-{last}").toList
      = "bytes=".toList ++ (Nat.toDigits 10 first ++ '-' :: Nat.toDigits 10 last) := by
    simp [toString]
  obtain ⟨begins, firstNumber⟩ := isNumeral_toDigits first
  obtain ⟨ends, lastNumber⟩ := isNumeral_toDigits last
  have shortFirst := Numeral.length_toDigits_le (Nat.lt_of_le_of_lt ordered short)
  have shortLast := Numeral.length_toDigits_le short
  rw [ofHeader_of_spells (Nat.zero_lt_of_lt inside) (spells_of_digits begins.2 ends.2 whole),
    named_between begins ends shortFirst shortLast (by rw [firstNumber, lastNumber]; exact ordered)
      (by rw [lastNumber]; exact inside)]
  simp only [firstNumber, lastNumber]

/-- **The reader of range headers accepts exactly their grammar.** What a readable header asks for is found,
nothing else is found, and where it asks for nothing it is refused as not satisfiable. What is found lies in
the file, and two positions of the file that are written into a header are read from it again. -/
theorem ofHeader_grammar {header : String} (readable : Numeral.Readable header.toList) (size : Nat) :
    (∀ first last, Asks header size first last ↔
      ∃ ordered, ofHeader header size = .ok ⟨first, last, ordered⟩) ∧
    ((∀ first last, ¬Asks header size first last) → ofHeader header size = .error .notSatisfiable) ∧
    (∀ range, ofHeader header size = .ok range → range.first ≤ range.last ∧ range.last < size) ∧
    ∀ first last (ordered : first ≤ last), last < size → last < 10 ^ Numeral.digitLimit →
      ofHeader s!"bytes={first}-{last}" size = .ok ⟨first, last, ordered⟩ := by
  refine ⟨fun first last => ⟨ofHeader_of_asks readable, ?_⟩, ?_, ?_, ?_⟩
  · rintro ⟨ordered, found⟩
    exact asks_of_ofHeader found
  · intro nothing
    cases asked : ofHeader header size with
    | ok range => exact absurd (asks_of_ofHeader asked) (nothing _ _)
    | error refusal =>
      cases refusal with
      | notSatisfiable => rfl
      | oversizedNumeral => exact absurd asked (ofHeader_ne_oversized readable size)
  · intro range found
    exact ⟨range.first_le_last, last_lt_of_ofHeader found⟩
  · intro first last ordered inside short
    exact ofHeader_written ordered inside short

/-- Twenty bytes at the end of a file of ten are all of it; a sign is no digit. -/
theorem ofHeader_grammar_tail :
    Numeral.Readable "bytes=-20".toList ∧ Asks "bytes=-20" 10 0 9 ∧
      (∃ ordered, ofHeader "bytes=-20" 10 = .ok ⟨0, 9, ordered⟩) ∧
      Numeral.Readable "bytes=+1-5".toList ∧ (∀ first last, ¬Asks "bytes=+1-5" 10 first last) ∧
      ofHeader "bytes=+1-5" 10 = .error .notSatisfiable := by
  have readable : Numeral.Readable "bytes=-20".toList := Numeral.readable_of_length_le (by decide)
  have readableSign : Numeral.Readable "bytes=+1-5".toList := Numeral.readable_of_length_le (by decide)
  have counts : IsNumeral ['2', '0'] := ⟨by decide, List.all_eq_true.mp (by decide)⟩
  have asks : Asks "bytes=-20" 10 0 9 := by
    apply Asks.suffix counts rfl
    all_goals decide
  have nothing : ∀ first last, ¬Asks "bytes=+1-5" 10 first last := by
    intro first last asks
    obtain ⟨ordered, found⟩ := ((ofHeader_grammar readableSign 10).1 first last).mp asks
    cases found
  exact ⟨readable, asks, ((ofHeader_grammar readable 10).1 0 9).mp asks, readableSign, nothing,
    (ofHeader_grammar readableSign 10).2.1 nothing⟩

end Grammar

section Oversized

variable {header : String} {size : Nat} {cs first last : List Char}

/-- **Numerals with more digits than may be read.** -/
def IsLong (cs : List Char) : Prop :=
  IsNumeral cs ∧ Numeral.digitLimit < cs.length

/-- **Headers that a numeral is too long in**: the first position, or, where that is absent or can be read,
the last. -/
def Oversized (header : String) : Prop :=
  ∃ first last, Spells header first last ∧
    (IsLong first ∨ (first = [] ∨ IsNumeral first ∧ first.length ≤ Numeral.digitLimit) ∧ IsLong last)

theorem position_eq_oversized_iff : position cs = .error .oversizedNumeral ↔ IsLong cs := by
  by_cases numeral : IsNumeral cs
  · rw [position_of_isNumeral numeral]
    split
    · next long => exact ⟨fun _ => ⟨numeral, long⟩, fun _ => rfl⟩
    · next short => exact ⟨nofun, fun long => absurd long.2 short⟩
  · rw [position_of_not_isNumeral numeral]
    exact ⟨nofun, fun long => absurd long.1 numeral⟩

theorem named_eq_oversized_iff :
    named first last size = .error .oversizedNumeral ↔
      IsLong first ∨ (first = [] ∨ IsNumeral first ∧ first.length ≤ Numeral.digitLimit) ∧ IsLong last := by
  have empty : ¬IsLong [] := fun long => long.1.1 rfl
  have read {cs : List Char} {n : Nat} (read : position cs = .ok n) :
      IsNumeral cs ∧ cs.length ≤ Numeral.digitLimit := by
    have numeral := (isNumeral_of_position read).1
    refine ⟨numeral, Nat.not_lt.mp fun long => ?_⟩
    cases read.symm.trans (position_eq_oversized_iff.mpr ⟨numeral, long⟩)
  unfold named
  split
  · simp only [bind_eq_error, position_eq_oversized_iff, suffix_ne_oversized, and_false, exists_false,
      or_false, empty, true_or, true_and, false_or]
  · next filled =>
    simp only [bind_eq_error, position_eq_oversized_iff, between_ne_oversized, and_false, exists_false,
      or_false, empty]
  · next filled _ =>
    simp only [bind_eq_error, position_eq_oversized_iff, between_ne_oversized, and_false, exists_false,
      or_false]
    have some : first ≠ [] := filled
    constructor
    · rintro (long | ⟨n, found, long⟩)
      · exact .inl long
      · exact .inr ⟨.inr (read found), long⟩
    · rintro (long | ⟨none | ⟨numeral, short⟩, long⟩)
      · exact .inl long
      · exact absurd none some
      · exact .inr ⟨_, position_of_short numeral short, long⟩

/-- **A numeral of a header is refused for its length** exactly where it is too long, the header is in order
up to it, and the file is not empty. -/
theorem ofHeader_eq_oversized_iff :
    ofHeader header size = .error .oversizedNumeral ↔ 0 < size ∧ Oversized header := by
  constructor
  · intro refused
    obtain other | ⟨first, last, filled, spells, asked⟩ := ofHeader_cases header size
    · cases other.symm.trans refused
    · exact ⟨filled, first, last, spells, named_eq_oversized_iff.mp (asked.symm.trans refused)⟩
  · rintro ⟨filled, first, last, spells, long⟩
    rw [ofHeader_of_spells filled spells]
    exact named_eq_oversized_iff.mpr long

end Oversized

end Gameshelf.Download.ByteRange
