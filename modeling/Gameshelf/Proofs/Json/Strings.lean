import Gameshelf.Json.Halves
import Gameshelf.Proofs.Text.Loose

/-!
Strings of JSON. In either style a text is written so that reading it gives the text again
(`readString_writeString`): what a mark is written as is read as its 16-bit units, lone halves included. A document
without halves that stand in it as they are is read as it is (`spell_map_char`), and the strings of one with such
halves keep them (`readString_spellFrom`).
-/

namespace Gameshelf.Json

open Text

section Escapes

variable {done : List UInt16} {rest : List Char}

theorem hexValue?_hexDigitLower : ∀ n < 16, hexValue? (hexDigitLower n) = some n := by decide

/-- Four digits are enough for a unit. -/
theorem digitsIn_unit {n : Nat} (small : n < 0x10000) :
    digitsIn 16 hexDigitLower 4 n
      = [hexDigitLower (n / 4096 % 16), hexDigitLower (n / 256 % 16), hexDigitLower (n / 16 % 16),
          hexDigitLower (n % 16)] := by
  have short : (Nat.toDigits 16 n).length ≤ 4 :=
    (Nat.length_toDigits_le_iff (by decide) (by decide)).mpr small
  simp [digitsIn, Nat.max_eq_left short, List.range_succ]

theorem hexUnit?_digits {n : Nat} (small : n < 0x10000) :
    hexUnit? (hexDigitLower (n / 4096 % 16)) (hexDigitLower (n / 256 % 16)) (hexDigitLower (n / 16 % 16))
      (hexDigitLower (n % 16)) = some n := by
  have digit (m : Nat) : hexValue? (hexDigitLower (m % 16)) = some (m % 16) :=
    hexValue?_hexDigitLower _ (Nat.mod_lt _ (by decide))
  have value : ((n / 4096 % 16 * 16 + n / 256 % 16) * 16 + n / 16 % 16) * 16 + n % 16 = n := by omega
  simp [hexUnit?, digit, value]

/-- An escape is read as its unit. -/
theorem readUnits_escapeUnit (unit : UInt16) :
    readUnits done (escapeUnit unit ++ rest) = readUnits (unit :: done) rest := by
  have small : unit.toNat < 0x10000 := unit.toNat_lt
  simp only [escapeUnit, digitsIn_unit small, List.cons_append, List.nil_append, readUnits,
    hexUnit?_digits small, UInt16.ofNat_toNat]

theorem readUnits_flatMap_escapeUnit (units : List UInt16) :
    readUnits done (units.flatMap escapeUnit ++ rest) = readUnits (units.reverse ++ done) rest := by
  induction units generalizing done with
  | nil => rfl
  | cons unit others ih =>
    rw [List.flatMap_cons, List.append_assoc, readUnits_escapeUnit, ih, List.reverse_cons, List.append_assoc,
      List.singleton_append]

/-- An escape of one letter is read as the character that it stands for. -/
theorem readUnits_letter {letter c : Char} (escapes : escapedChar? letter = some c) :
    readUnits done ('\\' :: letter :: rest) = readUnits ((unitsOfCode c.toNat).reverse ++ done) rest := by
  have other : letter ≠ 'u' := by
    rintro rfl
    cases escapes
  rw [readUnits.eq_4 _ _ _ fun _ _ _ _ _ same => absurd same other, escapes]

/-- A character that is written as it is. -/
theorem readUnits_plain {c : Char} (quote : c ≠ '"') (slash : c ≠ '\\') (printable : ¬c.toNat < 0x20) :
    readUnits done (c :: rest) = readUnits ((unitsOfCode c.toNat).reverse ++ done) rest := by
  rw [readUnits.eq_5 _ _ _ quote (fun _ _ _ _ _ same => absurd same slash) fun _ _ same => absurd same slash,
    if_neg printable]

/-- The three ways to write a character: an escape of one letter, the escape of its units, or as it is. -/
theorem writeChar_cases (style : Style) (c : Char) :
    (∃ letter, writeChar style c = ['\\', letter] ∧ escapedChar? letter = some c) ∨
      writeChar style c = escapeChar c ∨
      writeChar style c = [c] ∧ c ≠ '"' ∧ c ≠ '\\' ∧ ¬c.toNat < 0x20 := by
  by_cases listed : c ∈ ['"', '\\', '\n', '\r', '\t', '\x08', '\x0c']
  · left
    simp only [List.mem_cons, List.not_mem_nil, or_false] at listed
    rcases listed with rfl | rfl | rfl | rfl | rfl | rfl | rfl <;> exact ⟨_, rfl, rfl⟩
  · right
    simp only [List.mem_cons, List.not_mem_nil, or_false, not_or] at listed
    obtain ⟨quote, slash, others⟩ := listed
    simp only [writeChar, quote, slash, others, if_false]
    split
    · exact .inl rfl
    · next plain =>
      rw [Bool.or_eq_true, not_or, decide_eq_true_eq] at plain
      exact .inr ⟨rfl, quote, slash, plain.1⟩

/-- **What a mark is written as is read as its units.** -/
theorem readUnits_writeMark (style : Style) (mark : Mark) :
    readUnits done (writeMark style mark ++ rest) = readUnits (mark.units.reverse ++ done) rest := by
  cases mark with
  | half unit => exact readUnits_escapeUnit unit
  | char c =>
    show readUnits done (writeChar style c ++ rest) = readUnits ((unitsOfCode c.toNat).reverse ++ done) rest
    obtain ⟨letter, written, escapes⟩ | written | ⟨written, quote, slash, printable⟩ := writeChar_cases style c
    · rw [written]
      exact readUnits_letter escapes
    · rw [written]
      exact readUnits_flatMap_escapeUnit _
    · rw [written]
      exact readUnits_plain quote slash printable

theorem readUnits_flatMap_writeMark (style : Style) (marks : List Mark) :
    readUnits done (marks.flatMap (writeMark style) ++ rest)
      = readUnits ((marks.flatMap Mark.units).reverse ++ done) rest := by
  induction marks generalizing done with
  | nil => rfl
  | cons mark others ih =>
    rw [List.flatMap_cons, List.flatMap_cons, List.append_assoc, readUnits_writeMark, ih, List.reverse_append,
      List.append_assoc]

/-- **A text is read as it is written**, whatever follows its closing quote. -/
theorem readString_writeString (style : Style) (text : LooseText) (rest : List Char) :
    ∃ quoted, writeString style text ++ rest = '"' :: quoted ∧ readString quoted = .ok (text, rest) := by
  refine ⟨text.marks.flatMap (writeMark style) ++ '"' :: rest, ?_, ?_⟩
  · simp [writeString]
  · rw [readString, readUnits_flatMap_writeMark, readUnits, LooseText.flatMap_units_marks, List.append_nil,
      List.reverse_reverse]

end Escapes

section Halves

/-- A document without halves is read as it stands. -/
theorem spellFrom_map_char (quoting : Quoting) (cs : List Char) : spellFrom quoting (cs.map .char) = cs := by
  induction cs generalizing quoting with
  | nil => rfl
  | cons c rest ih => rw [List.map_cons, spellFrom, ih]

theorem spell_map_char (cs : List Char) : spell (cs.map .char) = cs :=
  spellFrom_map_char .outside cs

/-- Is a mark none that ends a string, begins an escape or is not allowed in a string? -/
def PlainMark : Mark → Prop
  | .char c => c ≠ '"' ∧ c ≠ '\\' ∧ ¬c.toNat < 0x20
  | .half _ => True

/-- A plain mark of a string is read as its units. -/
theorem readUnits_spellFrom {done : List UInt16} {mark : Mark} (plain : PlainMark mark) (rest : List Mark) :
    readUnits done (spellFrom .inside (mark :: rest))
      = readUnits (mark.units.reverse ++ done) (spellFrom .inside rest) := by
  cases mark with
  | half unit => exact readUnits_escapeUnit unit
  | char c =>
    obtain ⟨quote, slash, printable⟩ := plain
    rw [spellFrom, Quoting.after, if_neg quote, if_neg slash]
    exact readUnits_plain quote slash printable

/-- **A string keeps the halves that stand in it**, whatever follows its closing quote. -/
theorem readString_spellFrom {marks : List Mark} (plain : ∀ mark ∈ marks, PlainMark mark) (rest : List Mark) :
    readString (spellFrom .inside (marks ++ .char '"' :: rest))
      = .ok (.ofMarks marks, spellFrom .outside rest) := by
  have read (done : List UInt16) :
      readUnits done (spellFrom .inside (marks ++ .char '"' :: rest))
        = some (done.reverse ++ marks.flatMap Mark.units, spellFrom .outside rest) := by
    induction marks generalizing done with
    | nil =>
      rw [List.nil_append, spellFrom, Quoting.after, if_pos rfl, readUnits, List.flatMap_nil, List.append_nil]
    | cons mark others ih =>
      obtain ⟨first, others⟩ := List.forall_mem_cons.mp plain
      rw [List.cons_append, readUnits_spellFrom first, ih others, List.reverse_append, List.reverse_reverse,
        List.append_assoc, List.flatMap_cons]
  rw [readString, read]
  rfl

end Halves

end Gameshelf.Json
