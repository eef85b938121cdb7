import Mathlib.Data.List.Nodup
import Gameshelf.Proofs.Json.Strings

/-!
Values of JSON that are written and read again. A value without numbers, whose objects tell their members
apart by name, is read as it is written in either style, if its brackets lie no deeper than the reader goes
(`readValue_write`, `read_write`). A text that is not read is malformed, or it breaks the reader (`Breaks`).
-/

namespace Gameshelf.Json

open Text

/-- **Values that are made of text**: no numbers are among them, their brackets lie at most so many deep, and
no object has two members of one name. -/
inductive Textual : Nat → Json → Prop
  | null {room : Nat} : Textual room .null
  | bool {room : Nat} (b : Bool) : Textual room (.bool b)
  | str {room : Nat} (s : LooseText) : Textual room (.str s)
  | arr {room : Nat} {items : List Json} (each : ∀ item ∈ items, Textual room item) :
      Textual (room + 1) (.arr items)
  | obj {room : Nat} {members : Members} (distinct : (members.map Prod.fst).Nodup)
      (each : ∀ member ∈ members, Textual room member.2) : Textual (room + 1) (.obj members)

theorem Textual.mono {room larger : Nat} {value : Json} (textual : Textual room value) (more : room ≤ larger) :
    Textual larger value := by
  induction textual generalizing larger with
  | null => exact .null
  | bool b => exact .bool b
  | str s => exact .str s
  | arr each ih =>
    obtain ⟨larger, rfl⟩ := Nat.exists_eq_succ_of_ne_zero (by omega : larger ≠ 0)
    exact .arr fun item mem => ih item mem (Nat.le_of_succ_le_succ more)
  | obj distinct each ih =>
    obtain ⟨larger, rfl⟩ := Nat.exists_eq_succ_of_ne_zero (by omega : larger ≠ 0)
    exact .obj distinct fun member mem => ih member mem (Nat.le_of_succ_le_succ more)

/-- An object of strings is made of text. -/
theorem textual_strings {members : List (LooseText × LooseText)} (distinct : (members.map Prod.fst).Nodup) :
    Textual 1 (.obj (members.map fun member => (member.1, .str member.2))) := by
  refine .obj ?_ fun member mem => ?_
  · rw [List.map_map]
    exact distinct
  · obtain ⟨own, -, rfl⟩ := List.mem_map.mp mem
    exact .str own.2

section Space

variable {style : Style} {cs : List Char}

theorem skipSpace_newline (depth : Nat) : skipSpace (style.newline depth ++ cs) = skipSpace cs := by
  unfold Style.newline skipSpace
  split
  · rw [List.cons_append, List.dropWhile_cons_of_pos rfl, List.dropWhile_append_of_pos]
    intro c mem
    rw [List.eq_of_mem_replicate mem]
    rfl
  · rfl

theorem skipSpace_cons {c : Char} (other : isSpace c = false) : skipSpace (c :: cs) = c :: cs :=
  List.dropWhile_cons_of_neg (by simp [other])

/-- **What a value is written as begins** with no white space, nor as a list ends. -/
def Begins (cs : List Char) : Prop :=
  ∃ c tail, cs = c :: tail ∧ isSpace c = false ∧ c ≠ ']'

theorem Begins.append {more : List Char} (begins : Begins cs) : Begins (cs ++ more) := by
  obtain ⟨c, tail, rfl, other, unclosed⟩ := begins
  exact ⟨c, tail ++ more, rfl, other, unclosed⟩

theorem Begins.skipSpace (begins : Begins cs) : skipSpace cs = cs := by
  obtain ⟨c, tail, rfl, other, _⟩ := begins
  exact skipSpace_cons other

theorem begins_write (style : Style) (depth : Nat) {room : Nat} {value : Json} (textual : Textual room value) :
    Begins (write style depth value) := by
  cases textual with
  | null => exact ⟨_, _, rfl, rfl, by decide⟩
  | bool b => cases b <;> exact ⟨_, _, rfl, rfl, by decide⟩
  | str s => exact ⟨_, _, rfl, rfl, by decide⟩
  | @arr _ items => cases items <;> exact ⟨_, _, rfl, rfl, by decide⟩
  | @obj _ members => cases members <;> exact ⟨_, _, rfl, rfl, by decide⟩

end Space

section Collect

theorem putMember_of_not_mem {members : Members} {name : LooseText} (fresh : name ∉ members.map Prod.fst)
    (value : Json) : putMember members name value = members ++ [(name, value)] := by
  induction members with
  | nil => rfl
  | cons first rest ih =>
    obtain ⟨other, fresh⟩ := List.ne_and_not_mem_of_not_mem_cons fresh
    rw [putMember, if_neg (Ne.symm other), ih fresh, List.cons_append]

/-- **Members of different names stay as they are.** -/
theorem collect_of_nodup {members : Members} (distinct : (members.map Prod.fst).Nodup) :
    collect members = members := by
  have onward (done : Members) (whole : ((done ++ members).map Prod.fst).Nodup) :
      members.foldl (fun done member => putMember done member.1 member.2) done = done ++ members := by
    clear distinct
    induction members generalizing done with
    | nil => exact (List.append_nil done).symm
    | cons member rest ih =>
      have fresh : member.1 ∉ done.map Prod.fst := by
        rw [List.map_append, List.map_cons] at whole
        intro mem
        exact (List.nodup_append.mp whole).2.2 _ mem _ List.mem_cons_self rfl
      rw [List.foldl_cons, putMember_of_not_mem fresh, ih _ (by simpa using whole), List.append_assoc]
      rfl
  exact onward [] distinct

end Collect

section Steps

variable {fuel room : Nat} {cs rest : List Char} {value : Json}

/-- A list that is not empty begins with its first item. -/
theorem readValue_list (begins : Begins (skipSpace cs)) :
    readValue (fuel + 1) (room + 1) ('[' :: cs) = readItems fuel room [] (skipSpace cs) := by
  obtain ⟨c, tail, same, _, other⟩ := begins
  rw [readValue, same]
  split
  · next closes => exact absurd (List.cons.inj closes).1 other
  · rfl

/-- An object that is not empty begins with a name. -/
theorem readValue_object {quoted : List Char} (begins : skipSpace cs = '"' :: quoted) :
    readValue (fuel + 1) (room + 1) ('\x7b' :: cs) = readMembers fuel room [] (skipSpace cs) := by
  rw [readValue, begins]
  rfl

variable {done : List Json}

theorem readItems_comma {more : List Char} (read : readValue fuel room cs = .ok (value, rest))
    (comma : skipSpace rest = ',' :: more) :
    readItems (fuel + 1) room done cs = readItems fuel room (value :: done) (skipSpace more) := by
  rw [readItems, read]
  simp only [comma]

theorem readItems_close {more : List Char} (read : readValue fuel room cs = .ok (value, rest))
    (closes : skipSpace rest = ']' :: more) :
    readItems (fuel + 1) room done cs = .ok (.arr (value :: done).reverse, more) := by
  rw [readItems, read]
  simp only [closes]

variable {members : Members} {name : LooseText} {quoted afterName afterColon : List Char}

theorem readMembers_comma {more : List Char} (named : readString quoted = .ok (name, afterName))
    (colon : skipSpace afterName = ':' :: afterColon)
    (read : readValue fuel room (skipSpace afterColon) = .ok (value, rest))
    (comma : skipSpace rest = ',' :: more) :
    readMembers (fuel + 1) room members ('"' :: quoted)
      = readMembers fuel room ((name, value) :: members) (skipSpace more) := by
  rw [readMembers, named]
  simp only [colon, read, comma]

theorem readMembers_close {more : List Char} (named : readString quoted = .ok (name, afterName))
    (colon : skipSpace afterName = ':' :: afterColon)
    (read : readValue fuel room (skipSpace afterColon) = .ok (value, rest))
    (closes : skipSpace rest = '\x7d' :: more) :
    readMembers (fuel + 1) room members ('"' :: quoted)
      = .ok (.obj (collect ((name, value) :: members).reverse), more) := by
  rw [readMembers, named]
  simp only [colon, read, closes]

end Steps

section RoundTrip

variable (style : Style) {room : Nat}

/-- A value is read as it is written, whatever follows it. -/
def ReadsBack (room : Nat) (value : Json) : Prop :=
  ∀ depth fuel rest, (write style depth value).length ≤ fuel →
    readValue fuel room (write style depth value ++ rest) = .ok (value, rest)

variable {style}

/-- Items are read as they are written, up to the end of the list. -/
theorem readItems_write {depth outer : Nat} {first : Json} {others : List Json}
    (textual : ∀ item ∈ first :: others, Textual room item)
    (reads : ∀ item ∈ first :: others, ReadsBack style room item) (done : List Json) {fuel : Nat}
    (enough : (write style depth first ++ writeItems style depth others).length < fuel) (rest : List Char) :
    readItems fuel room done
        (write style depth first ++ (writeItems style depth others ++ (style.newline outer ++ ']' :: rest)))
      = .ok (.arr (done.reverse ++ first :: others), rest) := by
  induction others generalizing first done fuel with
  | nil =>
    obtain ⟨fuel, rfl⟩ := Nat.exists_eq_add_one_of_ne_zero (Nat.ne_zero_of_lt enough)
    rw [writeItems, List.append_nil] at enough
    have read := reads first List.mem_cons_self depth fuel (style.newline outer ++ ']' :: rest) (by omega)
    rw [writeItems, List.nil_append, readItems_close read (by rw [skipSpace_newline, skipSpace_cons rfl]),
      List.reverse_cons]
  | cons next others ih =>
    obtain ⟨fuel, rfl⟩ := Nat.exists_eq_add_one_of_ne_zero (Nat.ne_zero_of_lt enough)
    obtain ⟨here, there⟩ := List.forall_mem_cons.mp reads
    obtain ⟨_, begins⟩ := List.forall_mem_cons.mp textual
    have starts := begins_write style depth (begins next List.mem_cons_self)
    simp only [writeItems, List.length_append, List.length_cons] at enough
    let tail := write style depth next ++ (writeItems style depth others ++ (style.newline outer ++ ']' :: rest))
    have comma : writeItems style depth (next :: others) ++ (style.newline outer ++ ']' :: rest)
        = ',' :: (style.newline depth ++ tail) := by
      simp only [writeItems, tail, List.cons_append, List.append_assoc]
    have read := here depth fuel (',' :: (style.newline depth ++ tail)) (by omega)
    rw [comma, readItems_comma read (skipSpace_cons rfl), skipSpace_newline, starts.append.skipSpace,
      ih begins there (first :: done) (by simp only [List.length_append]; omega), List.reverse_cons,
      List.append_assoc, List.singleton_append]

/-- A colon is found behind a name, and a value behind the colon. -/
theorem skipSpace_colon (style : Style) {cs : List Char} (begins : Begins cs) :
    ∃ more, skipSpace (style.colon ++ cs) = ':' :: more ∧ skipSpace more = cs := by
  unfold Style.colon
  split
  · exact ⟨' ' :: cs, rfl, begins.skipSpace⟩
  · exact ⟨cs, rfl, begins.skipSpace⟩

/-- A name, a colon and a value are found where they are written. -/
theorem exists_member {depth fuel : Nat} (name : LooseText) {value : Json} (textual : Textual room value)
    (reads : ReadsBack style room value) (enough : (write style depth value).length ≤ fuel) (after : List Char) :
    ∃ quoted afterName afterColon,
      writeString style name ++ (style.colon ++ (write style depth value ++ after)) = '"' :: quoted ∧
      readString quoted = .ok (name, afterName) ∧ skipSpace afterName = ':' :: afterColon ∧
      readValue fuel room (skipSpace afterColon) = .ok (value, after) := by
  have starts : Begins (write style depth value ++ after) := (begins_write style depth textual).append
  obtain ⟨afterColon, colon, valued⟩ := skipSpace_colon style starts
  obtain ⟨quoted, same, named⟩ :=
    readString_writeString style name (style.colon ++ (write style depth value ++ after))
  exact ⟨quoted, _, afterColon, same, named, colon, valued ▸ reads depth fuel after enough⟩

/-- Members are read as they are written, up to the end of the object. -/
theorem readMembers_write {depth outer : Nat} {name : LooseText} {value : Json} {others : Members}
    (textual : ∀ member ∈ (name, value) :: others, Textual room member.2)
    (reads : ∀ member ∈ (name, value) :: others, ReadsBack style room member.2) (done : Members) {fuel : Nat}
    (enough : (write style depth value ++ writeMembers style depth others).length < fuel) (rest : List Char) :
    readMembers fuel room done
        (writeString style name ++ (style.colon ++ (write style depth value ++
          (writeMembers style depth others ++ (style.newline outer ++ '\x7d' :: rest)))))
      = .ok (.obj (collect (done.reverse ++ (name, value) :: others)), rest) := by
  induction others generalizing name value done fuel with
  | nil =>
    obtain ⟨fuel, rfl⟩ := Nat.exists_eq_add_one_of_ne_zero (Nat.ne_zero_of_lt enough)
    rw [writeMembers, List.append_nil] at enough
    obtain ⟨quoted, afterName, afterColon, same, named, colon, read⟩ :=
      exists_member name (textual _ List.mem_cons_self) (reads _ List.mem_cons_self) (Nat.le_of_lt_succ enough)
        (style.newline outer ++ '\x7d' :: rest)
    rw [writeMembers, List.nil_append, same,
      readMembers_close named colon read (by rw [skipSpace_newline, skipSpace_cons rfl]), List.reverse_cons]
  | cons next others ih =>
    obtain ⟨fuel, rfl⟩ := Nat.exists_eq_add_one_of_ne_zero (Nat.ne_zero_of_lt enough)
    obtain ⟨nextName, nextValue⟩ := next
    simp only [writeMembers, List.length_append, List.length_cons] at enough
    let tail := writeString style nextName ++ (style.colon ++ (write style depth nextValue ++
      (writeMembers style depth others ++ (style.newline outer ++ '\x7d' :: rest))))
    have comma : writeMembers style depth ((nextName, nextValue) :: others)
        ++ (style.newline outer ++ '\x7d' :: rest) = ',' :: (style.newline depth ++ tail) := by
      simp only [writeMembers, tail, List.cons_append, List.append_assoc]
    have starts : Begins tail := ⟨'"', _, rfl, rfl, by decide⟩
    have short : (write style depth value).length ≤ fuel := by omega
    obtain ⟨quoted, afterName, afterColon, same, named, colon, read⟩ :=
      exists_member name (textual _ List.mem_cons_self) (reads _ List.mem_cons_self) short
        (',' :: (style.newline depth ++ tail))
    rw [comma, same, readMembers_comma named colon read (skipSpace_cons rfl), skipSpace_newline,
      starts.skipSpace, ih (List.forall_mem_cons.mp textual).2 (List.forall_mem_cons.mp reads).2
        ((name, value) :: done) (by simp only [List.length_append]; omega), List.reverse_cons,
      List.append_assoc, List.singleton_append]

/-- What is enough for the text of a value is enough for a step. -/
theorem exists_fuel {depth fuel : Nat} {value : Json} (textual : Textual room value)
    (enough : (write style depth value).length ≤ fuel) : ∃ less, fuel = less + 1 := by
  obtain ⟨c, tail, same, _⟩ := begins_write style depth textual
  rw [same, List.length_cons] at enough
  exact Nat.exists_eq_add_one_of_ne_zero (Nat.ne_zero_of_lt enough)

/-- A list is read as it is written, if its items are. -/
theorem readsBack_arr {items : List Json} (each : ∀ item ∈ items, Textual room item)
    (reads : ∀ item ∈ items, ReadsBack style room item) : ReadsBack style (room + 1) (.arr items) := by
  intro depth fuel rest enough
  obtain ⟨fuel, rfl⟩ := exists_fuel (.arr each) enough
  cases items with
  | nil => rfl
  | cons first others =>
    have starts := begins_write style (depth + 1) (each first List.mem_cons_self)
    simp only [write, List.length_append, List.length_cons] at enough
    simp only [write, List.cons_append, List.append_assoc, List.nil_append]
    rw [readValue_list, skipSpace_newline, starts.append.skipSpace, readItems_write each reads [] _ rest]
    · rfl
    · rw [List.length_append]
      omega
    · rw [skipSpace_newline, starts.append.skipSpace]
      exact starts.append

/-- An object is read as it is written, if the values of its members are. -/
theorem readsBack_obj {members : Members} (distinct : (members.map Prod.fst).Nodup)
    (each : ∀ member ∈ members, Textual room member.2) (reads : ∀ member ∈ members, ReadsBack style room member.2) :
    ReadsBack style (room + 1) (.obj members) := by
  intro depth fuel rest enough
  obtain ⟨fuel, rfl⟩ := exists_fuel (.obj distinct each) enough
  cases members with
  | nil => rfl
  | cons first others =>
    obtain ⟨name, value⟩ := first
    simp only [write, List.length_append, List.length_cons] at enough
    simp only [write, List.cons_append, List.append_assoc, List.nil_append]
    let tail := writeString style name ++ (style.colon ++ (write style (depth + 1) value ++
      (writeMembers style (depth + 1) others ++ (style.newline depth ++ '\x7d' :: rest))))
    have starts : skipSpace (style.newline (depth + 1) ++ tail) = tail := by
      rw [skipSpace_newline]
      exact skipSpace_cons rfl
    rw [readValue_object starts, starts, readMembers_write each reads [] _ rest]
    · exact congrArg (fun members => Except.ok (Json.obj members, rest)) (collect_of_nodup distinct)
    · rw [List.length_append]
      omega

/-- **A value that is made of text is read as it is written**, whatever follows it. -/
theorem readValue_write {value : Json} (textual : Textual room value) : ReadsBack style room value := by
  induction textual with
  | null =>
    intro depth fuel rest enough
    obtain ⟨fuel, rfl⟩ := exists_fuel (.null : Textual 0 .null) enough
    rfl
  | bool b =>
    intro depth fuel rest enough
    obtain ⟨fuel, rfl⟩ := exists_fuel (.bool b : Textual 0 (.bool b)) enough
    cases b <;> rfl
  | str s =>
    intro depth fuel rest enough
    obtain ⟨fuel, rfl⟩ := exists_fuel (.str s : Textual 0 (.str s)) enough
    obtain ⟨quoted, same, read⟩ := readString_writeString style s rest
    rw [write, same, readValue, read]
    rfl
  | arr each ih => exact readsBack_arr each ih
  | obj distinct each ih => exact readsBack_obj distinct each ih

/-- **A value that is made of text is read from the document it is written as**, in either style. -/
theorem read_write [Stack] (style : Style) {value : Json} (textual : Textual Stack.brackets value) :
    read (write style 0 value) = .ok value := by
  have begins := begins_write style 0 textual
  have enough : (write style 0 value).length ≤ 2 * (write style 0 value).length + 2 := by omega
  have whole := readValue_write textual 0 _ [] enough
  rw [List.append_nil] at whole
  rw [read, readWithin, begins.skipSpace, whole]
  rfl

end RoundTrip

section Breaking

/-- **A text breaks the reader**: a numeral has too many digits, or brackets lie too deep, where everything before
was in order. -/
def Breaks [Stack] (text : List Char) : Prop :=
  ∃ failure, read text = .error failure ∧ failure ≠ .malformed

instance [Stack] (text : List Char) : Decidable (Breaks text) :=
  match read : read text with
  | .ok _ => isFalse fun ⟨_, failed, _⟩ => by cases read.symm.trans failed
  | .error failure =>
    if malformed : failure = .malformed then
      isFalse fun ⟨_, failed, other⟩ => other (Except.error.inj (failed.symm.trans read) |>.trans malformed)
    else isTrue ⟨failure, read, malformed⟩

end Breaking

end Gameshelf.Json
