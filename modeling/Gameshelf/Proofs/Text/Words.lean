import Gameshelf.Text.Words

/-!
Cutting text and putting it together again: `cutAt?` loses nothing but the element it cuts at, pieces
without a separator come back from the text they were joined to (`splitAll_joinWith`), and the words of a
text are what stands between its white space (`words_eq_cons_iff`).
-/

namespace Gameshelf.Text

variable {α : Type}

section Cuts

variable [BEq α] [LawfulBEq α]

/-- A cut is made at the first occurrence of an element, and both sides with it are the text. -/
theorem cutAt?_eq_some {x : α} {items before after : List α}
    (cut : cutAt? x items = some (before, after)) : items = before ++ x :: after ∧ x ∉ before := by
  induction items generalizing before with
  | nil => cases cut
  | cons a rest ih =>
    unfold cutAt? at cut
    split at cut
    · next same =>
      cases cut
      exact ⟨by rw [eq_of_beq same, List.nil_append], List.not_mem_nil⟩
    · next other =>
      obtain ⟨⟨left, right⟩, found, pair⟩ := Option.map_eq_some_iff.mp cut
      cases pair
      obtain ⟨rfl, clean⟩ := ih found
      refine ⟨rfl, fun mem => ?_⟩
      rcases List.mem_cons.mp mem with rfl | mem
      · exact other BEq.rfl
      · exact clean mem

/-- A text is cut at an element that does not stand before it. -/
theorem cutAt?_append_cons {x : α} {before : List α} (clean : x ∉ before) (after : List α) :
    cutAt? x (before ++ x :: after) = some (before, after) := by
  induction before with
  | nil => simp [cutAt?]
  | cons a rest ih =>
    obtain ⟨other, clean⟩ := List.ne_and_not_mem_of_not_mem_cons clean
    have differs : (a == x) = false := beq_eq_false_iff_ne.mpr (Ne.symm other)
    simp [cutAt?, differs, ih clean]

/-- Without an element there is nothing to cut at. -/
theorem cutAt?_eq_none {x : α} {items : List α} (absent : x ∉ items) : cutAt? x items = none := by
  induction items with
  | nil => rfl
  | cons a rest ih =>
    have other : ¬(a == x) = true := fun same => absent (eq_of_beq same ▸ List.mem_cons_self)
    rw [cutAt?, if_neg other, ih fun mem => absent (List.mem_cons_of_mem _ mem)]
    rfl

end Cuts

section Pieces

variable {p : α → Bool}

theorem splitAll_ne_nil (items : List α) : splitAll p items ≠ [] := by
  cases items with
  | nil => exact List.cons_ne_nil _ _
  | cons a rest =>
    unfold splitAll
    split
    · exact List.cons_ne_nil _ _
    · split <;> exact List.cons_ne_nil _ _

theorem splitAll_cons_of_pos {a : α} (h : p a = true) (rest : List α) :
    splitAll p (a :: rest) = [] :: splitAll p rest :=
  if_pos h

theorem splitAll_cons_of_neg {a : α} (h : p a = false) {rest piece : List α} {pieces : List (List α)}
    (split : splitAll p rest = piece :: pieces) : splitAll p (a :: rest) = (a :: piece) :: pieces := by
  rw [splitAll, if_neg (Bool.eq_false_iff.mp h), split]

/-- A separator divides the pieces before it from the pieces after it. -/
theorem splitAll_append {sep : α} (separates : p sep = true) (before after : List α) :
    splitAll p (before ++ sep :: after) = splitAll p before ++ splitAll p after := by
  induction before with
  | nil => exact splitAll_cons_of_pos separates after
  | cons a rest ih =>
    rw [List.cons_append]
    cases kind : p a with
    | true => rw [splitAll_cons_of_pos kind, splitAll_cons_of_pos kind, ih, List.cons_append]
    | false =>
      obtain ⟨piece, pieces, split⟩ := List.exists_cons_of_ne_nil (splitAll_ne_nil (p := p) rest)
      rw [split, List.cons_append] at ih
      rw [splitAll_cons_of_neg kind ih, splitAll_cons_of_neg kind split, List.cons_append]

/-- Without separators there is one piece. -/
theorem splitAll_of_clean {items : List α} (clean : ∀ a ∈ items, p a = false) :
    splitAll p items = [items] := by
  induction items with
  | nil => rfl
  | cons a rest ih =>
    obtain ⟨kind, others⟩ := List.forall_mem_cons.mp clean
    exact splitAll_cons_of_neg kind (ih others)

/-- No piece has a separator in it. -/
theorem clean_of_mem_splitAll {items piece : List α} (mem : piece ∈ splitAll p items) :
    ∀ a ∈ piece, p a = false := by
  induction items generalizing piece with
  | nil => rw [List.mem_singleton.mp mem]; exact nofun
  | cons a rest ih =>
    cases kind : p a with
    | true =>
      rw [splitAll_cons_of_pos kind] at mem
      rcases List.mem_cons.mp mem with rfl | mem
      · exact nofun
      · exact ih mem
    | false =>
      obtain ⟨first, others, split⟩ := List.exists_cons_of_ne_nil (splitAll_ne_nil (p := p) rest)
      rw [splitAll_cons_of_neg kind split] at mem
      rcases List.mem_cons.mp mem with rfl | mem
      · exact List.forall_mem_cons.mpr ⟨kind, ih (split ▸ List.mem_cons_self)⟩
      · exact ih (split ▸ List.mem_cons_of_mem _ mem)

/-- A piece is part of the whole. -/
theorem subset_of_mem_splitAll {items piece : List α} (mem : piece ∈ splitAll p items) : piece ⊆ items := by
  induction items generalizing piece with
  | nil => rw [List.mem_singleton.mp mem]; exact List.Subset.refl _
  | cons a rest ih =>
    cases kind : p a with
    | true =>
      rw [splitAll_cons_of_pos kind] at mem
      rcases List.mem_cons.mp mem with rfl | mem
      · exact List.nil_subset _
      · exact List.subset_cons_of_subset a (ih mem)
    | false =>
      obtain ⟨first, others, split⟩ := List.exists_cons_of_ne_nil (splitAll_ne_nil (p := p) rest)
      rw [splitAll_cons_of_neg kind split] at mem
      rcases List.mem_cons.mp mem with rfl | mem
      · exact List.cons_subset_cons a (ih (split ▸ List.mem_cons_self))
      · exact List.subset_cons_of_subset a (ih (split ▸ List.mem_cons_of_mem _ mem))

/-- The pieces between separators are those of the library's own cut. -/
theorem splitAll_eq_splitOnP (items : List α) : splitAll p items = items.splitOnP p := by
  induction items with
  | nil => rfl
  | cons a rest ih =>
    cases kind : p a with
    | true => rw [splitAll_cons_of_pos kind, ih, List.splitOnP_cons_eq_if_modifyHead, if_pos kind]
    | false =>
      obtain ⟨piece, pieces, split⟩ := List.exists_cons_of_ne_nil (splitAll_ne_nil (p := p) rest)
      rw [splitAll_cons_of_neg kind split, List.splitOnP_cons_eq_if_modifyHead,
        if_neg (Bool.eq_false_iff.mp kind), ← ih, split, List.modifyHead_cons]

theorem joinWith_eq_intercalate (separator : List α) (pieces : List (List α)) :
    joinWith separator pieces = separator.intercalate pieces := by
  induction pieces with
  | nil => rfl
  | cons piece rest ih =>
    cases rest with
    | nil => simp [joinWith]
    | cons next more => simp [joinWith, ih, List.intercalate_cons_cons]

/-- What stands in joined pieces is of the separator or of a piece. -/
theorem mem_of_mem_joinWith {separator : List α} {pieces : List (List α)} {a : α}
    (mem : a ∈ joinWith separator pieces) : a ∈ separator ∨ ∃ piece ∈ pieces, a ∈ piece := by
  induction pieces with
  | nil => cases mem
  | cons piece rest ih =>
    cases rest with
    | nil => exact .inr ⟨piece, List.mem_cons_self, mem⟩
    | cons next more =>
      simp only [joinWith, List.mem_append] at mem
      rcases mem with (here | between) | later
      · exact .inr ⟨piece, List.mem_cons_self, here⟩
      · exact .inl between
      · rcases ih later with between | ⟨other, listed, here⟩
        · exact .inl between
        · exact .inr ⟨other, List.mem_cons_of_mem _ listed, here⟩

theorem joinWith_cons_append (separator start piece : List α) (pieces : List (List α)) :
    joinWith separator ((start ++ piece) :: pieces) = start ++ joinWith separator (piece :: pieces) := by
  cases pieces with
  | nil => rfl
  | cons next rest => simp only [joinWith, List.append_assoc]

/-- Pieces joined in two parts. -/
theorem joinWith_append (separator : List α) {first second : List (List α)} (someFirst : first ≠ [])
    (someSecond : second ≠ []) :
    joinWith separator (first ++ second)
      = joinWith separator first ++ separator ++ joinWith separator second := by
  induction first with
  | nil => exact absurd rfl someFirst
  | cons piece rest ih =>
    cases rest with
    | nil =>
      obtain ⟨next, others, rfl⟩ := List.exists_cons_of_ne_nil someSecond
      rfl
    | cons next others =>
      have tail := ih (List.cons_ne_nil _ _)
      simp only [List.cons_append] at tail
      simp only [List.cons_append, joinWith, tail, List.append_assoc]

/-- **Pieces without separators come back** from the text they were joined to. -/
theorem splitAll_joinWith {sep : α} (separates : p sep = true) {pieces : List (List α)}
    (some : pieces ≠ []) (clean : ∀ piece ∈ pieces, ∀ a ∈ piece, p a = false) :
    splitAll p (joinWith [sep] pieces) = pieces := by
  induction pieces with
  | nil => exact absurd rfl some
  | cons piece rest ih =>
    obtain ⟨here, others⟩ := List.forall_mem_cons.mp clean
    cases rest with
    | nil => exact splitAll_of_clean here
    | cons next more =>
      rw [joinWith, List.append_assoc, List.singleton_append, splitAll_append separates,
        splitAll_of_clean here, ih (List.cons_ne_nil _ _) others, List.singleton_append]
      exact nofun

end Pieces

section Runs

variable {p : α → Bool} {front rest : List α}

/-- A run is read up to the rest that does not go on with it. -/
theorem span_append (each : ∀ a ∈ front, p a = true) (ends : ∀ a ∈ rest.head?, p a = false) :
    (front ++ rest).takeWhile p = front ∧ (front ++ rest).dropWhile p = rest := by
  rw [List.takeWhile_append_of_pos each, List.dropWhile_append_of_pos each]
  cases rest with
  | nil => exact ⟨List.append_nil front, rfl⟩
  | cons a rest => simp [ends a rfl]

/-- The rest behind a run does not go on with it. -/
theorem ends_dropWhile (items : List α) : ∀ a ∈ (items.dropWhile p).head?, p a = false := by
  intro a first
  have ends := List.head?_dropWhile_not p items
  rw [Option.mem_def.mp first] at ends
  exact ends

end Runs

section Words

variable {cs word : List Char} {others : List (List Char)}

/-- **A stretch of white space.** -/
def IsBlanks (cs : List Char) : Prop :=
  ∀ c ∈ cs, isBlank c = true

instance : DecidablePred IsBlanks :=
  fun _ => decidable_of_iff _ List.all_eq_true

/-- **A word**: some characters, none of them white space. -/
structure IsWord (cs : List Char) : Prop where
  some : cs ≠ []
  clean : ∀ c ∈ cs, isBlank c = false

/-- A run that is begun goes on up to the next white space. -/
theorem wordsFrom_eq {run : List Char} (begun : run ≠ []) (cs : List Char) :
    wordsFrom run cs = (run.reverse ++ cs.takeWhile (!isBlank ·)) :: words (cs.dropWhile (!isBlank ·)) := by
  have notEmpty : run.isEmpty = false := List.isEmpty_eq_false_iff.mpr begun
  induction cs generalizing run with
  | nil => simp [wordsFrom, words, notEmpty]
  | cons c rest ih =>
    cases kind : isBlank c with
    | true => simp [wordsFrom, words, kind, notEmpty]
    | false =>
      rw [wordsFrom, kind, if_neg Bool.false_ne_true, ih (List.cons_ne_nil _ _) rfl]
      simp [kind]

theorem words_cons_blank {c : Char} (blank : isBlank c = true) (rest : List Char) :
    words (c :: rest) = words rest := by
  simp [words, wordsFrom, blank]

theorem words_cons {c : Char} (clean : isBlank c = false) (rest : List Char) :
    words (c :: rest) = (c :: rest.takeWhile (!isBlank ·)) :: words (rest.dropWhile (!isBlank ·)) := by
  rw [words, wordsFrom, clean, if_neg Bool.false_ne_true, wordsFrom_eq (List.cons_ne_nil _ _)]
  rfl

theorem words_blanks_append {blanks : List Char} (all : IsBlanks blanks) (rest : List Char) :
    words (blanks ++ rest) = words rest := by
  induction blanks with
  | nil => rfl
  | cons c blanks ih =>
    obtain ⟨blank, all⟩ := List.forall_mem_cons.mp all
    rw [List.cons_append, words_cons_blank blank, ih all]

/-- **White space alone has no words in it**, and nothing else is without. -/
theorem words_eq_nil_iff : words cs = [] ↔ IsBlanks cs := by
  induction cs with
  | nil => exact ⟨fun _ => nofun, fun _ => rfl⟩
  | cons c rest ih =>
    cases kind : isBlank c with
    | true => rw [words_cons_blank kind, ih, IsBlanks, IsBlanks, List.forall_mem_cons, and_iff_right kind]
    | false =>
      rw [words_cons kind]
      exact ⟨nofun, fun all => by cases kind.symm.trans (all c List.mem_cons_self)⟩

/-- A word up to white space or the end is the first word. -/
theorem words_word_append (isWord : IsWord word) {rest : List Char} (ends : ∀ c ∈ rest.head?, isBlank c = true) :
    words (word ++ rest) = word :: words rest := by
  obtain ⟨c, tail, rfl⟩ := List.exists_cons_of_ne_nil isWord.some
  obtain ⟨clean, others⟩ := List.forall_mem_cons.mp isWord.clean
  have goes : ∀ d ∈ tail, (!isBlank d) = true := fun d mem => by rw [others d mem]; rfl
  have stops : ∀ d ∈ rest.head?, (!isBlank d) = false := fun d mem => by rw [ends d mem]; rfl
  obtain ⟨taken, dropped⟩ := span_append goes stops
  rw [List.cons_append, words_cons clean, taken, dropped]

/-- **The first word stands between white space**, and the others are those of what comes after it. -/
theorem words_eq_cons_iff : words cs = word :: others ↔ ∃ before rest, cs = before ++ word ++ rest ∧
    IsBlanks before ∧ IsWord word ∧ (∀ c ∈ rest.head?, isBlank c = true) ∧ words rest = others := by
  constructor
  · intro cut
    induction cs with
    | nil => cases cut
    | cons c rest ih =>
      cases kind : isBlank c with
      | true =>
        rw [words_cons_blank kind] at cut
        obtain ⟨before, after, rfl, blanks, found⟩ := ih cut
        exact ⟨c :: before, after, rfl, List.forall_mem_cons.mpr ⟨kind, blanks⟩, found⟩
      | false =>
        rw [words_cons kind] at cut
        cases cut
        refine ⟨[], rest.dropWhile (!isBlank ·), ?_, nofun, ⟨List.cons_ne_nil _ _, ?_⟩, ?_, rfl⟩
        · simp [List.takeWhile_append_dropWhile]
        · refine List.forall_mem_cons.mpr ⟨kind, fun d mem => ?_⟩
          simpa using List.all_eq_true.mp List.all_takeWhile d mem
        · intro d first
          simpa using ends_dropWhile rest d first
  · rintro ⟨before, rest, rfl, blanks, isWord, ends, rfl⟩
    rw [List.append_assoc, words_blanks_append blanks, words_word_append isWord ends]

/-- A word with white space around it is the only one of a text. -/
theorem words_eq_singleton_iff :
    words cs = [word] ↔ IsWord word ∧ ∃ before after, cs = before ++ word ++ after ∧ IsBlanks before ∧
      IsBlanks after := by
  rw [words_eq_cons_iff]
  constructor
  · rintro ⟨before, after, rfl, blanks, isWord, _, none⟩
    exact ⟨isWord, before, after, rfl, blanks, words_eq_nil_iff.mp none⟩
  · rintro ⟨isWord, before, after, rfl, blanks, blanksAfter⟩
    exact ⟨before, after, rfl, blanks, isWord, fun c first => blanksAfter c (List.mem_of_mem_head? first),
      words_eq_nil_iff.mpr blanksAfter⟩

end Words

end Gameshelf.Text
