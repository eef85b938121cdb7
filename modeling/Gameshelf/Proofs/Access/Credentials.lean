import Gameshelf.Access.Credentials
import Gameshelf.Proofs.Encoding.Base64
import Gameshelf.Proofs.Encoding.Segments
import Gameshelf.Proofs.Text.Case

/-!
The headers that credentials are read from. A header carries a token alone or behind the name of the scheme,
with white space around the whole (`Carries`), and every header that carries the token of credentials is read
as these. What is read as credentials is a token that spells their bytes, with padding behind whole groups
that nothing calls for (`ofHeader_reads_tokens`). A header that carries a word with a character outside ASCII
where a token should be crashes, and no other header does (`ofHeader_eq_error_iff`).
-/

namespace Gameshelf.Credentials

open Text Encoding

/-- **The name of the scheme**, in any letter case. -/
def IsScheme (word : List Char) : Prop :=
  word.map Char.toLower = "basic".toList

instance : DecidablePred IsScheme :=
  fun word => inferInstanceAs (Decidable (word.map Char.toLower = "basic".toList))

/-- **A header carries a token**, alone or behind the name of the scheme and some white space, and there may be
white space around the whole. -/
inductive Carries (token : List Char) : List Char → Prop
  | alone {before after : List Char} (blanksBefore : IsBlanks before) (blanksAfter : IsBlanks after) :
      Carries token (before ++ token ++ after)
  | named {before scheme gap after : List Char} (blanksBefore : IsBlanks before) (isScheme : IsScheme scheme)
      (apart : gap ≠ []) (blanksBetween : IsBlanks gap) (blanksAfter : IsBlanks after) :
      Carries token (before ++ scheme ++ (gap ++ token ++ after))

/-- **A header carries a word that no token can be**: not all of it is ASCII. -/
def CarriesForeign (header : String) : Prop :=
  ∃ word, IsWord word ∧ Carries word header.toList ∧ ∃ c ∈ word, 0x80 ≤ c.toNat

/-- The bytes that a token of credentials stands for. -/
def bytes (credentials : Credentials) : Bytes :=
  encodeUtf8 (credentials.name.toList ++ ':' :: credentials.password.toList)

section Headers

variable {token scheme : List Char} {header : String}

/-- The letters of the scheme: all in ASCII, and none that a sign outside it is the capital of. -/
theorem basic_letters : ∀ d ∈ "basic".toList, d.toNat < 0x80 ∧ d ≠ 'k' := by
  have each : "basic".toList.all (fun d => d.toNat < 0x80 && d != 'k') = true := by decide
  simpa only [List.all_eq_true, Bool.and_eq_true, decide_eq_true_eq, bne_iff_ne] using each

theorem isScheme_iff {word : List Char} : IsScheme word ↔ lower (String.ofList word) = "basic" := by
  rw [lower_eq_iff basic_letters, String.toList_ofList]
  rfl

/-- No letter of the scheme is white space. -/
theorem isBlank_of_toLower {c : Char} (letter : c.toLower ∈ "basic".toList) : isBlank c = false := by
  refine forall_ascii (P := fun c => c.toLower ∈ "basic".toList → isBlank c = false) ?_
    (ascii_of_toLower (basic_letters _ letter).1) letter
  decide +kernel

/-- The name of the scheme is a word. -/
theorem IsScheme.isWord (isScheme : IsScheme scheme) : IsWord scheme := by
  constructor
  · rintro rfl
    cases isScheme
  · intro c mem
    exact isBlank_of_toLower (isScheme ▸ List.mem_map_of_mem mem)

/-- **The token of a header is the word that it carries.** -/
theorem tokenIn_eq_some_iff : tokenIn header = some token ↔ IsWord token ∧ Carries token header.toList := by
  constructor
  · intro found
    unfold tokenIn at found
    split at found
    · next word cut =>
      cases found
      obtain ⟨isWord, before, after, whole, blanksBefore, blanksAfter⟩ := words_eq_singleton_iff.mp cut
      rw [whole]
      exact ⟨isWord, .alone blanksBefore blanksAfter⟩
    · next scheme second cut =>
      rw [Option.ite_none_right_eq_some, beq_iff_eq, ← isScheme_iff] at found
      obtain ⟨isScheme, same⟩ := found
      cases same
      obtain ⟨before, rest, whole, blanksBefore, _, ends, others⟩ := words_eq_cons_iff.mp cut
      obtain ⟨isWord, gap, after, rfl, blanksBetween, blanksAfter⟩ := words_eq_singleton_iff.mp others
      have apart : gap ≠ [] := by
        rintro rfl
        obtain ⟨c, tail, rfl⟩ := List.exists_cons_of_ne_nil isWord.some
        cases (ends c rfl).symm.trans (isWord.clean c List.mem_cons_self)
      rw [whole]
      exact ⟨isWord, .named blanksBefore isScheme apart blanksBetween blanksAfter⟩
    · cases found
  · rintro ⟨isWord, carries⟩
    unfold tokenIn
    generalize header.toList = text at carries
    cases carries with
    | alone blanksBefore blanksAfter =>
      rw [words_eq_singleton_iff.mpr ⟨isWord, _, _, rfl, blanksBefore, blanksAfter⟩]
    | @named before scheme gap after blanksBefore isScheme apart blanksBetween blanksAfter =>
      have ends : ∀ c ∈ (gap ++ token ++ after).head?, isBlank c = true := by
        obtain ⟨c, blanks, rfl⟩ := List.exists_cons_of_ne_nil apart
        rintro _ ⟨⟩
        exact blanksBetween c List.mem_cons_self
      have others := words_eq_singleton_iff.mpr ⟨isWord, _, _, rfl, blanksBetween, blanksAfter⟩
      rw [words_eq_cons_iff.mpr ⟨_, _, rfl, blanksBefore, isScheme.isWord, ends, others⟩]
      exact if_pos (beq_iff_eq.mpr (isScheme_iff.mp isScheme))

end Headers

section Reading

variable {token : List Char} {header : String} {credentials : Credentials}

/-- **A token is read as the credentials whose bytes it stands for**, if their name has no colon. -/
theorem ofToken?_eq_some_iff : ofToken? token = some credentials ↔
    ':' ∉ credentials.name.toList ∧ Base64.decode? token = some credentials.bytes := by
  unfold ofToken?
  simp only [Option.bind_eq_bind, Option.bind_eq_some_iff, decodeUtf8?_eq_some_iff]
  constructor
  · rintro ⟨_, read, text, rfl, ⟨name, password⟩, cut, same⟩
    cases same
    obtain ⟨rfl, clean⟩ := cutAt?_eq_some cut
    simp only [bytes, String.toList_ofList]
    exact ⟨clean, read⟩
  · rintro ⟨clean, read⟩
    refine ⟨_, read, _, rfl, _, cutAt?_append_cons clean _, ?_⟩
    simp only [String.ofList_toList]
    rfl

theorem bytes_ne_nil (credentials : Credentials) : credentials.bytes ≠ [] := by
  intro none
  have read := decodeUtf8?_encodeUtf8 (credentials.name.toList ++ ':' :: credentials.password.toList)
  rw [bytes] at none
  rw [none] at read
  exact List.append_ne_nil_of_right_ne_nil _ (List.cons_ne_nil _ _) (Option.some.inj read).symm

/-- A token that is read is a word. -/
theorem isWord_of_ofToken? (read : ofToken? token = some credentials) : IsWord token := by
  have decoded := (ofToken?_eq_some_iff.mp read).2
  constructor
  · rintro rfl
    exact bytes_ne_nil credentials (Option.some.inj decoded).symm
  · exact fun c mem => (Base64.plain_of_decode? decoded c mem).1

/-- **Credentials are read from the headers that carry a token of theirs.** -/
theorem ofHeader_eq_some_iff : ofHeader (some header) = .ok (some credentials) ↔
    ∃ token, Carries token header.toList ∧ ofToken? token = some credentials := by
  unfold ofHeader
  rw [Option.bind_some]
  constructor
  · intro read
    split at read
    · cases read
    · next token found =>
      split at read
      · exact ⟨token, (tokenIn_eq_some_iff.mp found).2, Except.ok.inj read⟩
      · cases read
  · rintro ⟨token, carries, read⟩
    have ascii : token.all (·.toNat < 0x80) = true := List.all_eq_true.mpr fun c mem =>
      decide_eq_true (Base64.plain_of_decode? (ofToken?_eq_some_iff.mp read).2 c mem).2
    rw [tokenIn_eq_some_iff.mpr ⟨isWord_of_ofToken? read, carries⟩]
    simp only [ascii, if_true, read]

/-- **A header crashes if it carries a word with a character outside ASCII**, and only then. -/
theorem ofHeader_eq_error_iff {header : Option String} {crash : Crash} :
    ofHeader header = .error crash ↔ crash = .tokenNotAscii ∧ ∃ text ∈ header, CarriesForeign text := by
  unfold ofHeader
  constructor
  · intro crashed
    split at crashed
    · cases crashed
    · next token found =>
      split at crashed
      · cases crashed
      · next foreign =>
        cases crashed
        simp only [List.all_eq_true, not_forall, decide_eq_true_eq] at foreign
        obtain ⟨c, mem, large⟩ := foreign
        obtain ⟨text, given, found⟩ := Option.bind_eq_some_iff.mp found
        obtain ⟨isWord, carries⟩ := tokenIn_eq_some_iff.mp found
        exact ⟨rfl, text, given, token, isWord, carries, c, mem, Nat.not_lt.mp large⟩
  · rintro ⟨rfl, text, given, token, isWord, carries, c, mem, large⟩
    have foreign : token.all (·.toNat < 0x80) = false := by
      refine List.all_eq_false.mpr ⟨c, mem, ?_⟩
      rw [decide_eq_true_eq]
      exact Nat.not_lt.mpr large
    rw [Option.mem_def.mp given, Option.bind_some, tokenIn_eq_some_iff.mpr ⟨isWord, carries⟩]
    simp only [foreign, Bool.false_eq_true, if_false]

/-- Every other header gives credentials or none. -/
theorem ofHeader_returns_iff {header : Option String} :
    (∃ found, ofHeader header = .ok found) ↔ ¬∃ text ∈ header, CarriesForeign text := by
  cases result : ofHeader header with
  | ok found =>
    refine iff_of_true ⟨found, rfl⟩ fun foreign => ?_
    cases result.symm.trans (ofHeader_eq_error_iff.mpr ⟨rfl, foreign⟩)
  | error crash => exact iff_of_false nofun (not_not.mpr (ofHeader_eq_error_iff.mp result).2)

/-- **Credentials are read back from every header that carries their token**, if their name has no colon. And
what is read from a header is what a token in it spells, but that behind a token of whole groups there may
be padding that nothing calls for. -/
theorem ofHeader_reads_tokens (header : String) (credentials : Credentials) :
    (':' ∉ credentials.name.toList → Carries credentials.token header.toList →
      ofHeader (some header) = .ok (some credentials)) ∧
    (ofHeader (some header) = .ok (some credentials) ↔
      ':' ∉ credentials.name.toList ∧ ∃ written surplus,
        Carries (written ++ List.replicate surplus '=') header.toList ∧
        Base64.Spells written credentials.bytes ∧ (surplus = 0 ∨ '=' ∉ written)) := by
  have exactly : ofHeader (some header) = .ok (some credentials) ↔
      ':' ∉ credentials.name.toList ∧ ∃ written surplus,
        Carries (written ++ List.replicate surplus '=') header.toList ∧
        Base64.Spells written credentials.bytes ∧ (surplus = 0 ∨ '=' ∉ written) := by
    rw [ofHeader_eq_some_iff]
    simp only [ofToken?_eq_some_iff, Base64.decode?_eq_some_iff]
    constructor
    · rintro ⟨_, carries, clean, written, surplus, rfl, spells, allowed⟩
      exact ⟨clean, written, surplus, carries, spells, allowed.imp_right And.right⟩
    · rintro ⟨clean, written, surplus, carries, spells, allowed⟩
      have some := spells.ne_nil (bytes_ne_nil credentials)
      exact ⟨_, carries, clean, written, surplus, rfl, spells, allowed.imp_right fun bare => ⟨some, bare⟩⟩
  refine ⟨fun clean carries => exactly.mpr ⟨clean, credentials.token, 0, ?_, ?_, .inl rfl⟩, exactly⟩
  · rwa [List.replicate_zero, List.append_nil]
  · exact Base64.spells_encode credentials.bytes

/-- The scheme in mixed letters, and white space around it and behind the token. -/
theorem ofHeader_reads_tokens_bob :
    let bob : Credentials := ⟨"bob", "pw"⟩
    let header := "\tbAsIc \u00A0Ym9iOnB3 "
    ':' ∉ bob.name.toList ∧ Carries bob.token header.toList ∧ ofHeader (some header) = .ok (some bob) := by
  intro bob header
  have clean : ':' ∉ bob.name.toList := by decide
  have whole : header.toList = ['\t'] ++ "bAsIc".toList ++ ([' ', '\u00A0'] ++ bob.token ++ [' ']) := by
    decide +kernel
  have carries : Carries bob.token header.toList := by
    rw [whole]
    exact .named (by decide +kernel) (by decide) (List.cons_ne_nil _ _) (by decide +kernel) (by decide +kernel)
  exact ⟨clean, carries, (ofHeader_reads_tokens header bob).1 clean carries⟩

/-- **Padding that nothing calls for is read over**: no token that this header carries spells the bytes of the
credentials that are read from it. -/
theorem ofHeader_surplus :
    let bob : Credentials := ⟨"bob", "pw"⟩
    let header := "Ym9iOnB3===="
    ofHeader (some header) = .ok (some bob) ∧
      ¬∃ token, Carries token header.toList ∧ Base64.Spells token bob.bytes := by
  intro bob header
  refine ⟨by decide +kernel, ?_⟩
  rintro ⟨token, carries, spells⟩
  have read : ofToken? token = some bob :=
    ofToken?_eq_some_iff.mpr ⟨by decide, Base64.decode?_eq_some_iff.mpr
      ⟨token, 0, (List.append_nil _).symm, spells, .inl rfl⟩⟩
  have found := tokenIn_eq_some_iff.mpr ⟨isWord_of_ofToken? read, carries⟩
  have only : tokenIn header = some header.toList := by decide +kernel
  rw [only] at found
  cases found
  exact absurd (Base64.count_padding_le spells) (by decide)

end Reading

end Gameshelf.Credentials
