import Gameshelf.Proofs.Numeral
import Gameshelf.Proofs.Text.Words
import Gameshelf.Proofs.Title.Token

/-!
The tokens of a text by the places where they stand. A title id is the leftmost window of sixteen hexadecimal
digits. The leftmost version in brackets is the version of the text; where there is none in brackets, the leftmost
bare one is. Each of the three searches goes through a text from left to right and never back, so that what it
finds is leftmost (`leftmost_firstId?`, `leftmost_bracketed?`, `leftmost_bareAfter?`). Together they are all that
the tokens of a text depend on (`ofText_by_places`).
-/

namespace Gameshelf.Tokens

open Text

/-- **The leftmost of what stands at places**, which is nothing only where nothing stands at any place. -/
inductive Leftmost {α : Type} (StandsAt : Nat → α → Prop) : Option α → Prop
  | at {place : Nat} {x : α} (here : StandsAt place x)
      (first : ∀ earlier < place, ∀ y, ¬StandsAt earlier y) : Leftmost StandsAt (some x)
  | nowhere (empty : ∀ place x, ¬StandsAt place x) : Leftmost StandsAt none

namespace Leftmost

variable {α : Type} {StandsAt : Nat → α → Prop} {found other : Option α}

/-- What stands at the first place of all is leftmost. -/
theorem start {x : α} (here : StandsAt 0 x) : Leftmost StandsAt (some x) :=
  .at here fun _ earlier => absurd earlier (Nat.not_lt_zero _)

/-- Where nothing stands at the first place, the leftmost is that of the places behind it. -/
theorem later (none : ∀ y, ¬StandsAt 0 y) (rest : Leftmost (fun place => StandsAt (place + 1)) found) :
    Leftmost StandsAt found := by
  cases rest with
  | «at» here first =>
    refine .at here fun earlier before y => ?_
    cases earlier with
    | zero => exact none y
    | succ earlier => exact first earlier (Nat.lt_of_succ_lt_succ before) y
  | nowhere empty =>
    refine .nowhere fun place y => ?_
    cases place with
    | zero => exact none y
    | succ place => exact empty place y

/-- **There is one leftmost**, if no two things stand at one place. -/
theorem unique (left : Leftmost StandsAt found) (right : Leftmost StandsAt other)
    (one : ∀ {place x y}, StandsAt place x → StandsAt place y → x = y) : found = other := by
  cases left with
  | @«at» place x here first =>
    cases right with
    | @«at» place' y here' first' =>
      rcases Nat.lt_trichotomy place place' with before | rfl | after
      · exact absurd here (first' place before x)
      · rw [one here here']
      · exact absurd here' (first place' after y)
    | nowhere empty => exact absurd here (empty place x)
  | nowhere empty =>
    cases right with
    | @«at» place y here _ => exact absurd here (empty place y)
    | nowhere _ => rfl

end Leftmost

/-- The ASCII hexadecimal digits of either case. -/
def IsHex (c : Char) : Prop :=
  ('0' ≤ c ∧ c ≤ '9') ∨ ('a' ≤ c ∧ c ≤ 'f') ∨ ('A' ≤ c ∧ c ≤ 'F')

/-- Sixteen hexadecimal digits stand at a place. -/
def IdAt (cs : List Char) (place : Nat) (window : List Char) : Prop :=
  window.length = 16 ∧ (∀ c ∈ window, IsHex c) ∧ window <+: cs.drop place

/-- A text is a version followed by a rest: the letter of versions, digits, at least one, and the rest. -/
def IsVersion (cs digits rest : List Char) : Prop :=
  digits ≠ [] ∧ (∀ c ∈ digits, isDigit c = true) ∧ ∃ v, (v = 'v' ∨ v = 'V') ∧ cs = v :: (digits ++ rest)

/-- A version in brackets stands at a place. -/
def BracketedAt (cs : List Char) (place : Nat) (digits : List Char) : Prop :=
  ∃ version rest, cs.drop place = '[' :: version ∧ IsVersion version digits (']' :: rest)

/-- A bare version stands at a place: at the start of the text or behind a character of no word, and with all the
digits that follow its letter. -/
def BareAt (cs : List Char) (place : Nat) (digits : List Char) : Prop :=
  (place = 0 ∨ ∃ c, cs[place - 1]? = some c ∧ isWordChar c = false) ∧
    ∃ rest, IsVersion (cs.drop place) digits rest ∧ ∀ c ∈ rest.head?, isDigit c = false

/-- **The version that decides**: the leftmost in brackets, or else the leftmost bare one. -/
inductive Decides (cs : List Char) : Option (List Char) → Prop
  | bracketed {digits : List Char} (found : Leftmost (BracketedAt cs) (some digits)) : Decides cs (some digits)
  | bare {digits : Option (List Char)} (unbracketed : Leftmost (BracketedAt cs) none)
      (found : Leftmost (BareAt cs) digits) : Decides cs digits

/-- A version within 32 bits; a larger one is none. -/
def within32Bits (n : Nat) : Option Nat :=
  if n ≤ 2 ^ 32 - 1 then some n else none

/-- **The tokens that a text shows by its places.** -/
structure Shows (cs : List Char) (tokens : Tokens) : Prop where
  titleId : ∃ window, Leftmost (IdAt cs) window ∧
    tokens.titleId = window.map fun digits => upper (String.ofList digits)
  version : ∃ decisive, Decides cs decisive ∧
    tokens.version = decisive.bind fun digits => within32Bits (Nat.ofDigitChars 10 digits 0)

section Searches

variable {cs digits rest window : List Char} {c : Char} {place : Nat}

theorem isHexDigit_iff : isHexDigit c = true ↔ IsHex c := by
  unfold isHexDigit hexValue? IsHex
  simp only [← Bool.decide_and, decide_eq_true_eq]
  grind

theorem not_idAt_nil : ¬IdAt [] place window := by
  rintro ⟨whole, _, leads⟩
  rw [List.drop_nil, List.prefix_nil] at leads
  subst leads
  cases whole

/-- **The search for an id finds the leftmost.** -/
theorem leftmost_firstId? (cs : List Char) : Leftmost (IdAt cs) (firstId? cs) := by
  induction cs with
  | nil => exact .nowhere fun _ _ => not_idAt_nil
  | cons c rest ih =>
    rw [firstId?]
    split
    · next whole =>
      simp only [Bool.and_eq_true, beq_iff_eq, List.all_eq_true] at whole
      exact .start ⟨whole.1, fun d mem => isHexDigit_iff.mp (whole.2 d mem), List.take_prefix _ _⟩
    · next broken =>
      refine .later ?_ ih
      rintro window ⟨sixteen, hex, leads⟩
      have same : window = (c :: rest).take TitleId.length := by
        rw [List.prefix_iff_eq_take.mp leads, sixteen]
        rfl
      rw [← same] at broken
      simp only [Bool.and_eq_true, beq_iff_eq, List.all_eq_true] at broken
      exact broken ⟨sixteen, fun d mem => isHexDigit_iff.mpr (hex d mem)⟩

/-- **A version is read with all its digits**: the rest does not begin with one. -/
theorem versionDigits?_eq_some_iff :
    versionDigits? cs = some (digits, rest) ↔
      IsVersion cs digits rest ∧ ∀ c ∈ rest.head?, isDigit c = false := by
  constructor
  · intro read
    cases cs with
    | nil => cases read
    | cons v others =>
      rw [versionDigits?] at read
      split at read
      · next begins =>
        simp only [Bool.and_eq_true, Bool.or_eq_true, beq_iff_eq, Bool.not_eq_true', List.isEmpty_eq_false_iff]
          at begins
        cases read
        refine ⟨⟨begins.2, List.all_eq_true.mp List.all_takeWhile, v, begins.1, ?_⟩, ?_⟩
        · rw [List.takeWhile_append_dropWhile]
        · exact ends_dropWhile others
      · cases read
  · rintro ⟨⟨filled, each, v, letter, rfl⟩, ends⟩
    obtain ⟨taken, dropped⟩ := span_append each ends
    have begins : ((v == 'v' || v == 'V') && !digits.isEmpty) = true := by
      simpa [filled] using letter
    rw [versionDigits?, taken, dropped, if_pos begins]

/-- A version in brackets by what is read behind the bracket: no digit is left in front of the other one. -/
theorem bracketedAt_iff :
    BracketedAt cs place digits ↔
      ∃ version tail, cs.drop place = '[' :: version ∧ versionDigits? version = some (digits, ']' :: tail) := by
  have ends (tail : List Char) : ∀ c ∈ (']' :: tail).head?, isDigit c = false := by
    rintro _ ⟨⟩
    rfl
  simp only [versionDigits?_eq_some_iff, BracketedAt, and_iff_left (ends _)]

/-- **The search for a version in brackets finds the leftmost.** -/
theorem leftmost_bracketed? (cs : List Char) : Leftmost (BracketedAt cs) (bracketed? cs) := by
  induction cs with
  | nil =>
    refine .nowhere fun place digits => ?_
    rintro ⟨_, _, leads, _⟩
    rw [List.drop_nil] at leads
    cases leads
  | cons c rest ih =>
    unfold bracketed?
    split
    · next tail read => exact .start (bracketedAt_iff.mpr ⟨rest, tail, rfl, read⟩)
    · next other =>
      refine .later (fun digits here => ?_) ih
      obtain ⟨_, tail, leads, read⟩ := bracketedAt_iff.mp here
      cases leads
      exact other digits tail rfl read

/-- No character of a word stands in front of a place. What stands in front of the text is told apart, so that a
search may begin anywhere. -/
def OutsideWords (insideWord : Bool) (cs : List Char) : Nat → Prop
  | 0 => insideWord = false
  | place + 1 => ∃ c ∈ cs[place]?, isWordChar c = false

/-- A bare version stands at a place of a text that continues another. -/
def BareAfter (insideWord : Bool) (cs : List Char) (place : Nat) (digits : List Char) : Prop :=
  OutsideWords insideWord cs place ∧ ∃ rest, versionDigits? (cs.drop place) = some (digits, rest)

/-- **The search for a bare version finds the leftmost.** -/
theorem leftmost_bareAfter? (insideWord : Bool) (cs : List Char) :
    Leftmost (BareAfter insideWord cs) (bareAfter? insideWord cs) := by
  induction cs generalizing insideWord with
  | nil =>
    refine .nowhere fun place digits => ?_
    rintro ⟨_, _, read⟩
    rw [List.drop_nil] at read
    cases read
  | cons c rest ih =>
    have shifted : (fun place => BareAfter insideWord (c :: rest) (place + 1)) = BareAfter (isWordChar c) rest := by
      funext place digits
      cases place <;> simp [BareAfter, OutsideWords]
    unfold bareAfter?
    split
    · next digits tail read => exact .start ⟨rfl, tail, read⟩
    · next other =>
      refine .later ?_ (shifted ▸ ih (isWordChar c))
      rintro digits ⟨free, tail, read⟩
      exact other digits tail free read

theorem bareAfter_false : BareAfter false cs = BareAt cs := by
  funext place digits
  cases place <;> simp [BareAfter, OutsideWords, BareAt, versionDigits?_eq_some_iff]

end Searches

section Unique

variable {cs left right : List Char} {place : Nat}

theorem IdAt.unique (here : IdAt cs place left) (other : IdAt cs place right) : left = right := by
  rw [List.prefix_iff_eq_take.mp here.2.2, List.prefix_iff_eq_take.mp other.2.2, here.1, other.1]

theorem BracketedAt.unique (here : BracketedAt cs place left) (other : BracketedAt cs place right) :
    left = right := by
  obtain ⟨version, _, leads, read⟩ := bracketedAt_iff.mp here
  obtain ⟨version', _, leads', read'⟩ := bracketedAt_iff.mp other
  cases leads.symm.trans leads'
  cases read.symm.trans read'
  rfl

theorem BareAt.unique (here : BareAt cs place left) (other : BareAt cs place right) : left = right := by
  rw [← bareAfter_false] at here other
  obtain ⟨_, _, read⟩ := here
  obtain ⟨_, _, read'⟩ := other
  cases read.symm.trans read'
  rfl

end Unique

section Tokens

variable {cs : List Char} {decisive other : Option (List Char)}

/-- **The digits that are found decide.** -/
theorem decides_versionDigitsIn (cs : List Char) : Decides cs (versionDigitsIn cs) := by
  have brackets := leftmost_bracketed? cs
  have bare := leftmost_bareAfter? false cs
  rw [bareAfter_false] at bare
  unfold versionDigitsIn
  cases found : bracketed? cs with
  | some digits => exact .bracketed (found ▸ brackets)
  | none => exact .bare (found ▸ brackets) bare

theorem Decides.unique (left : Decides cs decisive) (right : Decides cs other) : decisive = other := by
  cases left with
  | bracketed found =>
    cases right with
    | bracketed found' => exact found.unique found' BracketedAt.unique
    | bare unbracketed _ => cases found.unique unbracketed BracketedAt.unique
  | bare unbracketed found =>
    cases right with
    | bracketed found' => cases unbracketed.unique found' BracketedAt.unique
    | bare _ found' => exact found.unique found' BareAt.unique

/-- The digits that decide are a run of digits of the text. -/
theorem Decides.run {digits : List Char} (decides : Decides cs (some digits)) :
    digits <:+: cs ∧ digits.all isDigit = true := by
  have run {version rest : List Char} (part : version <:+ cs) (is : IsVersion version digits rest) :
      digits <:+: cs ∧ digits.all isDigit = true := by
    obtain ⟨_, each, v, _, rfl⟩ := is
    have inside : digits <:+: v :: (digits ++ rest) := ⟨[v], rest, rfl⟩
    exact ⟨inside.trans part.isInfix, List.all_eq_true.mpr each⟩
  cases decides with
  | bracketed found =>
    obtain ⟨⟨version, rest, leads, is⟩, _⟩ := found
    have behind : version <:+ '[' :: version := List.suffix_cons _ _
    exact run (behind.trans (leads ▸ List.drop_suffix _ cs)) is
  | bare _ found =>
    obtain ⟨⟨_, rest, is, _⟩, _⟩ := found
    exact run (List.drop_suffix _ cs) is

/-- A version is read from a text whose runs of digits may be read. -/
theorem versionIn_of_readable (readable : Numeral.Readable cs) :
    versionIn cs = .ok ((versionDigitsIn cs).bind fun digits => within32Bits (Nat.ofDigitChars 10 digits 0)) := by
  have decides := decides_versionDigitsIn cs
  unfold versionIn
  cases found : versionDigitsIn cs with
  | none => rfl
  | some digits =>
    obtain ⟨within, run⟩ := (found ▸ decides).run
    have value := Numeral.natOfDigits_of_readable readable within run
    rw [Numeral.ofDigits_map_digitValue] at value
    simp only [value, Option.bind_some]
    rfl

theorem Shows.unique {left right : Tokens} (one : Shows cs left) (other : Shows cs right) : left = right := by
  obtain ⟨⟨window, leftmost, id⟩, ⟨digits, decides, version⟩⟩ := one
  obtain ⟨⟨window', leftmost', id'⟩, ⟨digits', decides', version'⟩⟩ := other
  cases leftmost.unique leftmost' IdAt.unique
  cases decides.unique decides'
  cases left
  cases right
  exact congrArg₂ Tokens.mk (id.trans id'.symm) (version.trans version'.symm)

/-- **Tokens are what a text shows by its places.** A text whose runs of digits may be read has tokens, and they are
the only ones that it shows. -/
theorem ofText_by_places {text : String} (readable : Numeral.Readable text.toList) :
    (∃ tokens, ofText text = .ok tokens) ∧
    ∀ tokens, ofText text = .ok tokens ↔ Shows text.toList tokens := by
  let shown : Tokens := ⟨titleIdIn text.toList,
    (versionDigitsIn text.toList).bind fun digits => within32Bits (Nat.ofDigitChars 10 digits 0)⟩
  have read : ofText text = .ok shown := by
    rw [ofText, versionIn_of_readable readable]
    rfl
  have shows : Shows text.toList shown := by
    refine ⟨⟨_, leftmost_firstId? text.toList, ?_⟩, ⟨_, decides_versionDigitsIn text.toList, rfl⟩⟩
    simp only [shown, titleIdIn, upper, String.toList_ofList]
  refine ⟨⟨shown, read⟩, fun tokens => ⟨fun own => ?_, fun own => ?_⟩⟩
  · cases read.symm.trans own
    exact shows
  · rw [read, shows.unique own]

/-- Both tokens of a name: the version in brackets goes before the bare one in front of it. -/
theorem ofText_by_places_bracketsLast :
    Numeral.Readable "Game v3 [0100abcd12345000][v7].nsp".toList ∧
    Shows "Game v3 [0100abcd12345000][v7].nsp".toList ⟨some "0100ABCD12345000", some 7⟩ :=
  have short := Numeral.readable_of_length_le (by decide)
  ⟨short, ((ofText_by_places short).2 _).mp (by decide +kernel)⟩

/-- A version in brackets that is too large is none, and no other is looked for. -/
example : ofText "[v4294967296] v3" = .ok ⟨none, none⟩ := by decide +kernel

end Tokens

end Gameshelf.Tokens
