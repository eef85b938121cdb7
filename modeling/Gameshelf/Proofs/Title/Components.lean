import Gameshelf.Proofs.Text.Hexadecimal
import Gameshelf.Proofs.Text.Words
import Gameshelf.Proofs.Title.Places

/-!
The tokens of a path by its components. A slash is in no token and of no word, so what stands in a path stands in
one of its components, and a search through a path is a search through its components in their order
(`passesSlash_firstId?`, `passesSlash_bracketed?`, `passesSlash_bareAfter?`). The id that a path shows is therefore
that of its first component with an id, and the version that decides in it is decided by the first component with a
version in brackets, or by the first with a bare one where no component has one in brackets
(`decidesAmong_joinWith`).
-/

namespace Gameshelf.Tokens

open Text

/-- **What the first of texts holds** that holds anything: the leftmost of what stands in it. -/
inductive FirstOf {α : Type} (StandsAt : List Char → Nat → α → Prop) : List (List Char) → Option α → Prop
  | nowhere : FirstOf StandsAt [] none
  | here {text : List Char} {others : List (List Char)} {x : α}
      (found : Leftmost (StandsAt text) (some x)) : FirstOf StandsAt (text :: others) (some x)
  | later {text : List Char} {others : List (List Char)} {found : Option α}
      (empty : Leftmost (StandsAt text) none) (rest : FirstOf StandsAt others found) :
      FirstOf StandsAt (text :: others) found

/-- **The version that decides among texts**: that of the first text with one in brackets, or else that of the first
text with a bare one. -/
inductive DecidesAmong (texts : List (List Char)) : Option (List Char) → Prop
  | bracketed {digits : List Char} (found : FirstOf BracketedAt texts (some digits)) :
      DecidesAmong texts (some digits)
  | bare {digits : Option (List Char)} (unbracketed : FirstOf BracketedAt texts none)
      (found : FirstOf BareAt texts digits) : DecidesAmong texts digits

namespace FirstOf

variable {α : Type} {StandsAt : List Char → Nat → α → Prop}

/-- A search that finds the leftmost in each text finds what the first of them holds. -/
theorem findSome? {search : List Char → Option α} (leftmost : ∀ cs, Leftmost (StandsAt cs) (search cs))
    (texts : List (List Char)) : FirstOf StandsAt texts (texts.findSome? search) := by
  induction texts with
  | nil => exact .nowhere
  | cons text others ih =>
    have own := leftmost text
    rw [List.findSome?_cons]
    cases found : search text with
    | some x => exact .here (found ▸ own)
    | none => exact .later (found ▸ own) ih

/-- What is held by the first of texts stands in one of them. -/
theorem stands {texts : List (List Char)} {x : α} (first : FirstOf StandsAt texts (some x)) :
    ∃ text ∈ texts, ∃ place, StandsAt text place x := by
  generalize held : some x = found at first
  induction first with
  | nowhere => cases held
  | here found =>
    cases held
    cases found with
    | «at» standing _ => exact ⟨_, List.mem_cons_self, _, standing⟩
  | later _ _ ih =>
    obtain ⟨text, mem, standing⟩ := ih held
    exact ⟨text, List.mem_cons_of_mem _ mem, standing⟩

end FirstOf

/-- **A search that goes through a path component by component**: behind a slash it starts anew. -/
def PassesSlash {α : Type} (search : List Char → Option α) : Prop :=
  ∀ before after, search (before ++ '/' :: after) = (search before).or (search after)

/-- Such a search goes through all components in their order. -/
theorem PassesSlash.joinWith {α : Type} {search : List Char → Option α} (passes : PassesSlash search)
    {pieces : List (List Char)} (filled : pieces ≠ []) :
    search (joinWith ['/'] pieces) = pieces.findSome? search := by
  have step (piece : List Char) (others : List (List Char)) :
      (piece :: others).findSome? search = (search piece).or (others.findSome? search) := by
    rw [List.findSome?_cons]
    cases search piece <;> rfl
  induction pieces with
  | nil => exact absurd rfl filled
  | cons piece others ih =>
    cases others with
    | nil => rw [step, List.findSome?_nil, Option.or_none, Text.joinWith]
    | cons next more =>
      rw [step, ← ih (List.cons_ne_nil _ _), ← passes]
      exact congrArg search (List.append_assoc piece ['/'] _)

/-- **An id has no slash in it.** -/
theorem passesSlash_firstId? : PassesSlash firstId? := by
  intro before after
  induction before with
  | nil => exact if_neg (by simp [TitleId.length, List.take_succ_cons, isHexDigit, hexValue?])
  | cons c rest ih =>
    rw [List.cons_append, firstId?, firstId?, ih]
    by_cases enough : TitleId.length ≤ (c :: rest).length
    · -- The window ends in front of the slash.
      have same : (c :: (rest ++ '/' :: after)).take TitleId.length = (c :: rest).take TitleId.length := by
        rw [← List.cons_append, List.take_append_of_le_length enough]
      rw [same]
      split <;> rfl
    · -- The slash is in the window, and without it the window is too short.
      have slash : '/' ∈ (c :: (rest ++ '/' :: after)).take TitleId.length := by
        have some : TitleId.length - (c :: rest).length = (TitleId.length - (c :: rest).length - 1) + 1 := by omega
        rw [← List.cons_append, List.take_append, some, List.take_succ_cons]
        exact List.mem_append_right _ List.mem_cons_self
      rw [if_neg, if_neg]
      · intro whole
        have length := eq_of_beq (Bool.and_eq_true_iff.mp whole).1
        rw [List.length_take] at length
        omega
      · intro whole
        have digit := List.all_eq_true.mp (Bool.and_eq_true_iff.mp whole).2 '/' slash
        exact absurd digit (by decide)

/-- A run of digits ends in front of a slash. -/
theorem digits_slash (before after : List Char) :
    (before ++ '/' :: after).takeWhile isDigit = before.takeWhile isDigit ∧
      (before ++ '/' :: after).dropWhile isDigit = before.dropWhile isDigit ++ '/' :: after := by
  induction before with
  | nil => exact ⟨rfl, rfl⟩
  | cons c rest ih =>
    cases digit : isDigit c with
    | true => simp [digit, ih]
    | false => simp [digit]

/-- **The letter and the digits of a version have no slash among them.** -/
theorem versionDigits?_slash (before after : List Char) :
    versionDigits? (before ++ '/' :: after)
      = (versionDigits? before).map fun (digits, rest) => (digits, rest ++ '/' :: after) := by
  cases before with
  | nil => rfl
  | cons v rest =>
    obtain ⟨taken, dropped⟩ := digits_slash rest after
    rw [List.cons_append, versionDigits?, versionDigits?, taken, dropped]
    split <;> rfl

/-- **A version in brackets has no slash in it.** -/
theorem passesSlash_bracketed? : PassesSlash bracketed? := by
  intro before after
  induction before with
  | nil => rfl
  | cons c rest ih =>
    rw [List.cons_append]
    generalize bracketed? after = found at ih ⊢
    unfold bracketed?
    rw [ih, versionDigits?_slash]
    by_cases bracket : c = '['
    · subst bracket
      cases versionDigits? rest with
      | none => rfl
      | some read =>
        obtain ⟨digits, _ | ⟨next, tail⟩⟩ := read
        · rfl
        · by_cases closes : next = ']'
          · subst closes
            rfl
          · simp [closes]
    · simp [bracket]

/-- **A bare version has no slash in it**, and a slash is no character of a word. -/
theorem bareAfter?_slash (insideWord : Bool) (before after : List Char) :
    bareAfter? insideWord (before ++ '/' :: after)
      = (bareAfter? insideWord before).or (bareAfter? false after) := by
  have free : isWordChar '/' = false := by decide +kernel
  induction before generalizing insideWord with
  | nil => cases insideWord <;> simp [bareAfter?, versionDigits?, free]
  | cons c rest ih =>
    have read := versionDigits?_slash (c :: rest) after
    rw [List.cons_append] at read ⊢
    generalize bareAfter? false after = found at ih ⊢
    unfold bareAfter?
    rw [read, ih]
    cases insideWord <;> cases versionDigits? (c :: rest) <;> rfl

theorem passesSlash_bareAfter? : PassesSlash (bareAfter? false) :=
  bareAfter?_slash false

/-- **The version that decides in a path** is the one that decides among its components. -/
theorem decidesAmong_joinWith {pieces : List (List Char)} (filled : pieces ≠ []) :
    DecidesAmong pieces (versionDigitsIn (joinWith ['/'] pieces)) := by
  have brackets := FirstOf.findSome? leftmost_bracketed? pieces
  have bare := FirstOf.findSome? (fun cs => bareAfter_false ▸ leftmost_bareAfter? false cs) pieces
  unfold versionDigitsIn
  rw [passesSlash_bracketed?.joinWith filled, passesSlash_bareAfter?.joinWith filled]
  cases found : pieces.findSome? bracketed? with
  | some digits => exact .bracketed (found ▸ brackets)
  | none => exact .bare (found ▸ brackets) bare

/-- The version that digits stand for. -/
def versionOf (digits : List Char) : Option Nat :=
  within32Bits (Nat.ofDigitChars 10 digits 0)

/-- **The tokens that the components of a path show**, those of folders and the name of a file in them. The id is that
of the name, or else of the first folder with one. The version is the name's own, or else the one that decides among
all components. -/
structure ShownBy (folders : List (List Char)) (name : List Char) (tokens : Tokens) : Prop where
  titleId : ∃ window, FirstOf IdAt (name :: folders) window ∧
    tokens.titleId = window.map fun digits => upper (String.ofList digits)
  version : ∃ own decisive, Decides name own ∧ DecidesAmong (folders ++ [name]) decisive ∧
    tokens.version = (own.bind versionOf).or (decisive.bind versionOf)

section Files

variable {folders : List (List Char)} {name : List Char}

/-- The id of a name goes before those of the folders, which come first in the path. -/
theorem firstId?_or_path (folders : List (List Char)) (name : List Char) :
    (firstId? name).or (firstId? (joinWith ['/'] (folders ++ [name]))) = (name :: folders).findSome? firstId? := by
  rw [passesSlash_firstId?.joinWith (List.concat_ne_nil name folders), List.findSome?_append,
    List.findSome?_singleton, List.findSome?_cons]
  cases firstId? name with
  | some window => rfl
  | none => rw [Option.or_none, Option.none_or]

/-- The name of a file ends its path. -/
theorem name_suffix_path (folders : List (List Char)) (name : List Char) :
    name <:+ joinWith ['/'] (folders ++ [name]) := by
  by_cases filled : folders = []
  · subst filled
    exact List.suffix_rfl
  · rw [joinWith_append _ filled (List.cons_ne_nil name [])]
    exact List.suffix_append _ _

/-- A text whose runs of digits may be read has the tokens that the searches find in it. -/
theorem ofText_of_readable {cs : List Char} (readable : Numeral.Readable cs) :
    ofText (String.ofList cs) = .ok ⟨titleIdIn cs, (versionDigitsIn cs).bind versionOf⟩ := by
  rw [ofText, String.toList_ofList, versionIn_of_readable readable]
  rfl

/-- **The tokens of a file are those that the components of its path show.** -/
theorem ofFile_by_components (readable : Numeral.Readable (joinWith ['/'] (folders ++ [name]))) :
    ∃ tokens, ofFile (String.ofList name) (String.ofList (joinWith ['/'] (folders ++ [name]))) = .ok tokens ∧
      ShownBy folders name tokens := by
  have own : Numeral.Readable name := fun run within digits =>
    readable run (within.trans (name_suffix_path folders name).isInfix) digits
  have read := ofFile.eq_1 (String.ofList name) (String.ofList (joinWith ['/'] (folders ++ [name])))
  rw [ofText_of_readable own, ok_bind, ofText_of_readable readable, ok_bind] at read
  refine ⟨_, read, ⟨_, FirstOf.findSome? leftmost_firstId? (name :: folders), ?_⟩,
    ⟨_, _, decides_versionDigitsIn name, decidesAmong_joinWith (List.concat_ne_nil name folders), rfl⟩⟩
  rw [← firstId?_or_path, Option.map_or]
  simp only [titleIdIn, upper, String.toList_ofList]

end Files

section Bounds

variable {folders : List (List Char)} {name : List Char} {tokens : Tokens}

/-- **An id that components show** has sixteen capital digits. -/
theorem ShownBy.capital {id : String} (shown : ShownBy folders name tokens) (found : tokens.titleId = some id) :
    id.toList.length = TitleId.length ∧ (∀ c ∈ id.toList, IsCapitalHex c) ∧ upperChars id.toList = id.toList := by
  obtain ⟨window, first, same⟩ := shown.titleId
  rw [found] at same
  obtain ⟨digits, rfl, rfl⟩ := Option.map_eq_some_iff.mp same.symm
  obtain ⟨_, _, _, sixteen, hex, _⟩ := first.stands
  have digit : ∀ c ∈ digits, isHexDigit c = true := fun c mem => isHexDigit_iff.mpr (hex c mem)
  obtain ⟨length, capitals, _⟩ := upperChars_digits digit
  rw [upper, String.toList_ofList, String.toList_ofList]
  exact ⟨length.trans sixteen, capitals, upperChars_upperChars digit⟩

/-- **A version that components show** has 32 bits. -/
theorem ShownBy.within {version : Nat} (shown : ShownBy folders name tokens)
    (found : tokens.version = some version) : version ≤ 2 ^ 32 - 1 := by
  have bounded {digits : Option (List Char)} (here : digits.bind versionOf = some version) :
      version ≤ 2 ^ 32 - 1 := by
    obtain ⟨run, _, value⟩ := Option.bind_eq_some_iff.mp here
    unfold versionOf within32Bits at value
    split at value
    · next small =>
      cases value
      exact small
    · cases value
  obtain ⟨own, decisive, _, _, same⟩ := shown.version
  rw [found] at same
  rcases Option.or_eq_some_iff.mp same.symm with here | ⟨_, here⟩
  · exact bounded here
  · exact bounded here

end Bounds

end Gameshelf.Tokens
