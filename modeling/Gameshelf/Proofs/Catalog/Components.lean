import Mathlib.Algebra.Group.Int.Defs
import Gameshelf.Catalog.ContentFile
import Gameshelf.Proofs.Path
import Gameshelf.Proofs.Title.Components

/-!
Content files by the components of their paths. What is read off a path as one text is what its components say one
by one (`ofPath_by_components`): the name of a file first, for its id and its version alike, and then the path from
its first component on. The kind of a file is the end of its id (`kind_of_capital`).
-/

namespace Gameshelf

open Text

/-- **The text of names with slashes between them** is their texts with slashes between them. -/
theorem Path.toList_shown_unitsOf {names : List LooseText} (filled : names ≠ []) :
    (LooseText.mk (unitsOf names)).shown.toList = joinWith ['/'] (names.map fun name => name.shown.toList) := by
  have shown (text : LooseText) : text.shown.toList = text.marks.map Mark.shown := String.toList_ofList
  induction names with
  | nil => exact absurd rfl filled
  | cons name rest ih =>
    cases rest with
    | nil => rfl
    | cons next more =>
      have units : unitsOf (name :: next :: more) = name.units ++ slash :: unitsOf (next :: more) := by
        simp only [unitsOf, List.map_cons, joinWith, List.append_assoc, List.singleton_append]
      have marks : (LooseText.mk (unitsOf (name :: next :: more))).marks
          = name.marks ++ .char '/' :: (LooseText.mk (unitsOf (next :: more))).marks := by
        rw [units]
        exact LooseText.marks_append_cons rfl rfl name.units _
      rw [shown, marks, List.map_append, List.map_cons, ← shown, ← shown, ih (List.cons_ne_nil _ _)]
      simp only [List.map_cons, joinWith, List.append_assoc, List.singleton_append, Mark.shown]

/-- The kind of content that the end of an id announces: its last three digits. -/
def kindOfEnd (digits : List Char) : ContentKind :=
  if digits = "000".toList then .base else if digits = "800".toList then .update else .dlc

/-- **The kind of an id in capitals is that of its last three digits.** -/
theorem TitleId.kind_of_capital {id : String} (sixteen : id.toList.length = TitleId.length)
    (capital : upperChars id.toList = id.toList) : kind (some id) = kindOfEnd (id.toList.drop 13) := by
  have ends (tail : List Char) (three : tail.length = 3) :
      tail.isSuffixOf id.toList = decide (id.toList.drop 13 = tail) := by
    rw [Bool.eq_iff_iff, List.isSuffixOf_iff_suffix, decide_eq_true_eq, List.suffix_iff_eq_drop, three, sixteen]
    exact eq_comm
  simp only [kind, capital, kindOfEnd, ends "000".toList rfl, ends "800".toList rfl, decide_eq_true_eq]

theorem kindOfEnd_ne_unknown (digits : List Char) : kindOfEnd digits ≠ .unknown := by
  unfold kindOfEnd
  split
  · exact nofun
  · split <;> exact nofun

namespace ContentFile

/-- **A content file as the components of its path say**, those of folders and its name in them. -/
structure SaidBy (folders : List (List Char)) (name : List Char) (file : ContentFile) : Prop where
  pathed : file.path.toList = joinWith ['/'] (folders ++ [name])
  named : file.name.toList = name
  tokens : ∃ version, file.version = version.map Int.ofNat ∧ Tokens.ShownBy folders name ⟨file.titleId, version⟩
  capital : ∀ id, file.titleId = some id → id.toList.length = 16 ∧ ∀ c ∈ id.toList, IsCapitalHex c
  within : ∀ version, file.version = some version → 0 ≤ version ∧ version ≤ 2 ^ 32 - 1
  unknown : file.kind = .unknown ↔ file.titleId = none
  kind : ∀ id, file.titleId = some id → file.kind = kindOfEnd (id.toList.drop 13)

/-- The content file of tokens that components show. -/
theorem saidBy_of_shown {folders : List (List Char)} {name path : String} {tokens : Tokens}
    (pathed : path.toList = joinWith ['/'] (folders ++ [name.toList]))
    (shown : Tokens.ShownBy folders name.toList tokens) (size : Int) :
    SaidBy folders name.toList
      ⟨path, name, size, tokens.titleId, tokens.version.map Int.ofNat, TitleId.kind tokens.titleId⟩ where
  pathed := pathed
  named := rfl
  tokens := ⟨tokens.version, rfl, shown⟩
  capital id here := ⟨(shown.capital here).1, (shown.capital here).2.1⟩
  within version here := by
    obtain ⟨n, value, rfl⟩ := Option.map_eq_some_iff.mp here
    have small := shown.within value
    simp only [Int.ofNat_eq_natCast]
    omega
  unknown := by
    cases here : tokens.titleId with
    | none => exact ⟨fun _ => rfl, fun _ => rfl⟩
    | some id =>
      obtain ⟨sixteen, _, capital⟩ := shown.capital here
      rw [TitleId.kind_of_capital sixteen capital]
      exact ⟨fun unknown => absurd unknown (kindOfEnd_ne_unknown _), nofun⟩
  kind id here := by
    have given : tokens.titleId = some id := here
    obtain ⟨sixteen, _, capital⟩ := shown.capital here
    show TitleId.kind tokens.titleId = _
    rw [given, TitleId.kind_of_capital sixteen capital]

/-- **A path says what its components say.** At a path of names between slashes whose runs of digits may be read
there is a content file, and it is the one that the components describe. -/
theorem ofPath_by_components {folders : List LooseText} {name : LooseText}
    (names : ∀ component ∈ folders ++ [name], Path.IsName component)
    (readable : Numeral.Readable (LooseText.mk (Path.unitsOf (folders ++ [name]))).shown.toList) (size : Int) :
    ∃ file, ofPath (Path.ofText ⟨Path.unitsOf (folders ++ [name])⟩) size = .ok file ∧
      SaidBy (folders.map fun folder => folder.shown.toList) name.shown.toList file := by
  have filled : folders ++ [name] ≠ [] := List.concat_ne_nil name folders
  have joined := Path.toList_shown_unitsOf filled
  rw [List.map_append, List.map_singleton] at joined
  obtain ⟨tokens, found, shown⟩ := Tokens.ofFile_by_components (joined ▸ readable)
  rw [← joined, String.ofList_toList, String.ofList_toList] at found
  -- The path is read as its components, and its name is the last of them, which is not empty.
  let path : Path := ⟨.relative, folders ++ [name]⟩
  have written : path.text = ⟨Path.unitsOf (folders ++ [name])⟩ := by
    obtain ⟨first, rest, whole⟩ := List.exists_cons_of_ne_nil filled
    simp only [path, whole]
    rfl
  have normal : path.IsNormal := names
  have last : path.name = name := by
    rw [Path.name, List.getLast?_concat, Option.getD_some]
  have inhabited : name.isEmpty = false :=
    List.isEmpty_eq_false_iff.mpr (names name (List.mem_append_right _ (List.mem_singleton_self _))).1
  have text : toString path = (LooseText.mk (Path.unitsOf (folders ++ [name]))).shown :=
    congrArg LooseText.shown written
  rw [← written, Path.ofText_text normal]
  refine ⟨_, ?_, saidBy_of_shown joined shown size⟩
  have made := ofPath.eq_1 path size
  rw [text, last, inhabited] at made
  simp only [Bool.false_eq_true, if_false, found, ok_bind] at made
  exact made

/-- The version of a name is too large, and the folder with a version in brackets decides, not the one with a bare
version in front of it. -/
theorem ofPath_by_components_folders :
    let folders : List LooseText := ["v3", "Saga [0100abcd12345800][v65536]"]
    let name : LooseText := "disc [v].v4294967296.nsp"
    (∀ component ∈ folders ++ [name], Path.IsName component) ∧
    Numeral.Readable (LooseText.mk (Path.unitsOf (folders ++ [name]))).shown.toList ∧
    ∃ file, ofPath (Path.ofText ⟨Path.unitsOf (folders ++ [name])⟩) 10 = .ok file ∧
      SaidBy (folders.map fun folder => folder.shown.toList) name.shown.toList file ∧
      file.titleId = some "0100ABCD12345800" ∧ file.version = some 65536 ∧ file.kind = .update := by
  intro folders name
  have names : ∀ component ∈ folders ++ [name], Path.IsName component := by
    unfold Path.IsName
    decide +kernel
  have readable : Numeral.Readable (LooseText.mk (Path.unitsOf (folders ++ [name]))).shown.toList :=
    Numeral.readable_of_length_le (by decide +kernel)
  obtain ⟨file, made, said⟩ := ofPath_by_components names readable 10
  have whole : (ofPath (Path.ofText ⟨Path.unitsOf (folders ++ [name])⟩) 10).map
      (fun file => (file.titleId, file.version, file.kind))
        = .ok (some "0100ABCD12345800", some 65536, .update) := by
    decide +kernel
  rw [made, Except.map, Except.ok.injEq, Prod.mk.injEq, Prod.mk.injEq] at whole
  exact ⟨names, readable, file, made, said, whole⟩

end ContentFile

end Gameshelf
