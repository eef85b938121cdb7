import Gameshelf.Proofs.Failure
import Gameshelf.Proofs.Register
import Gameshelf.Proofs.Text.Loose
import Gameshelf.Titles.Info

/-!
What several sources know of one title. A part of it is the first that any entry with its id gives
(`part_get?_merge`), and an entry gives the first text that it supplies or, failing that, an empty one
(`titleOf?_cases`). So the first text supplied is what is known, unless an empty text stands before it and
hides it (`merge_parts`).
-/

namespace Gameshelf.Titles

open Text

/-- The parts of what is known of a title. -/
inductive Part where
  | icon
  | banner
  | name
deriving DecidableEq

namespace Part

/-- A part of what is known. -/
def of : Part → Info → Option LooseText
  | .icon, info => info.icon
  | .banner, info => info.banner
  | .name, info => info.name

/-- The names under which an entry can have a part, in the order in which they count. -/
def spellings : Part → List LooseText
  | .icon => ["iconUrl", "icon_url"]
  | .banner => ["bannerUrl", "banner_url"]
  | .name => ["name"]

/-- A text as it is kept: an icon that is no address stands on the host of images. -/
def kept : Part → LooseText → LooseText
  | .icon, text => if text.beginsWith "http" then text else imageHost ++ text
  | .banner, text | .name, text => text

end Part

section Entries

variable {part : Part} {id : String} {entry : Json.Members}

/-- **The texts that an entry supplies for a part**, as they are kept. An empty text is none. -/
def supplied (part : Part) (entry : Json.Members) : List LooseText :=
  ((part.spellings.filterMap (Json.obj entry).textAt?).filter (!·.isEmpty)).map part.kept

/-- **An entry is blank in a part**: it supplies none, and what counts last is the empty text. -/
def Blank (part : Part) (entry : Json.Members) : Prop :=
  supplied part entry = [] ∧ (Json.obj entry).textAt? (part.spellings.getLastD "") = some (LooseText.ofString "")

instance (part : Part) (entry : Json.Members) : Decidable (Blank part entry) :=
  inferInstanceAs (Decidable (_ ∧ _))

/-- **An entry bears an id**: sixteen digits that are the capital form of its own. -/
def Bears (id : String) (entry : Json.Members) : Prop :=
  TitleId.isValid id = true ∧
    (((Json.obj entry).textAt? "id").bind LooseText.toString?).map upper = some id

instance (id : String) (entry : Json.Members) : Decidable (Bears id entry) :=
  inferInstanceAs (Decidable (_ ∧ _))

/-- The text that an entry gives for a part: the first that it supplies, or the empty one. -/
def given (part : Part) (entry : Json.Members) : Option LooseText :=
  (supplied part entry).head?.or (if Blank part entry then some (LooseText.ofString "") else none)

/-- What is supplied is never empty, since the host of images is not. -/
theorem ne_empty_of_supplied {text : LooseText} (mem : text ∈ supplied part entry) : text ≠ LooseText.ofString "" := by
  obtain ⟨own, kept, rfl⟩ := List.mem_map.mp mem
  have filled := (List.mem_filter.mp kept).2
  have own_ne : own ≠ LooseText.ofString "" := by
    rintro rfl
    cases filled
  cases part with
  | banner | name => exact own_ne
  | icon =>
    show (if own.beginsWith "http" then own else LooseText.ofString imageHost ++ own) ≠ _
    split
    · exact own_ne
    · intro empty
      have units : (LooseText.ofString imageHost).units ++ own.units = [] := congrArg LooseText.units empty
      exact absurd (List.append_eq_nil_iff.mp units).1 (by decide)

theorem given_of_supplied {text : LooseText} {others : List LooseText} (some : supplied part entry = text :: others) :
    given part entry = .some text := by
  rw [given, some]
  rfl

theorem given_of_blank (blank : Blank part entry) : given part entry = some (LooseText.ofString "") := by
  rw [given, blank.1, if_pos blank]
  rfl

theorem given_of_nothing (none : supplied part entry = []) (blank : ¬Blank part entry) : given part entry = .none := by
  rw [given, none, if_neg blank]
  rfl

/-- The empty text is the only one without units. -/
theorem empty_or_filled (text : LooseText) : text.isEmpty = false ∨ text = LooseText.ofString "" := by
  obtain ⟨units⟩ := text
  cases units with
  | nil => exact .inr rfl
  | cons => exact .inl rfl

/-- Where two names count, the text under the second is given only if the first has none. -/
theorem firstText_eq (part : Part) {first second : LooseText} (spellings : part.spellings = [first, second]) :
    (firstText (.obj entry) first second).map (fun text => if text.isEmpty then text else part.kept text)
      = given part entry := by
  have empty : (LooseText.ofString "").isEmpty = true := rfl
  have last : [first, second].getLastD "" = second := rfl
  simp only [given, Blank, supplied, spellings, last, firstText, List.filterMap_cons, List.filterMap_nil]
  cases one : (Json.obj entry).textAt? first with
  | none =>
    cases two : (Json.obj entry).textAt? second with
    | none => simp
    | some text => rcases empty_or_filled text with filled | rfl <;> simp [*]
  | some text =>
    cases two : (Json.obj entry).textAt? second with
    | none => rcases empty_or_filled text with filled | rfl <;> simp [*]
    | some other =>
      rcases empty_or_filled text with filled | rfl <;> rcases empty_or_filled other with filled | rfl <;> simp [*]

/-- Where one name counts, the text under it is given. -/
theorem textAt?_eq (part : Part) {name : LooseText} (spellings : part.spellings = [name]) :
    ((Json.obj entry).textAt? name).map (fun text => if text.isEmpty then text else part.kept text)
      = given part entry := by
  have empty : (LooseText.ofString "").isEmpty = true := rfl
  have last : [name].getLastD "" = name := rfl
  simp only [given, Blank, supplied, spellings, last, List.filterMap_cons, List.filterMap_nil]
  cases one : (Json.obj entry).textAt? name with
  | none => simp
  | some text => rcases empty_or_filled text with filled | rfl <;> simp [*]

/-- **What an entry makes known** is the text that it gives for each part. -/
theorem of_info (part : Part) :
    part.of ⟨(firstText (.obj entry) "iconUrl" "icon_url").map withHost,
        firstText (.obj entry) "bannerUrl" "banner_url", (Json.obj entry).textAt? "name"⟩
      = given part entry := by
  have asItIs : (fun text : LooseText => if text.isEmpty then text else text) = id := funext fun text => ite_self text
  cases part with
  | icon =>
    have host : withHost = fun text => if text.isEmpty then text else Part.icon.kept text := by
      funext text
      unfold withHost
      cases text.isEmpty <;> rfl
    rw [← firstText_eq .icon rfl, ← host]
    rfl
  | banner =>
    rw [← firstText_eq .banner rfl]
    exact (congrFun (congrArg Option.map asItIs) _ |>.trans (congrFun Option.map_id _)).symm
  | name =>
    rw [← textAt?_eq .name rfl]
    exact (congrFun (congrArg Option.map asItIs) _ |>.trans (congrFun Option.map_id _)).symm

/-- **The title of an entry** is kept under the id that it bears, if it bears any. -/
theorem titleOf?_cases (entry : Json.Members) :
    (∃ id info, Bears id entry ∧ titleOf? (.obj entry) = some (.ofString id, info) ∧
      ∀ part : Part, part.of info = given part entry) ∨
    titleOf? (.obj entry) = none ∧ ∀ id, ¬Bears id entry := by
  unfold titleOf? Bears
  cases (Json.obj entry).textAt? "id" with
  | none => exact .inr ⟨rfl, nofun⟩
  | some own =>
    cases spelled : own.toString? with
    | none => exact .inr ⟨by simp [spelled], by simp [spelled]⟩
    | some text =>
      by_cases valid : TitleId.isValid (upper text) = true
      · exact .inl ⟨upper text, _, ⟨valid, by simp [spelled]⟩, by simp [spelled, valid], fun part => of_info part⟩
      · refine .inr ⟨by simp [spelled, valid], ?_⟩
        rintro id ⟨validId, same⟩
        rw [Option.bind_some, spelled, Option.map_some, Option.some.injEq] at same
        exact valid (same ▸ validId)

end Entries

section Merged

theorem of_merge (part : Part) (info other : Info) :
    part.of (info.merge other) = (part.of info).or (part.of other) := by
  cases part <;> rfl

/-- The titles that are kept under an id. -/
def under (id : LooseText) (titles : List (LooseText × Info)) : List Info :=
  (titles.filter (·.1 == id)).map Prod.snd

/-- **A part is the first that is given.** -/
theorem part_get?_merge (part : Part) (id : LooseText) (sources : List (List (LooseText × Info))) :
    ((merge sources).get? id).bind part.of = (under id sources.flatten).findSome? part.of := by
  unfold merge under
  generalize sources.flatten = titles
  induction titles using List.reverseRecOn with
  | nil => rfl
  | append_singleton titles title ih =>
    rw [List.foldl_append, List.filter_append, List.map_append, List.findSome?_append, ← ih, List.foldl_cons,
      List.foldl_nil, Register.get?_insert]
    by_cases same : id = title.1
    · have before (known : Option Info) : part.of (known.getD .unknown) = known.bind part.of := by
        cases known with
        | none => cases part <;> rfl
        | some info => rfl
      rw [if_pos same, same, Option.bind_some, of_merge, before]
      simp
    · simp [same, Ne.symm same]

/-- A title is known where one was brought. -/
theorem isSome_get?_merge (id : LooseText) (sources : List (List (LooseText × Info))) :
    ((merge sources).get? id).isSome = !(under id sources.flatten).isEmpty := by
  unfold merge under
  generalize sources.flatten = titles
  induction titles using List.reverseRecOn with
  | nil => rfl
  | append_singleton titles title ih =>
    rw [List.foldl_append, List.filter_append, List.map_append, List.foldl_cons, List.foldl_nil, Register.get?_insert]
    by_cases same : id = title.1
    · simp [same]
    · rw [if_neg same]
      simpa [same, Ne.symm same] using ih

end Merged

section Claimed

variable {part : Part} {id : String}

/-- The entries of a source under their names. -/
abbrev Entries := List (LooseText × Json.Members)

/-- Entries as the payload of a source. -/
def Entries.payload (entries : Entries) : Json :=
  .obj (entries.map fun entry => (entry.1, .obj entry.2))

/-- The entries of sources that bear an id, in the order of the sources. -/
def bearing (id : String) (sources : List Entries) : List Json.Members :=
  (sources.flatten.map Prod.snd).filter fun entry => Bears id entry

/-- **An empty text hides a part**: what only later entries supply, where one that is blank comes first. -/
inductive Hidden (part : Part) : List Json.Members → Prop
  | here {entry later : Json.Members} {rest : List Json.Members} (blank : Blank part entry) (mem : later ∈ rest)
      (some : supplied part later ≠ []) : Hidden part (entry :: rest)
  | later {entry : Json.Members} {rest : List Json.Members} (none : supplied part entry = [])
      (hidden : Hidden part rest) : Hidden part (entry :: rest)

/-- The titles of a payload are those of its entries. -/
theorem ofPayload_payload (entries : Entries) :
    ofPayload entries.payload = .ok (entries.filterMap fun entry => titleOf? (.obj entry.2)) := by
  unfold Entries.payload ofPayload
  induction entries with
  | nil => rfl
  | cons entry rest ih =>
    simp only [List.map_cons, List.foldr_cons] at ih ⊢
    rw [ih, List.filterMap_cons]
    dsimp only
    cases titleOf? (.obj entry.2) <;> rfl

/-- The titles of all sources are those of all their entries. -/
theorem mapM_ofPayload (sources : List Entries) :
    sources.mapM (fun entries => ofPayload entries.payload)
      = .ok (sources.map fun entries => entries.filterMap fun entry => titleOf? (.obj entry.2)) := by
  induction sources with
  | nil => rfl
  | cons entries rest ih => rw [List.mapM_cons, ofPayload_payload, ok_bind, ih, ok_bind, List.map_cons]; rfl

theorem Bears.unique {other : String} {entry : Json.Members} (bears : Bears id entry) (also : Bears other entry) :
    id = other :=
  Option.some.inj (bears.2.symm.trans also.2)

/-- What is kept under an id are the entries that bear it, each with the texts that it gives. -/
theorem map_under (part : Part) (id : String) (entries : List Json.Members) :
    (under id (entries.filterMap fun entry => titleOf? (.obj entry))).map part.of
      = (entries.filter fun entry => Bears id entry).map (given part) := by
  unfold under
  induction entries with
  | nil => rfl
  | cons entry rest ih =>
    obtain ⟨own, info, bears, title, parts⟩ | ⟨none, bearsNone⟩ := titleOf?_cases entry
    · rw [List.filterMap_cons, title]
      by_cases same : own = id
      · subst same
        simp [bears, ih, parts]
      · have different : LooseText.ofString own ≠ .ofString id := fun h => same (LooseText.ofString_injective h)
        have other : ¬Bears id entry := fun also => same (bears.unique also)
        simp [different, other, ih]
    · simp [none, bearsNone id, ih]

theorem map_under_flatten (part : Part) (id : String) (sources : List Entries) :
    (under id (sources.map fun entries => entries.filterMap fun entry => titleOf? (.obj entry.2)).flatten).map part.of
      = (bearing id sources).map (given part) := by
  rw [bearing, ← map_under, List.filterMap_map, List.filterMap_flatten]
  rfl

/-- The first text that entries supply for a part. -/
def firstSupplied (part : Part) (entries : List Json.Members) : Option LooseText :=
  (entries.flatMap (supplied part)).head?

theorem firstSupplied_cons_of_nothing {entry : Json.Members} {rest : List Json.Members}
    (none : supplied part entry = []) :
    firstSupplied part (entry :: rest) = firstSupplied part rest := by
  rw [firstSupplied, List.flatMap_cons, none, List.nil_append, firstSupplied]

theorem firstSupplied_eq_none_iff {entries : List Json.Members} :
    firstSupplied part entries = none ↔ ∀ entry ∈ entries, supplied part entry = [] := by
  rw [firstSupplied, List.head?_eq_none_iff, List.flatMap_eq_nil_iff]

/-- What is hidden was supplied. -/
theorem Hidden.exists_supplied {entries : List Json.Members} (hidden : Hidden part entries) :
    ∃ entry ∈ entries, supplied part entry ≠ [] := by
  induction hidden with
  | here _ mem some => exact ⟨_, List.mem_cons_of_mem _ mem, some⟩
  | later _ _ ih =>
    obtain ⟨entry, mem, some⟩ := ih
    exact ⟨entry, List.mem_cons_of_mem _ mem, some⟩

theorem Hidden.exists_firstSupplied {entries : List Json.Members} (hidden : Hidden part entries) :
    ∃ text, firstSupplied part entries = some text ∧ text ≠ LooseText.ofString "" := by
  cases first : firstSupplied part entries with
  | none =>
    obtain ⟨entry, mem, some⟩ := hidden.exists_supplied
    exact absurd (firstSupplied_eq_none_iff.mp first entry mem) some
  | some text =>
    obtain ⟨entry, _, supplies⟩ := List.mem_flatMap.mp (List.mem_of_mem_head? (Option.mem_def.mpr first))
    exact ⟨text, rfl, ne_empty_of_supplied supplies⟩

/-- **What is given first** is the first text that is supplied, or the empty one, which may hide it. -/
theorem findSome?_given (part : Part) (entries : List Json.Members) :
    (Hidden part entries ∧ entries.findSome? (given part) = some (LooseText.ofString "")) ∨
    (¬Hidden part entries ∧ (entries.findSome? (given part) = firstSupplied part entries ∨
      firstSupplied part entries = none ∧ entries.findSome? (given part) = some (LooseText.ofString ""))) := by
  induction entries with
  | nil => exact .inr ⟨nofun, .inl rfl⟩
  | cons entry rest ih =>
    cases texts : supplied part entry with
    | cons text others =>
      refine .inr ⟨?_, .inl ?_⟩
      · intro hidden
        cases hidden with
        | here blank => cases blank.1.symm.trans texts
        | later none => cases none.symm.trans texts
      · rw [List.findSome?_cons, given_of_supplied texts, firstSupplied, List.flatMap_cons, texts]
        rfl
    | nil =>
      rw [firstSupplied_cons_of_nothing texts, List.findSome?_cons]
      by_cases blank : Blank part entry
      · rw [given_of_blank blank]
        by_cases later : firstSupplied part rest = none
        · have nothing := firstSupplied_eq_none_iff.mp later
          refine .inr ⟨fun hidden => ?_, .inr ⟨later, rfl⟩⟩
          obtain ⟨other, mem, some⟩ := hidden.exists_supplied
          rcases List.mem_cons.mp mem with rfl | mem
          · exact some texts
          · exact some (nothing other mem)
        · simp only [firstSupplied_eq_none_iff, not_forall] at later
          obtain ⟨other, mem, some⟩ := later
          exact .inl ⟨.here blank mem some, rfl⟩
      · rw [given_of_nothing texts blank]
        have same : Hidden part (entry :: rest) ↔ Hidden part rest := by
          constructor
          · intro hidden
            cases hidden with
            | here also => exact absurd also blank
            | later _ hidden => exact hidden
          · exact .later texts
        rw [same]
        exact ih

/-- **The first text that is supplied is what is known**, in the order of the sources and of their entries, exactly
where no empty text hides it; then the empty text is known in its place. A part that no entry supplies is absent or
empty, and a title is known where an entry bears its id. -/
theorem merge_parts (sources : List Entries) (id : String) :
    ∃ titles, sources.mapM (fun entries => ofPayload entries.payload) = .ok titles ∧
      (((merge titles).get? id).isSome = true ↔ bearing id sources ≠ []) ∧
      ∀ part : Part,
        let known := ((merge titles).get? id).bind part.of
        let first := firstSupplied part (bearing id sources)
        ((known = first ∨ first = none ∧ known = some (LooseText.ofString "")) ↔ ¬Hidden part (bearing id sources)) ∧
        (Hidden part (bearing id sources) → known = some (LooseText.ofString "")) := by
  refine ⟨_, mapM_ofPayload sources, ?_, ?_⟩
  · have names := congrArg List.isEmpty (map_under_flatten .name id sources)
    rw [List.isEmpty_map, List.isEmpty_map] at names
    rw [isSome_get?_merge, names, Bool.not_eq_true', List.isEmpty_eq_false_iff]
  · intro part known first
    have value : known = (bearing id sources).findSome? (given part) := by
      have parts := congrArg (List.findSome? fun text => text) (map_under_flatten part id sources)
      rw [List.findSome?_map, List.findSome?_map] at parts
      exact (part_get?_merge part id _).trans parts
    rw [value]
    rcases findSome?_given part (bearing id sources) with ⟨hidden, empty⟩ | ⟨shown, asSupplied⟩
    · refine ⟨⟨?_, fun shown => absurd hidden shown⟩, fun _ => empty⟩
      obtain ⟨text, supplied, filled⟩ := hidden.exists_firstSupplied
      rintro (same | ⟨none, _⟩)
      · exact absurd (Option.some.inj (supplied.symm.trans (same.symm.trans empty))) filled
      · cases supplied.symm.trans none
    · exact ⟨⟨fun _ => shown, fun _ => asSupplied⟩, fun hidden => absurd hidden shown⟩

/-- An empty name of the first source hides the name that the second one has. -/
theorem merge_hides_name :
    let sources : List Entries :=
      [[("1", [("id", .str "0100ABCD12345000"), ("name", .str "")])],
        [("1", [("id", .str "0100ABCD12345000"), ("name", .str "Real")])]]
    firstSupplied .name (bearing "0100ABCD12345000" sources) = some "Real" ∧
    ∃ titles, sources.mapM (fun entries => ofPayload entries.payload) = .ok titles ∧
      ((merge titles).get? "0100ABCD12345000").bind Part.name.of = some (LooseText.ofString "") := by
  refine ⟨by decide +kernel, _, mapM_ofPayload _, by decide +kernel⟩

end Claimed

end Gameshelf.Titles
