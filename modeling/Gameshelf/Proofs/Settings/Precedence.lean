import Gameshelf.Settings.Sources
import Gameshelf.Proofs.Disk.Document
import Gameshelf.Proofs.Failure
import Gameshelf.Proofs.Lookup
import Gameshelf.Proofs.Path

/-!
Which source a setting comes from. Each field has five layers: the value given explicitly, the switch of the
environment, its variable, the value in the file, and what stands beside the file. The settings are those of the
values that the layers give, each field its first (`load_by_precedence`); what a lower layer has for a field
does not matter where a higher one supplies it, not even if it could not be read as a setting.
-/

namespace Gameshelf.Settings

open Text

/-- The fields of the settings. -/
def fieldNames : List LooseText :=
  ["host", "port", "library_root", "auth_file", "public_shop", "scan_interval_seconds", "data_dir", "log_level",
    "rate_limit_per_second", "rate_limit_burst", "titledb"]

/-- Settings are read from what is found for their fields alone. -/
theorem ofValues_congr {one other : Values}
    (same : ∀ field ∈ fieldNames, one.lookup field = other.lookup field) :
    ofValues one = ofValues other := by
  simp only [fieldNames, List.forall_mem_cons] at same
  obtain ⟨host, port, libraryRoot, authFile, publicShop, scanInterval, dataDirectory, logLevel, rate, burst,
    titles, -⟩ := same
  simp only [ofValues, Reading.field, titlesOf, host, port, libraryRoot, authFile, publicShop, scanInterval,
    dataDirectory, logLevel, rate, burst, titles]

section Layers

/-- A file of settings that was read: its path and the members of its object. -/
abbrev ConfigFile := Path × Values

/-- A value other than null. -/
def given : Json → Bool
  | .null => false
  | _ => true

/-- What is given explicitly for a field; null gives nothing. -/
def overrideOf (explicit : Values) (field : LooseText) : Option Json :=
  (explicit.lookup field).filter given

/-- The first variable that is set of those that make a shop public or private. -/
def firstSwitch (environment : Environment) : Option (String × LooseText) :=
  publicVariables.findSome? fun name => (environment.lookup name).map (name, ·)

/-- What the environment's switch gives to a field. -/
def switchFor (environment : Environment) (field : LooseText) : Option Json :=
  if field = ("public_shop" : LooseText) then
    (firstSwitch environment).map fun (_, value) => .bool ((switchWord? value).any trueWords.contains)
  else none

/-- The value of a variable without white space around it, unless it is blank. -/
def setVariable (environment : Environment) (name : String) : Option LooseText :=
  ((environment.lookup name).map LooseText.trim).filter (!·.isEmpty)

/-- What the variable of a field gives to it. -/
def variableFor (environment : Environment) (field : LooseText) : Option Json :=
  (fieldVariables.find? fun entry => (entry.2 : LooseText) = field).bind fun entry =>
    (setVariable environment entry.1).map fun value => .str value

/-- What a file has for a field. The root of the library may stand there under its older name, which counts where
the newer is absent. -/
def inFile (members : Values) (field : LooseText) : Option Json :=
  if field = ("library_root" : LooseText) then
    (members.lookup field).or (members.lookup ("library_folder" : LooseText))
  else members.lookup field

/-- The text of the directory for data beside a file. -/
def besideFile (path : Path) : Json :=
  .str (path.parent / "data").text

/-- **The layers of a field**, the highest first. -/
def layers (sources : Sources) (config : Option ConfigFile) (field : LooseText) : List (Option Json) :=
  [overrideOf sources.explicit field, switchFor sources.environment field, variableFor sources.environment field,
    config.bind fun (_, members) => inFile members field,
    config.bind fun (path, _) => if field = ("data_dir" : LooseText) then some (besideFile path) else none]

/-- **The effective value of a field**: that of its first layer with a value. -/
def effective (sources : Sources) (config : Option ConfigFile) (field : LooseText) : Option Json :=
  (layers sources config field).findSome? id

/-- **The effective values** of all fields. -/
def merged (sources : Sources) (config : Option ConfigFile) : Values :=
  fieldNames.filterMap fun field => (effective sources config field).map (field, ·)

/-- **Two stacks of layers agree down to the first that supplies a value.** Below it anything may stand. -/
inductive AgreeToFirst {α : Type} : List (Option α) → List (Option α) → Prop
  | bare : AgreeToFirst [] []
  | supplied (value : α) (below below' : List (Option α)) : AgreeToFirst (some value :: below) (some value :: below')
  | unsupplied {below below' : List (Option α)} (agree : AgreeToFirst below below') :
    AgreeToFirst (none :: below) (none :: below')

theorem findSome?_id_cons {α : Type} (first : Option α) (rest : List (Option α)) :
    (first :: rest).findSome? id = first.or (rest.findSome? id) := by
  cases first <;> rfl

theorem AgreeToFirst.findSome?_eq {α : Type} {one other : List (Option α)} (agree : AgreeToFirst one other) :
    one.findSome? id = other.findSome? id := by
  induction agree with
  | bare | supplied => rfl
  | unsupplied _ ih => exact ih

/-- **Sources that can be read**: the file that is chosen, if any, holds an object; the first switch that is set
is a word; and no field is given explicitly more than once. -/
structure Readable [Stack] (disk : Disk) (sources : Sources) (config : Option ConfigFile) : Prop where
  chosen : sources.filePath = config.map Prod.fst
  holds : ∀ path members, config = some (path, members) → disk.readDocument path = .ok (.obj members)
  switch : ∀ name value, firstSwitch sources.environment = some (name, value) →
    ∃ word ∈ trueWords ++ falseWords, switchWord? value = some word
  distinct : (sources.explicit.map Prod.fst).Nodup

end Layers

section Sources

variable {disk : Disk} {sources : Sources} {config : Option ConfigFile}

theorem lookup_explicitValues {explicit : Values} (distinct : (explicit.map Prod.fst).Nodup) (field : LooseText) :
    (explicitValues explicit).lookup field = overrideOf explicit field := by
  have kept : explicitValues explicit = explicit.filter fun entry => given entry.2 :=
    List.filter_congr fun entry _ => by obtain ⟨_, value⟩ := entry; cases value <;> rfl
  rw [kept, lookup_filter distinct, overrideOf]

theorem lookup_environmentValues (environment : Environment) (field : LooseText) :
    (environmentValues environment).lookup field = variableFor environment field := by
  have values : environmentValues environment = fieldVariables.filterMap fun entry =>
      ((setVariable environment entry.1).map fun value => Json.str value).map ((entry.2 : LooseText), ·) := by
    refine List.filterMap_congr fun entry _ => ?_
    obtain ⟨name, field⟩ := entry
    unfold setVariable
    dsimp only
    cases (environment.lookup name).map LooseText.trim with
    | none => rfl
    | some value => cases blank : value.isEmpty <;> simp [Option.filter, blank]
  have distinct : (fieldVariables.map fun entry => (entry.2 : LooseText)).Nodup := by decide +kernel
  rw [values, lookup_filterMap distinct, variableFor]

theorem switchOf_of_word {name : String} {value : LooseText}
    (word : ∃ word ∈ trueWords ++ falseWords, switchWord? value = some word) :
    switchOf name value = .ok ((switchWord? value).any trueWords.contains) := by
  obtain ⟨word, known, reads⟩ := word
  simp only [switchOf, reads, Option.any_some]
  split
  · next isTrue => rw [isTrue]
  · next notTrue =>
    have isFalse : word ∈ falseWords :=
      (List.mem_append.mp known).resolve_left fun mem => notTrue (List.contains_iff_mem.mpr mem)
    rw [if_pos (List.contains_iff_mem.mpr isFalse), Bool.eq_false_iff.mpr notTrue]

/-- The switch of the environment is read where the first that is set is a word. -/
theorem publicValue_eq {environment : Environment}
    (word : ∀ name value, firstSwitch environment = some (name, value) →
      ∃ word ∈ trueWords ++ falseWords, switchWord? value = some word) :
    ∃ values, publicValue environment = .ok values ∧ ∀ field, values.lookup field = switchFor environment field := by
  cases first : firstSwitch environment with
  | none =>
    have unset : publicValue environment = .ok [] := by
      unfold firstSwitch at first
      simp only [publicValue, first]
    exact ⟨[], unset, fun field => by rw [switchFor, first]; split <;> rfl⟩
  | some chosen =>
    obtain ⟨name, value⟩ := chosen
    have read : switchOf name value = .ok ((switchWord? value).any trueWords.contains) :=
      switchOf_of_word (word name value first)
    have set : publicValue environment
        = .ok [("public_shop", .bool ((switchWord? value).any trueWords.contains))] := by
      unfold firstSwitch at first
      simp only [publicValue, first, read, Except.map]
    refine ⟨_, set, fun field => ?_⟩
    rw [switchFor, first, lookup_cons_eq]
    rfl

theorem lookup_putMember (members : Values) (name : LooseText) (value : Json) (field : LooseText) :
    (Json.putMember members name value).lookup field = if field = name then some value else members.lookup field := by
  induction members with
  | nil => exact lookup_cons_eq ..
  | cons member rest ih =>
    obtain ⟨first, old⟩ := member
    rw [Json.putMember]
    split
    · next same =>
      rw [lookup_cons_eq, lookup_cons_eq, same]
      split <;> rfl
    · next other =>
      rw [lookup_cons_eq, lookup_cons_eq, ih]
      split
      · next same => rw [if_neg (same ▸ other)]
      · rfl

theorem lookup_valuesOfMembers (members : Values) (field : LooseText) :
    (valuesOfMembers members).lookup field = inFile members field := by
  unfold valuesOfMembers inFile
  dsimp only [Json.get?]
  split
  · next older newer =>
    rw [lookup_putMember]
    split
    · next same => rw [same, newer, older, Option.none_or]
    · rfl
  · next without =>
    split
    · next same =>
      cases newer : members.lookup field with
      | some value => rfl
      | none =>
        cases older : members.lookup ("library_folder" : LooseText) with
        | some root => exact absurd (same ▸ newer) (without root older)
        | none => rfl
    · rfl

/-- What a readable file gives to a field, and what stands beside it. -/
theorem fileValues_eq [Stack] (readable : Readable disk sources config) :
    ∃ values, fileValues disk sources.filePath = .ok values ∧ ∀ field,
      values.lookup field = (config.bind fun (_, members) => inFile members field).or
        (config.bind fun (path, _) => if field = ("data_dir" : LooseText) then some (besideFile path) else none) := by
  rw [readable.chosen]
  cases config with
  | none => exact ⟨[], rfl, fun _ => rfl⟩
  | some file =>
    obtain ⟨path, members⟩ := file
    refine ⟨valuesOfMembers members ++ [(("data_dir" : LooseText), besideFile path)], ?_, fun field => ?_⟩
    · rw [Option.map_some, fileValues, readable.holds path members rfl]
      rfl
    · rw [lookup_append, lookup_valuesOfMembers, lookup_cons_eq]
      rfl

/-- **The values of all sources are found by layers.** -/
theorem effectiveValues_eq [Stack] (readable : Readable disk sources config) :
    ∃ values, effectiveValues disk sources = .ok values ∧
      ∀ field, values.lookup field = effective sources config field := by
  obtain ⟨fromFile, read, inFile⟩ := fileValues_eq readable
  obtain ⟨isPublic, switched, switch⟩ := publicValue_eq readable.switch
  refine ⟨explicitValues sources.explicit ++ isPublic ++ environmentValues sources.environment ++ fromFile, ?_,
    fun field => ?_⟩
  · rw [effectiveValues, read, ok_bind, switched]
    rfl
  · rw [lookup_append, lookup_append, lookup_append, inFile, switch, lookup_environmentValues,
      lookup_explicitValues readable.distinct, Option.or_assoc, Option.or_assoc, effective, layers]
    simp only [findSome?_id_cons, List.findSome?_nil, Option.or_none]

theorem lookup_merged (sources : Sources) (config : Option ConfigFile) :
    ∀ field ∈ fieldNames, (merged sources config).lookup field = effective sources config field := by
  have distinct : (fieldNames.map id).Nodup := by decide +kernel
  intro field mem
  have own : fieldNames.find? (id · = field) = some field := by
    cases found : fieldNames.find? (id · = field) with
    | none => exact absurd (decide_eq_true rfl) (List.find?_eq_none.mp found field mem)
    | some other =>
      have same : id other = field := by simpa using List.find?_some found
      rw [← same, id]
  exact (lookup_filterMap distinct (effective sources config) field).trans (by rw [own, Option.bind_some])

theorem asPath_besideFile [Stack] (readable : Readable disk sources config) {path : Path} {members : Values}
    (file : config = some (path, members)) : asPath (besideFile path) = .ok (path.parent / "data") := by
  have chosen := readable.chosen
  rw [file, Option.map_some, Sources.filePath, Option.map_eq_some_iff] at chosen
  obtain ⟨text, -, rfl⟩ := chosen
  have normal : ((Path.ofText text).parent / "data").IsNormal :=
    Path.IsNormal.join (Path.IsNormal.parent (Path.isNormal_ofText _)) (Path.isNormal_ofText _)
  exact congrArg Except.ok (Path.ofText_text normal)

end Sources

/-- **Settings by precedence.** Loading comes to what reading the effective values comes to: the settings, or
the errors of their fields. The directory beside a file is the path itself once it is read. So sources with the
same effective values have one outcome, and what stands in a layer below the first with a value is no matter. -/
theorem load_by_precedence [Stack] {disk : Disk} {sources : Sources} {config : Option ConfigFile}
    (readable : Readable disk sources config) :
    load disk sources
        = (ofValues (merged sources config)).toExcept.mapError (fun errors => .reported (.invalid errors)) ∧
      (∀ path members, config = some (path, members) → asPath (besideFile path) = .ok (path.parent / "data")) ∧
      ∀ disk' sources' config', Readable disk' sources' config' →
        ((∀ field ∈ fieldNames, effective sources' config' field = effective sources config field) →
          load disk' sources' = load disk sources) ∧
        ((∀ field ∈ fieldNames, AgreeToFirst (layers sources' config' field) (layers sources config field)) →
          load disk' sources' = load disk sources) := by
  have loaded {disk : Disk} {sources : Sources} {config : Option ConfigFile}
      (readable : Readable disk sources config) : load disk sources
        = (ofValues (merged sources config)).toExcept.mapError fun errors => .reported (.invalid errors) := by
    obtain ⟨values, gathered, found⟩ := effectiveValues_eq readable
    have same : ofValues values = ofValues (merged sources config) :=
      ofValues_congr fun field mem => (found field).trans (lookup_merged sources config field mem).symm
    rw [load, gathered, ok_bind, same]
  have alike (disk' : Disk) (sources' : Sources) (config' : Option ConfigFile)
      (readable' : Readable disk' sources' config')
      (same : ∀ field ∈ fieldNames, effective sources' config' field = effective sources config field) :
      load disk' sources' = load disk sources := by
    rw [loaded readable, loaded readable', ofValues_congr fun field mem => ?_]
    rw [lookup_merged _ _ field mem, lookup_merged _ _ field mem, same field mem]
  refine ⟨loaded readable, fun path members => asPath_besideFile readable, fun disk' sources' config' readable' => ?_⟩
  exact ⟨alike _ _ _ readable', fun agree => alike _ _ _ readable' fun field mem => (agree field mem).findSome?_eq⟩

section Twice

/-- A disk whose file of settings has a word for a port. -/
def wordForPort : Disk :=
  let document := Json.obj [("port", .str "many"), ("library_folder", .str "games")]
  ⟨.directory [(.ofString "c.json", .file (Encoding.encodeUtf8 document.compact))], []⟩

/-- What that file has. -/
def wordForPortFile : ConfigFile :=
  (Path.ofText "c.json", [("port", .str "many"), ("library_folder", .str "games")])

/-- Sources with that file, and with variables and explicit values besides. -/
def portTwice : Sources where
  file := some "c.json"
  environment := [("FOILSHOP_PORT", " 9000 "), ("FOILSHOP_SHOP_PUBLIC", "Yes")]
  explicit := [("host", .null), ("data_dir", .str "files")]

theorem readable_portTwice : Readable wordForPort portTwice (some wordForPortFile) where
  chosen := by decide +kernel
  holds := by
    rintro path members file
    cases file
    have textual := @Json.textual_strings [("port", "many"), ("library_folder", "games")] (by decide)
    exact Disk.readDocument_write .compact (textual.mono (by decide)) rfl
  switch := by
    intro name value first
    cases first
    exact ⟨"yes", by decide, by decide +kernel⟩
  distinct := by decide +kernel

/-- **The variable's port counts**, and the word in the file does no harm. -/
theorem load_by_precedence_portTwice : load wordForPort portTwice = .ok
    { default with port := 9000, publicShop := true, libraryRoot := Path.ofText "games",
                   dataDirectory := Path.ofText "files" } := by
  rw [(load_by_precedence readable_portTwice).1]
  decide +kernel

end Twice

end Gameshelf.Settings
