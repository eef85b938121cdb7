import Gameshelf.Proofs.Access.Users
import Gameshelf.Proofs.Disk.Document
import Gameshelf.Proofs.Text.Loose

/-!
Whom the users of a file authorize. A file names users in an object and in the objects of its list, one entry after
the other; an entry with a blank part, or one that is no text, names nobody and changes nothing. The password of a
user is that of the last entry that names the user (`get?_usersOf_eq_some_iff`), so credentials are accepted exactly
if that entry has them, and a file whose entries name nobody gives no users (`load_by_last_entry`).
-/

namespace Gameshelf.Users

open Text

/-- **An entry names a user** with a password: it is an object with both of them, both are texts, and something is
left of each without the white space around it. -/
inductive Names (entry : Json) : LooseText → LooseText → Prop
  | written {name password : LooseText} (named : entry.get? "username" = some (.str name))
      (secret : entry.get? "password" = some (.str password)) (nameFilled : name.trim.isEmpty = false)
      (passwordFilled : password.trim.isEmpty = false) : Names entry name.trim password.trim

/-- **The last of entries that names a user** does so with a password. -/
inductive LastNames (name password : LooseText) : List Json → Prop
  | entry {before after : List Json} {entry : Json} (names : Names entry name password)
      (last : ∀ later ∈ after, ∀ other, ¬Names later name other) :
      LastNames name password (before ++ entry :: after)

/-- The entries of an object: itself, and the items of its list of users, if it has one. -/
def entriesOf (file : Json) : List Json :=
  file :: match file.get? "users" with
    | some (.arr items) => items
    | _ => []

/-- The users that entries name. -/
def usersOf (entries : List Json) : Users :=
  ofList (entries.filterMap userIn?)

/-- What is kept of an entry. -/
def kept? (entry : Json) : Option (LooseText × LooseText) :=
  (userIn? entry).bind fun user =>
    if user.name.trim.isEmpty || user.password.trim.isEmpty then none else some (user.name.trim, user.password.trim)

section Entries

variable {entry : Json} {entries : List Json} {name password : LooseText}

theorem textAt?_eq_some_iff {value : Json} {member text : LooseText} :
    value.textAt? member = some text ↔ value.get? member = some (.str text) := by
  unfold Json.textAt?
  rw [Option.bind_eq_some_iff]
  constructor
  · rintro ⟨found, here, same⟩
    cases found with
    | str _ => cases same; exact here
    | _ => cases same
  · exact fun here => ⟨_, here, rfl⟩

theorem userIn?_eq_some_iff {user : User} :
    userIn? entry = some user ↔
      entry.get? "username" = some (.str user.name) ∧ entry.get? "password" = some (.str user.password) := by
  rw [← textAt?_eq_some_iff, ← textAt?_eq_some_iff]
  unfold userIn?
  constructor
  · intro read
    obtain ⟨name, named, rest⟩ := Option.bind_eq_some_iff.mp read
    obtain ⟨password, secret, same⟩ := Option.bind_eq_some_iff.mp rest
    cases same
    exact ⟨named, secret⟩
  · rintro ⟨named, secret⟩
    rw [named, secret]
    rfl

/-- **An entry is kept if it names a user.** -/
theorem kept?_eq_some_iff : kept? entry = some (name, password) ↔ Names entry name password := by
  unfold kept?
  constructor
  · intro kept
    obtain ⟨user, read, filled⟩ := Option.bind_eq_some_iff.mp kept
    obtain ⟨named, secret⟩ := userIn?_eq_some_iff.mp read
    split at filled
    · cases filled
    · next both =>
      cases filled
      rw [Bool.or_eq_true, not_or, Bool.not_eq_true, Bool.not_eq_true] at both
      exact .written named secret both.1 both.2
  · rintro ⟨named, secret, nameFilled, passwordFilled⟩
    rename_i writtenName writtenPassword
    have read : userIn? entry = some ⟨writtenName, writtenPassword⟩ := userIn?_eq_some_iff.mpr ⟨named, secret⟩
    rw [read, Option.bind_some, nameFilled, passwordFilled]
    rfl

theorem usersOf_eq (entries : List Json) : usersOf entries = Register.ofList (entries.filterMap kept?) := by
  show Register.ofList _ = _
  rw [List.filterMap_filterMap]
  rfl

/-- **The password of a user is that of the last entry that names the user.** -/
theorem get?_usersOf_eq_some_iff : (usersOf entries).get? name = some password ↔ LastNames name password entries := by
  rw [usersOf_eq, Register.get?_ofList_eq_some_iff]
  constructor
  · rintro ⟨before, after, split, last⟩
    obtain ⟨front, back, rfl, _, rest⟩ := List.filterMap_eq_append_iff.mp split
    obtain ⟨skipped, entry, behind, rfl, _, kept, rfl⟩ := List.filterMap_eq_cons_iff.mp rest
    rw [← List.append_assoc]
    refine .entry (kept?_eq_some_iff.mp kept) fun later mem other names => last other ?_
    exact List.mem_filterMap.mpr ⟨later, mem, kept?_eq_some_iff.mpr names⟩
  · rintro ⟨names, last⟩
    rename_i before after entry
    refine ⟨before.filterMap kept?, after.filterMap kept?, ?_, fun other mem => ?_⟩
    · rw [List.filterMap_append, List.filterMap_cons_some (kept?_eq_some_iff.mpr names)]
    · obtain ⟨later, listed, kept⟩ := List.mem_filterMap.mp mem
      exact last later listed other (kept?_eq_some_iff.mp kept)

/-- A user has one password at most. -/
theorem LastNames.unique {other : LooseText} (left : LastNames name password entries)
    (right : LastNames name other entries) : password = other := by
  rw [← get?_usersOf_eq_some_iff] at left right
  exact Option.some.inj (left.symm.trans right)

/-- Entries give users if one of them names a user. -/
theorem isEnabled_usersOf :
    (usersOf entries).isEnabled = true ↔ ∃ entry ∈ entries, ∃ name password, Names entry name password := by
  rw [isEnabled, usersOf_eq, Register.isEmpty_ofList, Bool.not_eq_true', List.isEmpty_eq_false_iff]
  constructor
  · intro some
    obtain ⟨⟨name, password⟩, mem⟩ := List.exists_mem_of_ne_nil _ some
    obtain ⟨entry, listed, kept⟩ := List.mem_filterMap.mp mem
    exact ⟨entry, listed, name, password, kept?_eq_some_iff.mp kept⟩
  · rintro ⟨entry, listed, name, password, names⟩
    exact List.ne_nil_of_mem (List.mem_filterMap.mpr ⟨entry, listed, kept?_eq_some_iff.mpr names⟩)

end Entries

section Files

variable {members : Json.Members} {path : Path}

/-- A list of users is there, or its value counts as absent. -/
def HasList (file : Json) : Prop :=
  ∀ users, file.get? "users" = some users → users.isFalsy = true ∨ ∃ items, users = .arr items

theorem listed_of_hasList (given : HasList (.obj members)) :
    ∃ items, listed (.obj members) = .ok items ∧ entriesOf (.obj members) = .obj members :: items := by
  unfold listed entriesOf
  cases found : (Json.obj members).get? "users" with
  | none => exact ⟨[], rfl, rfl⟩
  | some users =>
    rcases given users found with falsy | ⟨items, rfl⟩
    · refine ⟨[], if_pos falsy, ?_⟩
      cases users with
      | arr items => rw [List.isEmpty_iff.mp falsy]
      | _ => rfl
    · by_cases falsy : (Json.arr items).isFalsy = true
      · exact ⟨[], if_pos falsy, by rw [List.isEmpty_iff.mp falsy]⟩
      · exact ⟨items, if_neg falsy, rfl⟩

/-- **A document names the users of its entries**, or none of them, and then it is refused. -/
theorem ofDocument_eq (given : HasList (.obj members)) :
    ofDocument path (.obj members) =
      if (usersOf (entriesOf (.obj members))).isEnabled then .ok (usersOf (entriesOf (.obj members)))
      else report (.noUsers path) := by
  obtain ⟨items, list, entries⟩ := listed_of_hasList given
  have users : usersOf (entriesOf (.obj members))
      = ofList ((userIn? (.obj members)).toList ++ items.filterMap userIn?) := by
    rw [entries, usersOf, List.filterMap_cons]
    cases userIn? (.obj members) <;> rfl
  rw [users, ofDocument, list]
  rfl

/-- **Credentials are accepted if their password is the one that the users know.** -/
theorem authorizes_eq_true_iff {users : Users} {credentials : Credentials} :
    users.authorizes credentials = .ok true ↔
      users.get? credentials.name = some (LooseText.ofString credentials.password) := by
  unfold authorizes
  cases users.get? credentials.name with
  | none => exact ⟨nofun, nofun⟩
  | some known =>
    have spelled : known.toString? = some credentials.password ↔ known = LooseText.ofString credentials.password :=
      LooseText.toString?_eq_some_iff
    rw [Option.map_some, Option.some.injEq, ← spelled]
    cases known.toString? with
    | none => exact ⟨fun crashed => (nomatch crashed), nofun⟩
    | some password => rw [Except.ok.injEq, beq_iff_eq, Option.some.injEq]

/-- The users crash only where the password that they know is no string. -/
theorem authorizes_eq_error {users : Users} {credentials : Credentials} {crash : Crash}
    (crashed : users.authorizes credentials = .error crash) :
    crash = .unencodable ∧ ∃ known, users.get? credentials.name = some known ∧ known.toString? = none := by
  unfold authorizes at crashed
  cases found : users.get? credentials.name with
  | none =>
    rw [found] at crashed
    cases crashed
  | some known =>
    rw [found, Option.map_some] at crashed
    cases spelled : known.toString? with
    | none =>
      rw [spelled] at crashed
      cases crashed
      exact ⟨rfl, known, rfl, spelled⟩
    | some password =>
      rw [spelled] at crashed
      cases crashed

/-- **Users are authorized by the last entry that names them.** A file with an object, whose list of users is a list if
it is there, gives users exactly if one of its entries names a user, and they accept credentials exactly if the last
entry that names their user does so with their password. Users that are listed and read again are the same. -/
theorem load_by_last_entry [Stack] {disk : Disk} (read : disk.readDocument path = .ok (.obj members))
    (given : HasList (.obj members)) :
    ((∀ entry ∈ entriesOf (.obj members), ∀ name password, ¬Names entry name password) →
      load disk (some path) = .error (.reported (.noUsers path))) ∧
    ((∃ entry ∈ entriesOf (.obj members), ∃ name password, Names entry name password) →
      ∃ users, load disk (some path) = .ok users ∧ users.isEnabled = true ∧
        ∀ credentials : Credentials,
          (users.authorizes credentials = .ok true ↔
            LastNames credentials.name credentials.password (entriesOf (.obj members))) ∧
          ∀ crash, users.authorizes credentials = .error crash →
            ∃ password, LastNames credentials.name password (entriesOf (.obj members)) ∧
              password.toString? = none) ∧
    ∀ list, ofList (ofList list).toList = ofList list := by
  have loaded : load disk (some path)
      = (ofDocument path (.obj members)).map fun users => ofList users.toList := by
    rw [load, read]
  rw [ofDocument_eq given] at loaded
  refine ⟨fun none => ?_, fun some => ?_, ofList_toList⟩
  · have disabled : ¬(usersOf (entriesOf (.obj members))).isEnabled = true := fun enabled => by
      obtain ⟨entry, mem, name, password, names⟩ := isEnabled_usersOf.mp enabled
      exact none entry mem name password names
    rw [loaded, if_neg disabled]
    rfl
  · have enabled := isEnabled_usersOf.mpr some
    refine ⟨usersOf (entriesOf (.obj members)), ?_, enabled, fun credentials => ⟨?_, fun crash crashed => ?_⟩⟩
    · rw [loaded, if_pos enabled]
      exact congrArg Except.ok (ofList_toList _)
    · rw [authorizes_eq_true_iff, get?_usersOf_eq_some_iff]
    · obtain ⟨_, known, found, loose⟩ := authorizes_eq_error crashed
      exact ⟨known, get?_usersOf_eq_some_iff.mp found, loose⟩

/-- The members of a file that names a user, then again with white space in the password, and then with a blank
one. -/
def renamedMembers : Json.Members :=
  [("username", .str " a"), ("password", .str "old"), ("users", .arr [
    .obj [("username", .str "a"), ("password", .str "new ")], .obj [("username", .str "a"), ("password", .str " ")]])]

def renamedDisk : Disk :=
  ⟨.directory [(.ofString "u", .file (Encoding.encodeUtf8 (Json.compact (.obj renamedMembers))))], []⟩

theorem textual_renamedMembers : Json.Textual 3 (.obj renamedMembers) := by
  refine .obj (by decide) fun member mem => ?_
  simp only [renamedMembers, List.mem_cons, List.not_mem_nil, or_false] at mem
  rcases mem with rfl | rfl | rfl
  · exact .str _
  · exact .str _
  · refine .arr fun item mem => ?_
    simp only [List.mem_cons, List.not_mem_nil, or_false] at mem
    rcases mem with rfl | rfl
    · exact @Json.textual_strings [("username", "a"), ("password", "new ")] (by decide)
    · exact @Json.textual_strings [("username", "a"), ("password", " ")] (by decide)

/-- The blank password does not count, and the old one no more. -/
theorem load_by_last_entry_renamed :
    renamedDisk.readDocument (Path.ofText "/u") = .ok (.obj renamedMembers) ∧ HasList (.obj renamedMembers) ∧
    ∃ users, load renamedDisk (some (Path.ofText "/u")) = .ok users ∧
      users.authorizes ⟨"a", "new"⟩ = .ok true ∧ users.authorizes ⟨"a", "old"⟩ ≠ .ok true := by
  have read : renamedDisk.readDocument (Path.ofText "/u") = .ok (.obj renamedMembers) :=
    Disk.readDocument_write .compact (textual_renamedMembers.mono (by decide)) rfl
  have given : HasList (.obj renamedMembers) := by
    intro users found
    cases found
    exact .inr ⟨_, rfl⟩
  have last : LastNames "a" "new" (entriesOf (.obj renamedMembers)) := by
    have names : Names (.obj [("username", .str "a"), ("password", .str "new ")]) "a" "new" :=
      kept?_eq_some_iff.mp rfl
    have split : entriesOf (.obj renamedMembers) = [.obj renamedMembers] ++
        .obj [("username", .str "a"), ("password", .str "new ")] ::
          [.obj [("username", .str "a"), ("password", .str " ")]] := rfl
    rw [split]
    refine .entry names fun later mem other blank => ?_
    rw [List.mem_singleton.mp mem, ← kept?_eq_some_iff] at blank
    cases blank
  obtain ⟨_, loads, _⟩ := load_by_last_entry read given
  obtain ⟨users, loaded, _, accepts⟩ := loads (isEnabled_usersOf.mp rfl)
  refine ⟨read, given, users, loaded, (accepts ⟨"a", "new"⟩).1.mpr last, fun accepted => ?_⟩
  have old := last.unique ((accepts ⟨"a", "old"⟩).1.mp accepted)
  exact absurd old (by decide)

end Files

end Gameshelf.Users
