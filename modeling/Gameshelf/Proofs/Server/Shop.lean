import Gameshelf.Proofs.Access.Users
import Gameshelf.Proofs.Disk.Document
import Gameshelf.Server.Shop

/-!
Opening a shop. An operation that sets nothing before its last step either fails and changes nothing, or puts
one shop in the place of the one that was open (`Commits`); every step but the last keeps that
(`commits_attempt`). Opening a shop is such an operation, and the shop agrees with all its steps
(`commits_install`). It succeeds where they do (`install_of_steps`).
-/

namespace Gameshelf.Server

/-- **An operation commits at its end**: from every state it either fails and leaves the open shop alone, or
puts a shop with a property in its place. -/
def Commits (operation : Operation Shop) (property : Shop → Prop) : Prop :=
  ∀ state, (∃ failure, operation.run.run state = (.error failure, state)) ∨
    ∃ shop, operation.run.run state = (.ok shop, some shop) ∧ property shop

section Steps

variable {α ε δ : Type} {property : Shop → Prop}

/-- A step before others leaves the open shop alone, whether it fails or not. -/
theorem commits_attempt {result : Except (Failure OpeningError) α} {next : α → Operation Shop}
    (onward : ∀ a, result = .ok a → Commits (next a) property) :
    Commits (attempt result >>= next) property := by
  intro state
  cases result with
  | error failure => exact .inl ⟨failure, rfl⟩
  | ok a => exact onward a rfl state

/-- The last step puts a shop in the place of the one that is open. -/
theorem commits_set {shop : Shop} (agreed : property shop) :
    Commits (do set (some shop); return shop) property :=
  fun _ => .inr ⟨shop, rfl, agreed⟩

theorem attempt_ok_bind {β : Type} (a : α) (next : α → Operation β) : (attempt (.ok a) >>= next) = next a :=
  rfl

theorem within_eq_ok {embed : ε → δ} {step : Except (Failure ε) α} {a : α} :
    within embed step = .ok a ↔ step = .ok a := by
  rcases step with (_ | _) | b
  · exact ⟨nofun, nofun⟩
  · exact ⟨nofun, nofun⟩
  · exact ⟨fun h => congrArg _ (Except.ok.inj h), fun h => congrArg _ (Except.ok.inj h)⟩

end Steps

namespace Shop

variable {disk : Disk} {settings : Settings} {shop : Shop}

/-- The file that users are loaded from: none for a public shop. -/
def usersFile (settings : Settings) : Option Path :=
  if settings.publicShop then none else settings.authFile

/-- **What all steps of an opening agree on**: the shop has the settings, its catalog is that of a complete
scan of the library's root with its links resolved, and its users are those that are loaded. -/
structure IsOf [Stack] (disk : Disk) (settings : Settings) (shop : Shop) : Prop where
  configured : shop.settings = settings
  resolved : disk.resolve settings.libraryRoot = .ok shop.root
  scanned : ∃ files, Library.scan disk .none shop.root = .ok files ∧ shop.catalog = Catalog.ofFiles files
  loaded : Users.load disk (usersFile settings) = .ok shop.users

/-- **An opening commits at its end.** -/
theorem commits_install [Stack] (disk : Disk) (settings : Settings) (check : Bool) :
    Commits (install disk settings check) fun shop =>
      (check = true → settings.check disk = .ok ()) ∧ IsOf disk settings shop := by
  have opens {checked : Prop} (held : checked) :
      Commits (install disk settings false) fun shop => checked ∧ IsOf disk settings shop := by
    refine commits_attempt fun root resolved => commits_attempt fun files scanned => ?_
    refine commits_attempt fun users loaded => commits_attempt fun limit _ => commits_set ⟨held, ?_⟩
    exact ⟨rfl, orCrash_eq_ok.mp resolved, ⟨files, within_eq_ok.mp scanned, rfl⟩, within_eq_ok.mp loaded⟩
  cases check with
  | false => exact opens nofun
  | true => exact commits_attempt fun _ checked => opens fun _ => within_eq_ok.mp checked

/-- **An opening succeeds where each of its steps does.** -/
theorem install_of_steps [Stack] {root : Path} {files : List ContentFile} {users : Users} {limit : RateLimit}
    (checked : settings.check disk = .ok ()) (resolved : disk.resolve settings.libraryRoot = .ok root)
    (scanned : Library.scan disk .none root = .ok files)
    (loaded : Users.load disk (usersFile settings) = .ok users)
    (limited : RateLimit.ofRate settings.ratePerSecond settings.rateBurst = .ok limit)
    (state : Option Shop) :
    ∃ shop, (install disk settings true).run.run state = (.ok shop, some shop) := by
  unfold usersFile at loaded
  simp only [install, checked, resolved, scanned, loaded, limited, within, orCrash, if_true, attempt_ok_bind]
  exact ⟨_, rfl⟩

/-- The users of a private shop whose settings have been checked come from a file, and there is one. -/
theorem users_of_private [Stack] (isOf : IsOf disk settings shop) (checked : settings.check disk = .ok ())
    (closed : settings.publicShop = false) :
    ∃ path, settings.authFile = some path ∧ Users.load disk (some path) = .ok shop.users := by
  obtain ⟨library, _, rest⟩ := bind_eq_ok.mp checked
  have loaded := isOf.loaded
  rw [usersFile, if_neg (by rw [closed]; exact Bool.false_ne_true)] at loaded
  cases file : settings.authFile with
  | none =>
    rw [closed, file] at rest
    split at rest <;> cases rest
  | some path =>
    rw [file] at loaded
    exact ⟨path, rfl, loaded⟩

/-- A public shop has no users. -/
theorem users_of_public [Stack] (isOf : IsOf disk settings shop) (isPublic : settings.publicShop = true) :
    shop.users.isEnabled = false := by
  have loaded := isOf.loaded
  rw [usersFile, if_pos isPublic] at loaded
  have none : Register.empty = shop.users := Except.ok.inj loaded
  rw [← none]
  rfl

/-- **A shop opens as its settings say or not at all.** Whatever is on the disk and whatever shop is open: with
a check of the settings, an opening fails and leaves that shop alone, or it puts a new one in its place. The
catalog of the new shop is that of a complete scan of the library's root with its links resolved. It asks for
credentials exactly if it is private, and then its users are those in the object of its file, at least one. -/
theorem install_all_or_nothing [Stack] (disk : Disk) (settings : Settings) (state : Option Shop) :
    (∃ failure, (install disk settings true).run.run state = (.error failure, state)) ∨
      ∃ shop, (install disk settings true).run.run state = (.ok shop, some shop) ∧
        shop.settings = settings ∧
        (shop.users.isEnabled = true ↔ settings.publicShop = false) ∧
        (∃ files, disk.resolve settings.libraryRoot = .ok shop.root ∧
          Library.scan disk .none shop.root = .ok files ∧ shop.catalog = Catalog.ofFiles files) ∧
        (settings.publicShop = false → ∃ path members items, settings.authFile = some path ∧
          Users.load disk (some path) = .ok shop.users ∧ 0 < shop.users.size ∧
          disk.readDocument path = .ok (.obj members) ∧ Users.listed (.obj members) = .ok items ∧
          shop.users = Users.ofList ((Users.userIn? (.obj members)).toList ++ items.filterMap Users.userIn?)) := by
  rcases commits_install disk settings true state with failed | ⟨shop, opened, checked, isOf⟩
  · exact .inl failed
  obtain ⟨files, scanned, catalog⟩ := isOf.scanned
  have fromFile (closed : settings.publicShop = false) := users_of_private isOf (checked rfl) closed
  refine .inr ⟨shop, opened, isOf.configured, ⟨?asks, ?isClosed⟩,
    ⟨files, isOf.resolved, scanned, catalog⟩, fun closed => ?users⟩
  case asks =>
    intro enabled
    refine Bool.eq_false_iff.mpr ?_
    intro isPublic
    rw [users_of_public isOf isPublic] at enabled
    cases enabled
  case isClosed =>
    intro closed
    obtain ⟨path, _, loaded⟩ := fromFile closed
    obtain ⟨_, _, _, _, _, enabled⟩ := Users.load_eq_ok loaded
    exact enabled
  case users =>
    obtain ⟨path, file, loaded⟩ := fromFile closed
    obtain ⟨members, items, read, list, same, enabled⟩ := Users.load_eq_ok loaded
    have some : 0 < shop.users.size := by
      unfold Users.isEnabled Register.isEmpty at enabled
      rw [Bool.not_eq_true', List.isEmpty_eq_false_iff] at enabled
      exact List.length_pos_iff.mpr enabled
    exact ⟨path, members, items, file, loaded, some, read, list, same⟩

section Documents

open Text

/-- A disk with an empty directory `l` and a file `u` with a document. -/
def diskWith (document : List Char) : Disk :=
  ⟨.directory [(.ofString "l", .directory []), (.ofString "u", .file (Encoding.encodeUtf8 document))], []⟩

/-- The settings of a private shop on that disk. -/
def closedSettings : Settings :=
  { Settings.default with libraryRoot := Path.ofText "/l", authFile := some (Path.ofText "/u") }

theorem resolve_diskWith (document : List Char) :
    (diskWith document).resolve (Path.ofText "/l") = .ok (Path.ofText "/l") := by
  have written : Disk.bytesOf (Path.ofText "/l") = .ok [0x2F, 0x6C] := rfl
  have settled : (diskWith document).resolveWritten [0x2F, 0x6C] = .settled ⟨none, [.ofString "l"]⟩ := by
    have steps (follow : Stand → Stand → Encoding.Bytes → Resolution) :
        Disk.resolveWith (diskWith document) follow [] .root [[], [0x6C]]
          = .settled ⟨none, [.ofString "l"]⟩ := rfl
    show Disk.resolveWith _ _ _ _ _ = _
    exact steps _
  have spelled : (Resolution.settled ⟨none, [.ofString "l"]⟩).written = [0x2F, 0x6C] := rfl
  have worded : (diskWith document).wordedOf [0x2F, 0x6C] = Path.ofText "/l" := rfl
  have found : (diskWith document).find (Path.ofText "/l") = .ok (.directory []) := rfl
  simp only [Disk.resolve, written, Except.mapError, ok_bind, settled, spelled, worded, found]
  rfl

theorem scan_diskWith (document : List Char) :
    Library.scan (diskWith document) .none (Path.ofText "/l") = .ok [] := by
  have steps : Library.stepsOf (Library.walkerOf (diskWith document) (Path.ofText "/l") .none) [] (.directory [])
      = [] := by
    simp [Library.stepsOf, Library.filesAmong, Library.branchesAmong, Library.byName]
  have scanned : Library.scan (diskWith document) .none (Path.ofText "/l")
      = Library.contentFiles (diskWith document) (Path.ofText "/l") .none
          (Library.stepsOf (Library.walkerOf (diskWith document) (Path.ofText "/l") .none) [] (.directory [])) := rfl
  rw [scanned, steps]
  rfl

/-- What a document says of a user whose password is `b`. -/
def userNamed (name : LooseText) : Json :=
  .obj [("username", .str name), ("password", .str "b")]

/-- A document with one user. -/
def oneUser : List Char := Json.compact (userNamed "a")

/-- A document whose only user has a blank name. -/
def blankUser : List Char := Json.compact (userNamed " ")

theorem readDocument_userNamed [Stack] (name : LooseText) :
    (diskWith (Json.compact (userNamed name))).readDocument (Path.ofText "/u") = .ok (userNamed name) := by
  have names : (["username", "password"] : List LooseText).Nodup := by decide
  have textual : Json.Textual 1 (userNamed name) :=
    @Json.textual_strings [("username", name), ("password", "b")] names
  have fits : 1 ≤ Stack.brackets := Nat.le_of_succ_le Stack.brackets_fit
  exact Disk.readDocument_write .compact (textual.mono fits) rfl

theorem install_oneUser (state : Option Shop) :
    ∃ shop, (install (diskWith oneUser) closedSettings true).run.run state = (.ok shop, some shop) := by
  have file : usersFile closedSettings = some (Path.ofText "/u") := rfl
  obtain ⟨users, loaded⟩ : ∃ users, Users.load (diskWith oneUser) (usersFile closedSettings) = .ok users := by
    have read : (diskWith oneUser).readDocument (Path.ofText "/u") = .ok (userNamed "a") :=
      readDocument_userNamed "a"
    simp only [file, Users.load, read]
    exact ⟨_, rfl⟩
  obtain ⟨limit, limited⟩ : ∃ limit,
      RateLimit.ofRate closedSettings.ratePerSecond closedSettings.rateBurst = .ok limit := ⟨_, rfl⟩
  exact install_of_steps rfl (resolve_diskWith oneUser) (scan_diskWith oneUser) loaded limited state

/-- With one user the private shop opens; with a blank one it does not. -/
theorem install_all_or_nothing_diskWith :
    (∃ shop, (install (diskWith oneUser) closedSettings true).run.run none = (.ok shop, some shop) ∧
      shop.users.isEnabled = true ∧ 0 < shop.users.size) ∧
    ∃ failure, (install (diskWith blankUser) closedSettings true).run.run none = (.error failure, none) := by
  constructor
  · obtain ⟨_, succeeds⟩ := install_oneUser none
    rcases install_all_or_nothing (diskWith oneUser) closedSettings none with failed | opened
    · obtain ⟨_, failed⟩ := failed
      cases failed.symm.trans succeeds
    · obtain ⟨shop, opened, _, asks, _, users⟩ := opened
      obtain ⟨_, _, _, _, _, some, _⟩ := users rfl
      exact ⟨shop, opened, asks.mpr rfl, some⟩
  · rcases install_all_or_nothing (diskWith blankUser) closedSettings none with failed | opened
    · exact failed
    · obtain ⟨_, _, _, _, _, users⟩ := opened
      obtain ⟨path, members, items, file, _, some, read, list, same⟩ := users rfl
      cases file
      cases (readDocument_userNamed " ").symm.trans read
      cases list
      rw [same] at some
      cases some

end Documents

end Shop

end Gameshelf.Server
