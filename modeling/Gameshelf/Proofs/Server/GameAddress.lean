import Gameshelf.Proofs.Catalog.Groups
import Gameshelf.Proofs.Numeral
import Gameshelf.Proofs.Server.Fetch
import Gameshelf.Proofs.Shop.Section

/-!
The addresses at which the shop offers its files. The address of an item and the one in the list of all files
are written from a position, and a request for such an address is answered with the file at that position
(`leadsTo_gameAddress`). So whatever the sections show can be fetched as it is shown (`sections_of_files`).
-/

namespace Gameshelf.Server

open Text Encoding Gameshelf.Shop

/-- A request for an address. What follows a number sign is for the client alone and is not sent. -/
def visit (method address : String) (headers : List (String × String)) : Request :=
  let sent := ((cutAt? '#' address.toList).map (·.1)).getD address.toList
  .ofTarget method (String.ofList sent) headers

/-- **An address leads to the file at an index**: in a catalog of these files the position after the index is
that of the file, and a request for the address is answered with it. The server reads positions of at most
`Numeral.digitLimit` digits. -/
def LeadsTo (files : List ContentFile) (address : String) (index : Nat) : Prop :=
  ∀ shop : Shop, shop.catalog.files = files →
    shop.catalog.atPosition (index + 1) = files[index]? ∧
    ∀ disk method headers file, files[index]? = some file → (method = "GET" ∨ method = "HEAD") →
      index + 1 < 10 ^ Numeral.digitLimit →
      routed (some shop) disk (guardedRequest (visit method address headers))
        = answerFile (some shop) disk (guardedRequest (visit method address headers)) file.path

section Address

variable {method name : String} {headers : List (String × String)}

theorem toString_succ (index : Nat) :
    (toString ((index : Int) + 1)).toList = Nat.toDigits 10 (index + 1) := by
  have nat : toString ((index : Int) + 1) = toString (index + 1) := rfl
  rw [nat, Nat.toString_eq_ofList_toDigits, String.toList_ofList]

/-- A path below the alias loses it. -/
theorem withoutAlias_below (rest : List Char) :
    withoutAlias (String.ofList ("/api/".toList ++ rest)) = String.ofList ('/' :: rest) := by
  have other : ¬(String.ofList ("/api/".toList ++ rest) == "/api") = true := by
    intro same
    have chars := congrArg (·.toList.drop 4) (eq_of_beq same)
    simp only [String.toList_ofList] at chars
    exact absurd chars (List.cons_ne_nil _ _)
  have starts : "/api/".isPrefixOf (String.ofList ("/api/".toList ++ rest)) = true := by
    apply String.startsWith_string_iff.mpr
    rw [String.toList_ofList (l := "/api/".toList ++ rest)]
    exact List.prefix_append _ _
  rw [withoutAlias, if_neg other, if_pos starts, String.toList_ofList]
  rfl

/-- What may stand in a path without being escaped. -/
def staysInPath (c : Char) : Bool :=
  Percent.isUnreserved c || ('/' :: segmentSafe).contains c

theorem not_mem_of_plain {path : List Char} (plain : ∀ c ∈ path, staysInPath c = true) (c : Char)
    (other : staysInPath c = false) : c ∉ path := by
  intro mem
  rw [plain c mem] at other
  cases other

/-- What a path of plain characters asks for. -/
theorem ofTarget_plain {path : List Char} (plain : ∀ c ∈ path, staysInPath c = true) :
    Request.ofTarget method (String.ofList path) headers = ⟨method, String.ofList path, "", headers⟩ := by
  simp only [Request.ofTarget, String.toList_ofList, cutAt?_eq_none (not_mem_of_plain plain '?' (by decide)),
    Option.getD_none, Percent.decode_of_plain mayStay_segmentSafe plain]

/-- What a client sends for an address of plain characters, with a name after a number sign. -/
theorem visit_eq {address : String} {path fragment : List Char} (whole : address.toList = path ++ '#' :: fragment)
    (plain : ∀ c ∈ path, staysInPath c = true) :
    visit method address headers = ⟨method, String.ofList path, "", headers⟩ := by
  rw [← ofTarget_plain plain, visit, whole, cutAt?_append_cons (not_mem_of_plain plain '#' (by decide))]
  rfl

/-- What a client sends for an address of plain characters alone. -/
theorem visit_plain {address : String} (plain : ∀ c ∈ address.toList, staysInPath c = true) :
    visit method address headers = ⟨method, address, "", headers⟩ := by
  have sent : Request.ofTarget method (String.ofList address.toList) headers
      = ⟨method, String.ofList address.toList, "", headers⟩ := ofTarget_plain plain
  rw [String.ofList_toList] at sent
  rw [← sent, visit, cutAt?_eq_none (not_mem_of_plain plain '#' (by decide)), Option.map_none, Option.getD_none,
    String.ofList_toList]

/-- **The address of a position asks for that position.** -/
theorem guardedRequest_visit (index : Nat) :
    guardedRequest (visit method (gameAddress (index + 1) name) headers)
      = byPosition method (toString ((index : Int) + 1)) "" headers := by
  let route := "get_game/".toList ++ Nat.toDigits 10 (index + 1)
  have whole : (gameAddress (index + 1) name).toList = ("/api/".toList ++ route) ++ '#' :: name.toList := by
    show (toString "/api/get_game/" ++ toString ((index : Int) + 1) ++ toString "#" ++ toString name).toList = _
    rw [String.toList_append, String.toList_append, String.toList_append, toString_succ]
    simp only [route, List.append_assoc]
    rfl
  have plain : ∀ c ∈ "/api/".toList ++ route, staysInPath c = true := by
    have fixed : ∀ c ∈ "/api/".toList ++ "get_game/".toList, staysInPath c = true :=
      List.all_eq_true.mp (by decide)
    intro c mem
    rw [← List.append_assoc] at mem
    rcases List.mem_append.mp mem with mem | digit
    · exact fixed c mem
    · have digit := Numeral.isDigit_of_mem_toDigits digit
      simp [staysInPath, Percent.isUnreserved, digit]
  have text : String.ofList ('/' :: route) = "/get_game/" ++ toString ((index : Int) + 1) := by
    rw [← String.toList_inj, String.toList_append, toString_succ, String.toList_ofList]
    rfl
  rw [visit_eq whole plain, guardedRequest, withoutAlias_below, text]
  rfl

/-- The position in an address is read as it is written. -/
theorem intOfText_toString {index : Nat} (short : index + 1 < 10 ^ Numeral.digitLimit) :
    Settings.intOfText (toString ((index : Int) + 1)) = .ok (index + 1) := by
  rw [Settings.intOfText, toString_succ, Numeral.ofSetting_toDigits (Nat.succ_pos index) short]
  rfl

/-- **The address of a position leads to the file there.** -/
theorem leadsTo_gameAddress {files : List ContentFile} {index : Nat} (inside : index < files.length) :
    LeadsTo files (gameAddress (index + 1) name) index := by
  rintro shop rfl
  have listed := shop.catalog.atPosition_succ inside
  rw [List.getElem?_eq_getElem inside]
  refine ⟨listed, ?_⟩
  intro disk method headers file found asked short
  cases found
  rw [guardedRequest_visit]
  refine routed_byPosition listed (intOfText_toString short) ?_ asked
  rw [toString_succ]
  intro mem
  exact absurd (Numeral.isDigit_of_mem_toDigits mem) (by decide)

end Address

/-- The list of all files has an address for each of them. -/
theorem rootFiles_eq (files : List ContentFile) :
    ∃ entries, rootFiles files = .arr entries ∧ entries.length = files.length ∧ ∀ index : Nat,
      entries[index]? = files[index]?.map fun file =>
        .obj [("url", .str (gameAddress (index + 1) file.name)), ("size", .int file.size)] := by
  refine ⟨_, rfl, by simp [Catalog.numbered], ?_⟩
  intro index
  rw [List.getElem?_map, Catalog.getElem?_numbered, Option.map_map]
  rfl

/-- **The shop offers its files.** The sections of files hold what the files say, and an answer shows them up to
a limit. Whatever it shows, in any section and with any limit, stands for a file, and the address that is shown
with it leads to that file. So does each address in the list of all files, which has one for each of them. -/
theorem sections_of_files (files : List ContentFile) (limit : Int) :
    (Sections.ofFiles files).Describes files ∧
    Sections.itemLists ((Sections.ofFiles files).toJson limit)
      = ((Sections.ofFiles files).shown limit).map (·.map Item.toJson) ∧
    (∀ items ∈ (Sections.ofFiles files).shown limit, ∀ item ∈ items, ∃ index address,
      item.StandsFor files index ∧ item.toJson.get? "url" = some (.str (.ofString address)) ∧
        LeadsTo files address index) ∧
    ∃ entries, rootFiles files = .arr entries ∧ entries.length = files.length ∧
      ∀ index entry, entries[index]? = some entry → ∃ address,
        entry.get? "url" = some (.str (.ofString address)) ∧ LeadsTo files address index := by
  refine ⟨Sections.describes_ofFiles files, Sections.itemLists_toJson _ limit, ?_, ?_⟩
  · intro items listed item mem
    obtain ⟨index, inside, same⟩ := Sections.standsIn_of_shown listed mem
    subst same
    refine ⟨index, gameAddress (index + 1) files[index].name, ⟨inside, rfl⟩, ?_, ?_⟩
    · exact Item.url_toJson _
    · exact leadsTo_gameAddress inside
  · obtain ⟨entries, listed, long, each⟩ := rootFiles_eq files
    refine ⟨entries, listed, long, ?_⟩
    intro index entry found
    rw [each] at found
    obtain ⟨file, here, same⟩ := Option.map_eq_some_iff.mp found
    obtain ⟨inside, rfl⟩ := List.getElem?_eq_some_iff.mp here
    refine ⟨gameAddress (index + 1) files[index].name, ?_, leadsTo_gameAddress inside⟩
    rw [← same]
    rfl

end Gameshelf.Server
