import Gameshelf.Proofs.Server.GameAddress
import Gameshelf.Proofs.Title.Id

/-!
The icons of the shop. The address of an icon is written from the id of a game, and a request for it is taken apart
again: the alias goes from the path, the route gives the name, the suffix goes from the name, and what is left is
looked up in capitals. Each of these undoes what the address was built by (`respond_iconAddress`), so an item with
an icon leads to what is known of its own game (`icon_reaches_title`). An icon that no bytes stand for is not sent
to but crashes the request (`icon_crashes_loneHalf`).
-/

namespace Gameshelf.Shop.Item

variable {item : Item} {files : List ContentFile} {id : String}

/-- The game of an item, if it has one, is known by an id in capitals. -/
theorem writes_gameId (stands : item.StandsIn files) (game : item.gameId = some id) :
    TitleId.Writes id (TitleId.number id) := by
  obtain ⟨index, inside, rfl⟩ := stands
  exact TitleId.writes_of_base? game

theorem toList_iconAddress (id : String) :
    (iconAddress id).toList = "/api/".toList ++ ("shop/icon/".toList ++ id.toList ++ ".png".toList) := by
  show (toString "/api/shop/icon/" ++ toString id ++ toString ".png").toList = _
  rw [String.toList_append, String.toList_append, List.append_assoc]
  rfl

/-- **An item has no icon exactly if it has no game.** -/
theorem icon_eq_empty_iff : item.icon = "" ↔ item.gameId = none := by
  unfold icon
  cases item.gameId with
  | none => exact iff_of_true rfl rfl
  | some id =>
    refine iff_of_false (fun empty => ?_) (Option.some_ne_none id)
    have chars := (toList_iconAddress id).symm.trans (congrArg String.toList empty)
    exact absurd chars (List.cons_ne_nil _ _)

/-- An item is shown with its icon and with the id of its game. -/
theorem icon_toJson (item : Item) :
    item.toJson.get? "icon_url" = some (.str item.icon) ∧ item.toJson.get? "iconUrl" = some (.str item.icon) ∧
      item.toJson.get? "title_id" = some (.ofString? item.gameId) :=
  ⟨rfl, rfl, rfl⟩

end Gameshelf.Shop.Item

namespace Gameshelf.Server

open Text Encoding Gameshelf.Shop

/-- **A request is let through**: the budget is not spent, and where there are users they accept its credentials. -/
structure LetThrough (shop : Shop) (now : Int) (request : Request) : Prop where
  granted : (shop.limit.acquire now).1 = true
  accepted : shop.users.isEnabled = true → Accepted shop.users request

/-- The icon that a shop knows for an id. -/
def Shop.icon? (shop : Shop) (id : String) : Option LooseText :=
  (shop.titles.titles.get? id).bind (·.icon)

/-- **Is a text an address of the web?** -/
def IsWeb (text : LooseText) : Prop :=
  text.beginsWith "http" = true

instance (text : LooseText) : Decidable (IsWeb text) :=
  inferInstanceAs (Decidable (_ = true))

/-- **A request is sent on to an address**, the characters escaped that cannot stand in one. -/
def SendsTo (address : String) (outcome : Except Crash Response) : Prop :=
  ∃ response, outcome = .ok response ∧ response.status = 307 ∧
    response.headers.lookup "location" = some (String.ofList (Percent.encode Response.addressSafe address.toList))

/-- **A request is answered with the placeholder.** -/
def ShowsNoImage (outcome : Except Crash Response) : Prop :=
  ∃ response, outcome = .ok response ∧ response.status = 200 ∧
    response.headers.lookup "content-type" = some "image/png" ∧ response.body = .raw placeholder

section Answer

variable {shop : Shop} {disk : Disk} {now : Int} {request : Request} {id : String} {n : Nat}

/-- What a request comes to that is let through. -/
theorem respond_of_letThrough (letThrough : LetThrough shop now request) (disk : Disk) (fresh : String) :
    (respond (some shop) disk now fresh request).1
      = (routed (some (shop.charged now)) disk (guardedRequest request)).map (identified request fresh) := by
  have admitted : admits (some (shop.charged now)) (guardedRequest request) = .ok true := by
    by_cases enabled : shop.users.isEnabled = true
    · have accepted : Accepted (shop.charged now).users request := letThrough.accepted enabled
      exact admits_of_accepted accepted
    · refine if_pos ?_
      rw [Bool.or_eq_true, Bool.not_eq_true']
      exact .inr (Bool.eq_false_iff.mpr enabled)
  rw [respond_eq, if_pos letThrough.granted, guarded, admitted]
  rfl

/-- The digits of an id may stand in a path. -/
theorem staysInPath_of_isCapitalHex {c : Char} (capital : IsCapitalHex c) : staysInPath c = true := by
  have unreserved : Percent.isUnreserved c = true := by
    rcases capital with ⟨above, below⟩ | ⟨above, below⟩
    · simp [Percent.isUnreserved, isDigit, above, below]
    · have last : c ≤ 'Z' := Char.le_trans below (by decide)
      simp [Percent.isUnreserved, above, last]
  rw [staysInPath, unreserved, Bool.true_or]

/-- The suffix goes from the name of an image. -/
theorem withoutImageSuffix_append (ascii : ∀ c ∈ id.toList, c.toNat < 0x80) :
    withoutImageSuffix (id ++ ".png") = id := by
  have chars : (id ++ ".png").toList = id.toList ++ imageSuffix := String.toList_append
  have letters : ∀ c ∈ id.toList ++ imageSuffix, c.toNat < 0x80 :=
    List.forall_mem_append.mpr ⟨ascii, forall_mem_of_all (by decide)⟩
  have small : (lower (id ++ ".png")).toList = id.toList.map Char.toLower ++ imageSuffix := by
    rw [lower, String.toList_ofList, chars, lowerAfter_of_ascii letters, List.map_append]
    rfl
  have ends : imageSuffix.isSuffixOf (lower (id ++ ".png")).toList = true := by
    rw [small, List.isSuffixOf_iff_suffix]
    exact List.suffix_append _ _
  have long : (id.toList ++ imageSuffix).length - imageSuffix.length = id.toList.length := by
    rw [List.length_append, Nat.add_sub_cancel]
  rw [withoutImageSuffix, if_pos ends, chars, long, List.take_left, String.ofList_toList]

/-- What is answered for an icon. -/
def ofIcon : Option LooseText → Except Crash Response
  | some address =>
    if !address.beginsWith "http" then .ok noImage
    else match address.toString? with
      | some address => .ok (.redirect address)
      | none => .error .unencodable
  | none => .ok noImage

/-- An id in capitals is found under the name of its image. -/
theorem answer_icon (written : TitleId.Writes id n) (disk : Disk) (request : Request) :
    answer (some shop) disk request (.icon (id ++ ".png")) = ofIcon (shop.icon? id) := by
  have name : withoutImageSuffix (id ++ ".png") = id :=
    withoutImageSuffix_append fun c mem => ascii_of_isCapitalHex (written.capitals c mem)
  -- The look-up is made in capitals, and the id is its own capital form.
  simp only [answer, answerImage, openShop_some, ok_bind, name, Titles.Directory.lookup, written.upper_eq, Shop.icon?]
  cases (shop.titles.titles.get? id).bind (·.icon) <;> rfl

/-- The address of an icon asks for the icon. -/
theorem guardedRequest_visit_icon (written : TitleId.Writes id n) (headers : List (String × String)) :
    guardedRequest (visit "GET" (iconAddress id) headers) = ⟨"GET", "/shop/icon/" ++ (id ++ ".png"), "", headers⟩ := by
  have plain : ∀ c ∈ (iconAddress id).toList, staysInPath c = true := by
    have fixed (text : String) (stays : text.toList.all staysInPath = true) : ∀ c ∈ text.toList, staysInPath c = true :=
      List.all_eq_true.mp stays
    have digits : ∀ c ∈ id.toList, staysInPath c = true :=
      fun c mem => staysInPath_of_isCapitalHex (written.capitals c mem)
    simp only [Item.toList_iconAddress, List.forall_mem_append]
    exact ⟨fixed "/api/" (by decide), ⟨fixed "shop/icon/" (by decide), digits⟩, fixed ".png" (by decide)⟩
  have text : String.ofList ('/' :: ("shop/icon/".toList ++ id.toList ++ ".png".toList))
      = "/shop/icon/" ++ (id ++ ".png") := by
    rw [← String.toList_inj, String.toList_append, String.toList_append, String.toList_ofList, List.append_assoc]
    rfl
  have below := withoutAlias_below ("shop/icon/".toList ++ id.toList ++ ".png".toList)
  rw [← Item.toList_iconAddress, String.ofList_toList, text] at below
  rw [visit_plain plain, guardedRequest, below]

/-- **The address of an icon leads to the icon that is known for its id.** -/
theorem respond_iconAddress (written : TitleId.Writes id n) {headers : List (String × String)}
    (letThrough : LetThrough shop now (visit "GET" (iconAddress id) headers)) (disk : Disk) (fresh : String) :
    (respond (some shop) disk now fresh (visit "GET" (iconAddress id) headers)).1
      = (ofIcon (shop.icon? id)).map (identified (visit "GET" (iconAddress id) headers) fresh) := by
  have filled : (id ++ ".png").toList ≠ [] := by
    rw [String.toList_append]
    exact List.append_ne_nil_of_right_ne_nil _ (by decide)
  have unslashed : '/' ∉ (id ++ ".png").toList := by
    rw [String.toList_append, List.mem_append]
    rintro (digit | suffix)
    · exact absurd (written.capitals _ digit) (by decide)
    · exact absurd suffix (by decide)
  rw [respond_of_letThrough letThrough, guardedRequest_visit_icon written, routed, routing_icon filled unslashed]
  dsimp only
  rw [answer_icon written]
  rfl

end Answer

section Outcomes

variable {outcome : Except Crash Response} {address : String} {request : Request} {fresh : String}

theorem SendsTo.not_showsNoImage (sends : SendsTo address outcome) : ¬ShowsNoImage outcome := by
  obtain ⟨response, rfl, status, _⟩ := sends
  rintro ⟨other, same, whole, _⟩
  cases same
  rw [status] at whole
  cases whole

theorem SendsTo.not_crash (sends : SendsTo address outcome) (crash : Crash) : outcome ≠ .error crash := by
  obtain ⟨response, rfl, _⟩ := sends
  exact nofun

theorem ShowsNoImage.not_crash (shows : ShowsNoImage outcome) (crash : Crash) : outcome ≠ .error crash := by
  obtain ⟨response, rfl, _⟩ := shows
  exact nofun

theorem sendsTo_redirect : SendsTo address ((Except.ok (.redirect address)).map (identified request fresh)) :=
  ⟨_, rfl, rfl, rfl⟩

theorem showsNoImage_noImage : ShowsNoImage ((Except.ok noImage).map (identified request fresh)) :=
  ⟨_, rfl, rfl, rfl, rfl⟩

/-- What an icon comes to that is known: an address of the web is sent to, unless no bytes stand for it, and for all
else there is the placeholder. -/
theorem ofIcon_cases (known : Option LooseText) :
    (∃ address : String, known = some (.ofString address) ∧ IsWeb (.ofString address) ∧
      ofIcon known = .ok (.redirect address)) ∨
    ((¬∃ text, known = some text ∧ IsWeb text) ∧ ofIcon known = .ok noImage) ∨
    ∃ text, known = some text ∧ IsWeb text ∧ text.toString? = none ∧ ofIcon known = .error .unencodable := by
  cases known with
  | none => exact .inr (.inl ⟨nofun, rfl⟩)
  | some text =>
    by_cases web : IsWeb text
    · have begins : ¬(!text.beginsWith "http") = true := by simpa [IsWeb] using web
      cases spelled : text.toString? with
      | none => exact .inr (.inr ⟨text, rfl, web, spelled, by rw [ofIcon, if_neg begins, spelled]⟩)
      | some address =>
        obtain rfl := LooseText.toString?_eq_some_iff.mp spelled
        exact .inl ⟨address, rfl, web, by rw [ofIcon, if_neg begins, spelled]⟩
    · refine .inr (.inl ⟨?_, if_pos (by simpa [IsWeb] using web)⟩)
      rintro ⟨_, same, also⟩
      cases same
      exact web also

/-- **What is known tells what a request for an icon comes to**, and is told by it. -/
theorem outcome_ofIcon {known : Option LooseText} (answered : outcome = (ofIcon known).map (identified request fresh)) :
    ((∃ address : String, known = some (.ofString address) ∧ SendsTo address outcome) ↔
      ∃ address : String, known = some (.ofString address) ∧ IsWeb (.ofString address)) ∧
    (ShowsNoImage outcome ↔ ¬∃ text, known = some text ∧ IsWeb text) ∧
    (outcome = .error .unencodable ↔ ∃ text, known = some text ∧ IsWeb text ∧ text.toString? = none) := by
  obtain ⟨address, rfl, web, redirect⟩ | ⟨none, image⟩ | ⟨text, rfl, web, halves, crash⟩ := ofIcon_cases known
  · have sends : SendsTo address outcome := by
      rw [answered, redirect]
      exact sendsTo_redirect
    refine ⟨iff_of_true ⟨address, rfl, sends⟩ ⟨address, rfl, web⟩, ?_, iff_of_false (sends.not_crash _) ?_⟩
    · exact iff_of_false sends.not_showsNoImage fun none => none ⟨_, rfl, web⟩
    · rintro ⟨_, same, _, halves⟩
      cases same
      rw [LooseText.toString?_ofString] at halves
      cases halves
  · have shows : ShowsNoImage outcome := by
      rw [answered, image]
      exact showsNoImage_noImage
    refine ⟨iff_of_false ?_ ?_, iff_of_true shows none, iff_of_false (shows.not_crash _) ?_⟩
    · rintro ⟨address, _, sends⟩
      exact sends.not_showsNoImage shows
    · rintro ⟨address, same, web⟩
      exact none ⟨_, same, web⟩
    · rintro ⟨text, same, web, _⟩
      exact none ⟨text, same, web⟩
  · have crashed : outcome = .error .unencodable := by
      rw [answered, crash]
      rfl
    refine ⟨iff_of_false ?_ ?_, ?_, iff_of_true crashed ⟨text, rfl, web, halves⟩⟩
    · rintro ⟨address, _, sends⟩
      exact sends.not_crash _ crashed
    · rintro ⟨address, same, _⟩
      cases same
      rw [LooseText.toString?_ofString] at halves
      cases halves
    · exact iff_of_false (fun shows => shows.not_crash _ crashed) fun none => none ⟨text, rfl, web⟩

end Outcomes

/-- **An icon leads to what is known of its title.** Whatever the sections of files show, in any section and with any
limit, has an icon exactly if it has a game, and is shown with both. A request for the icon that is let through is
sent on to the icon that the shop knows for this game where that is an address of the web, answered with the
placeholder where it knows none or one that is no such address, and crashes where no bytes stand for the address. -/
theorem icon_reaches_title (files : List ContentFile) (limit : Int) {items : List Item}
    (listed : items ∈ (Sections.ofFiles files).shown limit) {item : Item} (mem : item ∈ items) :
    (item.icon = "" ↔ item.gameId = none) ∧
    (item.toJson.get? "icon_url" = some (.str item.icon) ∧ item.toJson.get? "iconUrl" = some (.str item.icon) ∧
      item.toJson.get? "title_id" = some (.ofString? item.gameId)) ∧
    ∀ id, item.gameId = some id → ∀ (shop : Shop) (disk : Disk) (now : Int) (fresh : String) headers,
      LetThrough shop now (visit "GET" item.icon headers) →
      let outcome := (respond (some shop) disk now fresh (visit "GET" item.icon headers)).1
      ((∃ address : String, shop.icon? id = some (.ofString address) ∧ SendsTo address outcome) ↔
        ∃ address : String, shop.icon? id = some (.ofString address) ∧ IsWeb (.ofString address)) ∧
      (ShowsNoImage outcome ↔ ¬∃ text, shop.icon? id = some text ∧ IsWeb text) ∧
      (outcome = .error .unencodable ↔ ∃ text, shop.icon? id = some text ∧ IsWeb text ∧ text.toString? = none) := by
  refine ⟨Item.icon_eq_empty_iff, item.icon_toJson, ?_⟩
  -- Whatever file the item stands for, its game is known by an id in capitals; the link is read back because of that.
  intro id game shop disk now fresh headers letThrough outcome
  have written := Item.writes_gameId (Sections.standsIn_of_shown listed mem) game
  have link : item.icon = iconAddress id := by rw [Item.icon, game]; rfl
  have answered : outcome = (ofIcon (shop.icon? id)).map (identified (visit "GET" item.icon headers) fresh) := by
    simp only [outcome, link] at letThrough ⊢
    exact respond_iconAddress written letThrough disk fresh
  exact outcome_ofIcon answered

/-- An add-on of a game. -/
def addOn : ContentFile := ⟨"a.nsp", "a.nsp", 10, some "0100abcd12346001", none, .dlc⟩

/-- A shop with one user and the add-on, where an icon is known for the game. -/
def iconShop (icon : LooseText) : Shop :=
  let known : Register Titles.Info := Register.ofList [("0100ABCD12345000", ⟨some icon, none, none⟩)]
  { smallShop [addOn] with titles := (smallShop [addOn]).titles.swap known 0 }

/-- A request of the user for the icon of the add-on. -/
def iconRequest : Request :=
  visit "GET" (Item.ofFile 1 addOn).icon [("authorization", "Basic YW5uOnB3")]

theorem letThrough_iconRequest (icon : LooseText) : LetThrough (iconShop icon) 0 iconRequest := by
  have granted : ((smallShop [addOn]).limit.acquire 0).1 = true := rfl
  exact ⟨granted, fun _ => ⟨⟨"ann", "pw"⟩, rfl, rfl⟩⟩

theorem icon_reaches_title_addOn :
    let item := Item.ofFile 1 addOn
    let shop := iconShop "http://img.example/a b.png"
    [item] ∈ (Sections.ofFiles [addOn]).shown 1 ∧ item ∈ [item] ∧ item.gameId = some "0100ABCD12345000" ∧
    LetThrough shop 0 iconRequest ∧ IsWeb "http://img.example/a b.png" ∧
    ∃ address : String, shop.icon? "0100ABCD12345000" = some (.ofString address) ∧
      SendsTo address (respond (some shop) ⟨.directory [], []⟩ 0 "id" iconRequest).1 := by
  intro item shop
  have listed : [item] ∈ (Sections.ofFiles [addOn]).shown 1 := by decide +kernel
  have game : item.gameId = some "0100ABCD12345000" := rfl
  have letThrough := letThrough_iconRequest "http://img.example/a b.png"
  have web : IsWeb "http://img.example/a b.png" := rfl
  have law := (icon_reaches_title [addOn] 1 listed List.mem_cons_self).2.2 _ game shop ⟨.directory [], []⟩ 0 "id" _
    letThrough
  exact ⟨listed, List.mem_cons_self, game, letThrough, web, law.1.mpr ⟨_, rfl, web⟩⟩

/-- An address with half a character in it, which no bytes stand for. -/
def halfAddress : LooseText :=
  .ofMarks ("http://img.example/".toList.map .char ++ [.half 0xD800])

/-- Where such an address is known, the request for the icon is not sent to it but crashes. -/
theorem icon_crashes_loneHalf :
    let shop := iconShop halfAddress
    (Item.ofFile 1 addOn).gameId = some "0100ABCD12345000" ∧ LetThrough shop 0 iconRequest ∧
    shop.icon? "0100ABCD12345000" = some halfAddress ∧ IsWeb halfAddress ∧
    (respond (some shop) ⟨.directory [], []⟩ 0 "id" iconRequest).1 = .error .unencodable := by
  intro shop
  have game : (Item.ofFile 1 addOn).gameId = some "0100ABCD12345000" := rfl
  have stands : (Item.ofFile 1 addOn).StandsIn [addOn] := ⟨0, by decide, rfl⟩
  have written := Item.writes_gameId stands game
  have web : IsWeb halfAddress := rfl
  have halves : halfAddress.toString? = none := rfl
  have letThrough := letThrough_iconRequest halfAddress
  refine ⟨game, letThrough, rfl, web, ?_⟩
  have answered := respond_iconAddress written letThrough ⟨.directory [], []⟩ "id"
  exact (outcome_ofIcon answered).2.2.mpr ⟨_, rfl, web, halves⟩

end Gameshelf.Server
