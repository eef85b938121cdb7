import Gameshelf.Proofs.Download.Answer
import Gameshelf.Proofs.Download.SafePath
import Gameshelf.Proofs.Library.Scan
import Gameshelf.Proofs.Server.Guard
import Gameshelf.Proofs.Server.Route
import Gameshelf.Proofs.Shop.Entry

/-!
The two ways to fetch a file of the catalog: by its download address and by its position. Both lead to the
file that the scan found, and to one and the same answer, unless the path of the file cannot be asked for.
-/

namespace Gameshelf.Server

open Text Encoding Download Library

/-- A request for the download address of a file. -/
def byAddress (method : String) (file : ContentFile) (headers : List (String × String)) : Request :=
  .ofTarget method (Shop.downloadAddress file) headers

/-- A request for a position, as it is written in the path. -/
def byPosition (method text query : String) (headers : List (String × String)) : Request :=
  ⟨method, "/get_game/" ++ text, query, headers⟩

section Addresses

variable {method text query : String} {file : ContentFile} {headers : List (String × String)}

/-- A download address has no query, and its path is read as that of the file. -/
theorem byAddress_eq :
    byAddress method file headers = ⟨method, "/download/" ++ file.path, "", headers⟩ := by
  let escaped := Percent.encode ('/' :: Shop.segmentSafe) ("/download/" ++ file.path).toList
  have chars : (Shop.downloadAddress file).toList = escaped := by
    simp only [escaped]
    rw [Shop.downloadAddress, String.toList_append, String.toList_append, Shop.toList_encodePath,
      Percent.encode, Percent.encode, List.flatMap_append]
    rfl
  have absent : '?' ∉ escaped := by
    intro mem
    rcases Percent.mem_encode mem with unreserved | listed | sign
    · exact absurd unreserved (by decide)
    · exact absurd listed (by decide)
    · exact absurd sign (by decide)
  have whole : (cutAt? '?' escaped).getD (escaped, []) = (escaped, []) := by
    rw [cutAt?_eq_none absent]
    rfl
  have read : String.ofList (Percent.decode escaped) = "/download/" ++ file.path := by
    simp only [escaped]
    rw [Percent.decode_encode Shop.mayStay_segmentSafe, String.ofList_toList]
  unfold byAddress Request.ofTarget
  rw [chars, whole]
  simp only [read]

/-- A path whose second character is not that of the alias has no alias to lose. -/
theorem withoutAlias_eq {path : String} {c : Char} {rest : List Char}
    (chars : path.toList = '/' :: c :: rest) (other : c ≠ 'a') : withoutAlias path = path := by
  have whole : ¬(path == "/api") = true := by
    intro same
    rw [eq_of_beq same] at chars
    exact other (List.cons.inj (List.cons.inj chars).2).1.symm
  have start : ¬("/api/".isPrefixOf path) = true := by
    intro starts
    obtain ⟨tail, same⟩ := String.startsWith_string_iff.mp starts
    rw [chars] at same
    exact other (List.cons.inj (List.cons.inj same).2).1.symm
  rw [withoutAlias, if_neg whole, if_neg start]

theorem ne_health {path : String} {c : Char} {rest : List Char}
    (chars : path.toList = '/' :: c :: rest) (other : c ≠ 'h') : path ∉ openPaths := by
  intro mem
  rw [List.mem_singleton.mp mem] at chars
  have second := (List.cons.inj (List.cons.inj chars).2).1
  exact other second.symm

theorem answerFile_congr {shop : Option Shop} {disk : Disk} {one other : Request} (path : String)
    (methods : one.method = other.method) (headers : one.headers = other.headers) :
    answerFile shop disk one path = answerFile shop disk other path := by
  unfold answerFile Request.header?
  rw [methods, headers]

end Addresses

section Answers

variable {disk : Disk} {root : Path} {file : ContentFile} {start place : Place} {content : Bytes}
  {shop : Shop} {method text query : String} {headers : List (String × String)}

/-- A path of plain components means itself to a request. -/
theorem safePath?_of_stands (stands : Stands disk root file start place content)
    (plain : IsPlain file.path) : safePath? file.path = some file.path := by
  obtain ⟨pieces, names, _, chars, components⟩ := stands.pieces
  have filled : pieces.map String.toList ≠ [] := by
    intro none
    rw [List.map_eq_nil_iff.mp none] at names
    exact stands.filled names
  refine safePath?_of_plain filled chars ?_ plain
  intro component mem
  obtain ⟨piece, listed, rfl⟩ := List.mem_map.mp mem
  exact components piece listed

theorem routed_byAddress (stands : Stands disk root file start place content) (plain : IsPlain file.path)
    (clean : '\n' ∉ file.path.toList) (asked : method = "GET" ∨ method = "HEAD") :
    routed (some shop) disk (byAddress method file headers)
      = answerFile (some shop) disk (byAddress method file headers) file.path := by
  have chars : ("/download/" ++ file.path).toList = "/download/".toList ++ file.path.toList :=
    String.toList_append
  have route : routing method ("/download/" ++ file.path) = .answers (.download file.path) := by
    rw [routing_download asked chars clean, String.ofList_toList]
  rw [byAddress_eq, routed, route]
  simp only [answer, safePath?_of_stands stands plain]

theorem routed_byAddress_lineFeed (stands : Stands disk root file start place content)
    (inside : '\n' ∈ file.path.toList) :
    routed (some shop) disk (byAddress method file headers) = .ok (.detail 404 "Not Found" []) := by
  obtain ⟨before, c, ends, filled, unslashed⟩ := stands.last
  have chars : ("/download/" ++ file.path).toList = "/download/".toList ++ (before ++ [c]) := by
    rw [String.toList_append, ends]
  have route : routing method ("/download/" ++ file.path) = .nowhere :=
    routing_download_lineFeed chars (ends ▸ inside) filled unslashed
  rw [byAddress_eq, routed, route]

theorem routed_byPosition {position : Int} (listed : shop.catalog.atPosition position = some file)
    (read : Settings.intOfText text = .ok position) (unslashed : '/' ∉ text.toList)
    (asked : method = "GET" ∨ method = "HEAD") :
    routed (some shop) disk (byPosition method text query headers)
      = answerFile (some shop) disk (byPosition method text query headers) file.path := by
  have filled : text.toList ≠ [] := by
    intro none
    rw [Settings.intOfText, none] at read
    cases read
  have route : routing method ("/get_game/" ++ text) = .answers (.game text) :=
    routing_game asked filled unslashed
  rw [routed, byPosition, route]
  simp only [answer, answerGame, read, openShop_some, ok_bind, listed]

/-- Requests with the same headers for closed paths are answered alike, if the routes answer them alike. -/
theorem respond_congr {one other : Request} {now : Int} (headers : one.headers = other.headers)
    (closed : IsClosed one) (closedOther : IsClosed other)
    (alike : routed (some (shop.charged now)) disk (guardedRequest one)
      = routed (some (shop.charged now)) disk (guardedRequest other)) (fresh : String) :
    respond (some shop) disk now fresh one = respond (some shop) disk now fresh other := by
  have asked {request : Request} (closed : IsClosed request) :
      openPaths.contains (guardedRequest request).path = false := by
    apply Bool.eq_false_iff.mpr
    intro mem
    exact closed (List.contains_iff_mem.mp mem)
  have admitted : admits (some (shop.charged now)) (guardedRequest one)
      = admits (some (shop.charged now)) (guardedRequest other) := by
    unfold admits
    simp only [asked closed, asked closedOther]
    simp only [Request.header?, guardedRequest, headers]
  have ids : identified one fresh = identified other fresh := by
    funext response
    simp only [identified, requestId, Request.header?, headers]
  rw [respond_eq, respond_eq, ids]
  unfold guarded
  rw [admitted, alike]

/-- By its address a file is answered as by its position, whoever asks. -/
theorem respond_byAddress (stands : Stands disk root file start place content)
    (plain : IsPlain file.path) (clean : '\n' ∉ file.path.toList) {position : Int}
    (listed : shop.catalog.atPosition position = some file)
    (read : Settings.intOfText text = .ok position) (unslashed : '/' ∉ text.toList)
    (asked : method = "GET" ∨ method = "HEAD") (now : Int) (fresh : String) :
    respond (some shop) disk now fresh (byAddress method file headers)
      = respond (some shop) disk now fresh (byPosition method text query headers) := by
  have address : (byAddress method file headers).path.toList
      = '/' :: 'd' :: ("ownload/".toList ++ file.path.toList) := by
    rw [byAddress_eq]
    exact String.toList_append
  have number : (byPosition method text query headers).path.toList
      = '/' :: 'g' :: ("et_game/".toList ++ text.toList) := String.toList_append
  have same {request : Request} (own : withoutAlias request.path = request.path) :
      guardedRequest request = request := by
    rw [guardedRequest, own]
  have charged : (shop.charged now).catalog.atPosition position = some file := listed
  have first := withoutAlias_eq address (by decide)
  have second := withoutAlias_eq number (by decide)
  refine respond_congr (by rw [byAddress_eq]; rfl) ?_ ?_ ?_ fresh
  · rw [IsClosed, first]
    exact ne_health address (by decide)
  · rw [IsClosed, second]
    exact ne_health number (by decide)
  · rw [same first, same second, routed_byAddress stands plain clean asked,
      routed_byPosition charged read unslashed asked]
    exact answerFile_congr file.path (by rw [byAddress_eq]; rfl) (by rw [byAddress_eq]; rfl)

end Answers

theorem mem_of_atPosition {files : List ContentFile} {position : Int} {file : ContentFile}
    (listed : (Catalog.ofFiles files).atPosition position = some file) : file ∈ files := by
  unfold Catalog.atPosition at listed
  split at listed
  · cases listed
  · exact List.mem_mergeSort.mp (List.mem_of_getElem? listed)

/-- **A file of the catalog can be fetched as the scan found it.** Its path leads to the file, and the whole
file is sent. If its components are plain, its address is read as its path and the path means itself to a
request; then a request for the address is answered like one for the position, unless there is a line feed
in the path: such an address no route leads to. -/
theorem fetched_as_scanned {disk : Disk} {conditions : ScanConditions} {rootText : LooseText}
    {files : List ContentFile} {position : Int} {file : ContentFile} (tree : disk.root.IsTree)
    (scanned : scan disk conditions (Path.ofText rootText) = .ok files)
    (listed : (Catalog.ofFiles files).atPosition position = some file) :
    (∃ start place content response,
      Stands disk (Path.ofText rootText) file start place content ∧
      Download.answer disk (Path.ofText rootText) file.path none true none = .ok response ∧
      response.status = 200 ∧ response.Carries content) ∧
    (IsPlain file.path →
      Shop.downloadAddress file = "/download/" ++ Shop.encodePath file.path ∧
      String.ofList (Percent.decode (Shop.encodePath file.path).toList) = file.path ∧
      safePath? file.path = some file.path ∧
      ∀ (shop : Shop) (method text query : String) (headers : List (String × String)),
        shop.catalog = Catalog.ofFiles files → (method = "GET" ∨ method = "HEAD") →
        Settings.intOfText text = .ok position → '/' ∉ text.toList →
        routed (some shop) disk (byPosition method text query headers)
          = answerFile (some shop) disk (byPosition method text query headers) file.path ∧
        if '\n' ∈ file.path.toList then
          routed (some shop) disk (byAddress method file headers) = .ok (.detail 404 "Not Found" [])
        else
          routed (some shop) disk (byAddress method file headers)
            = answerFile (some shop) disk (byPosition method text query headers) file.path ∧
          ∀ now fresh, respond (some shop) disk now fresh (byAddress method file headers)
            = respond (some shop) disk now fresh (byPosition method text query headers)) := by
  obtain ⟨start, place, content, stands⟩ := stands_of_scan tree scanned (mem_of_atPosition listed)
  constructor
  · obtain ⟨response, answered, status, _, _, carries⟩ :=
      answer_whole (stands.find (Path.isNormal_ofText rootText))
    exact ⟨start, place, content, response, stands, answered, status, carries⟩
  intro plain
  refine ⟨rfl, Shop.decode_encodePath file.path, safePath?_of_stands stands plain, ?_⟩
  intro shop method text query headers catalog asked read unslashed
  have shown : shop.catalog.atPosition position = some file := by rw [catalog]; exact listed
  refine ⟨routed_byPosition shown read unslashed asked, ?_⟩
  split
  · next inside => exact routed_byAddress_lineFeed stands inside
  · next clean =>
    refine ⟨?_, respond_byAddress stands plain clean shown read unslashed asked⟩
    rw [routed_byAddress stands plain clean asked]
    exact answerFile_congr file.path (by rw [byAddress_eq]; rfl) (by rw [byAddress_eq]; rfl)

/-- A disk with a directory `l`, and in it a file of three bytes. -/
def oneFile (name : FileName) : Disk :=
  ⟨.directory [(⟨[0x6C]⟩, .directory [(name, .file [0, 1, 2])])], []⟩

/-- The file of that disk as a scan finds it, its name being a string without tokens. -/
def theFile (name : String) : ContentFile := ⟨name, name, 3, none, none, .unknown⟩

theorem isTree_oneFile {name : FileName} (legal : name.IsLegal) : (oneFile name).root.IsTree := by
  have single {name : FileName} (legal : name.IsLegal) {node : Node} (below : node.IsTree) :
      (Node.directory [(name, node)]).IsTree := by
    refine .directory (List.pairwise_singleton _ _) ?_ ?_
    · intro entry mem
      rw [List.mem_singleton.mp mem]
      exact legal
    · intro entry mem
      rw [List.mem_singleton.mp mem]
      exact below
  exact single (by decide) (single legal (.file _))

theorem scan_oneFile {name : FileName} {file : ContentFile}
    (kept : contentFile? (oneFile name) (Path.ofText "/l") .none ⟨[name], .file [0, 1, 2]⟩
      = .ok (some file)) :
    scan (oneFile name) .none (Path.ofText "/l") = .ok [file] := by
  have entered : canEnter (oneFile name) (Path.ofText "/l") .none [] = true := rfl
  have endless : ScanConditions.none.breaksOff? [] = none := rfl
  have steps : stepsOf (walkerOf (oneFile name) (Path.ofText "/l") .none) []
      (.directory [(name, .file [0, 1, 2])]) = [.meet ⟨[name], .file [0, 1, 2]⟩] := by
    simp [stepsOf, entered, endless, filesAmong, branchesAmong, byName, Walker.branches, walkerOf]
  have files : contentFiles (oneFile name) (Path.ofText "/l") .none [.meet ⟨[name], .file [0, 1, 2]⟩]
      = .ok [file] := by
    rw [contentFiles, kept]
    rfl
  have scanned : scan (oneFile name) .none (Path.ofText "/l")
      = contentFiles (oneFile name) (Path.ofText "/l") .none
          (stepsOf (walkerOf (oneFile name) (Path.ofText "/l") .none) []
            (.directory [(name, .file [0, 1, 2])])) := rfl
  rw [scanned, steps, files]

/-- The bytes of `a b.nsp`, or of the same with another character between the letters. -/
def nameWith (b : UInt8) : FileName := ⟨[0x61, b, 0x62, 0x2E, 0x6E, 0x73, 0x70]⟩

theorem scan_spaced :
    scan (oneFile (nameWith 0x20)) .none (Path.ofText "/l") = .ok [theFile "a b.nsp"] := by
  have entered : (oneFile (nameWith 0x20)).locate .entry ((Path.ofText "/l").join (relativePath [nameWith 0x20]))
      = .ok [⟨[0x6C]⟩, nameWith 0x20] := rfl
  have spelled : (relativePath [nameWith 0x20]).text = LooseText.ofString "a b.nsp" := rfl
  have made : ContentFile.ofPath (relativePath [nameWith 0x20]) 3 = .ok (theFile "a b.nsp") := by rfl
  exact scan_oneFile (contentFile?_eq_some rfl (by decide) rfl entered spelled made)

theorem scan_lineFeed :
    scan (oneFile (nameWith 0x0A)) .none (Path.ofText "/l") = .ok [theFile "a\nb.nsp"] := by
  have entered : (oneFile (nameWith 0x0A)).locate .entry ((Path.ofText "/l").join (relativePath [nameWith 0x0A]))
      = .ok [⟨[0x6C]⟩, nameWith 0x0A] := rfl
  have spelled : (relativePath [nameWith 0x0A]).text = LooseText.ofString "a\nb.nsp" := rfl
  have made : ContentFile.ofPath (relativePath [nameWith 0x0A]) 3 = .ok (theFile "a\nb.nsp") := by rfl
  exact scan_oneFile (contentFile?_eq_some rfl (by decide) rfl entered spelled made)

theorem fetched_as_scanned_oneFile :
    let file := theFile "a b.nsp"
    let other := theFile "a\nb.nsp"
    (oneFile (nameWith 0x20)).root.IsTree ∧
    scan (oneFile (nameWith 0x20)) .none (Path.ofText "/l") = .ok [file] ∧
    (Catalog.ofFiles [file]).atPosition 1 = some file ∧ IsPlain file.path ∧
    Settings.intOfText "1" = .ok 1 ∧
    safePath? file.path = some file.path ∧
    routed (some (smallShop [file])) (oneFile (nameWith 0x20)) (byAddress "GET" file [])
      = answerFile (some (smallShop [file])) (oneFile (nameWith 0x20)) (byPosition "GET" "1" "" []) file.path ∧
    (oneFile (nameWith 0x0A)).root.IsTree ∧
    scan (oneFile (nameWith 0x0A)) .none (Path.ofText "/l") = .ok [other] ∧
    (Catalog.ofFiles [other]).atPosition 1 = some other ∧ IsPlain other.path ∧
    safePath? other.path = some other.path ∧
    routed (some (smallShop [other])) (oneFile (nameWith 0x0A)) (byAddress "GET" other [])
      = .ok (.detail 404 "Not Found" []) := by
  intro file other
  have tree (b : UInt8) (legal : (nameWith b).IsLegal) : (oneFile (nameWith b)).root.IsTree :=
    isTree_oneFile legal
  have first (file : ContentFile) : (Catalog.ofFiles [file]).atPosition 1 = some file := by
    simp [Catalog.ofFiles, Catalog.ofOrdered, Catalog.atPosition]
  have plain : IsPlain file.path := by unfold IsPlain; decide
  have plainOther : IsPlain other.path := by unfold IsPlain; decide
  have read : Settings.intOfText "1" = .ok 1 := rfl
  obtain ⟨_, _, means, fetched⟩ :=
    (fetched_as_scanned (tree 0x20 (by decide)) scan_spaced (first file)).2 plain
  obtain ⟨_, agree⟩ := fetched (smallShop [file]) "GET" "1" "" [] rfl (.inl rfl) read (by decide)
  obtain ⟨_, _, meansOther, lost⟩ :=
    (fetched_as_scanned (tree 0x0A (by decide)) scan_lineFeed (first other)).2 plainOther
  obtain ⟨_, nowhere⟩ := lost (smallShop [other]) "GET" "1" "" [] rfl (.inl rfl) read (by decide)
  rw [if_neg (by decide)] at agree
  rw [if_pos (by decide)] at nowhere
  exact ⟨tree 0x20 (by decide), scan_spaced, first file, plain, read, means, agree.1,
    tree 0x0A (by decide), scan_lineFeed, first other, plainOther, meansOther, nowhere⟩

end Gameshelf.Server
