import Gameshelf.Proofs.Disk.Route
import Gameshelf.Proofs.Download.Answer
import Gameshelf.Proofs.Download.SafePath

/-!
Where the bytes of a download come from. A request that means a path is answered from the file at the end of
the route that its names take from the library's root (`served_from_route`). Without links on the way that is
the file of these names below the root. What a request means holds no step up, so the file lies below the root
unless the request itself goes through a link that leads out of it; such links are followed
(`served_from_route_linkedOut`).
-/

namespace Gameshelf.Download

open Text Encoding

/-- Whatever a stretch of a file delivers is that stretch, as far as the file reaches. -/
theorem Extent.flatten_of_delivers {extent : Extent} {chunks : List Bytes} {missing : Option Int}
    (delivers : extent.transfer.Delivers chunks missing) :
    chunks.flatten = (extent.content.drop extent.first).take extent.length := by
  have active : extent.transfer.Active := ⟨Phase.noConfusion, (by decide : (0 : Int) < (chunkSize : Int))⟩
  obtain ⟨rfl, _⟩ := delivers.unique (Transfer.delivers_drain active)
  exact Transfer.flatten_chunks_drain active

/-- What is sent is a stretch of the file that is sent. -/
theorem content_of_send {path : Path} {content : Bytes} {range : Option ByteRange} {withBody : Bool}
    {obstacle : Option Obstacle} {response : Answer}
    (sent : send path content range withBody obstacle = .ok response) {extent : Extent}
    (body : response.body = some extent) : extent.content = content := by
  unfold send at sent
  extract_lets mediaType answer at sent
  split at sent
  · cases sent
    cases body
  · split at sent
    · cases sent
    · cases sent
    · cases sent
      cases body
      rfl
    · cases sent
      cases body
      rfl

/-- **What is answered is answered of a file that is found**, and only its bytes are sent. -/
theorem found_of_answer {disk : Disk} {root : Path} {relative : String} {rangeHeader : Option String}
    {withBody : Bool} {obstacle : Option Obstacle} {response : Answer}
    (answered : answer disk root relative rangeHeader withBody obstacle = .ok response) :
    ∃ content, disk.find (root / relative) = .ok (.file content) ∧
      ∀ chunks, response.Sends chunks → chunks.flatten <:+: content := by
  have stretch {content : Bytes} (same : ∀ {extent}, response.body = some extent → extent.content = content)
      {chunks : List Bytes} (sends : response.Sends chunks) : chunks.flatten <:+: content := by
    obtain ⟨extent, body, delivers⟩ := sends
    rw [Extent.flatten_of_delivers delivers, same body]
    exact (List.take_prefix _ _).isInfix.trans (List.drop_suffix _ _).isInfix
  unfold answer at answered
  extract_lets path at answered
  split at answered
  · cases answered
  · cases answered
  · cases answered
  · next content found =>
    refine ⟨content, found, fun chunks sends => stretch ?_ sends⟩
    intro extent body
    split at answered
    · exact content_of_send answered body
    · exact content_of_send answered body
    · cases answered
      cases body
    · cases answered
  · cases answered

/-- **Where the bytes of a download come from.** The path that a request means leads along legal names, so the
file that is answered of stands where the route of these names from the library's root ends. If no link stands
on the way, that is at these names below the root. In any case the file lies below the root, unless the
request goes through a link in the library that leads out of it. -/
theorem served_from_route {disk : Disk} {rootText : LooseText} {requested path : String}
    {rangeHeader : Option String} {withBody : Bool} {obstacle : Option Obstacle} {response : Answer}
    (safe : safePath? requested = some path)
    (answered : answer disk (Path.ofText rootText) path rangeHeader withBody obstacle = .ok response) :
    ∃ start place content,
      disk.locate .target (Path.ofText rootText) = .ok start ∧
      disk.locate .target (Path.ofText rootText / path) = .ok place ∧
      disk.at? place = some (.file content) ∧
      (∀ chunks, response.Sends chunks → chunks.flatten <:+: content) ∧
      disk.Route start (namesOf path) place ∧
      ((∀ before, before <+: namesOf path → ∀ target, disk.at? (start ++ before) ≠ some (.link target)) →
        place = start ++ namesOf path) ∧
      (start <+: place ∨ disk.Leaves start start (namesOf path)) := by
  obtain ⟨filled, legal, read⟩ := names_of_safePath? safe
  obtain ⟨content, found, sends⟩ := found_of_answer answered
  obtain ⟨place, located, there⟩ := Disk.find_eq_ok.mp found
  have below : Path.ofText rootText / path
      = (Path.ofText rootText).join ⟨.relative, (namesOf path).map FileName.text⟩ :=
    congrArg (Path.ofText rootText).join read
  have written : (Path.ofText rootText).text.units ≠ [] := Path.text_ne_nil (Path.isNormal_ofText rootText)
  obtain ⟨start, rooted, route⟩ := Disk.route_of_locate filled legal written (below ▸ located)
  exact ⟨start, place, content, rooted, located, there, sends, route, route.straight,
    route.inside_or_leaves (List.prefix_refl start)⟩

/-- A disk with a file `s`, and beside it a directory `l` with a file `a` and a link `out` to `../s`. -/
def linkedOut : Disk :=
  ⟨.directory [(⟨[0x73]⟩, .file [7, 8]),
    (⟨[0x6C]⟩, .directory [(⟨[0x61]⟩, .file [1]),
      (⟨[0x6F, 0x75, 0x74]⟩, .link [0x2E, 0x2E, 0x2F, 0x73])])], []⟩

/-- A file in the directory is answered of from there, and the link with the file beside it. -/
theorem served_from_route_linkedOut :
    linkedOut.locate .target (Path.ofText "/l") = .ok [⟨[0x6C]⟩] ∧
    safePath? "./a" = some "a" ∧
    (∃ response, answer linkedOut (Path.ofText "/l") "a" none true none = .ok response ∧
      response.status = 200 ∧ response.Carries [1] ∧
      linkedOut.Route [⟨[0x6C]⟩] (namesOf "a") [⟨[0x6C]⟩, ⟨[0x61]⟩]) ∧
    safePath? "out" = some "out" ∧
    (∃ response, answer linkedOut (Path.ofText "/l") "out" none true none = .ok response ∧
      response.status = 200 ∧ response.Carries [7, 8] ∧ linkedOut.at? [⟨[0x73]⟩] = some (.file [7, 8]) ∧
      ¬[⟨[0x6C]⟩] <+: [(⟨[0x73]⟩ : FileName)] ∧
      linkedOut.Leaves [⟨[0x6C]⟩] [⟨[0x6C]⟩] (namesOf "out")) := by
  have rooted : linkedOut.locate .target (Path.ofText "/l") = .ok [⟨[0x6C]⟩] := rfl
  have safe : safePath? "./a" = some "a" := rfl
  have safeOut : safePath? "out" = some "out" := rfl
  have found : linkedOut.find (Path.ofText "/l" / "a") = .ok (.file [1]) := rfl
  have foundOut : linkedOut.find (Path.ofText "/l" / "out") = .ok (.file [7, 8]) := rfl
  have place : linkedOut.locate .target (Path.ofText "/l" / "a") = .ok [⟨[0x6C]⟩, ⟨[0x61]⟩] := rfl
  have placeOut : linkedOut.locate .target (Path.ofText "/l" / "out") = .ok [⟨[0x73]⟩] := rfl
  have outside : ¬[⟨[0x6C]⟩] <+: [(⟨[0x73]⟩ : FileName)] := by decide
  obtain ⟨response, answered, status, _, _, carries⟩ := answer_whole found
  obtain ⟨responseOut, answeredOut, statusOut, _, _, carriesOut⟩ := answer_whole foundOut
  obtain ⟨start, reached, _, starts, reaches, _, _, route, _⟩ := served_from_route safe answered
  obtain ⟨startOut, reachedOut, _, startsOut, reachesOut, _, _, _, _, leaves⟩ :=
    served_from_route safeOut answeredOut
  cases rooted.symm.trans starts
  cases place.symm.trans reaches
  cases rooted.symm.trans startsOut
  cases placeOut.symm.trans reachesOut
  exact ⟨rooted, safe, ⟨response, answered, status, carries, route⟩, safeOut,
    responseOut, answeredOut, statusOut, carriesOut, rfl, outside, leaves.resolve_left outside⟩

end Gameshelf.Download
