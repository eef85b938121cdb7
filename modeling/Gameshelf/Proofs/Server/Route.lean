import Gameshelf.Server.Route
import Gameshelf.Proofs.Text.Words

/-!
The routes by which files and icons are fetched. A path is told apart from those of other routes by one of its
characters (`routeOf?_eq`), and one with a line feed in it has no download route.
-/

namespace Gameshelf.Server

open Text

/-- Does a pattern ask for another character at a place? -/
def Pattern.excludes (place : Nat) (c : Char) : Pattern → Bool
  | .exactly path _ => path.toList[place]? != some c
  | .named before _ _ | .below before _ => before.toList[place]?.any (· != c)

/-- The route of downloads. -/
def downloadRoute : Route := ⟨.below "/download/" .download, true⟩

/-- The route of files by position. -/
def gameRoute : Route := ⟨.named "/get_game/" "" .game, true⟩

/-- The route of icons. -/
def iconRoute : Route := ⟨.named "/shop/icon/" "" .icon, false⟩

/-- Only a line feed can go missing. -/
theorem getElem?_dropLineFeed {cs : List Char} {place : Nat} {c : Char} (here : cs[place]? = some c)
    (plain : c ≠ '\n') : (dropLineFeed cs)[place]? = some c := by
  unfold dropLineFeed
  split
  · next last =>
    obtain ⟨before, rfl⟩ := List.getLast?_eq_some_iff.mp (eq_of_beq last)
    rw [List.dropLast_concat]
    have inside := (List.getElem?_eq_some_iff.mp here).1
    rw [List.length_append, List.length_singleton] at inside
    rcases Nat.lt_or_eq_of_le (Nat.le_of_lt_succ inside) with within | rfl
    · rwa [List.getElem?_append_left within] at here
    · rw [List.getElem?_concat_length] at here
      exact absurd (Option.some.inj here).symm plain
  · exact here

/-- Without a line feed in it a text has none at its end. -/
theorem dropLineFeed_of_not_mem {cs : List Char} (clean : '\n' ∉ cs) : dropLineFeed cs = cs := by
  apply if_neg
  intro last
  exact clean (List.mem_of_getLast? (by simpa using last))

theorem after?_append (before : String) (rest : List Char) :
    after? before (before.toList ++ rest) = some rest := by
  unfold after?
  simp

theorem after?_eq_none {before : String} {cs : List Char} {place : Nat} {c : Char} (here : cs[place]? = some c)
    (other : before.toList[place]?.any (· != c) = true) : after? before cs = none := by
  apply if_neg
  intro starts
  obtain ⟨rest, whole⟩ := List.isPrefixOf_iff_prefix.mp starts
  cases opening : before.toList[place]? with
  | none => rw [opening] at other; cases other
  | some d =>
    have long : place < before.toList.length := (List.getElem?_eq_some_iff.mp opening).1
    rw [← whole, List.getElem?_append_left long, opening] at here
    rw [opening, here] at other
    simp at other

/-- A pattern has no path with a character that it does not ask for. -/
theorem match?_eq_none {pattern : Pattern} {place : Nat} {c : Char} {path : String}
    (plain : c ≠ '\n') (here : path.toList[place]? = some c) (other : pattern.excludes place c = true) :
    pattern.match? path = none := by
  cases pattern with
  | exactly fixed endpoint =>
    have kept := getElem?_dropLineFeed here plain
    have differs : fixed.toList[place]? ≠ some c := by simpa [Pattern.excludes] using other
    apply if_neg
    intro same
    rw [Bool.or_eq_true, decide_eq_true_eq, decide_eq_true_eq] at same
    rcases same with same | same
    · exact differs (same ▸ here)
    · exact differs (same ▸ kept)
  | named before after endpoint =>
    rw [Pattern.match?, after?_eq_none here other]
    rfl
  | below before endpoint =>
    rw [Pattern.match?, after?_eq_none here other]
    rfl

/-- A pattern for a name takes the name. -/
theorem match?_named {before text : String} {endpoint : String → Endpoint} (filled : text.toList ≠ [])
    (unslashed : '/' ∉ text.toList) :
    (Pattern.named before "" endpoint).match? (before ++ text) = some (endpoint text) := by
  have other : ∀ c ∈ text.toList, (c != '/') = true := by
    intro c mem
    apply bne_iff_ne.mpr
    rintro rfl
    exact unslashed mem
  have name : text.toList.takeWhile (· != '/') = text.toList := by
    rw [← List.append_nil text.toList, List.takeWhile_append_of_pos other]
    rfl
  have tail : text.toList.dropWhile (· != '/') = [] := by
    rw [← List.append_nil text.toList, List.dropWhile_append_of_pos other]
    rfl
  have unempty : text.toList.isEmpty ≠ true := mt List.isEmpty_iff.mp filled
  simp only [Pattern.match?]
  rw [String.toList_append, after?_append]
  simp only [Option.bind_eq_bind, Option.bind_some, name, tail]
  rw [if_neg unempty, String.ofList_toList]
  rfl

/-- Where all routes but one exclude a path, that one decides. -/
theorem routeOf?_eq {route : Route} {before after : List Route} {place : Nat} {c : Char}
    {path : String} (split : Route.all = before ++ route :: after) (plain : c ≠ '\n')
    (here : path.toList[place]? = some c)
    (others : ∀ other ∈ before ++ after, other.pattern.excludes place c = true) :
    routeOf? path = (route.pattern.match? path).map (route, ·) := by
  have none {routes : List Route} (all : ∀ other ∈ routes, other.pattern.excludes place c = true) :
      (routes.findSome? fun route => (route.pattern.match? path).map (route, ·)) = none := by
    apply List.findSome?_eq_none_iff.mpr
    intro other mem
    rw [match?_eq_none plain here (all other mem)]
    rfl
  obtain ⟨early, late⟩ := List.forall_mem_append.mp others
  rw [routeOf?, split, List.findSome?_append, none early, Option.none_or, List.findSome?_cons]
  cases route.pattern.match? path with
  | none => exact none late
  | some endpoint => rfl

/-- What routes a download. -/
theorem routeOf?_download {path : String} {rest : List Char}
    (chars : path.toList = "/download/".toList ++ rest) :
    routeOf? path = if (dropLineFeed rest).contains '\n' then none
      else some (downloadRoute, .download (String.ofList (dropLineFeed rest))) := by
  have split : Route.all = Route.all.take 11 ++ downloadRoute :: Route.all.drop 12 := rfl
  have others : ∀ other ∈ Route.all.take 11 ++ Route.all.drop 12,
      other.pattern.excludes 1 'd' = true := by decide
  have second : path.toList[1]? = some 'd' := by rw [chars]; rfl
  rw [routeOf?_eq split (by decide) second others]
  simp only [downloadRoute, Pattern.match?]
  rw [chars, after?_append]
  show Option.map _ (if (dropLineFeed rest).contains '\n' = true then none else some _) = _
  split <;> rfl

variable {method path : String} {rest : List Char}

/-- A download of a path without line feeds is answered. -/
theorem routing_download (asked : method = "GET" ∨ method = "HEAD")
    (chars : path.toList = "/download/".toList ++ rest) (clean : '\n' ∉ rest) :
    routing method path = .answers (.download (String.ofList rest)) := by
  have whole : dropLineFeed rest = rest := dropLineFeed_of_not_mem clean
  have route : routeOf? path = some (downloadRoute, .download (String.ofList rest)) := by
    rw [routeOf?_download chars, whole]
    exact if_neg fun mem => clean (List.contains_iff_mem.mp mem)
  unfold routing
  rw [route]
  rcases asked with rfl | rfl <;> rfl

/-- **No route leads to a path with a line feed inside**, nor would a slash after it help. -/
theorem routing_download_lineFeed {c : Char} (chars : path.toList = "/download/".toList ++ (rest ++ [c]))
    (inside : '\n' ∈ rest ++ [c]) (filled : c ≠ '\n') (unslashed : c ≠ '/') :
    routing method path = .nowhere := by
  have kept {d : Char} (other : d ≠ '\n') (before : List Char) :
      dropLineFeed (before ++ [d]) = before ++ [d] := by
    apply if_neg
    simp [other]
  have here : routeOf? path = none := by
    rw [routeOf?_download chars, kept filled]
    exact if_pos (List.contains_iff_mem.mpr inside)
  have last : ¬(path.toList.getLast? == some '/') = true := by
    rw [chars, ← List.append_assoc, List.getLast?_concat]
    simp [unslashed]
  have toggled : toggleSlash path = String.ofList (path.toList ++ ['/']) := if_neg last
  have slashed : (toggleSlash path).toList = "/download/".toList ++ (rest ++ [c] ++ ['/']) := by
    rw [toggled, String.toList_ofList, chars, List.append_assoc]
  have there : routeOf? (toggleSlash path) = none := by
    rw [routeOf?_download slashed, kept (by decide)]
    exact if_pos (List.contains_iff_mem.mpr (List.mem_append_left _ inside))
  unfold routing
  rw [here, there]
  simp

/-- A file is answered at its position. -/
theorem routing_game {text : String} (asked : method = "GET" ∨ method = "HEAD")
    (filled : text.toList ≠ []) (unslashed : '/' ∉ text.toList) :
    routing method ("/get_game/" ++ text) = .answers (.game text) := by
  have split : Route.all = Route.all.take 12 ++ gameRoute :: Route.all.drop 13 := rfl
  have others : ∀ other ∈ Route.all.take 12 ++ Route.all.drop 13,
      other.pattern.excludes 1 'g' = true := by decide
  have second : ("/get_game/" ++ text).toList[1]? = some 'g' := by rw [String.toList_append]; rfl
  have route : routeOf? ("/get_game/" ++ text) = some (gameRoute, .game text) := by
    rw [routeOf?_eq split (by decide) second others, gameRoute, match?_named filled unslashed]
    rfl
  unfold routing
  rw [route]
  rcases asked with rfl | rfl <;> rfl

/-- An icon is answered at its name. -/
theorem routing_icon {text : String} (filled : text.toList ≠ []) (unslashed : '/' ∉ text.toList) :
    routing "GET" ("/shop/icon/" ++ text) = .answers (.icon text) := by
  have split : Route.all = Route.all.take 13 ++ iconRoute :: Route.all.drop 14 := rfl
  have others : ∀ other ∈ Route.all.take 13 ++ Route.all.drop 14,
      other.pattern.excludes 6 'i' = true := by decide
  -- Sections, banners and icons stand below the same path, so they part only behind it.
  have seventh : ("/shop/icon/" ++ text).toList[6]? = some 'i' := by rw [String.toList_append]; rfl
  have route : routeOf? ("/shop/icon/" ++ text) = some (iconRoute, .icon text) := by
    rw [routeOf?_eq split (by decide) seventh others, iconRoute, match?_named filled unslashed]
    rfl
  unfold routing
  rw [route]
  rfl

end Gameshelf.Server
