import Gameshelf.Server.RateLimit

/-!
The budget of requests over a whole run. As long as the clock is never set back, the search by halving finds where
a window begins (`reaches_iff_firstWithin_le`), so what is spent is what the window holds (`spent_eq_countP`). A
request is let through exactly if that is less than the burst, and no window of time, wherever it begins, holds more
requests that were let through than that (`granted_within_burst`).
-/

namespace Gameshelf.Server.RateLimit

section Search

/-- In order, what follows a time that reaches a start reaches it too. -/
theorem reaches_mono {times : List Int} {start : Int} (ordered : times.Pairwise (· ≤ ·)) {i j : Nat}
    (le : i ≤ j) (lt : j < times.length) (h : reaches times start i = true) :
    reaches times start j = true := by
  have below : i < times.length := Nat.lt_of_le_of_lt le lt
  simp only [reaches, List.getElem?_eq_getElem below, List.getElem?_eq_getElem lt, Option.any_some,
    decide_eq_true_eq] at h ⊢
  rcases Nat.lt_or_eq_of_le le with less | rfl
  · exact Int.le_trans h (List.pairwise_iff_getElem.mp ordered i j below lt less)
  · exact h

/-- A search through times in order ends where the window begins. -/
theorem reaches_search {times : List Int} {start : Int} (ordered : times.Pairwise (· ≤ ·))
    (first : reaches times start 0 = false) :
    ∀ (steps low high : Nat), low ≤ high → high < times.length → high - low < steps →
      (low = 0 ∨ reaches times start (low - 1) = false) → reaches times start high = true →
      let position := search times start steps low high
      0 < position ∧ reaches times start (position - 1) = false ∧ reaches times start position = true
  | 0, _, _, _, _, enough, _, _ => absurd enough (Nat.not_lt_zero _)
  | steps + 1, low, high, le, lt, enough, before, last => by
    have inside : (low + high) / 2 < times.length := by omega
    unfold search
    generalize hm : (low + high) / 2 = middle at inside
    cases hb : reaches times start (middle - 1) <;> cases ha : reaches times start middle <;>
      simp only [hb, ha]
    · have : middle ≠ high := fun h => by simp [h, last] at ha
      exact reaches_search ordered first steps (middle + 1) high (by omega) lt (by omega) (.inr ha) last
    · refine ⟨Nat.pos_of_ne_zero fun h => ?_, trivial, trivial⟩
      simp [h, first] at ha
    · exact absurd (reaches_mono ordered (Nat.sub_le _ _) inside hb) (by simp [ha])
    · have : middle ≠ high := fun h => by
        rcases before with zero | before
        · have : middle = 0 := by omega
          simp [this, first] at ha
        · have : middle = low := by omega
          simp [this, before] at hb
      exact reaches_search ordered first steps low middle (by omega) inside (by omega) before ha

/-- Times in order are cut in two where a window begins. -/
theorem reaches_iff_firstWithin_le {times : List Int} {start : Int} (ordered : times.Pairwise (· ≤ ·))
    {i : Nat} (lt : i < times.length) :
    reaches times start i = true ↔ firstWithin times start ≤ i := by
  unfold firstWithin
  split
  · next last =>
    refine ⟨fun h => ?_, fun le => absurd lt (Nat.not_lt.mpr le)⟩
    have := reaches_mono ordered (Nat.le_sub_one_of_lt lt) (by omega) h
    simp [this] at last
  · next last =>
    have last : reaches times start (times.length - 1) = true := by simpa using last
    split
    · next first =>
      exact ⟨fun _ => Nat.zero_le _, fun _ => reaches_mono ordered (Nat.zero_le _) lt first⟩
    · next first =>
      have first : reaches times start 0 = false := by simpa using first
      obtain ⟨pos, before, within⟩ := reaches_search ordered first times.length 0 (times.length - 1)
        (Nat.zero_le _) (by omega) (by omega) (.inl rfl) last
      have inside : search times start times.length 0 (times.length - 1) < times.length :=
        Nat.lt_of_not_le fun out => by simp [reaches, List.getElem?_eq_none out] at within
      refine ⟨fun h => Nat.le_of_not_lt fun less => ?_, fun le => reaches_mono ordered le lt within⟩
      have := reaches_mono ordered (Nat.le_sub_one_of_lt less) (by omega) h
      simp [this] at before

/-- As long as the clock is never set back, what is spent is the number of requests let through since
the window began. -/
theorem spent_eq_countP {limit : RateLimit} (ordered : limit.granted.Pairwise (· ≤ ·)) (now : Int) :
    limit.spent now = limit.granted.countP fun time => now - limit.window ≤ time := by
  have cut {i : Nat} (lt : i < limit.granted.length) :
      reaches limit.granted (now - limit.window) i = true
        ↔ firstWithin limit.granted (now - limit.window) ≤ i :=
    reaches_iff_firstWithin_le ordered lt
  unfold spent
  generalize firstWithin limit.granted (now - limit.window) = position at cut
  conv => rhs; rw [← List.take_append_drop position limit.granted]
  rw [List.countP_append, List.countP_eq_zero.mpr, List.countP_eq_length.mpr, List.length_drop,
    Nat.zero_add]
  · intro time mem
    obtain ⟨i, lt, rfl⟩ := List.mem_iff_getElem.mp mem
    rw [List.length_drop] at lt
    have lt : position + i < limit.granted.length := by omega
    simpa [reaches, List.getElem?_eq_getElem lt] using (cut lt).mpr (Nat.le_add_right _ _)
  · intro time mem
    obtain ⟨i, lt, rfl⟩ := List.mem_iff_getElem.mp mem
    rw [List.length_take] at lt
    have inside : i < limit.granted.length := by omega
    have := (not_congr (cut inside)).mpr (by omega)
    simpa [reaches, List.getElem?_eq_getElem inside] using this

end Search

section Runs

variable {limit : RateLimit} {now : Int}

/-- The number of requests let through in the window that begins at a time. -/
def heldFrom (limit : RateLimit) (start : Int) : Nat :=
  limit.granted.countP fun time => start ≤ time && time ≤ start + limit.window

/-- **A budget is kept** up to a time: the clock was never set back and is not ahead, and no window holds more than
the burst. -/
structure Kept (limit : RateLimit) (now : Int) : Prop where
  ordered : limit.granted.Pairwise (· ≤ ·)
  past : ∀ time ∈ limit.granted, time ≤ now
  within : ∀ start, (limit.heldFrom start : Int) ≤ limit.burst

/-- A budget of which nothing is spent is kept. -/
theorem kept_of_unspent (unspent : limit.granted = []) (burst : 0 ≤ limit.burst) (now : Int) : Kept limit now := by
  refine ⟨unspent ▸ List.Pairwise.nil, unspent ▸ nofun, fun start => ?_⟩
  rw [heldFrom, unspent]
  exact burst

/-- What asking comes to: the request is let through and counts, or it is refused and nothing changes. -/
theorem acquire_cases (limit : RateLimit) (now : Int) :
    (limit.spent now < limit.burst ∧
      limit.acquire now = (true, { limit with granted := limit.granted ++ [now] })) ∨
    (¬limit.spent now < limit.burst ∧ limit.acquire now = (false, limit)) := by
  unfold acquire
  split
  · next less => exact .inl ⟨less, rfl⟩
  · next full => exact .inr ⟨full, rfl⟩

/-- **A request is let through** exactly if the window that ends now holds less than the burst. -/
theorem Kept.acquire_iff (kept : Kept limit now) (later : Int) :
    (limit.acquire later).1 = true ↔
      (limit.granted.countP (fun time => later - limit.window ≤ time) : Int) < limit.burst := by
  rw [← spent_eq_countP kept.ordered]
  rcases acquire_cases limit later with ⟨less, through⟩ | ⟨full, refused⟩
  · rw [through]
    exact iff_of_true rfl less
  · rw [refused]
    exact iff_of_false Bool.false_ne_true full

/-- What a window holds besides a request was counted when the request was let through: the window begins no earlier
than the one that ends with the request. -/
theorem heldFrom_le_spent (kept : Kept limit now) {start later : Int} (reaches : later ≤ start + limit.window) :
    limit.heldFrom start ≤ limit.spent later := by
  rw [spent_eq_countP kept.ordered]
  refine List.countP_mono_left fun time mem held => ?_
  simp only [Bool.and_eq_true, decide_eq_true_eq] at held ⊢
  omega

/-- **One request more** keeps the budget. -/
theorem Kept.acquire (kept : Kept limit now) {later : Int} (onward : now ≤ later) :
    Kept (limit.acquire later).2 later := by
  have past : ∀ time ∈ limit.granted, time ≤ later := fun time mem => Int.le_trans (kept.past time mem) onward
  rcases acquire_cases limit later with ⟨less, through⟩ | ⟨-, refused⟩
  · rw [through]
    refine ⟨?_, ?_, fun start => ?_⟩
    · refine List.pairwise_append.mpr ⟨kept.ordered, List.pairwise_singleton _ _, fun time mem last own => ?_⟩
      exact List.mem_singleton.mp own ▸ past time mem
    · intro time mem
      rcases List.mem_append.mp mem with mem | own
      · exact past time mem
      · exact Int.le_of_eq (List.mem_singleton.mp own)
    · have held : heldFrom { limit with granted := limit.granted ++ [later] } start
          = limit.heldFrom start + if start ≤ later && later ≤ start + limit.window then 1 else 0 := by
        rw [heldFrom, List.countP_append, List.countP_singleton]
        rfl
      rw [held]
      split
      · next inside =>
        simp only [Bool.and_eq_true, decide_eq_true_eq] at inside
        have fewer := heldFrom_le_spent kept inside.2
        dsimp only
        omega
      · exact kept.within start
  · rw [refused]
    exact ⟨kept.ordered, past, kept.within⟩

/-- Requests one after another, each at its time. -/
def after (limit : RateLimit) (times : List Int) : RateLimit :=
  times.foldl (fun limit now => (limit.acquire now).2) limit

/-- Requests in the order of time keep a budget. The induction is on the requests; each time is the bound for what
came before. -/
theorem Kept.after (kept : Kept limit now) {times : List Int} (ordered : (now :: times).Pairwise (· ≤ ·)) :
    ∃ last, Kept (limit.after times) last := by
  induction times generalizing limit now with
  | nil => exact ⟨now, kept⟩
  | cons next rest ih =>
    obtain ⟨first, others⟩ := List.pairwise_cons.mp ordered
    exact ih (kept.acquire (first next List.mem_cons_self)) others

theorem burst_after (limit : RateLimit) (times : List Int) : (limit.after times).burst = limit.burst := by
  induction times generalizing limit with
  | nil => rfl
  | cons now rest ih =>
    have same : (limit.acquire now).2.burst = limit.burst := by
      rcases acquire_cases limit now with ⟨-, through⟩ | ⟨-, refused⟩
      · rw [through]
      · rw [refused]
    exact (ih _).trans same

/-- **No window lets more requests through than the burst**, wherever it begins and whatever requests come, as long
as the clock is never set back; and one request more is refused only where the window that ends with it has let as
many through. -/
theorem granted_within_burst (unspent : limit.granted = []) (positive : 0 ≤ limit.burst) {times : List Int}
    (ordered : times.Pairwise (· ≤ ·)) :
    let reached := limit.after times
    (∀ start, (reached.heldFrom start : Int) ≤ limit.burst) ∧
    ∀ now, (reached.acquire now).1 = true ↔
      (reached.granted.countP (fun time => now - reached.window ≤ time) : Int) < limit.burst := by
  intro reached
  have kept : ∃ last, Kept reached last := by
    cases times with
    | nil => exact ⟨0, kept_of_unspent unspent positive 0⟩
    | cons first rest => exact ((kept_of_unspent unspent positive first).acquire (Int.le_refl first)).after ordered
  obtain ⟨last, kept⟩ := kept
  rw [← burst_after limit times]
  exact ⟨kept.within, kept.acquire_iff⟩

end Runs

end Gameshelf.Server.RateLimit
