import Gameshelf.Failure

/-!
Steps that may fail, one after another: what the whole comes to tells what each step came to, and where one of
them crashes (`crashes_bind_iff`).
-/

namespace Gameshelf

section Steps

variable {ε δ α β : Type}

theorem ok_bind (a : α) (next : α → Except ε β) : (Except.ok a >>= next) = next a := rfl

theorem error_bind (e : ε) (next : α → Except ε β) : (Except.error e >>= next) = .error e := rfl

/-- Two steps succeed where the first does and the second does with its result. -/
theorem bind_eq_ok {first : Except ε α} {next : α → Except ε β} {b : β} :
    first >>= next = .ok b ↔ ∃ a, first = .ok a ∧ next a = .ok b := by
  cases first with
  | error e => exact ⟨nofun, fun ⟨_, h, _⟩ => nomatch h⟩
  | ok a => exact ⟨fun h => ⟨a, rfl, h⟩, fun ⟨_, h, done⟩ => Except.ok.inj h ▸ done⟩

/-- Two steps fail where the first does, or the second does with its result. -/
theorem bind_eq_error {first : Except ε α} {next : α → Except ε β} {e : ε} :
    first >>= next = .error e ↔ first = .error e ∨ ∃ a, first = .ok a ∧ next a = .error e := by
  cases first with
  | error e' =>
    refine ⟨fun h => .inl (congrArg _ (Except.error.inj h)), fun h => ?_⟩
    rcases h with h | ⟨_, h, _⟩
    · rw [h, error_bind]
    · cases h
  | ok a =>
    refine ⟨fun h => .inr ⟨a, rfl, h⟩, fun h => ?_⟩
    rcases h with h | ⟨_, h, failed⟩
    · cases h
    · exact Except.ok.inj h ▸ failed

/-- A step succeeds whatever its errors are turned into. -/
theorem mapError_eq_ok {step : Except ε α} {embed : ε → δ} {a : α} :
    step.mapError embed = .ok a ↔ step = .ok a := by
  cases step with
  | ok b => exact ⟨fun h => congrArg _ (Except.ok.inj h), fun h => congrArg _ (Except.ok.inj h)⟩
  | error e => exact ⟨nofun, nofun⟩

/-- A step that can only crash succeeds within an operation as it does alone. -/
theorem orCrash_eq_ok {step : Except Crash α} {a : α} :
    (orCrash step : Except (Failure ε) α) = .ok a ↔ step = .ok a := by
  cases step with
  | ok b => exact ⟨fun h => congrArg _ (Except.ok.inj h), fun h => congrArg _ (Except.ok.inj h)⟩
  | error crash => exact ⟨nofun, nofun⟩

end Steps

section Crashes

variable {ε δ α β : Type}

/-- **A step crashes**: it fails, and not with an error that it reports. -/
def Crashes (step : Except (Failure ε) α) : Prop :=
  ∃ crash, step = .error (.crash crash)

@[simp] theorem not_crashes_ok (a : α) : ¬Crashes (.ok a : Except (Failure ε) α) :=
  nofun

@[simp] theorem not_crashes_report (error : ε) : ¬Crashes (report error : Except (Failure ε) α) :=
  nofun

/-- A step all of whose errors are reported does not crash. -/
theorem not_crashes_mapError {step : Except δ α} {embed : δ → ε} :
    ¬Crashes (step.mapError fun error => .reported (embed error)) := by
  cases step <;> nofun

/-- Two steps crash where the first does, or the second does with its result. -/
theorem crashes_bind_iff {first : Except (Failure ε) α} {next : α → Except (Failure ε) β} :
    Crashes (first >>= next) ↔ Crashes first ∨ ∃ a, first = .ok a ∧ Crashes (next a) := by
  unfold Crashes
  constructor
  · rintro ⟨crash, crashed⟩
    rcases bind_eq_error.mp crashed with first | ⟨a, done, second⟩
    · exact .inl ⟨crash, first⟩
    · exact .inr ⟨a, done, crash, second⟩
  · rintro (⟨crash, first⟩ | ⟨a, done, crash, second⟩)
    · exact ⟨crash, bind_eq_error.mpr (.inl first)⟩
    · exact ⟨crash, bind_eq_error.mpr (.inr ⟨a, done, second⟩)⟩

/-- A step that can only crash crashes wherever it fails. -/
theorem crashes_orCrash_iff {step : Except Crash α} :
    Crashes (orCrash step : Except (Failure ε) α) ↔ ∃ crash, step = .error crash := by
  cases step with
  | ok a => exact ⟨nofun, nofun⟩
  | error crash => exact iff_of_true ⟨crash, rfl⟩ ⟨crash, rfl⟩

end Crashes

end Gameshelf
