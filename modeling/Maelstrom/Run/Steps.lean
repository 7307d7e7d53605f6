import Mathlib.Data.Option.Basic

/-!
# Runs of a transition system

The threads of `maelstrom-run` are modelled as transition systems: a state, a type of events,
and a partial `step` that says what each event does where it can happen. This module gives
their runs once for all of them.

* `Steps step s s'`: `s'` follows from `s` by steps.
* `Steps.preserves`: a property that every step keeps holds along every run.
* `run` replays a list of events; `steps_of_run` turns a replay into a run.
-/

namespace Maelstrom.Run

variable {σ ε : Type} (step : σ → ε → Option σ)

/-- `s'` follows from `s` by steps of `step`. -/
inductive Steps : σ → σ → Prop
  | refl (s : σ) : Steps s s
  | tail {s s' s'' : σ} (e : ε) : Steps s s' → step s' e = some s'' → Steps s s''

/-- The state reached from `s` by the events `es`, where each of them can happen. -/
def run (s : σ) : List ε → Option σ
  | [] => some s
  | e :: es => (step s e).bind fun s' => run s' es

variable {step}

namespace Steps

theorem trans {s₁ s₂ s₃ : σ} (h₁ : Steps step s₁ s₂) (h₂ : Steps step s₂ s₃) :
    Steps step s₁ s₃ := by
  induction h₂ with
  | refl => exact h₁
  | tail e _ hs ih => exact .tail e ih hs

theorem head {s₁ s₂ s₃ : σ} {e : ε} (h₁ : step s₁ e = some s₂) (h₂ : Steps step s₂ s₃) :
    Steps step s₁ s₃ :=
  (Steps.tail e (.refl s₁) h₁).trans h₂

/-- A property kept by every step holds along every run. -/
theorem preserves {p : σ → Prop} (hp : ∀ s e s', p s → step s e = some s' → p s') {s s' : σ}
    (h : Steps step s s') (hs : p s) : p s' := by
  induction h with
  | refl => exact hs
  | tail e _ hstep ih => exact hp _ e _ ih hstep

end Steps

theorem run_append (s : σ) (es es' : List ε) :
    run step s (es ++ es') = (run step s es).bind fun s' => run step s' es' := by
  induction es generalizing s with
  | nil => rfl
  | cons e es ih =>
    show ((step s e).bind fun s' => run step s' (es ++ es')) = _
    simp only [run, ih, Option.bind_assoc]

theorem steps_of_run {s s' : σ} {es : List ε} (h : run step s es = some s') : Steps step s s' := by
  induction es generalizing s with
  | nil => cases h; exact .refl _
  | cons e es ih =>
    obtain ⟨s₁, h₁, h₂⟩ := Option.bind_eq_some.1 h
    exact Steps.head h₁ (ih h₂)

end Maelstrom.Run
