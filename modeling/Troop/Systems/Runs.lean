import Mathlib.Data.List.Basic

namespace Troop.Systems

variable {σ α : Type} {step : σ → α → Option σ} {allowed more : σ → α → Prop} {origin last : σ}

inductive Reaches (step : σ → α → Option σ) (allowed : σ → α → Prop) (origin : σ) : σ → Prop
  | start : Reaches step allowed origin origin
  | step {state after : σ} {action : α} (before : Reaches step allowed origin state)
      (careful : allowed state action) (stepped : step state action = some after) :
      Reaches step allowed origin after

namespace Reaches

theorem mono (entails : ∀ state action, allowed state action → more state action)
    (reached : Reaches step allowed origin last) : Reaches step more origin last := by
  induction reached with
  | start => exact .start
  | step _ careful stepped ih => exact ih.step (entails _ _ careful) stepped

theorem invariant {Holds : σ → Prop} (reached : Reaches step allowed origin last) (initial : Holds origin)
    (kept : ∀ {state after action}, Holds state → allowed state action → step state action = some after → Holds after) :
    Holds last := by
  induction reached with
  | start => exact initial
  | step _ careful stepped ih => exact kept ih careful stepped

end Reaches

def runWhere (step : σ → α → Option σ) (allowed : σ → α → Bool) (state : σ) : List α → Option σ
  | [] => some state
  | action :: rest =>
    if allowed state action then (step state action).bind fun after => runWhere step allowed after rest else none

theorem Reaches.runs {check : σ → α → Bool} {state : σ} {actions : List α}
    (sound : ∀ state action, check state action = true → allowed state action)
    (reached : Reaches step allowed origin state) (ran : runWhere step check state actions = some last) :
    Reaches step allowed origin last := by
  induction actions generalizing state with
  | nil =>
    cases ran
    exact reached
  | cons action rest ih =>
    unfold runWhere at ran
    split at ran
    · rename_i checked
      obtain ⟨after, stepped, ran⟩ := Option.bind_eq_some_iff.mp ran
      exact ih (reached.step (sound state action checked) stepped) ran
    · cases ran

end Troop.Systems
