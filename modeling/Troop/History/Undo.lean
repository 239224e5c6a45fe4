import Mathlib.Data.List.Basic

namespace Troop.History

variable {α : Type}

/-- One entry of a history, newest entry first: a value was put in effect, or the last one still in effect was
    taken back. -/
inductive Change (α : Type) where
  | make (value : α)
  | undo
deriving DecidableEq, Repr

def inEffect : List (Change α) → List α
  | [] => []
  | .make value :: earlier => value :: inEffect earlier
  | .undo :: earlier => (inEffect earlier).tail

def made : List (Change α) → List α
  | [] => []
  | .make value :: earlier => value :: made earlier
  | .undo :: earlier => made earlier

def sinceUndo : List (Change α) → List α
  | .make value :: earlier => value :: sinceUndo earlier
  | _ => []

/-- The two newest values made are the two newest in effect: nothing was taken back yet, or two values were made
    since. -/
def Settled (history : List (Change α)) : Prop := .undo ∉ history ∨ 2 ≤ (sinceUndo history).length

instance [DecidableEq α] (history : List (Change α)) : Decidable (Settled history) := by
  unfold Settled
  infer_instance

@[simp] theorem inEffect_make (value : α) (history : List (Change α)) :
    inEffect (.make value :: history) = value :: inEffect history := rfl

variable (history : List (Change α))

@[simp] theorem inEffect_undo :
    inEffect (.undo :: history) = (inEffect history).tail := rfl

@[simp] theorem made_make (value : α) (history : List (Change α)) :
    made (.make value :: history) = value :: made history := rfl

@[simp] theorem made_undo : made (.undo :: history) = made history := rfl

theorem inEffect_of_kept {history : List (Change α)} (kept : .undo ∉ history) : inEffect history = made history := by
  induction history with
  | nil => rfl
  | cons change earlier ih =>
    cases change with
    | make value => simp_all
    | undo => exact absurd List.mem_cons_self kept

theorem inEffect_since : ∃ older, inEffect history = sinceUndo history ++ older := by
  induction history with
  | nil => exact ⟨[], rfl⟩
  | cons change earlier ih =>
    cases change with
    | make value =>
      obtain ⟨older, same⟩ := ih
      exact ⟨older, by simp [sinceUndo, same]⟩
    | undo => exact ⟨_, rfl⟩

theorem made_since : ∃ older, made history = sinceUndo history ++ older := by
  induction history with
  | nil => exact ⟨[], rfl⟩
  | cons change earlier ih =>
    cases change with
    | make value =>
      obtain ⟨older, same⟩ := ih
      exact ⟨older, by simp [sinceUndo, same]⟩
    | undo => exact ⟨_, rfl⟩

theorem Settled.previous {history : List (Change α)} (settled : Settled history) {newest previous : α}
    {older : List α} (found : made history = newest :: previous :: older) :
    ∃ rest, inEffect history = newest :: previous :: rest := by
  rcases settled with kept | enough
  · exact ⟨older, (inEffect_of_kept kept).trans found⟩
  · obtain ⟨before, standing⟩ := inEffect_since history
    obtain ⟨others, all⟩ := made_since history
    match recent : sinceUndo history, enough with
    | first :: second :: rest, _ => simp_all

end Troop.History
