import Troop.Execution.Lifecycle
import Troop.Runs.Checkpoint

namespace Troop.Parking

open Execution (RunStatus Exn)
open Runs (WorkflowState WorkflowStep)

/-- `LEGACY_STEP_ALIASES` -/
def normalizeWorkflowStepId (stepId : String) : String := if stepId = "github_sync" then "external_action_sync" else stepId

def currentStep (state : WorkflowState) : Option WorkflowStep :=
  (state.currentStepId.filter (· ≠ "")).bind fun id => state.steps.find? (·.id = id)

def runIsResumable (status : RunStatus) (state : WorkflowState) : Bool :=
  if status = .failed ∨ status = .blocked then (currentStep state).any (·.resumable) else false

inductive Op where
  /-- other code is called, which may raise and may commit -/
  | call (name : String)
  /-- other code whose exceptions are dropped -/
  | attempt (name : String)
  /-- `_emit_run_event` commits, unless it raises -/
  | event
  | begins (stepId : String)
  | completes (stepId : String) (metadata : Dict Json)
  /-- marks a step as blocked or as failed -/
  | stops (stepId : String) (blocked : Bool) (error : String)
  | stores (key : String)
  | snapshot (data : Dict Json)
  | enters (status : RunStatus)
  | commit
  | refuse (exn : Exn)

/-- How a call ends: what it raises, whether it commits, and a value that it answers. -/
structure Answer where
  raises : Option Exn
  commits : Bool
  value : Json

structure Session where
  status : RunStatus
  workflow : WorkflowState
  storedStatus : RunStatus
  storedWorkflow : WorkflowState
deriving DecidableEq

def Session.commit (s : Session) : Session := { s with storedStatus := s.status, storedWorkflow := s.workflow }

def Op.raises (answer : Answer) : Op → Option Exn
  | .call _ | .event => answer.raises
  | .refuse exn => some exn
  | _ => none

def Op.commits (answer : Answer) : Op → Bool
  | .call _ | .attempt _ => answer.commits
  | .event => answer.raises.isNone
  | .commit => true
  | _ => false

def Op.change (now : String) (answer : Answer) (s : Session) : Op → Session
  | .begins stepId => { s with workflow := s.workflow.markStep now (normalizeWorkflowStepId stepId) "in_progress" none [] }
  | .completes stepId metadata =>
    { s with workflow := s.workflow.markStep now (normalizeWorkflowStepId stepId) "completed" none metadata }
  | .stops stepId blocked error =>
    let status := if blocked then "blocked" else "failed"
    { s with workflow := s.workflow.markStep now (normalizeWorkflowStepId stepId) status (some error) [] }
  | .stores key => { s with workflow := s.workflow.setArtifact now key answer.value }
  | .snapshot data => { s with workflow := s.workflow.updateQuerySnapshot now data }
  | .enters status => { s with status := status }
  | .call _ | .attempt _ | .event | .commit | .refuse _ => s

def Op.run (now : String) (answer : Answer) (s : Session) (op : Op) : Session :=
  if op.commits answer then (op.change now answer s).commit else op.change now answer s

/-- The operations in their order, up to the one that raises; `answers` says by their number how they end. -/
def runOps (now : String) (answers : Nat → Answer) : Nat → List Op → Session → Session × Option Exn
  | _, [], s => (s, none)
  | n, op :: rest, s =>
    match op.raises (answers n) with
    | some exn => (op.run now (answers n) s, some exn)
    | none => runOps now answers (n + 1) rest (op.run now (answers n) s)

section Answers

variable (answers : Nat → Answer)

def stopped : Nat → List Op → Option Exn
  | _, [] => none
  | n, op :: rest => (op.raises (answers n)).or (stopped (n + 1) rest)

def carried : Nat → List Op → List Op
  | _, [] => []
  | n, op :: rest => op :: if (op.raises (answers n)).isSome then [] else carried (n + 1) rest

def committed : Nat → List Op → Bool
  | _, [] => false
  | n, op :: rest => op.commits (answers n) || ((op.raises (answers n)).isNone && committed (n + 1) rest)

end Answers

def Op.mark? : Op → Option (String × Bool)
  | .begins stepId => some (normalizeWorkflowStepId stepId, true)
  | .completes stepId _ => some (normalizeWorkflowStepId stepId, false)
  | .stops stepId _ _ => some (normalizeWorkflowStepId stepId, true)
  | _ => none

def lastMark (ids : List String) : List Op → Option (String × Bool)
  | [] => none
  | op :: rest => (lastMark ids rest).or (op.mark?.filter (·.1 ∈ ids))

def stepIds (state : WorkflowState) : List String := state.steps.map (·.id)

def resumableStep (state : WorkflowState) (id : String) : Bool := (state.steps.find? (·.id = id)).any (·.resumable)

section Steps

variable {now : String} {answers : Nat → Answer} {state : WorkflowState}

theorem mark_id (status : String) (error : Option String) (metadata : Dict Json) (step : WorkflowStep) :
    (step.mark now status error metadata).id = step.id := by
  unfold WorkflowStep.mark
  split <;> rfl

theorem mark_resumable (status : String) (error : Option String) (metadata : Dict Json) (step : WorkflowStep) :
    (step.mark now status error metadata).resumable = step.resumable := by
  unfold WorkflowStep.mark
  split <;> rfl

structure SameSteps (state after : WorkflowState) : Prop where
  ids : stepIds after = stepIds state
  resumable : ∀ id, resumableStep after id = resumableStep state id

theorem SameSteps.refl (state : WorkflowState) : SameSteps state state := ⟨rfl, fun _ => rfl⟩

theorem SameSteps.trans {middle after : WorkflowState} (first : SameSteps state middle) (second : SameSteps middle after) :
    SameSteps state after :=
  ⟨second.ids.trans first.ids, fun id => (second.resumable id).trans (first.resumable id)⟩

theorem markStep_same (stepId status : String) (error : Option String) (metadata : Dict Json) :
    SameSteps state (state.markStep now stepId status error metadata) := by
  have ids (step : WorkflowStep) : (if step.id = stepId then step.mark now status error metadata else step).id = step.id := by
    split
    · exact mark_id _ _ _ _
    · rfl
  have flags (step : WorkflowStep) :
      (if step.id = stepId then step.mark now status error metadata else step).resumable = step.resumable := by
    split
    · exact mark_resumable _ _ _ _
    · rfl
  constructor
  · change (state.steps.map _).map _ = _
    rw [List.map_map]
    exact List.map_congr_left fun step _ => ids step
  · intro id
    change ((state.steps.map _).find? _).any _ = _
    rw [List.find?_map, Option.any_map]
    unfold resumableStep
    have asked : ((fun step : WorkflowStep => decide (step.id = id)) ∘ fun step =>
        if step.id = stepId then step.mark now status error metadata else step) = fun step => decide (step.id = id) := by
      funext step
      exact congrArg (fun found => decide (found = id)) (ids step)
    simp_all

variable (answer : Answer)

theorem change_same (s : Session) (op : Op) : SameSteps s.workflow (op.change now answer s).workflow := by
  cases op with
  | begins stepId => exact markStep_same _ _ _ _
  | completes stepId metadata => exact markStep_same _ _ _ _
  | stops stepId blocked error => exact markStep_same _ _ _ _
  | _ => exact ⟨rfl, fun _ => rfl⟩

theorem known_iff (id : String) : (state.steps.any fun step => step.id = id) = true ↔ id ∈ stepIds state := by
  simp [stepIds]

theorem change_current (s : Session) (op : Op) :
    (op.change now answer s).workflow.currentStepId =
      match op.mark?.filter (·.1 ∈ stepIds s.workflow) with
      | some (id, opened) => if opened then some id else none
      | none => s.workflow.currentStepId := by
  have marked (id status : String) (opened : Bool)
      (means : s.workflow.currentAfter id status =
        if s.workflow.steps.any (fun step => step.id = id) then (if opened then some id else none) else s.workflow.currentStepId) :
      s.workflow.currentAfter id status = match (some (id, opened)).filter (·.1 ∈ stepIds s.workflow) with
        | some (id, opened) => if opened then some id else none
        | none => s.workflow.currentStepId := by
    by_cases known : id ∈ stepIds s.workflow
    · rw [means, if_pos ((known_iff id).mpr known), Option.filter_some_pos (by simpa using known)]
    · rw [means, if_neg (fun found => known ((known_iff id).mp found)), Option.filter_some_neg (by simpa using known)]
  cases op with
  | begins stepId => exact marked _ "in_progress" true rfl
  | completes stepId metadata => exact marked _ "completed" false rfl
  | stops stepId blocked error =>
    cases blocked with
    | true => exact marked _ "blocked" true rfl
    | false => exact marked _ "failed" true rfl
  | _ => rfl

theorem run_workflow (s : Session) (op : Op) :
    (op.run now answer s).workflow = (op.change now answer s).workflow := by
  unfold Op.run
  split <;> rfl

theorem runOps_stopped (n : Nat) (ops : List Op) (s : Session) : (runOps now answers n ops s).2 = stopped answers n ops := by
  induction ops generalizing n s with
  | nil => rfl
  | cons op rest ih =>
    rw [runOps, stopped]
    cases op.raises (answers n) with
    | none => exact ih _ _
    | some exn => rfl

theorem runOps_same (n : Nat) (ops : List Op) (s : Session) :
    SameSteps s.workflow (runOps now answers n ops s).1.workflow := by
  induction ops generalizing n s with
  | nil => exact .refl _
  | cons op rest ih =>
    have one : SameSteps s.workflow (op.run now (answers n) s).workflow := by
      rw [run_workflow]
      exact change_same _ _ _
    rw [runOps]
    cases op.raises (answers n) with
    | none => exact one.trans (ih _ _)
    | some exn => exact one

/-- Where `current_step_id` is led by a mark; without one it stays. -/
def currentBy (mark : Option (String × Bool)) (current : Option String) : Option String :=
  match mark with
  | some (id, opened) => if opened then some id else none
  | none => current

theorem currentBy_or (later earlier : Option (String × Bool)) (current : Option String) :
    currentBy (later.or earlier) current = currentBy later (currentBy earlier current) := by
  cases later <;> rfl

theorem runOps_current (n : Nat) (ops : List Op) (s : Session) :
    (runOps now answers n ops s).1.workflow.currentStepId =
      currentBy (lastMark (stepIds s.workflow) (carried answers n ops)) s.workflow.currentStepId := by
  induction ops generalizing n s with
  | nil => rfl
  | cons op rest ih =>
    have one : (op.run now (answers n) s).workflow.currentStepId =
        currentBy (op.mark?.filter (·.1 ∈ stepIds s.workflow)) s.workflow.currentStepId := by
      rw [run_workflow, change_current]
      rfl
    have ids : stepIds (op.run now (answers n) s).workflow = stepIds s.workflow := by
      rw [run_workflow]
      exact (change_same _ _ _).ids
    rw [runOps, carried, lastMark, currentBy_or, ← one]
    cases op.raises (answers n) with
    | none => simp_all
    | some exn => rfl

def resumableCurrent (state : WorkflowState) : Bool := (currentStep state).any (·.resumable)

theorem resumableCurrent_eq (state : WorkflowState) :
    resumableCurrent state = match state.currentStepId with
      | some id => decide (id ≠ "") && resumableStep state id
      | none => false := by
  unfold resumableCurrent currentStep resumableStep
  cases state.currentStepId with
  | none => rfl
  | some id =>
    by_cases named : id = "" <;> grind

def leftOpen (state : WorkflowState) (ops : List Op) : Bool :=
  match lastMark (stepIds state) ops with
  | some (id, opened) => opened && resumableStep state id
  | none => resumableCurrent state

end Steps

end Troop.Parking
