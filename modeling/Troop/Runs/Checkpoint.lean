import Troop.Python.Json

namespace Troop.Runs

structure WorkflowStep where
  id : String
  title : String
  actor : String
  status : String
  startedAt : Option String
  completedAt : Option String
  resumable : Bool
  attempts : Nat
  lastError : Option String
  metadata : Dict Json
deriving DecidableEq

structure Signal where
  id : Nat
  name : String
  payload : Dict Json
  requestedByUserId : Option String
  status : String
  createdAt : String
  appliedAt : Option String
deriving DecidableEq

structure StepFailure where
  stepId : String
  status : String
  error : String
  at' : String
deriving DecidableEq

/-- `checkpoint_json["durable_workflow_v1"]`; a missing member is its default. -/
structure WorkflowState where
  status : String
  steps : List WorkflowStep
  currentStepId : Option String
  lastCompletedStepId : Option String
  lastFailure : Option StepFailure
  recoveryCount : Nat
  signalQueue : List Signal
  signalHistory : List Signal
  querySnapshot : Dict Json
  artifacts : Dict Json
  updatedAt : String
deriving DecidableEq

/-- The column `checkpoint_json` of a run. -/
structure Checkpoint where
  executionThreadId : Option String
  workflow : WorkflowState
deriving DecidableEq

/-- `error or previous` -/
def errorOr (error previous : Option String) : Option String :=
  match error with
  | some text => if text = "" then previous else some text
  | none => previous

namespace WorkflowStep

def mark (now status : String) (error : Option String) (metadata : Dict Json) (step : WorkflowStep) : WorkflowStep :=
  let updated := { step with status, metadata := step.metadata.update metadata }
  match status with
  | "in_progress" => { updated with startedAt := errorOr step.startedAt (some now), attempts := step.attempts + 1 }
  | "completed" => { updated with completedAt := some now, lastError := none }
  | "failed" | "blocked" => { updated with lastError := errorOr error step.lastError }
  | "pending" => { updated with startedAt := none, completedAt := none, lastError := none }
  | _ => updated

end WorkflowStep

namespace WorkflowState

variable (state : WorkflowState)

/-- `current_step_id` once a step has been marked -/
def currentAfter (stepId status : String) : Option String :=
  if state.steps.any (fun step => step.id = stepId) then
    match status with
    | "in_progress" | "failed" | "blocked" => some stepId
    | "completed" => none
    | _ => state.currentStepId
  else state.currentStepId

def markStep (now stepId status : String) (error : Option String) (metadata : Dict Json) : WorkflowState :=
  let found := state.steps.any fun step => step.id = stepId
  let failed := status = "failed" ∨ status = "blocked"
  { state with
    steps := state.steps.map fun step => if step.id = stepId then step.mark now status error metadata else step
    currentStepId := state.currentAfter stepId status
    lastCompletedStepId := if found ∧ status = "completed" then some stepId else state.lastCompletedStepId
    status
    updatedAt := now
    lastFailure := if failed then some ⟨stepId, status, error.getD "", now⟩ else state.lastFailure
    recoveryCount := if failed then state.recoveryCount + 1 else state.recoveryCount }

def setArtifact (now key : String) (value : Json) : WorkflowState :=
  { state with artifacts := state.artifacts.set key value, updatedAt := now }

def enqueueSignal (now : String) (id : Nat) (name : String) (payload : Dict Json) (userId : Option String) : WorkflowState :=
  let signal : Signal :=
    { id, name, payload, requestedByUserId := userId, status := "queued", createdAt := now, appliedAt := none }
  { state with signalQueue := state.signalQueue ++ [signal], updatedAt := now }

def consumeSignalQueue (now : String) : WorkflowState × List Signal :=
  if state.signalQueue = [] then (state, [])
  else
    let consumed := state.signalQueue.map fun signal => { signal with status := "applied", appliedAt := some now }
    let history := state.signalHistory ++ consumed
    ({ state with signalQueue := [], signalHistory := history.drop (history.length - 50), updatedAt := now }, consumed)

def updateQuerySnapshot (now : String) (data : Dict Json) : WorkflowState :=
  { state with querySnapshot := (state.querySnapshot.update data).set "updated_at" (.str now), updatedAt := now }

/-- `ensure_workflow_state` over a state that is there already -/
def ensure (steps : List WorkflowStep) : WorkflowState :=
  { state with steps := if state.steps = [] then steps else state.steps }

variable {state}

theorem consumeSignalQueue_queue (now : String) : (state.consumeSignalQueue now).1.signalQueue = [] := by
  unfold consumeSignalQueue
  split
  · assumption
  · rfl

end WorkflowState

end Troop.Runs
