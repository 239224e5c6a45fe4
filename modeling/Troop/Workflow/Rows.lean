import Troop.Python.Json
import Troop.Session.Logic

namespace Troop.Workflow

inductive RunStatus where
  | running | completed | failed | cancelled | paused | waitingApproval | waitingInput
deriving DecidableEq, Repr, Inhabited

def RunStatus.text : RunStatus → String
  | .running => "running"
  | .completed => "completed"
  | .failed => "failed"
  | .cancelled => "cancelled"
  | .paused => "paused"
  | .waitingApproval => "waiting_approval"
  | .waitingInput => "waiting_input"

/-- `_RUN_TERMINAL` -/
def RunStatus.terminal (status : RunStatus) : Bool :=
  status = .completed ∨ status = .failed ∨ status = .cancelled

/-- `_RESUMABLE`, the statuses `resume_run` accepts -/
def RunStatus.resumable (status : RunStatus) : Bool :=
  status = .paused ∨ status = .waitingApproval ∨ status = .waitingInput

inductive TaskStatus where
  | queued | inProgress | blocked | completed | failed | cancelled
deriving DecidableEq, Repr, Inhabited

def TaskStatus.text : TaskStatus → String
  | .queued => "queued"
  | .inProgress => "in_progress"
  | .blocked => "blocked"
  | .completed => "completed"
  | .failed => "failed"
  | .cancelled => "cancelled"

/-- `_TASK_RUN_TERMINAL` -/
def TaskStatus.terminal (status : TaskStatus) : Bool :=
  status = .completed ∨ status = .failed ∨ status = .cancelled

inductive ApprovalStatus where
  | pending | approved | rejected | stale | invalidated
deriving DecidableEq, Repr, Inhabited

inductive StepStatus where
  | succeeded | failed | paused
deriving DecidableEq, Repr, Inhabited

structure WorkflowDefinition where
  id : String
  ownerId : String
  isTemplate : Bool
  draftVersionId : Option String
  publishedVersionId : Option String
deriving DecidableEq, Inhabited

structure WorkflowVersion where
  id : String
  workflowId : String
  nodesJson : List Json
  edgesJson : List Json
  entryNodeId : Option String
  isPublished : Bool
deriving DecidableEq, Inhabited

structure WorkflowEnvironmentDeployment where
  workflowId : String
  environment : String
  workflowVersionId : String
  connectionBindingsJson : Dict Json
deriving DecidableEq, Inhabited

/-- The dict `run.context_json`. Only the runtime writes it, so its keys are fields here. -/
structure RunContext where
  input : Dict Json
  completed : List String
  vars : Dict Json
  testMode : Bool
  simulateExternalWrites : Bool
  environment : Option String
deriving DecidableEq, Inhabited

structure WorkflowRun where
  id : String
  workflowId : String
  workflowVersionId : String
  projectId : Option String
  taskId : Option String
  status : RunStatus
  currentNodeId : Option String
  contextJson : RunContext
  resultJson : Dict Json
  createdBy : Option String
deriving DecidableEq, Inhabited

structure WorkflowChildExecution where
  id : String
  workflowRunId : String
  workflowNodeId : String
  childType : String
  childRunId : Option String
  branchKey : Option String
  status : String
  outputJson : Dict Json
deriving DecidableEq, Inhabited

structure ApprovalRequest where
  id : String
  projectId : Option String
  taskId : Option String
  requestedByUserId : Option String
  approvedByUserId : Option String
  approvalType : String
  status : ApprovalStatus
  reason : Option String
  payloadJson : Dict Json
  effectHash : Option String
deriving DecidableEq, Inhabited

structure TaskRun where
  id : String
  status : TaskStatus
  outputPayloadJson : Dict Json
  checkpointJson : Dict Json
deriving DecidableEq, Inhabited

structure Skill where
  id : String
  currentVersionId : Option String
deriving DecidableEq, Inhabited

structure SkillVersion where
  id : String
  skillId : String
  versionNumber : Int
  isPublished : Bool
  instructionsMarkdown : String
  requiredToolsJson : List Json
  capabilitiesJson : List Json
deriving DecidableEq, Inhabited

/-- How the cursor came to a node: at the start of a run, by re-entering the node a run was paused
    at, by `_next_node`, or by the `route_to` continuation of a rejection. -/
inductive Arrival where
  | start
  | resumed
  | followed (source : String)
  | rejected (source : String)
deriving DecidableEq, Repr, Inhabited

/-- What the runtime did, in the order it did it. `stepStarted` and `stepFinished` are the
    `WorkflowStepRun` rows; the others record calls that cross the runtime's border or move a
    run. -/
inductive Event where
  | runCreated (run : String) (parent : Option String) (testMode : Bool)
  | stepStarted (run : String) (version : WorkflowVersion) (nodeId : String) (arrival : Arrival)
      (vars : Dict Json)
  | stepFinished (run nodeId nodeType : String) (status : StepStatus)
  | approvalConsumed (run nodeId : String) (approval : ApprovalRequest)
      (tool : Option (String × Dict Json))
  | approvalRequested (run nodeId approvalId : String)
  | rejectionApplied (run : String) (nodeId : Option String) (approval : ApprovalRequest)
  | toolExecuted (run nodeId owner toolSlug : String) (params context : Dict Json)
  | taskRunStarted (run nodeId taskRunId : String)
  | agentMerged (run nodeId taskRunId : String) (merged : Dict Json)
  | childStarted (run nodeId key childId : String)
  | childUsed (run nodeId key childId : String)
  | branchStarted (run nodeId key : String)
  | branchReused (run nodeId key : String)
  | delayScheduled (run nodeId resumeAt : String)
  | stepBudgetExhausted (run nodeId : String)
  | nestingExceeded (run workflowId : String)
deriving DecidableEq, Inhabited

def Event.run : Event → String
  | .runCreated run .. => run
  | .stepStarted run .. => run
  | .stepFinished run .. => run
  | .approvalConsumed run .. => run
  | .approvalRequested run .. => run
  | .rejectionApplied run .. => run
  | .toolExecuted run .. => run
  | .taskRunStarted run .. => run
  | .agentMerged run .. => run
  | .childStarted run .. => run
  | .childUsed run .. => run
  | .branchStarted run .. => run
  | .branchReused run .. => run
  | .delayScheduled run .. => run
  | .stepBudgetExhausted run .. => run
  | .nestingExceeded run .. => run

/-- The tables the workflow runtime reads and writes, with the history of the steps that produced
    them (newest first). A rollback takes the history back with the rows. -/
structure Db where
  users : List String := []
  definitions : Dict WorkflowDefinition := []
  versions : Dict WorkflowVersion := []
  deployments : List WorkflowEnvironmentDeployment := []
  skills : Dict Skill := []
  skillVersions : List SkillVersion := []
  runs : Dict WorkflowRun := []
  children : List WorkflowChildExecution := []
  approvals : Dict ApprovalRequest := []
  taskRuns : Dict TaskRun := []
  history : List Event := []
deriving DecidableEq, Inhabited

/-- One database session. `db` is what the session sees, `committed` what a rollback returns to;
    `log` keeps every event, rolled back or not, since an effect outside the database stays done. -/
structure World where
  db : Db := {}
  committed : Db := {}
  log : List Event := []
  drawn : Nat := 0
  now : Int := 0
deriving DecidableEq, Inhabited

abbrev Session := Prog World PyError

structure ToolCall where
  owner : String
  toolSlug : String
  params : Dict Json
  context : Dict Json
deriving DecidableEq, Inhabited

/-- What the runtime calls and does not define: other services, hashing, clocks and identifiers.
    `nesting` and `hookDepth` are the interpreter's recursion limit, for runs started inside runs and
    for completion hooks. -/
structure Env where
  uuid4 : Nat → String
  uuid4_injective : Function.Injective uuid4
  isoformat : Int → String
  fromisoformat : String → Option Int
  argumentsHash : Dict Json → String
  /-- `build_proposed_effect`: the normalized effect and its hash -/
  proposedEffect : String → Dict Json → Dict Json × String
  isExternalMutatingTool : String → Bool
  /-- `ToolExecutionService.execute`, as its answer to the call made after a given log -/
  executeTool : List Event → ToolCall → Except PyError (Dict Json)
  /-- `TaskRunStarter.start`: the checkpoint of the new run, or what it raises before creating it -/
  startTask : List Event → String → Dict Json → Except PyError (Dict Json)
  /-- the order in which a Python set of these strings is iterated -/
  setOrder : List String → List String
  setOrder_perm : ∀ ids, (setOrder ids).Perm ids
  nesting : Nat
  hookDepth : Nat

def emit (event : Event) : Session PUnit :=
  modify fun w => { w with log := event :: w.log, db := { w.db with history := event :: w.db.history } }

def commit : Session PUnit := modify fun w => { w with committed := w.db }

def modifyDb (change : Db → Db) : Session PUnit := modify fun w => { w with db := change w.db }

theorem modifyDb_exec (change : Db → Db) (w : World) :
    (modifyDb change).exec w = (.ok ⟨⟩, { w with db := change w.db }) := rfl

def uuid4 (env : Env) : Session String := do
  let w ← get
  modify fun w => { w with drawn := w.drawn + 1 }
  return env.uuid4 w.drawn

def updateRun (id : String) (change : WorkflowRun → WorkflowRun) : Session PUnit :=
  modifyDb fun db => { db with runs := db.runs.modify id change }

/-- An `if` without an `else`. -/
def onlyIf (condition : Prop) [Decidable condition] (program : Session PUnit) : Session PUnit :=
  if condition then program else return ⟨⟩

def raiseValueError {α : Type} (message : String) : Session α := throw (.valueError message)

end Troop.Workflow
