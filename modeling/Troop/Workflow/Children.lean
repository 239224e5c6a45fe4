import Troop.Workflow.Nodes
import Troop.Workflow.Environments

namespace Troop.Workflow

/-- The recursive calls of the runtime: `_advance` on a run, and the completion hook. -/
structure Calls where
  advance : String → WorkflowVersion → Arrival → Session PUnit
  onWorkflowRunCompleted : String → RunStatus → Session PUnit

structure ChildUpdate where
  workflowRunId : String
  workflowNodeId : String
  childType : String
  childRunId : Option String
  branchKey : Option String
  status : String
  outputJson : Dict Json

/-- The row `_upsert_child_execution` updates, if there is one. -/
def ChildUpdate.selects (update : ChildUpdate) (row : WorkflowChildExecution) : Bool :=
  row.workflowRunId == update.workflowRunId && row.workflowNodeId == update.workflowNodeId &&
    match update.childRunId, update.branchKey with
    | some child, _ => row.childRunId == some child
    | none, some key => row.branchKey == some key
    | none, none => row.childType == update.childType

def ChildUpdate.onto (update : ChildUpdate) (row : WorkflowChildExecution) : WorkflowChildExecution :=
  { row with
    childType := update.childType, status := update.status,
    childRunId := update.childRunId.or row.childRunId,
    branchKey := update.branchKey.or row.branchKey, outputJson := update.outputJson }

def childRowsClash (a b : WorkflowChildExecution) : Bool :=
  a.id ≠ b.id ∧ a.workflowRunId = b.workflowRunId ∧ a.workflowNodeId = b.workflowNodeId ∧
    ((a.childRunId ≠ none ∧ a.childRunId = b.childRunId) ∨ (a.branchKey ≠ none ∧ a.branchKey = b.branchKey))

def upsertChildExecution (env : Env) (update : ChildUpdate) : Session PUnit := do
  let w ← get
  let store := fun (row : WorkflowChildExecution) (rows : List WorkflowChildExecution) =>
    if w.db.children.any (childRowsClash row) then
      (throw (.raised "IntegrityError") : Session PUnit)
    else modifyDb fun db => { db with children := rows }
  match w.db.children.find? update.selects with
  | some existing =>
    let row := update.onto existing
    store row (w.db.children.map fun other => if other.id = existing.id then row else other)
  | none =>
    let id ← uuid4 env
    let row : WorkflowChildExecution :=
      { id, workflowRunId := update.workflowRunId, workflowNodeId := update.workflowNodeId,
        childType := update.childType, childRunId := update.childRunId, branchKey := update.branchKey,
        status := update.status, outputJson := update.outputJson }
    store row (w.db.children ++ [row])

/-- The memo entry of a node under `vars[key]`: the child started for it. -/
def memoEntry (memo : Dict Json) (nodeId : String) : Option String :=
  if (memo.get nodeId).truthy then some (memo.get nodeId).pyStr else none

/-- `str`s of a list, without the falsy items. -/
def textItems (items : List Json) : List String := (items.filter Json.truthy).map Json.pyStr

def attachSelectedSkill (checkpoint selected : Dict Json) : Except PyError (Dict Json) := do
  let versionId := (selected.get "skill_version_id").strOrEmpty
  if versionId = "" then return checkpoint
  let snapshot ← (checkpoint.get "skill_version_snapshot").toDict
  let versionIds := textItems (← (snapshot.get "skill_version_ids").toList)
  let skills ← (snapshot.get "skills").toList
  let known := versionId ∈ versionIds
  let tools := (← (snapshot.get "required_tools").toList) ++ (← (selected.get "required_tools").toList)
  let capabilities := (← (snapshot.get "capabilities").toList) ++ (← (selected.get "capabilities").toList)
  let updated := (((snapshot.set "skill_version_ids"
    (.arr ((if known then versionIds else versionIds ++ [versionId]).map Json.str))).set "skills"
    (.arr (if known then skills else skills ++ [.obj selected]))).set "required_tools"
    (.arr tools.dedup)).set "capabilities" (.arr capabilities.dedup)
  return checkpoint.set "skill_version_snapshot" (.obj updated)

/-- `TaskRunStarter.start`: it commits the session before it queues the run. -/
def taskRunStarterStart (env : Env) (run : WorkflowRun) (nodeId agentId : String) (inputPayload : Dict Json) :
    Session TaskRun := do
  let w ← get
  let checkpoint ← Prog.ofExcept (env.startTask w.log agentId inputPayload)
  let id ← uuid4 env
  let taskRun : TaskRun := { id, status := .queued, outputPayloadJson := [], checkpointJson := checkpoint }
  modifyDb fun db => { db with taskRuns := db.taskRuns.set id taskRun }
  emit (.taskRunStarted run.id nodeId id)
  commit
  return taskRun

def taskRunOutput (id : String) (taskRun : TaskRun) : Dict Json :=
  [("task_run_id", .str id), ("task_run_status", .str taskRun.status.text)]

def agentUpdate (payload : Dict Json) : Dict Json := (payload.get "structured_output").asObj?.getD payload

def agentHandoff (run : WorkflowRun) (agentId : Json) : Dict Json :=
  [("delegated_to", .str "orchestration"), ("agent_id", agentId), ("project_id", .ofOption run.projectId),
    ("task_id", .ofOption run.taskId)] ++
  if ¬ agentId.truthy then [("reason", .str "agent_id missing from node config")]
  else [("reason", .str "workflow run missing project_id or task_id")]

def hasText (value : Option String) : Bool := value.any (· ≠ "")

structure Track where
  nodeId : String
  branchKey : Option String

def collectTaskRun (env : Env) (run : WorkflowRun) (nodeId : String) (track : Track) (id : String)
    (taskRun : TaskRun) (vars : Dict Json) : Session NodeOutcome := do
  emit (.childUsed run.id track.nodeId nodeId id)
  let payload := taskRun.outputPayloadJson
  if taskRun.status.terminal then
    let output := taskRunOutput id taskRun ++ [("agent_output", .obj payload)]
    onlyIf (taskRun.status = .completed) (emit (.agentMerged run.id track.nodeId id (agentUpdate payload)))
    upsertChildExecution env ⟨run.id, track.nodeId, "task_run", some id, track.branchKey,
      taskRun.status.text, output⟩
    if taskRun.status ≠ .completed then return failed output vars
    else
      return succeeded output
        ((vars.set ("agent_output_" ++ nodeId) (.obj payload)).update (agentUpdate payload))
  else
    upsertChildExecution env ⟨run.id, track.nodeId, "task_run", some id, track.branchKey,
      taskRun.status.text, taskRunOutput id taskRun⟩
    return paused (taskRunOutput id taskRun) vars .paused

/-- The part of `_execute_agent_node` that starts a TaskRun, when the run has what that takes. -/
def startAgentTaskRun (env : Env) (run : WorkflowRun) (config : Dict Json) (nodeId : String) (track : Track)
    (memo vars : Dict Json) : Session NodeOutcome := do
  let agentId := config.get "agent_id"
  if agentId.truthy ∧ hasText run.projectId ∧ hasText run.taskId then
    let w ← get
    if run.createdBy.getD "" ∉ w.db.users then
      return failed [("error", .str "workflow run owner user not found for agent TaskRun")] vars
    else
      let given ← Prog.ofExcept ((config.get "input").pyOr (config.get "input_payload")).toDict
      let base := given.update [("workflow_run_id", .str run.id), ("workflow_node_id", .str track.nodeId),
        ("workflow_context", .obj vars)]
      let inputPayload := match track.branchKey with
        | some key => base.set "workflow_branch_key" (.str key)
        | none => base
      let taskRun ← taskRunStarterStart env run track.nodeId agentId.pyStr inputPayload
      let selected ← Prog.ofExcept (vars.get "skill_payload").toDict
      let checkpoint ← Prog.ofExcept (attachSelectedSkill taskRun.checkpointJson selected)
      modifyDb fun db => { db with taskRuns := db.taskRuns.modify taskRun.id fun row =>
        { row with checkpointJson := checkpoint } }
      emit (.childStarted run.id track.nodeId nodeId taskRun.id)
      upsertChildExecution env ⟨run.id, track.nodeId, "task_run", some taskRun.id, track.branchKey,
        taskRun.status.text, taskRunOutput taskRun.id taskRun⟩
      return paused (taskRunOutput taskRun.id taskRun)
        (vars.set "_agent_runs" (.obj (memo.set nodeId (.str taskRun.id)))) .paused
  else return succeeded (agentHandoff run agentId) vars

def executeAgentNode (env : Env) (run : WorkflowRun) (node : Json) (nodeId : String) (track : Track)
    (vars : Dict Json) : Session NodeOutcome := do
  let config ← Prog.ofExcept (nodeConfig node)
  let memo ← Prog.ofExcept (vars.get "_agent_runs").toDict
  match memoEntry memo nodeId with
  | some existing => do
    let w ← get
    match w.db.taskRuns.get? existing with
    | some taskRun => collectTaskRun env run nodeId track existing taskRun vars
    | none =>
      let forgotten := memo.pop nodeId
      startAgentTaskRun env run config nodeId track forgotten
        (vars.set "_agent_runs" (.obj forgotten))
  | none => startAgentTaskRun env run config nodeId track memo vars

structure NewRun where
  owner : String
  workflowId : String
  projectId : Option String
  taskId : Option String
  input : Dict Json
  testMode : Bool
  versionId : Option String
  environment : String
  parent : Option String

def getDefinition (owner workflowId : String) : Session WorkflowDefinition := do
  let w ← get
  match w.db.definitions.get? workflowId with
  | some definition =>
    if definition.ownerId = owner ∨ definition.isTemplate then return definition
    else raiseValueError "workflow not found"
  | none => raiseValueError "workflow not found"

/-- The version `_create_run_record` resolves: the requested one, the draft of a test run, or the
    environment's. -/
def resolveStartVersion (definition : WorkflowDefinition) (new : NewRun) : Session WorkflowVersion := do
  if hasText new.versionId then
    match ← getVersion new.versionId with
    | some version =>
      if version.workflowId = definition.id then return version
      else raiseValueError "workflow version not found"
    | none => raiseValueError "workflow version not found"
  else if new.testMode then
    match ← getVersion definition.draftVersionId with
    | some version => return version
    | none => raiseValueError "workflow has no draft to test"
  else resolvedGraphForEnvironment definition new.environment

def startContext (new : NewRun) : RunContext :=
  { input := new.input, completed := [], vars := new.input, testMode := new.testMode,
    simulateExternalWrites := new.testMode,
    environment := if new.testMode then none else some new.environment }

def startedRow (id : String) (new : NewRun) (definition : WorkflowDefinition) (version : WorkflowVersion) :
    WorkflowRun :=
  { id, workflowId := definition.id, workflowVersionId := version.id, projectId := new.projectId,
    taskId := new.taskId, status := .running, currentNodeId := version.entryNodeId,
    contextJson := startContext new, resultJson := [], createdBy := some new.owner }

def createRunRecord (env : Env) (new : NewRun) : Session (WorkflowRun × WorkflowVersion) := do
  let definition ← getDefinition new.owner new.workflowId
  let version ← resolveStartVersion definition new
  let errors := validateGraph version.nodesJson version.edgesJson version.entryNodeId
  if errors ≠ [] then throw (.valueErrors errors)
  else
    let id ← uuid4 env
    let run := startedRow id new definition version
    modifyDb fun db => { db with runs := db.runs.set id run }
    emit (.runCreated id new.parent new.testMode)
    return (run, version)

def childRunOutput (id : String) (status : RunStatus) : Dict Json :=
  [("child_run_id", .str id), ("child_status", .str status.text)]

def childRunOutcome (id : String) (status : RunStatus) (vars : Dict Json) : NodeOutcome :=
  if status = .completed then succeeded (childRunOutput id status) vars
  else if status = .failed ∨ status = .cancelled then failed (childRunOutput id status) vars
  else paused (childRunOutput id status) vars .paused

def recordChildRun (env : Env) (run : WorkflowRun) (track : Track) (id : String) (status : RunStatus) :
    Session PUnit :=
  upsertChildExecution env ⟨run.id, track.nodeId, "workflow_run", some id, track.branchKey,
    status.text, childRunOutput id status⟩

def getRun (id : String) : Session WorkflowRun := do
  let w ← get
  match w.db.runs.get? id with
  | some run => return run
  | none => raiseValueError "run not found"

def childRequest (run : WorkflowRun) (workflowId : String) (vars : Dict Json) : NewRun :=
  { owner := run.createdBy.getD "", workflowId := workflowId, projectId := run.projectId,
    taskId := run.taskId, input := vars, testMode := false, versionId := none, environment := "prod",
    parent := some run.id }

/-- The part of `_execute_subworkflow_node` that starts the child run and advances it. -/
def startChildRun (env : Env) (calls : Calls) (run : WorkflowRun) (config : Dict Json) (nodeId : String)
    (track : Track) (memo vars : Dict Json) : Session NodeOutcome := do
  let workflowId := config.get "workflow_id"
  if ¬ workflowId.truthy then
    return failed [("error", .str "subworkflow node missing config.workflow_id")] vars
  else
    let (created, version) ← createRunRecord env (childRequest run workflowId.pyStr vars)
    emit (.childStarted run.id track.nodeId nodeId created.id)
    calls.advance created.id version .start
    let child ← getRun created.id
    recordChildRun env run track created.id child.status
    return childRunOutcome created.id child.status
      (vars.set "_subworkflow_runs" (.obj (memo.set nodeId (.str created.id))))

def executeSubworkflowNode (env : Env) (calls : Calls) (run : WorkflowRun) (node : Json) (nodeId : String)
    (track : Track) (vars : Dict Json) : Session NodeOutcome := do
  let config ← Prog.ofExcept (nodeConfig node)
  let memo ← Prog.ofExcept (vars.get "_subworkflow_runs").toDict
  match memoEntry memo nodeId with
  | some existing => do
    let w ← get
    match w.db.runs.get? existing with
    | some child => do
      emit (.childUsed run.id track.nodeId nodeId existing)
      recordChildRun env run track existing child.status
      return childRunOutcome existing child.status vars
    | none =>
      let forgotten := memo.pop nodeId
      startChildRun env calls run config nodeId track forgotten
        (vars.set "_subworkflow_runs" (.obj forgotten))
  | none => startChildRun env calls run config nodeId track memo vars

end Troop.Workflow
