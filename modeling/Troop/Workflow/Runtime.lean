import Troop.Workflow.Parallel

namespace Troop.Workflow

/-- The local state of one `_advance`: the run as it was loaded, the graph it interprets, and the
    loop's variables. -/
structure Frame where
  run : WorkflowRun
  version : WorkflowVersion
  completed : List String
  vars : Dict Json
  cursor : Option String
  arrival : Arrival
deriving DecidableEq, Inhabited

def Frame.load (run : WorkflowRun) (version : WorkflowVersion) (arrival : Arrival) : Frame :=
  { run, version, completed := run.contextJson.completed, vars := run.contextJson.vars,
    cursor := run.currentNodeId, arrival }

def Frame.nodes (frame : Frame) : Dict Json := nodesById frame.version.nodesJson

def Frame.edges (frame : Frame) : List Json := frame.version.edgesJson.filter isObj

/-- `ctx.update(\{"completed": completed, "vars": vars_})` -/
def Frame.context (frame : Frame) : RunContext :=
  { frame.run.contextJson with completed := frame.completed, vars := frame.vars }

def recordedOutcome (node : Json) (vars : Dict Json) : NodeOutcome :=
  succeeded [("node_type", .str (nodeTypeText node)),
    ("message", .str ("Node type " ++ nodeTypeText node ++ " recorded without dedicated executor"))] vars

def executeNode (env : Env) (calls : Calls) (frame : Frame) (cursor : String) (node : Json) :
    Session NodeOutcome :=
  match nodeType node with
  | some .approval => executeApprovalNode env frame.run node cursor frame.vars
  | some .humanInput => return executeHumanInputNode frame.vars
  | some .condition => Prog.ofExcept (executeConditionNode node frame.vars)
  | some .delay => executeDelayNode env frame.run node cursor frame.vars
  | some .parallel => executeParallelNode env calls frame.run node cursor frame.nodes frame.vars
  | some .router => Prog.ofExcept (executeRouterNode node cursor frame.edges frame.vars)
  | some .trigger => Prog.ofExcept (executeTriggerNode node cursor frame.vars)
  | some .tool => executeToolNode env frame.run node cursor frame.vars
  | some .skill => do
    let w ← get
    Prog.ofExcept (executeSkillNode w.db node frame.vars none)
  | some .agent => executeAgentNode env frame.run node cursor ⟨cursor, none⟩ frame.vars
  | some .subworkflow => executeSubworkflowNode env calls frame.run node cursor ⟨cursor, none⟩ frame.vars
  | none => return recordedOutcome node frame.vars

/-- `_notify_workflow_run_completed_if_terminal`, which lets no exception out. -/
def notifyIfTerminal (calls : Calls) (runId : String) : Session PUnit := do
  let w ← get
  match w.db.runs.get? runId with
  | some run =>
    if run.status.terminal then
      Prog.catching (calls.onWorkflowRunCompleted runId run.status) fun _ => pure ⟨⟩
    else return ⟨⟩
  | none => return ⟨⟩

def pausedRow (frame : Frame) (cursor : String) (status : RunStatus) (row : WorkflowRun) : WorkflowRun :=
  { row with status, currentNodeId := some cursor, contextJson := frame.context }

def pauseRun (frame : Frame) (cursor : String) (status : RunStatus) : Session PUnit :=
  updateRun frame.run.id (pausedRow frame cursor status)

def failedRow (frame : Frame) (result : Dict Json) (row : WorkflowRun) : WorkflowRun :=
  { row with status := .failed, resultJson := result, contextJson := frame.context }

def failRun (calls : Calls) (frame : Frame) (result : Dict Json) : Session PUnit := do
  updateRun frame.run.id (failedRow frame result)
  notifyIfTerminal calls frame.run.id

def completedResult (frame : Frame) : Dict Json :=
  [("completed_nodes", .arr (frame.completed.map Json.str)), ("vars", .obj frame.vars)]

def Frame.follow (frame : Frame) (cursor : String) (vars : Dict Json) : Frame :=
  let (next, rest) := nextNode cursor frame.edges vars
  { frame with completed := frame.completed ++ [cursor], vars := rest, cursor := next,
               arrival := .followed cursor }

def movedRow (frame : Frame) (row : WorkflowRun) : WorkflowRun :=
  if frame.cursor = none then
    { row with currentNodeId := none, status := .completed, resultJson := completedResult frame }
  else { row with currentNodeId := frame.cursor }

/-- One round of the loop of `_advance` at an existing node. `none` when `_advance` returns. -/
def visitNode (env : Env) (calls : Calls) (frame : Frame) (cursor : String) (node : Json) :
    Session (Option Frame) := do
  emit (.stepStarted frame.run.id frame.version cursor frame.arrival frame.vars)
  let outcome ← executeNode env calls frame cursor node
  emit (.stepFinished frame.run.id cursor (nodeTypeText node) outcome.status)
  let reached := { frame with vars := outcome.vars }
  match outcome.pause with
  | some status =>
    pauseRun reached cursor status
    return none
  | none =>
    if outcome.status = .failed then
      failRun calls reached outcome.output
      return none
    else
      let next := frame.follow cursor outcome.vars
      updateRun frame.run.id (movedRow next)
      return some next

def leftRow (frame : Frame) (row : WorkflowRun) : WorkflowRun :=
  if row.status = .running ∧ frame.cursor = none then
    { row with contextJson := frame.context, status := .completed, resultJson := completedResult frame }
  else { row with contextJson := frame.context }

/-- What follows the loop of `_advance`. -/
def leaveLoop (calls : Calls) (frame : Frame) : Session PUnit := do
  updateRun frame.run.id (leftRow frame)
  notifyIfTerminal calls frame.run.id

def missingRow (cursor : String) (row : WorkflowRun) : WorkflowRun :=
  { row with status := .failed, resultJson := [("error", .str ("missing node " ++ cursor))] }

/-- The loop of `_advance` with the steps that are left. -/
def advanceLoop (env : Env) (calls : Calls) : Nat → Frame → Session PUnit
  | 0, frame => do
    onlyIf (hasText frame.cursor) (emit (.stepBudgetExhausted frame.run.id (frame.cursor.getD "")))
    leaveLoop calls frame
  | steps + 1, frame =>
    match frame.cursor with
    | none => leaveLoop calls frame
    | some cursor =>
      if cursor = "" then leaveLoop calls frame
      else
        match frame.nodes.get? cursor with
        | none => do
          updateRun frame.run.id (missingRow cursor)
          leaveLoop calls frame
        | some node => do
          match ← visitNode env calls frame cursor node with
          | some next => advanceLoop env calls steps next
          | none => return ⟨⟩

def maxSteps (version : WorkflowVersion) : Nat := max 1 ((nodesById version.nodesJson).length * 3)

/-- `_advance`, with the number of runs that may still be nested in each other. -/
def advanceWith (env : Env) (hook : String → RunStatus → Session PUnit) :
    Nat → String → WorkflowVersion → Arrival → Session PUnit
  | 0, runId, version, _ => do
    emit (.nestingExceeded runId version.workflowId)
    throw .recursionError
  | depth + 1, runId, version, arrival => do
    let run ← getRun runId
    advanceLoop env ⟨advanceWith env hook depth, hook⟩ (maxSteps version) (Frame.load run version arrival)

structure Resumption where
  approvalRequestId : Option String
  humanInput : Json
  actorUserId : Option String
  approvalGranted : Bool

def Resumption.plain : Resumption := ⟨none, .null, none, false⟩

/-- What `resume_run` puts into the vars, according to the node the run waits at. -/
def grantedResume (env : Env) (run : WorkflowRun) (node : Json) (given : Resumption) (vars : Dict Json) :
    Session (Dict Json) := do
  let approvalId := given.approvalRequestId.getD ""
  if nodeTypeText node = "approval" then
    if approvalId = "" then
      raiseValueError "approval_request_id required — client-asserted approval_granted is not accepted"
    else consumeApprovalForNode env approvalId run run.currentNodeId vars given.actorUserId false
  else if nodeTypeText node = "tool" ∧ (vars.get "pending_tool").truthy then
    if approvalId = "" then
      raiseValueError ("approval_request_id required for pending tool execution — " ++
        "client-asserted approval_granted is not accepted")
    else consumeApprovalForNode env approvalId run run.currentNodeId vars given.actorUserId true
  else if nodeTypeText node = "human_input" then
    match given.humanInput.asObj? with
    | some (entry :: rest) =>
      return (vars.set "human_input" (.obj (entry :: rest))).set "human_input_by" (.ofOption given.actorUserId)
    | _ => raiseValueError "human_input payload required for human_input nodes"
  else if given.approvalGranted then
    raiseValueError "approval_granted is not accepted; submit approval_request_id or human_input"
  else return vars

def checkAccess (owner : String) (definition : WorkflowDefinition) : Session PUnit :=
  if definition.ownerId ≠ owner ∧ ¬ definition.isTemplate then raiseValueError "access denied" else return ⟨⟩

def resumedRow (vars : Dict Json) (row : WorkflowRun) : WorkflowRun :=
  { row with contextJson := { row.contextJson with vars := vars }, status := .running }

def resumeRun (env : Env) (calls : Calls) (owner runId : String) (given : Resumption) : Session PUnit := do
  let run ← getRun runId
  let definition ← getDefinition owner run.workflowId
  checkAccess owner definition
  if ¬ run.status.resumable then
    raiseValueError ("run not resumable from status=" ++ run.status.text)
  else
    match ← getVersion (some run.workflowVersionId) with
    | none => raiseValueError "workflow version missing"
    | some version =>
      let node := (currentNode version.nodesJson run.currentNodeId).getD .null
      let vars ← grantedResume env run node given run.contextJson.vars
      updateRun runId (resumedRow vars)
      calls.advance runId version .resumed
      notifyIfTerminal calls runId
      commit

structure Rejection where
  approvalRequestId : String
  rejectedBy : Json
  reason : String
  onReject : String
  nodeId : Option String

def Rejection.json (rejection : Rejection) : Json :=
  .obj [("approval_request_id", .str rejection.approvalRequestId), ("rejected_by", rejection.rejectedBy),
    ("reason", .str rejection.reason), ("on_reject", .str rejection.onReject),
    ("node_id", .ofOption rejection.nodeId)]

/-- `str(config.get("on_reject") or "fail").lower().replace("-", "_")` -/
def onReject (config : Dict Json) : String :=
  Text.replaceChar '-' '_' (Text.lower ((config.get "on_reject").pyOr (.str "fail")).strOrEmpty)

def rejectionReason (approval : ApprovalRequest) : String :=
  ((((Json.ofOption approval.reason).pyOr (approval.payloadJson.get "rejection_reason")).pyOr
    (approval.payloadJson.get "reason")).pyOr (.str "Approval rejected")).strOrEmpty

def rejectionOf (approvalId : String) (approval : ApprovalRequest) (nodeId : Option String)
    (config : Dict Json) : Rejection :=
  { approvalRequestId := approvalId
    rejectedBy := (Json.ofOption approval.approvedByUserId).pyOr (approval.payloadJson.get "rejected_by")
    reason := rejectionReason approval
    onReject := onReject config
    nodeId := nodeId }

def rejectedVars (rejection : Rejection) (vars : Dict Json) : Dict Json :=
  ((((vars.set "approval_rejection" rejection.json).pop "pending_approval_request_id").pop
    "pending_tool").pop "approval_granted").pop "approval_request_id"

def rejectedPayload (env : Env) (payload : Dict Json) (reason : String) (now : Int) : Dict Json :=
  if (payload.get "_rejected_at").truthy ∨ (payload.get "rejected_at").truthy then payload
  else ((payload.set "_rejected_at" (.str (env.isoformat now))).set "rejected_at"
    (.str (env.isoformat now))).set "rejection_reason" (.str reason)

def rejectRoute (config : Dict Json) : String :=
  ((config.get "reject_route").pyOr (config.get "route_to")).strOrEmpty

/-- What the node's `on_reject` does with the run. -/
inductive Continuation where
  | requestChanges
  | routeTo (target : String)
  | finish (status : RunStatus)
deriving DecidableEq, Repr

def continuationOf (config : Dict Json) : Continuation :=
  if onReject config = "request_changes" then .requestChanges
  else if onReject config = "route_to" ∧ rejectRoute config ≠ "" then .routeTo (rejectRoute config)
  else if onReject config = "cancel" then .finish .cancelled
  else .finish .failed

def rejectedRow (continuation : Continuation) (rejection : Rejection) (vars : Dict Json)
    (run : WorkflowRun) : WorkflowRun :=
  let kept : RunContext := { run.contextJson with vars := vars }
  let noted := Dict.update run.resultJson [("approval_rejection", rejection.json)]
  match continuation with
  | .requestChanges =>
    { run with status := .waitingInput, currentNodeId := some (run.currentNodeId.getD ""),
               contextJson := { kept with vars := vars.set "request_changes" rejection.json },
               resultJson := noted }
  | .routeTo target =>
    let passed := run.contextJson.completed
    let current := run.currentNodeId.getD ""
    { run with status := .running, currentNodeId := some target, resultJson := noted,
               contextJson := { kept with completed :=
                 if current ≠ "" ∧ current ∉ passed then passed ++ [current] else passed } }
  | .finish status =>
    { run with status, contextJson := kept,
               resultJson := Dict.update run.resultJson
                 [("error", .str rejection.reason), ("approval_rejection", rejection.json)] }

def rejectedApproval (id : String) : Session ApprovalRequest := do
  let w ← get
  match w.db.approvals.get? id with
  | some approval =>
    if approval.status = .rejected then return approval
    else raiseValueError "approval_request_id must reference a rejected ApprovalRequest"
  | none => raiseValueError "approval_request_id must reference a rejected ApprovalRequest"

def applyApprovalRejection (env : Env) (calls : Calls) (owner runId approvalId : String) :
    Session PUnit := do
  let run ← getRun runId
  let definition ← getDefinition owner run.workflowId
  checkAccess owner definition
  if run.status ≠ .waitingApproval then
    raiseValueError ("run not waiting_approval (status=" ++ run.status.text ++ ")")
  else
    let approval ← rejectedApproval approvalId
    match ← getVersion (some run.workflowVersionId) with
    | none => raiseValueError "workflow version missing"
    | some version =>
      let node := (currentNode version.nodesJson run.currentNodeId).getD .null
      let config ← Prog.ofExcept (nodeConfig node)
      let rejection := rejectionOf approvalId approval run.currentNodeId config
      let w ← get
      let stamped := { approval with
        payloadJson := rejectedPayload env approval.payloadJson rejection.reason w.now }
      modifyDb fun db => { db with approvals := db.approvals.set approvalId stamped }
      updateRun runId (rejectedRow (continuationOf config) rejection
        (rejectedVars rejection run.contextJson.vars))
      emit (.rejectionApplied runId run.currentNodeId approval)
      match continuationOf config with
      | .requestChanges => commit
      | .routeTo _ =>
        calls.advance runId version (.rejected (run.currentNodeId.getD ""))
        notifyIfTerminal calls runId
        commit
      | .finish _ =>
        notifyIfTerminal calls runId
        commit

/-- `except Exception: logger.exception(..)` -/
def logged (program : Session PUnit) : Session PUnit := Prog.catching program fun _ => pure ⟨⟩

def resumeWorkflow (env : Env) (calls : Calls) (run : WorkflowRun) (approvalRequestId : Option String) :
    Session PUnit :=
  if hasText run.createdBy then
    logged (resumeRun env calls (run.createdBy.getD "") run.id
      { Resumption.plain with approvalRequestId := approvalRequestId })
  else return ⟨⟩

def rejectWorkflow (env : Env) (calls : Calls) (run : WorkflowRun) (approvalRequestId : String) :
    Session PUnit :=
  if hasText run.createdBy then
    logged (applyApprovalRejection env calls (run.createdBy.getD "") run.id approvalRequestId)
  else return ⟨⟩

structure ChildKind where
  childType : String
  statusKey : String
  memoKey : String

def ChildKind.taskRun : ChildKind := ⟨"task_run", "task_run_status", "_agent_runs"⟩

def ChildKind.workflowRun : ChildKind := ⟨"workflow_run", "child_status", "_subworkflow_runs"⟩

def ChildKind.selects (kind : ChildKind) (childId : String) (row : WorkflowChildExecution) : Bool :=
  row.childType = kind.childType ∧ row.childRunId = some childId

def ChildKind.settle (kind : ChildKind) (childId status : String) (row : WorkflowChildExecution) :
    WorkflowChildExecution :=
  if kind.selects childId row then
    { row with status, outputJson := row.outputJson.set kind.statusKey (.str status) }
  else row

def resumeIfWaiting (env : Env) (calls : Calls) (runId : String) : Session PUnit := do
  let w ← get
  match w.db.runs.get? runId with
  | some run => if run.status.resumable then resumeWorkflow env calls run none else return ⟨⟩
  | none => return ⟨⟩

def resumeIfNamed (env : Env) (calls : Calls) (kind : ChildKind) (childId runId : String) :
    Session PUnit := do
  let run ← getRun runId
  let memo ← Prog.ofExcept (run.contextJson.vars.get kind.memoKey).toDict
  if childId ∈ memo.values.map Json.pyStr then resumeWorkflow env calls run none else return ⟨⟩

def resumableIds (db : Db) : List String := Dict.keys (db.runs.filter fun entry => entry.2.status.resumable)

/-- `on_task_run_terminal` and `on_workflow_run_completed`, for a terminal status. -/
def onChildTerminal (env : Env) (calls : Calls) (kind : ChildKind) (childId status : String) :
    Session PUnit := do
  let w ← get
  let rows := w.db.children.filter (kind.selects childId)
  if rows.isEmpty then
    (resumableIds w.db).forM (resumeIfNamed env calls kind childId)
  else
    modifyDb fun db => { db with children := db.children.map (kind.settle childId status) }
    (env.setOrder (rows.map WorkflowChildExecution.workflowRunId).dedup).forM (resumeIfWaiting env calls)

/-- `on_workflow_run_completed`, with the number of hooks that may still be nested in each other. -/
def onWorkflowRunCompletedWith (env : Env) : Nat → String → RunStatus → Session PUnit
  | 0, _, _ => throw .recursionError
  | depth + 1, runId, status =>
    let hook := onWorkflowRunCompletedWith env depth
    if status.terminal then
      onChildTerminal env ⟨advanceWith env hook env.nesting, hook⟩ .workflowRun runId status.text
    else return ⟨⟩

def hook (env : Env) : String → RunStatus → Session PUnit := onWorkflowRunCompletedWith env env.hookDepth

def service (env : Env) : Calls := ⟨advanceWith env (hook env) env.nesting, hook env⟩

/-- `on_task_run_terminal`. Without a status the hook reads the row's. -/
def onTaskRunTerminal (env : Env) (taskRunId : String) (status : Option TaskStatus) : Session PUnit := do
  let w ← get
  match status.or ((w.db.taskRuns.get? taskRunId).map TaskRun.status) with
  | some resolved =>
    if resolved.terminal then onChildTerminal env (service env) .taskRun taskRunId resolved.text
    else return ⟨⟩
  | none => return ⟨⟩

def awaits (approvalId : String) (run : WorkflowRun) : Except PyError Bool := do
  let pending ← (run.contextJson.vars.get "pending_tool").toDict
  return (run.contextJson.vars.get "pending_approval_request_id").strOrEmpty = approvalId ||
    pending.get "approval_request_id" = .str approvalId

def filterRuns (test : WorkflowRun → Except PyError Bool) : List WorkflowRun → Except PyError (List WorkflowRun)
  | [] => .ok []
  | run :: rest => do
    let chosen ← test run
    let others ← filterRuns test rest
    return if chosen then run :: others else others

def decisionTargets (db : Db) (approval : ApprovalRequest) : Except PyError (List WorkflowRun) :=
  let named := approval.payloadJson.get "workflow_run_id"
  if named.truthy then
    .ok ((db.runs.get? named.pyStr).toList.filter fun run => run.status.resumable)
  else
    filterRuns (awaits approval.id) (db.runs.values.filter fun run => run.status = .waitingApproval)

def onApprovalDecided (env : Env) (approvalId : String) : Session PUnit := do
  let w ← get
  match w.db.approvals.get? approvalId with
  | some approval =>
    if approval.status = .approved then
      let targets ← Prog.ofExcept (decisionTargets w.db approval)
      targets.forM fun run => resumeWorkflow env (service env) run (some approvalId)
    else if approval.status = .rejected then
      let targets ← Prog.ofExcept (decisionTargets w.db approval)
      targets.forM fun run => rejectWorkflow env (service env) run approvalId
    else return ⟨⟩
  | none => return ⟨⟩

/-- The worker's `resume_workflow_after_delay`. -/
def resumeWorkflowAfterDelay (env : Env) (runId nodeId owner : String) (expectedResumeAt : Option String) :
    Session PUnit := do
  let w ← get
  match w.db.runs.get? runId with
  | some run =>
    if run.status ≠ .paused ∨ run.currentNodeId ≠ some nodeId then return ⟨⟩
    else
      let delayState ← Prog.ofExcept (run.contextJson.vars.get "_delay_resume").toDict
      if delayState.get "node_id" ≠ .str nodeId then return ⟨⟩
      else if hasText expectedResumeAt ∧ delayState.get "resume_at" ≠ .ofOption expectedResumeAt then
        return ⟨⟩
      else resumeRun env (service env) owner runId Resumption.plain
  | none => return ⟨⟩

/-- `start_run` and `start_test_run` -/
def startRun (env : Env) (new : NewRun) : Session String := do
  let (run, version) ← createRunRecord env new
  (service env).advance run.id version .start
  notifyIfTerminal (service env) run.id
  commit
  return run.id

end Troop.Workflow
