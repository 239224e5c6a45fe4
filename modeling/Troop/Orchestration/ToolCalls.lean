import Troop.Python.Json
import Troop.Session.Logic
import Troop.Tools.Catalog

namespace Troop.Orchestration

open Tools

inductive ApprovalStatus where
  | pending | approved | rejected | stale | invalidated
deriving DecidableEq, Repr, Inhabited

structure ApprovalRequest where
  id : String
  projectId : Option String
  taskId : Option String
  runId : Option String
  issueLinkId : Option String
  requestedByUserId : Option String
  approvedByUserId : Option String
  approvalType : String
  status : ApprovalStatus
  payloadJson : Dict Json
deriving DecidableEq, Inhabited

structure OrchestratorProject where
  id : String
  ownerId : String
  companyId : Option String
  departmentId : Option String
  executionSettings : Dict Json
  secretScope : String
deriving DecidableEq, Inhabited

structure OrchestratorTask where
  id : String
  githubIssueLinkId : Option String
  reviewerAgentId : Option String
deriving DecidableEq, Inhabited

structure TaskRun where
  id : String
  projectId : Option String
  triggeredByUserId : Option String
  agentId : Option String
  orchestratorAgentId : Option String
  requiredTools : List String
  skillVersionIds : List String
deriving DecidableEq, Inhabited

structure AgentProfile where
  modelPolicyJson : Dict Json
deriving DecidableEq, Inhabited

structure Setting where
  project : OrchestratorProject
  task : Option OrchestratorTask
  run : TaskRun
  agent : Option AgentProfile
  /-- `effective_allowed` -/
  allowed : List String
deriving DecidableEq, Inhabited

inductive Stop where
  | blocked (message : String)
  | toolError (message : String)
  | raised (message : String)
deriving DecidableEq, Repr

/-- What happened, newest first: an approval was requested, a grant was consumed for a call with these arguments,
    a call reached its tool. -/
inductive Event where
  | requested (approval : ApprovalRequest)
  | granted (approval : ApprovalRequest) (arguments : Json)
  | dispatched (toolName : String) (arguments context : Dict Json)
deriving DecidableEq

/-- The approvals as the session sees them, oldest first, and as they are committed. -/
structure Desk where
  approvals : List ApprovalRequest := []
  committed : List ApprovalRequest := []
  drawn : Nat := 0
  log : List Event := []
deriving DecidableEq

structure Authorization where
  permitted : Bool
  decision : Json
  matchedScope : Json
deriving DecidableEq

structure Services where
  uuid4 : Nat → String
  now : String
  now_ne : now ≠ ""
  argumentsHash : Dict Json → String
  /-- `AgentProfile.allowed_tools_json` of an agent -/
  declaredTools : String → List String
  /-- `ToolRegistryService.authorize_tool`, or the text of what it raises -/
  authorizeTool : String → String → Dict Json → Except String Authorization
  /-- the tool's own work, as the normalized result or the text of what it raises -/
  runTool : String → Dict Json → Dict Json → Except String (Dict Json)
  policyFailOpen : Bool

abbrev Work := Prog Desk Stop

def Desk.record (w : Desk) (event : Event) : Desk := { w with log := event :: w.log }

def Desk.stamped (w : Desk) (id : String) (entries : Dict Json) : Desk :=
  { w with approvals := w.approvals.map fun row =>
      if row.id = id then { row with payloadJson := row.payloadJson.update entries } else row }

def Desk.add (w : Desk) (approval : ApprovalRequest) : Desk :=
  { w with approvals := w.approvals ++ [approval], drawn := w.drawn + 1 }

def emit (event : Event) : Work PUnit := modify (·.record event)

def stamp (id : String) (entries : Dict Json) : Work PUnit := modify (·.stamped id entries)

def commit : Work PUnit := modify fun w => { w with committed := w.approvals }

/-- `try: ... except`, as a value. -/
def attempt {α : Type} (program : Work α) : Work (Except Stop α) :=
  Prog.catching (do return .ok (← program)) fun stop => return .error stop

section Policies

def mandatoryApprovalGates : List String :=
  ["post_to_github", "open_pr", "mark_complete", "change_task_ownership", "write_memory", "use_expensive_model",
    "run_tool"]

def normalizeAutonomyLevel (value : Json) : String :=
  let candidate := Text.lower (Text.strip (value.pyOr (.str "assisted")).pyStr)
  if candidate = "autonomous" then "autonomous"
  else if candidate ∈ ["semi-autonomous", "semi_autonomous", "supervised"] then "semi-autonomous"
  else "assisted"

def normalizeApprovalGates (value : Json) : List String :=
  let selected := match value with
    | .arr items => items.map fun (item : Json) => Text.strip item.pyStr
    | _ => mandatoryApprovalGates
  mandatoryApprovalGates.filter fun gate => gate ∈ selected ∨ gate ∈ mandatoryApprovalGates

def actionRequiresApproval (settings : Dict Json) (action : String) : Bool :=
  if action ∈ mandatoryApprovalGates then true
  else if normalizeAutonomyLevel (settings.get "autonomy_level") = "autonomous" then false
  else action ∈ normalizeApprovalGates (settings.get "approval_gates")

def toolMinPermission : List (String × String) :=
  [("fs_read", "read-only"), ("repo_search", "read-only"), ("knowledge_search", "read-only"),
    ("web_fetch", "read-only"), ("web_search", "read-only"), ("github_comment", "comment-only"),
    ("github_label_issue", "code-write"), ("github_create_pr", "code-write"), ("fs_write", "code-write"),
    ("code_execute", "code-write"), ("db_query", "code-write")]

def permissionRank (permission : String) : Option Nat :=
  Dict.get? [("read-only", 1), ("comment-only", 2), ("code-write", 3), ("merge-blocked", 3)] permission

def mergeBlockedTools : List String := ["github_create_pr", "github_label_issue"]

/-- `_tool_allowed_for_agent_permissions`, as the message of what it raises -/
def agentPermissionError (toolName : String) (agent : Option AgentProfile) : Option String := do
  let agent ← agent
  let given := agent.modelPolicyJson.get "permissions"
  let level := match given with
    | .obj _ => ((given.get toolName).pyOr (given.get "default")).pyOr (given.get "level")
    | other => other
  let named := (level.pyOr (.str "read-only")).pyStr
  let permission := if (permissionRank named).isSome then named else "read-only"
  if permission = "merge-blocked" ∧ toolName ∈ mergeBlockedTools then
    some ("Tool '" ++ toolName ++ "' is blocked for merge-blocked agents (no PR/label mutations).")
  else
    let need := (Dict.get? toolMinPermission toolName).getD "code-write"
    if (permissionRank permission).getD 3 < (permissionRank need).getD 3 then
      some ("Tool '" ++ toolName ++ "' requires permission at least '" ++ need ++ "' (agent is '" ++ permission ++
        "').")
    else none

def externalTools : List String :=
  ["github_comment", "github_label_issue", "github_create_pr", "web_fetch", "web_search"]

def secretScopeError (secretScope toolName : String) : Option String :=
  if secretScope = "deny_external" ∧ toolName ∈ externalTools then
    some ("Tool '" ++ toolName ++ "' blocked by secret scope policy (" ++ secretScope ++ ").")
  else none

def allowedToolsError (allowed : List String) (toolName : String) : Option String :=
  if allowed ≠ [] ∧ toolName ∉ allowed then some ("Tool '" ++ toolName ++ "' is not allowed for this agent")
  else none

end Policies

section Approvals

variable (svc : Services) (s : Setting)

def ApprovalRequest.get (approval : ApprovalRequest) (key : String) : Json := approval.payloadJson.get key

/-- A row `_consume_hitl_grant` accepts. -/
def isGrantFor (run : TaskRun) (approvalType : String) (expected : Dict Json) (row : ApprovalRequest) : Bool :=
  row.runId = some run.id ∧ row.status = .approved ∧ row.approvalType = approvalType ∧
    ¬ (row.get "_consumed_at").truthy ∧ expected.all fun entry => row.get entry.1 = entry.2

/-- `_consume_hitl_grant`, with the row it consumes -/
def consumeHitlGrant (run : TaskRun) (approvalType : String) (expected : Dict Json) :
    Work (Option ApprovalRequest) := do
  let w ← get
  match w.approvals.find? (isGrantFor run approvalType expected) with
  | none => return none
  | some approval =>
    stamp approval.id [("_consumed_at", .str svc.now)]
    return some approval

def addApproval (approval : ApprovalRequest) : Work String := do
  modify (·.add approval)
  emit (.requested approval)
  return approval.id

/-- `create_approval` for the run and its task; the caller commits. -/
def createApproval (projectId : Option String) (issueLinkId : Option String) (approvalType : String)
    (payload : Dict Json) : Work String := do
  let w ← get
  addApproval
    { id := svc.uuid4 w.drawn, projectId, taskId := s.task.map (·.id), runId := some s.run.id, issueLinkId,
      requestedByUserId := s.run.triggeredByUserId, approvedByUserId := none, approvalType, status := .pending,
      payloadJson := payload }

def escalateBlocker (reason : String) (metadata : Dict Json) : Work PUnit := do
  let agent : Option String := s.task.bind fun task => s.run.orchestratorAgentId.or task.reviewerAgentId
  let _ ← createApproval svc s s.run.projectId none "task_escalation"
    [("reason", .str reason), ("escalate_to_agent_id", .ofOption agent), ("metadata", .obj metadata)]
  commit

/-- The filters of `consume_or_check_tool_approval` on one approved row. -/
def isToolApproval (toolName argumentsHash : String) (requireHash : Bool) (row : ApprovalRequest) : Bool :=
  let unspent := ¬ (row.get "_consumed_at").truthy ∧ ¬ (row.get "consumed_at").truthy
  let payloadOwner := ((row.get "owner_id").pyOr
    ((Json.ofOption row.requestedByUserId).pyOr (Json.ofOption row.approvedByUserId))).strOrEmpty
  let requester := row.requestedByUserId.getD ""
  let foreign := payloadOwner ≠ "" ∧ payloadOwner ≠ s.project.ownerId ∧
    requester ∉ ["", s.project.ownerId] ∧ row.projectId.getD "" = ""
  let action := (((row.get "action_key").pyOr (row.get "action")).pyOr ((row.get "tool").pyOr
    (.str row.approvalType))).strOrEmpty
  let exactTools := [toolName, "tool:" ++ toolName, "execute:" ++ toolName, "tool_execution:" ++ toolName]
  let otherTask := (s.task.map (·.id)).getD "" ≠ "" ∧ row.taskId.getD "" ≠ "" ∧ row.taskId ≠ s.task.map (·.id)
  let otherAgent := s.run.agentId.getD "" ≠ "" ∧ (row.get "agent_id").truthy ∧
    (row.get "agent_id").pyStr ≠ s.run.agentId.getD ""
  let grantHash := Text.strip (row.get "arguments_hash").strOrEmpty
  let matched := if requireHash then grantHash ≠ "" ∧ grantHash = argumentsHash
    else grantHash = "" ∨ grantHash = argumentsHash
  unspent ∧ ¬ foreign ∧ (action ∈ exactTools ∨ row.approvalType ∈ exactTools) ∧ ¬ otherTask ∧ ¬ otherAgent ∧ matched

def approvedRows (approvals : List ApprovalRequest) : List ApprovalRequest :=
  (approvals.reverse.filter fun row => row.status = .approved ∧
    (s.project.id = "" ∨ row.projectId = some s.project.id) ∧ (s.run.id = "" ∨ row.runId = some s.run.id)).take 50

def toolApproval (toolName argumentsHash : String) (requireHash : Bool) (approvals : List ApprovalRequest) :
    Option ApprovalRequest :=
  (approvedRows s approvals).find? (isToolApproval s toolName argumentsHash requireHash)

def consumption (toolName argumentsHash : String) : Dict Json :=
  [("_consumed_at", .str svc.now), ("consumed_at", .str svc.now), ("consumed_for_tool", .str toolName),
    ("consumed_arguments_hash", .str argumentsHash)]

def consumeOrCheckToolApproval (toolName argumentsHash : String) (consume requireHash : Bool) : Work Bool := do
  let w ← get
  match toolApproval s toolName argumentsHash requireHash w.approvals with
  | none => return false
  | some row =>
    if consume then
      stamp row.id (consumption svc toolName argumentsHash)
    return true

end Approvals

section Toolbox

variable (svc : Services) (s : Setting)

/-- The context `build_tool_execution_context` returns, with its answer on the approval. -/
def toolContext (arguments : Dict Json) (granted : Bool) : Dict Json :=
  [("owner_id", .str s.project.ownerId), ("project_id", .str s.project.id),
    ("task_id", .ofOption (s.task.map (·.id))), ("company_id", .ofOption s.project.companyId),
    ("department_id", .ofOption s.project.departmentId), ("agent_id", .ofOption s.run.agentId),
    ("run_id", .str s.run.id),
    ("allowed_tools", .arr ((((s.run.agentId.map svc.declaredTools).getD []).filter (· ≠ "")).map .str)),
    ("skill_required_tools", .arr (s.run.requiredTools.map .str)),
    ("skill_version_ids", .arr (s.run.skillVersionIds.map .str)),
    ("arguments_hash", .str (svc.argumentsHash arguments)), ("approval_granted", .bool granted)]

def buildToolExecutionContext (toolName : String) (arguments : Dict Json) (consume requireHash : Bool) :
    Work (Dict Json) := do
  let granted ← consumeOrCheckToolApproval svc s toolName (svc.argumentsHash arguments) consume requireHash
  return toolContext svc s arguments granted

def scopeText (authorization : Authorization) (otherwise : String) : String :=
  (authorization.matchedScope.pyOr (.str otherwise)).pyStr

/-- The authorization of `OrchestrationToolbox.execute`; a run asks for the grant itself. -/
def authorizeCall (toolName : String) (arguments context : Dict Json) : Work (Dict Json) := do
  match svc.authorizeTool s.project.ownerId toolName context with
  | .error error =>
    if svc.policyFailOpen ∧ isLowRiskTool toolName then return context
    else throw (.toolError ("Tool `" ++ toolName ++ "` authorization failed closed: " ++ error))
  | .ok authorization =>
    if ¬ authorization.permitted then
      throw (.toolError ("Tool `" ++ toolName ++ "` is not permitted for this agent/context (" ++
        scopeText authorization "allowlist/grants" ++ ")"))
    else if authorization.decision = .str "prohibited" then
      throw (.toolError ("Tool `" ++ toolName ++ "` is prohibited by action policy (" ++
        scopeText authorization "policy" ++ ")"))
    else if authorization.decision = .str "approval_required" then
      let granted ← buildToolExecutionContext svc s toolName arguments true true
      if ¬ (granted.get "approval_granted").truthy then
        throw (.toolError ("APPROVAL_REQUIRED: Tool `" ++ toolName ++ "` requires approval (" ++
          scopeText authorization "policy" ++ ")"))
      else return context.set "approval_granted" (.bool true)
    else return context

/-- What is handed to the tool. An `mcp.` or `a2a.` tool is authorized once more there, for a run that is the
    neutral context and has no checkpoint. -/
def dispatchTool (toolName : String) (arguments context : Dict Json) : Work (Dict Json) := do
  if isEcosystem toolName then
    throw (.raised "'ToolExecutionContext' object has no attribute 'checkpoint_json'")
  else
    emit (.dispatched toolName arguments context)
    match svc.runTool toolName arguments context with
    | .ok result => return result
    | .error error => throw (.raised error)

def authContext (arguments context : Dict Json) : Dict Json :=
  if (arguments.get "connector_installation_id").truthy then
    context.set "connector_installation_id" (arguments.get "connector_installation_id")
  else context

/-- `ToolExecutionService.execute` -/
def toolExecutionServiceExecute (toolName : String) (arguments context : Dict Json) : Work (Dict Json) := do
  match svc.authorizeTool s.project.ownerId toolName (authContext arguments context) with
  | .error error => throw (.raised error)
  | .ok authorization =>
    if ¬ authorization.permitted then return [("status", .str "denied"), ("reason", .str "not_permitted")]
    else if authorization.decision = .str "prohibited" then
      return [("status", .str "denied"), ("reason", .str "prohibited")]
    else if authorization.decision = .str "approval_required" ∧ ¬ (context.get "approval_granted").truthy then
      return [("status", .str "approval_required")]
    else dispatchTool svc toolName arguments context

def toolOutput (toolName : String) (result : Dict Json) : Work Json := do
  let status := (result.get "status").strOrEmpty
  if status = "approval_required" then
    throw (.toolError ("APPROVAL_REQUIRED: Tool `" ++ toolName ++ "` requires approval (" ++
      ((result.get "reason").pyOr (.str "policy")).pyStr ++ ")"))
  else if status ∈ ["denied", "failed", "error"] then
    throw (.toolError ("Tool `" ++ toolName ++ "` " ++ status ++ ": " ++
      ((result.get "error").pyOr (result.get "reason")).pyStr))
  else match result.get "output" with
    | .obj output => return .obj output
    | .null =>
      if status = "succeeded" ∨ status = "completed" then
        return .obj (result.filter fun entry => entry.1 ∉ ["status", "tool_slug", "evidence"])
      else return .obj result
    | output => return .obj [("result", output)]

def toolNameOf (call : Dict Json) : String := Text.strip (call.get "tool").strOrEmpty

/-- `call.get("arguments") or {}` -/
def argumentsOf (call : Dict Json) : Json := (call.get "arguments").pyOr (.obj [])

def callArguments (call : Dict Json) : Dict Json := (argumentsOf call).asObj?.getD []

/-- `OrchestrationToolbox.execute` for a run: what the call says of allowed tools and approvals is not read. -/
def toolboxExecute (call : Dict Json) : Work Json := do
  let toolName := toolNameOf call
  let arguments := callArguments call
  if toolName = "" then throw (.toolError "Tool call is missing a tool name")
  else
    let context ← buildToolExecutionContext svc s toolName arguments false (!isLowRiskTool toolName)
    if s.project.ownerId = "" then throw (.toolError "Tool execution requires a project owner")
    else
      let context ← authorizeCall svc s toolName arguments context
      let result ← toolExecutionServiceExecute svc s toolName arguments context
      toolOutput toolName result

end Toolbox

section Calls

variable (svc : Services) (s : Setting)

def completed (toolName : String) (result : Json) : Dict Json :=
  [("tool", .str toolName), ("status", .str "completed"), ("result", result)]

def failed (toolName message : String) : Dict Json :=
  [("tool", .str toolName), ("status", .str "failed"), ("error", .str message)]

/-- What a `dangerous_tool_call` approval is matched on. -/
def position (toolName : String) (index : Nat) : Dict Json :=
  [("tool", .str toolName), ("tool_call_index", .num index)]

def requestToolCall {α : Type} (toolName : String) (index : Nat) (arguments : Json) (source : Dict Json)
    (announce : String) : Work α := do
  let id ← createApproval svc s (some s.project.id) (s.task.bind (·.githubIssueLinkId)) "dangerous_tool_call"
    (position toolName index ++ [("arguments", arguments)] ++ source)
  commit
  throw (.blocked (announce ++ " requires approval (approval_id=" ++ id ++ ")."))

/-- The `run_tool` gate. -/
def runToolGate (toolName : String) (index : Nat) (arguments : Json) : Work PUnit := do
  if actionRequiresApproval s.project.executionSettings "run_tool" ∧ toolRequiresHitlExecutionGrant toolName then
    match ← consumeHitlGrant svc s.run "dangerous_tool_call" (position toolName index) with
    | some approval => emit (.granted approval arguments)
    | none => requestToolCall svc s toolName index arguments [] ("Dangerous tool '" ++ toolName ++ "'")

def refuse : Option String → Work PUnit
  | some message => throw (.blocked message)
  | none => pure ⟨⟩

def countFailure (failures : Nat) (toolName message : String) : Work (Dict Json × Nat) := do
  if failures + 1 ≥ 2 then
    escalateBlocker svc s "Multiple tool failures detected during execution."
      [("tool_failures", .num (failures + 1 : Nat))]
    throw (.blocked "Task blocked after repeated tool-call failures")
  else return (failed toolName message, failures + 1)

def concludeCall (index : Nat) (call : Dict Json) (failures : Nat) : Except Stop Json → Work (Dict Json × Nat)
  | .ok result => return (completed (toolNameOf call) result, failures)
  | .error (.toolError message) => do
    let toolName := toolNameOf call
    let arguments := argumentsOf call
    if Text.startsWith "APPROVAL_REQUIRED:" message then
      match ← consumeHitlGrant svc s.run "dangerous_tool_call" (position toolName index) with
      | some approval =>
        emit (.granted approval arguments)
        return (completed toolName (← toolboxExecute svc s call), failures)
      | none =>
        requestToolCall svc s toolName index arguments [("source", .str "action_policy")] ("Tool '" ++ toolName ++ "'")
    else countFailure svc s failures toolName message
  | .error stop => throw stop

/-- A call past the `run_tool` gate. -/
def executePastGate (index : Nat) (call : Dict Json) (failures : Nat) : Work (Dict Json × Nat) := do
  refuse (secretScopeError s.project.secretScope (toolNameOf call))
  refuse (allowedToolsError s.allowed (toolNameOf call))
  concludeCall svc s index call failures (← attempt (toolboxExecute svc s call))

def executeOneToolCall (index : Nat) (call : Dict Json) (failures : Nat) : Work (Dict Json × Nat) := do
  refuse (agentPermissionError (toolNameOf call) s.agent)
  runToolGate svc s (toolNameOf call) index (argumentsOf call)
  executePastGate svc s index call failures

end Calls

end Troop.Orchestration
