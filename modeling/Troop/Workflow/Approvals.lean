import Troop.Workflow.Graph

namespace Troop.Workflow

def stripToolPrefix (actionKey : String) : String :=
  let key := Text.strip actionKey
  match ["tool:", "execute:", "tool_execution:"].find? (fun start => Text.startsWith start key) with
  | some start => String.ofList (key.toList.drop start.length)
  | none => key

/-- `create_exact_effect_approval`: the row bound to the effect of `rawArguments` under the key. -/
def exactEffectApproval (env : Env) (id : String) (run : WorkflowRun) (approvalType actionKey : String)
    (rawArguments : Dict Json) (reason : Option String) (extraPayload : Dict Json) (expiresAt : Int) :
    ApprovalRequest :=
  let effect := env.proposedEffect actionKey rawArguments
  let owned := if (extraPayload.get? "owner_id").isSome then extraPayload
    else extraPayload.set "owner_id" (.ofOption run.createdBy)
  let drafted := if ¬ rawArguments.isEmpty ∧ (owned.get? "draft_arguments").isNone then
    owned.set "draft_arguments" (.obj rawArguments) else owned
  let payload := drafted.update
    [("action_key", .str (stripToolPrefix actionKey)), ("arguments_hash", .str effect.2),
      ("effect_hash", .str effect.2), ("effect_version", .num 1), ("precondition_fingerprint", .null),
      ("expires_at", .str (env.isoformat expiresAt)), ("proposed_effect", .obj effect.1)]
  { id, projectId := run.projectId, taskId := run.taskId, requestedByUserId := run.createdBy,
    approvedByUserId := none, approvalType, status := .pending, reason, payloadJson := payload,
    effectHash := some effect.2 }

/-- `DEFAULT_APPROVAL_TTL_HOURS`, in seconds -/
def approvalTtl : Int := 168 * 3600

def rawEffectArguments (extraPayload : Dict Json) : Except PyError (Dict Json) := do
  let drafted ← (extraPayload.get "draft_arguments").toDict
  if drafted.isEmpty then
    return extraPayload.filter (fun entry => entry.1 ∉ ["risk_level", "email", "tool_slug"])
  return drafted

def createWorkflowApprovalRequest (env : Env) (run : WorkflowRun) (nodeId approvalType actionKey : String)
    (argsHash : Option String) (reason : String) (extraPayload : Dict Json) : Session String := do
  let rawArguments ← Prog.ofExcept (rawEffectArguments extraPayload)
  let payload := Dict.update [("workflow_run_id", Json.str run.id), ("workflow_node_id", .str nodeId),
    ("owner_id", .ofOption run.createdBy)] extraPayload
  let id ← uuid4 env
  let w ← get
  let approval := exactEffectApproval env id run approvalType actionKey rawArguments (some reason) payload
    (w.now + approvalTtl)
  let aligned := match argsHash with
    | some hash =>
      if hash ≠ "" ∧ approval.effectHash ≠ some hash then
        { approval with payloadJson := approval.payloadJson.set "arguments_hash" (.str hash) }
      else approval
    | none => approval
  modifyDb fun db => { db with approvals := db.approvals.set id aligned }
  emit (.approvalRequested run.id nodeId id)
  return id

def exactTools (toolSlug : String) : List String :=
  [toolSlug, "tool:" ++ toolSlug, "execute:" ++ toolSlug, "tool_execution:" ++ toolSlug]

def alreadyConsumed (payload : Dict Json) : Bool :=
  (payload.get "_consumed_at").truthy || (payload.get "consumed_at").truthy

def approvalAction (approval : ApprovalRequest) : String :=
  (((approval.payloadJson.get "action_key").pyOr (approval.payloadJson.get "action")).pyOr
    (.str approval.approvalType)).strOrEmpty

def boundTo (approval : ApprovalRequest) (runId : String) (nodeId : Option String) : Bool :=
  (approval.payloadJson.get "workflow_run_id").strOrEmpty = runId ∧
    (approval.payloadJson.get "workflow_node_id").strOrEmpty = nodeId.getD ""

def boundToCall (env : Env) (approval : ApprovalRequest) (toolSlug : String) (params : Dict Json) : Bool :=
  (approvalAction approval ∈ exactTools toolSlug ∨ approval.approvalType ∈ exactTools toolSlug) ∧
    (approval.payloadJson.get "arguments_hash").strOrEmpty ≠ "" ∧
    (approval.payloadJson.get "arguments_hash").strOrEmpty = env.argumentsHash params

/-- The tool and the params of `vars["pending_tool"]`. -/
def pendingCall (vars : Dict Json) : Except PyError (String × Dict Json) := do
  let pending ← (vars.get "pending_tool").toDict
  let params ← (pending.get "params").toDict
  return ((pending.get "tool_slug").strOrEmpty, params)

def otherProject (approval : ApprovalRequest) (run : WorkflowRun) : Bool :=
  match approval.projectId, run.projectId with
  | some a, some b => a ≠ "" ∧ b ≠ "" ∧ a ≠ b
  | _, _ => false

def checkPendingTool (env : Env) (approval : ApprovalRequest) (vars : Dict Json) :
    Except PyError (ApprovalRequest × Option (String × Dict Json)) := do
  let call ← pendingCall vars
  let grantHash := (approval.payloadJson.get "arguments_hash").strOrEmpty
  if approvalAction approval ∉ exactTools call.1 ∧ approval.approvalType ∉ exactTools call.1 then
    .error (.valueError "approval action_key does not match pending tool")
  else if grantHash = "" ∨ grantHash ≠ env.argumentsHash call.2 then
    .error (.valueError "approval arguments_hash does not match pending tool params")
  else .ok (approval, some call)

/-- The checks of `_consume_approval_for_node`; for a pending tool, the call they admit. -/
def checkApprovalForNode (env : Env) (found : Option ApprovalRequest) (run : WorkflowRun)
    (nodeId : Option String) (vars : Dict Json) (pendingTool : Bool) :
    Except PyError (ApprovalRequest × Option (String × Dict Json)) :=
  match found with
  | none => .error (.valueError "approval_request_id must reference an approved ApprovalRequest")
  | some approval =>
    if approval.status ≠ .approved then
      .error (.valueError "approval_request_id must reference an approved ApprovalRequest")
    else if otherProject approval run then
      .error (.valueError "approval does not match workflow run project")
    else if alreadyConsumed approval.payloadJson then
      .error (.valueError "approval_request already consumed")
    else if (approval.payloadJson.get "workflow_run_id").strOrEmpty ≠ run.id then
      .error (.valueError "approval workflow_run_id does not match workflow run")
    else if (approval.payloadJson.get "workflow_node_id").strOrEmpty ≠ nodeId.getD "" then
      .error (.valueError "approval workflow_node_id does not match current node")
    else if pendingTool then checkPendingTool env approval vars
    else .ok (approval, none)

variable {tool : Option (String × Dict Json)} {vars : Dict Json} {env : Env}

theorem checkPendingTool_spec {approval other : ApprovalRequest} (checked : checkPendingTool env approval vars = .ok (other, tool)) :
    other = approval ∧ ∃ call, tool = some call ∧ pendingCall vars = .ok call ∧
      boundToCall env approval call.1 call.2 = true := by
  unfold checkPendingTool at checked
  cases read : pendingCall vars with
  | error error => simp [read, bind, Except.bind] at checked
  | ok call =>
    simp only [read, bind, Except.bind] at checked
    split at checked
    · cases checked
    rename_i named
    split at checked
    · cases checked
    rename_i hashed
    cases checked
    refine ⟨rfl, call, rfl, rfl, ?_⟩
    rw [not_and_or, not_not, not_not] at named
    rw [not_or, not_not] at hashed
    simp only [boundToCall, decide_eq_true_eq]
    exact ⟨named, hashed⟩

theorem checkApprovalForNode_spec {found : Option ApprovalRequest} {run : WorkflowRun}
    {nodeId : Option String} {pendingTool : Bool} {approval : ApprovalRequest}
    (checked : checkApprovalForNode env found run nodeId vars pendingTool = .ok (approval, tool)) :
    approval.status = .approved ∧ alreadyConsumed approval.payloadJson = false ∧
      boundTo approval run.id nodeId = true ∧
      if pendingTool then ∃ call, tool = some call ∧ pendingCall vars = .ok call ∧
        boundToCall env approval call.1 call.2 = true
      else tool = none := by
  unfold checkApprovalForNode at checked
  cases found with
  | none => cases checked
  | some row =>
    dsimp only at checked
    split at checked
    · cases checked
    rename_i status
    split at checked
    · cases checked
    split at checked
    · cases checked
    split at checked
    · cases checked
    rename_i sameRun
    split at checked
    · cases checked
    rename_i sameNode
    rw [not_not] at status sameRun sameNode
    have bound : boundTo row run.id nodeId = true := by
      simp only [boundTo, decide_eq_true_eq]
      exact ⟨sameRun, sameNode⟩
    split at checked
    · obtain ⟨rfl, call⟩ := checkPendingTool_spec checked
      simp_all
    · simp_all

def consumedPayload (env : Env) (payload : Dict Json) (nodeId : Option String) (now : Int) : Dict Json :=
  ((payload.set "_consumed_at" (.str (env.isoformat now))).set "consumed_at"
    (.str (env.isoformat now))).set "consumed_workflow_node_id" (.ofOption nodeId)

def grantedVars (approvalId : String) (approval : ApprovalRequest) (nodeId actor : Option String)
    (pendingTool : Bool) (vars : Dict Json) : Except PyError (Dict Json) := do
  let approver := (Json.ofOption approval.approvedByUserId).pyOr (.ofOption actor)
  if pendingTool then
    let pending ← (vars.get "pending_tool").toDict
    let marked := ((pending.set "approval_request_id" (.str approvalId)).set "approval_consumed"
      (.bool true)).set "approved_by" approver
    return vars.set "pending_tool" (.obj marked)
  return (((vars.set "approval_granted" (.bool true)).set "approval_request_id" (.str approvalId)).set
    "approval_node_id" (.ofOption nodeId)).set "approved_by" approver

def consumeApprovalForNode (env : Env) (approvalId : String) (run : WorkflowRun) (nodeId : Option String)
    (vars : Dict Json) (actor : Option String) (pendingTool : Bool) : Session (Dict Json) := do
  let w ← get
  let (approval, tool) ← Prog.ofExcept
    (checkApprovalForNode env (w.db.approvals.get? approvalId) run nodeId vars pendingTool)
  let spent := { approval with payloadJson := consumedPayload env approval.payloadJson nodeId w.now }
  modifyDb fun db => { db with approvals := db.approvals.set approvalId spent }
  emit (.approvalConsumed run.id (nodeId.getD "") approval tool)
  Prog.ofExcept (grantedVars approvalId approval nodeId actor pendingTool vars)

end Troop.Workflow
