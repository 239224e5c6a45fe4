import Troop.Workflow.Approvals

namespace Troop.Workflow

/-- The value a dotted path leads to from the vars; a missing part reads as `None`. -/
def lookupPath (vars : Dict Json) (path : String) : Json :=
  (Text.splitDots path).foldl Json.get (.obj vars)

mutual
/-- `_resolve_workflow_mapping`: `"$.a.b"` and `\{"$path": "a.b"}` are looked up in the vars, other
    values are copied. -/
def resolveWorkflowMapping (vars : Dict Json) : Json → Json
  | .str text => if Text.startsWith "$." text then lookupPath vars (String.ofList (text.toList.drop 2)) else .str text
  | .obj members =>
    match Dict.get? members "$path" with
    | some path =>
      let resolved := lookupPath vars path.pyStr
      if (Dict.get members "wrap_list").truthy ∧ resolved ≠ .null then .arr [resolved] else resolved
    | none => .obj (resolveMembers vars members)
  | .arr items => .arr (resolveItems vars items)
  | value => value

def resolveItems (vars : Dict Json) : List Json → List Json
  | [] => []
  | item :: rest => resolveWorkflowMapping vars item :: resolveItems vars rest

def resolveMembers (vars : Dict Json) : List (String × Json) → List (String × Json)
  | [] => []
  | (key, value) :: rest => (key, resolveWorkflowMapping vars value) :: resolveMembers vars rest
end

def approvalWaiting (approvalId : Json) (vars : Dict Json) : NodeOutcome :=
  paused [("waiting", .bool true), ("approval_request_id", approvalId)] vars .waitingApproval

def approvalReason (node : Json) : String :=
  (((node.get "config").get "reason").pyOr (.str "Workflow approval required")).strOrEmpty

def spentGrant (vars : Dict Json) (consumed : List Json) (approvalId : String) : Dict Json :=
  ((((vars.set "_consumed_approval_ids" (.arr (consumed ++ [.str approvalId]))).pop
    "approval_granted").pop "approval_request_id").pop "approval_node_id").pop "pending_approval_request_id"

/-- The approval branch of `_advance`. -/
def executeApprovalNode (env : Env) (run : WorkflowRun) (node : Json) (cursor : String)
    (vars : Dict Json) : Session NodeOutcome := do
  if (vars.get "approval_granted").truthy ∧ (vars.get "approval_request_id").truthy then
    let consumed ← Prog.ofExcept (vars.get "_consumed_approval_ids").toList
    let approvalId := (vars.get "approval_request_id").pyStr
    let granted := vars.get "approval_node_id"
    if consumed.any (Json.pyEq (.str approvalId)) then return paused [] vars .waitingApproval
    else if granted.truthy ∧ granted ≠ .str cursor then return paused [] vars .waitingApproval
    else
      return succeeded [("approved", .bool true), ("approval_request_id", .str approvalId)]
        (spentGrant vars consumed approvalId)
  else if (vars.get "pending_approval_request_id").truthy then
    return approvalWaiting (vars.get "pending_approval_request_id") vars
  else
    let id ← createWorkflowApprovalRequest env run cursor "workflow_approval" "workflow_approval" none
      (approvalReason node) []
    return approvalWaiting (.str id) (vars.set "pending_approval_request_id" (.str id))

/-- The human_input branch of `_advance`. -/
def executeHumanInputNode (vars : Dict Json) : NodeOutcome :=
  match (vars.get "human_input").asObj? with
  | some payload =>
    if payload.isEmpty then paused [] vars .waitingInput
    else succeeded [("human_input", .obj payload), ("submitted_by", vars.get "human_input_by")]
      (((vars.pop "human_input").pop "human_input_by").pop "approval_granted")
  | none => paused [] vars .waitingInput

/-- The condition branch of `_advance`, and of `_execute_simple_node`. -/
def executeConditionNode (node : Json) (vars : Dict Json) : Except PyError NodeOutcome := do
  let config ← nodeConfig node
  let cond := conditionFromConfig config
  let result ← match cond with
    | some condition => if condition.isEmpty then .ok false else evaluateCondition condition vars
    | none => .ok false
  return succeeded [("branch", .bool result), ("condition", (cond.map Json.obj).getD .null)]
    (vars.set "_last_condition" (.bool result))

/-- `float(config.get("seconds") or config.get("delay_seconds") or 0)`, in whole seconds -/
def delaySeconds (config : Dict Json) : Except PyError Int :=
  (((config.get "seconds").pyOr (config.get "delay_seconds")).pyOr (.num 0)).toInt

def scheduleDelayResume (run : WorkflowRun) (nodeId resumeAt : String) : Session PUnit :=
  emit (.delayScheduled run.id nodeId resumeAt)

/-- The moment a delay is to end at, as `datetime.fromisoformat` reads it. -/
def parseResumeAt (env : Env) (value : Json) : Except PyError Int :=
  match value with
  | .str text =>
    match env.fromisoformat text with
    | some moment => .ok moment
    | none => .error (.valueError "Invalid isoformat string")
  | _ => .error (.typeError "fromisoformat: argument must be str")

/-- The delay branch of `_advance`. -/
def executeDelayNode (env : Env) (run : WorkflowRun) (node : Json) (cursor : String)
    (vars : Dict Json) : Session NodeOutcome := do
  let config ← Prog.ofExcept (nodeConfig node)
  let delayState ← Prog.ofExcept (vars.get "_delay_resume").toDict
  let w ← get
  let resumeAt := if delayState.get "node_id" = .str cursor then delayState.get "resume_at" else .null
  if resumeAt.truthy then
    let moment ← Prog.ofExcept (parseResumeAt env resumeAt)
    if moment ≤ w.now then
      return succeeded [("delayed", .bool true), ("resume_at", resumeAt)] (vars.pop "_delay_resume")
    else return paused [] vars .paused
  else
    let seconds ← Prog.ofExcept (delaySeconds config)
    if 0 < seconds then
      let until_ := env.isoformat (w.now + seconds)
      scheduleDelayResume run cursor until_
      return paused [("resume_at", .str until_), ("seconds", .num seconds)]
        (vars.set "_delay_resume" (.obj [("node_id", .str cursor), ("resume_at", .str until_)])) .paused
    else return succeeded [("delayed", .bool false), ("seconds", .num 0)] vars

def executeTriggerNode (node : Json) (nodeId : String) (vars : Dict Json) : Except PyError NodeOutcome := do
  let config ← nodeConfig node
  let extra ← (config.get "metadata").toDict
  let metadata : Dict Json :=
    [("trigger_type", .str (((config.get "trigger_type").pyOr (config.get "type")).pyOr (.str "manual")).strOrEmpty),
      ("source", config.get "source"), ("schedule", config.get "schedule"),
      ("webhook_key", config.get "webhook_key"), ("event", config.get "event"), ("metadata", .obj extra)]
  return succeeded metadata (vars.set ("trigger_" ++ nodeId) (.obj metadata))

def resolveSkillVersion (db : Db) (config : Dict Json) : Option SkillVersion :=
  let versionOf := fun id => db.skillVersions.find? (fun row => row.id = id)
  if (config.get "skill_version_id").truthy then versionOf (config.get "skill_version_id").pyStr
  else if ¬ (config.get "skill_id").truthy then none
  else
    let skillId := (config.get "skill_id").pyStr
    let current := (db.skills.get? skillId).bind fun skill =>
      skill.currentVersionId.bind fun id => if id = "" then none else versionOf id
    match current with
    | some version => some version
    | none =>
      let published := db.skillVersions.filter (fun row => row.skillId = skillId ∧ row.isPublished)
      published.foldl (fun best row => match best with
        | none => some row
        | some other => if other.versionNumber < row.versionNumber then some row else some other) none

def skillPayload (version : SkillVersion) : Dict Json :=
  [("skill_id", .str version.skillId), ("skill_version_id", .str version.id),
    ("version_number", .num version.versionNumber),
    ("instructions_markdown", .str version.instructionsMarkdown),
    ("required_tools", .arr version.requiredToolsJson), ("capabilities", .arr version.capabilitiesJson)]

/-- The skill branch of `_advance` and of `_execute_simple_node`. The first ends a run whose skill is
    missing without pausing it, the second reports the pause status `failed`. -/
def executeSkillNode (db : Db) (node : Json) (vars : Dict Json) (missing : Option RunStatus) :
    Except PyError NodeOutcome := do
  let config ← nodeConfig node
  match resolveSkillVersion db config with
  | none => return ⟨.failed, [("error", .str "skill version not found")], missing, vars⟩
  | some version =>
    return succeeded [("skill_version_id", .str version.id), ("skill_id", .str version.skillId)]
      (vars.set "skill_payload" (.obj (skillPayload version)))

def shouldSimulateExternalWrite (env : Env) (run : WorkflowRun) (toolSlug : String) : Bool :=
  run.contextJson.testMode && run.contextJson.simulateExternalWrites && env.isExternalMutatingTool toolSlug

def simulatedToolResult (toolSlug : String) (params : Dict Json) : Dict Json :=
  [("status", .str "simulated"), ("tool_slug", .str toolSlug), ("params", .obj params),
    ("simulated", .bool true), ("reason", .str "test_mode_external_write_simulation")]

def simulatedOutcome (nodeId toolSlug : String) (params vars : Dict Json) : NodeOutcome :=
  let simulated := simulatedToolResult toolSlug params
  succeeded [("tool_slug", .str toolSlug), ("result", .obj simulated), ("simulated", .bool true)]
    (vars.set ("tool_result_" ++ nodeId) (.obj simulated))

/-- `ToolExecutionService.execute`. The call is on record whether it answers or raises. -/
def toolExecutionServiceExecute (env : Env) (run : WorkflowRun) (nodeId : String) (call : ToolCall) :
    Session (Dict Json) := do
  let w ← get
  emit (.toolExecuted run.id nodeId call.owner call.toolSlug call.params call.context)
  Prog.ofExcept (env.executeTool w.log call)

def pendingFor (vars : Dict Json) (nodeId : String) : Option (Dict Json) :=
  match (vars.get "pending_tool").asObj? with
  | some pending => if pending.get "node_id" = .str nodeId then some pending else none
  | none => none

def resultStatus (result : Dict Json) (status : String) : Bool := result.get "status" = .str status

/-- `vars["pending_tool"]` of a call that needs an approval. -/
def parkedCall (nodeId toolSlug : String) (params context result : Dict Json) (approvalId : String) : Dict Json :=
  [("node_id", .str nodeId), ("tool_slug", .str toolSlug), ("params", .obj params),
    ("context", .obj (context.filter fun entry => entry.1 ∉ ["approval_granted", "approval_request_id"])),
    ("auth", .obj [("decision", result.get "decision"),
      ("resolution", (result.get "resolution").pyOr (.obj []))]),
    ("approval_request_id", .str approvalId)]

/-- The end of `_execute_tool_node`: simulate or execute the call, and read the answer. -/
def dispatchTool (env : Env) (run : WorkflowRun) (nodeId toolSlug : String) (params context vars : Dict Json) :
    Session NodeOutcome := do
  if toolSlug = "" then
    return failed [("error", .str "tool node missing config.tool or config.tool_slug")] vars
  else if shouldSimulateExternalWrite env run toolSlug then
    return simulatedOutcome nodeId toolSlug params vars
  else
    let result ← toolExecutionServiceExecute env run nodeId
      ⟨run.createdBy.getD "", toolSlug, params, context⟩
    if resultStatus result "approval_required" then
      let id ← createWorkflowApprovalRequest env run nodeId ("tool:" ++ toolSlug) ("tool:" ++ toolSlug)
        (some (env.argumentsHash params)) ("Workflow tool `" ++ toolSlug ++ "` requires approval")
        [("tool_slug", .str toolSlug), ("draft_arguments", .obj params),
          ("risk_level", .str (if toolSlug = "gmail.send_draft" then "high" else "medium")),
          ("email", vars.get "email")]
      return paused [("approval_required", .bool true), ("tool_slug", .str toolSlug),
          ("approval_request_id", .str id)]
        ((vars.set "pending_tool" (.obj (parkedCall nodeId toolSlug params context result id))).set
          "pending_approval_request_id" (.str id)) .waitingApproval
    else if resultStatus result "denied" ∨ resultStatus result "failed" then
      return failed [("denied", .bool true), ("tool_slug", .str toolSlug), ("result", .obj result)] vars
    else
      return succeeded [("tool_slug", .str toolSlug), ("result", .obj result)]
        (vars.set ("tool_result_" ++ nodeId) (.obj result))

def approvalOfPending (env : Env) (run : WorkflowRun) (nodeId : String) (pending vars : Dict Json) :
    Session Json := do
  let known := (pending.get "approval_request_id").pyOr (vars.get "pending_approval_request_id")
  let label := "tool:" ++ (pending.get "tool_slug").pyStr
  if known.truthy then return known
  else
    let params ← Prog.ofExcept (pending.get "params").toDict
    let id ← createWorkflowApprovalRequest env run nodeId label label (some (env.argumentsHash params))
      ("Workflow tool `" ++ (pending.get "tool_slug").pyStr ++ "` requires approval")
      [("tool_slug", pending.get "tool_slug"), ("draft_arguments", .obj params),
        ("risk_level", .str "high"), ("email", vars.get "email")]
    return .str id

def awaitToolApproval (env : Env) (run : WorkflowRun) (nodeId : String) (pending vars : Dict Json) :
    Session NodeOutcome := do
  if shouldSimulateExternalWrite env run (pending.get "tool_slug").strOrEmpty then
    let params ← Prog.ofExcept (pending.get "params").toDict
    return simulatedOutcome nodeId (pending.get "tool_slug").strOrEmpty params
      ((vars.pop "pending_tool").pop "pending_approval_request_id")
  else
    let approvalId ← approvalOfPending env run nodeId pending vars
    let parked := pending.set "approval_request_id" approvalId
    return paused [("pending_tool", .obj parked), ("approval_request_id", approvalId)]
      ((vars.set "pending_approval_request_id" approvalId).set "pending_tool" (.obj parked)) .waitingApproval

def configuredParams (config vars : Dict Json) : Except PyError (Dict Json) :=
  match (config.get "params").asObj? with
  | none => .ok vars
  | some [] => .ok vars
  | some (entry :: rest) =>
    match (resolveWorkflowMapping vars (.obj (entry :: rest))).asObj? with
    | some params => .ok params
    | none => .error (.typeError "object has no attribute 'get'")

def configuredTool (config : Dict Json) : String :=
  ((config.get "tool").pyOr (config.get "tool_slug")).strOrEmpty

def freshToolContext (run : WorkflowRun) (nodeId : String) (params : Dict Json) : Dict Json :=
  [("owner_id", .ofOption run.createdBy), ("project_id", .ofOption run.projectId),
    ("task_id", .ofOption run.taskId), ("workflow_run_id", .str run.id), ("workflow_node_id", .str nodeId),
    ("connector_installation_id", params.get "connector_installation_id")]

def executeToolNode (env : Env) (run : WorkflowRun) (node : Json) (nodeId : String) (vars : Dict Json) :
    Session NodeOutcome := do
  let config ← Prog.ofExcept (nodeConfig node)
  match pendingFor vars nodeId with
  | some pending =>
    if ¬ (pending.get "approval_consumed").truthy then awaitToolApproval env run nodeId pending vars
    else
      let params ← Prog.ofExcept (pending.get "params").toDict
      let context ← Prog.ofExcept (pending.get "context").toDict
      dispatchTool env run nodeId (pending.get "tool_slug").strOrEmpty params
        ((context.set "approval_granted" (.bool true)).set "approval_request_id"
          (pending.get "approval_request_id"))
        ((vars.pop "pending_tool").pop "pending_approval_request_id")
  | none =>
    let params ← Prog.ofExcept (configuredParams config vars)
    dispatchTool env run nodeId (configuredTool config) params (freshToolContext run nodeId params) vars

def unsupportedSimple (node : Json) (vars : Dict Json) : NodeOutcome :=
  failed [("error", .str ("unsupported simple node type `" ++ nodeTypeText node ++ "`"))] vars

def executeSimpleNode (env : Env) (run : WorkflowRun) (node : Json) (nodeId : String) (vars : Dict Json) :
    Session NodeOutcome := do
  match nodeType node with
  | some .tool => executeToolNode env run node nodeId vars
  | some .skill => do
    let w ← get
    Prog.ofExcept (executeSkillNode w.db node vars (some .failed))
  | some .condition => Prog.ofExcept (executeConditionNode node vars)
  | some .trigger => Prog.ofExcept (executeTriggerNode node nodeId vars)
  | _ => return unsupportedSimple node vars

end Troop.Workflow
