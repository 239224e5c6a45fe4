import Troop.Workflow.Passing

namespace Troop.Workflow

open Dict (get?_set_self get_set mem_of_get?)
open Prog (exec_bind_error exec_bind_ok exec_get exec_ofExcept)

variable {env : Env} {terms : Terms}

/-- What `decide_approval` makes of a decision on a pending request: it turns the user away, it marks the request as
    expired, or it writes the decision. -/
inductive Verdict where
  | refused | expired | decided
deriving DecidableEq, Repr

abbrev Ruling := ApprovalRequest → Bool → String → Int → Verdict

inductive Operation where
  | resume (owner runId : String) (given : Resumption)
  | decide (approvalId userId : String) (approve : Bool) (reason : Option String)

def decidedRow (approvalId userId : String) (approve : Bool) (reason : Option String) (row : ApprovalRequest) :
    ApprovalRequest :=
  { row with id := approvalId, status := if approve then .approved else .rejected, reason, approvedByUserId := some userId }

/-- What an operation does to the service, one label after the other. The session in which `decide_approval` delivers
    its hook is not committed again. -/
def Operation.labels (ruling : Ruling) (w : World) : Operation → List Label
  | .resume owner runId given => [.resume owner runId given]
  | .decide approvalId userId approve reason =>
    match w.db.approvals.get? approvalId with
    | none => []
    | some row =>
      if row.status ≠ .pending then []
      else match ruling row approve userId w.now with
        | .refused => []
        | .expired => [.changed (.approval { row with id := approvalId, status := .stale })]
        | .decided =>
          [.changed (.approval (decidedRow approvalId userId approve reason row)), .approvalDecided approvalId false]

def afterwards (env : Env) (ruling : Ruling) : List Operation → World → World
  | [], w => w
  | operation :: rest, w => afterwards env ruling rest (w.after env (operation.labels ruling w))

def Label.passes (env : Env) (runId gate : String) (w : World) : Label → Prop
  | .resume owner id given => Passes runId gate (resumeRun env (service env) owner id given) w
  | .approvalDecided id _ => Passes runId gate (onApprovalDecided env id) w
  | _ => False

def Leavable (env : Env) (ruling : Ruling) (runId gate : String) (w : World) : Prop :=
  ∃ operations operation earlier last,
    Operation.labels ruling (afterwards env ruling operations w) operation = earlier ++ [last] ∧
      last.passes env runId gate ((afterwards env ruling operations w).after env earlier)

section Deciding

variable {ruling : Ruling} {w : World} {owner gate id user : String} {reason : Option String} {run : WorkflowRun}
  {version : WorkflowVersion} {approval : ApprovalRequest}

theorem Leavable.now {owner : String} {given : Resumption}
    (passes : Passes run.id gate (resumeRun env (service env) owner run.id given) w) :
    Leavable env ruling run.id gate w := ⟨[], .resume owner run.id given, [], .resume owner run.id given, rfl, passes⟩

theorem afterwards_append (operations others : List Operation) :
    ∀ w, afterwards env ruling (operations ++ others) w = afterwards env ruling others (afterwards env ruling operations w) := by
  induction operations with
  | nil => exact fun w => rfl
  | cons operation rest ih => exact fun w => ih _

theorem Leavable.later (operations : List Operation)
    (leavable : Leavable env ruling run.id gate (afterwards env ruling operations w)) :
    Leavable env ruling run.id gate w := by
  obtain ⟨others, operation, earlier, last, same, passes⟩ := leavable
  refine ⟨operations ++ others, operation, earlier, last, ?_, ?_⟩ <;> rwa [afterwards_append]

def ruledWorld (id user : String) (reason : Option String) (approval : ApprovalRequest) (w : World) : World :=
  { w with
    db := Change.apply w.db (.approval (decidedRow id user true reason approval))
    committed := Change.apply w.committed (.approval (decidedRow id user true reason approval)) }

theorem Run.decided (ran : Run env .any w) (id user : String) (reason : Option String) (approval : ApprovalRequest) :
    Run env .any (ruledWorld id user reason approval w) :=
  @Run.step env .any w (.changed (.approval (decidedRow id user true reason approval))) ran trivial trivial

theorem resumeRun_unread {calls : Calls} {definition : WorkflowDefinition} {given : Resumption}
    (row : w.db.runs.get? run.id = some run) (defined : w.db.definitions.get? run.workflowId = some definition)
    (unread : ¬ (definition.ownerId = owner ∨ definition.isTemplate = true)) :
    (resumeRun env calls owner run.id given).exec w = (.error (.valueError "workflow not found"), w) := by
  have refused : (getDefinition owner run.workflowId).exec w = (.error (.valueError "workflow not found"), w) := by
    rw [getDefinition_exec, defined]
    simp only [unread, if_false]
  unfold resumeRun
  rw [exec_bind_ok (getRun_exec row), exec_bind_error refused]

theorem onApprovalDecided_exec (row : w.db.runs.get? run.id = some run) (resumable : run.status.resumable = true)
    (found : w.db.approvals.get? id = some approval) (approved : approval.status = .approved)
    (bound : boundTo approval run.id (some gate) = true) (identified : run.id ≠ "") :
    (onApprovalDecided env id).exec w = (resumeWorkflow env (service env) run (some id)).exec w := by
  simp only [boundTo, decide_eq_true_eq] at bound
  have truthy : (approval.payloadJson.get "workflow_run_id").truthy = true := by grind [Json.strOrEmpty]
  have name : (approval.payloadJson.get "workflow_run_id").pyStr = run.id := by simp_all [Json.strOrEmpty]
  have targets : decisionTargets w.db approval = .ok [run] := by
    simp [decisionTargets, truthy, name, row, resumable]
  unfold onApprovalDecided
  rw [exec_bind_ok (exec_get w), found]
  dsimp only
  rw [if_pos approved, targets, exec_bind_ok (exec_ofExcept _ w)]
  show (do resumeWorkflow env (service env) run (some id); pure ⟨⟩ : Session PUnit).exec w = _
  rw [Prog.exec_bind]
  cases (resumeWorkflow env (service env) run (some id)).exec w with
  | mk result after => cases result <;> rfl

theorem ends_settled {w : World} (same : w.committed = w.db) : Session.ends false w = w := by
  cases w
  cases same
  rfl

theorem Stands.approved (stands : Stands w owner run version gate) :
    Stands (ruledWorld id user reason approval w) owner run version gate where
  waiting := stands.waiting.kept rfl rfl
  readable := stands.readable
  versioned := stands.versioned
  reached := stands.reached
  named := stands.named
  found := stands.found

theorem Operation.decides (reason : Option String) (found : w.db.approvals.get? id = some approval) (pending : approval.status = .pending)
    (ruled : ruling approval true user w.now = .decided) :
    Operation.labels ruling w (.decide id user true reason) =
      [.changed (.approval (decidedRow id user true reason approval)), .approvalDecided id false] := by
  simp [Operation.labels, found, pending, ruled]

theorem Stands.decides (ran : Run env .any w) (stands : Stands w owner run version gate) (identified : run.id ≠ "")
    (found : w.db.approvals.get? id = some approval) (pending : approval.status = .pending)
    (ruled : ruling approval true user w.now = .decided)
    (bound : boundTo approval run.id (some gate) = true)
    (passes : ∀ reader, Stands (ruledWorld id user reason approval w) reader run version gate →
      Passes run.id gate (resumeRun env (service env) reader run.id { Resumption.plain with approvalRequestId := some id })
        (ruledWorld id user reason approval w)) :
    Leavable env ruling run.id gate w := by
  let decided := ruledWorld id user reason approval w
  have stands' : Stands decided owner run version gate := stands.approved
  have labels := Operation.decides reason found pending ruled
  have same : decided.committed = decided.db := by
    have settled := ran.reachable.2
    simp only [decided, ruledWorld, settled]
  have hooked : (onApprovalDecided env id).exec decided = (resumeWorkflow env (service env) run (some id)).exec decided := by
    apply onApprovalDecided_exec stands'.waiting.row stands'.waiting.status
      (get?_set_self w.db.approvals id (decidedRow id user true reason approval))
    · rfl
    · exact bound
    · exact identified
  -- without the hook, the request is there for the next call
  have next : (onApprovalDecided env id).exec decided = (.ok ⟨⟩, decided) → Leavable env ruling run.id gate w := by
    intro silent
    apply Leavable.later [.decide id user true reason]
    have after : afterwards env ruling [.decide id user true reason] w = decided := by
      simp only [afterwards, labels, World.after]
      show Session.ends false ((onApprovalDecided env id).exec decided).2 = decided
      rw [silent]
      exact ends_settled same
    rw [after]
    exact Leavable.now (passes owner stands')
  by_cases creator : hasText run.createdBy = true
  · obtain ⟨definition, defined, readable⟩ := stands.readable
    by_cases read : definition.ownerId = run.createdBy.getD "" ∨ definition.isTemplate = true
    · have reads : Stands decided (run.createdBy.getD "") run version gate :=
        { stands' with readable := ⟨definition, defined, read⟩ }
      obtain ⟨after, newer, type, answered, kept, grown, passed⟩ := passes _ reads
      refine ⟨[], .decide id user true reason, [.changed (.approval (decidedRow id user true reason approval))],
        .approvalDecided id false, labels, after, newer, type, ?_, kept, grown, passed⟩
      show (onApprovalDecided env id).exec decided = _
      rw [hooked, resumeWorkflow, if_pos creator, logged, Prog.exec_catching, answered]
    · apply next
      rw [hooked, resumeWorkflow, if_pos creator, logged, Prog.exec_catching,
        resumeRun_unread stands'.waiting.row defined read]
      rfl
  · apply next
    rw [hooked, resumeWorkflow, if_neg creator]
    rfl

end Deciding

section Calling

variable {w started : World} {owner gate id slug : String} {run : WorkflowRun} {version : WorkflowVersion}
  {node : Json} {params context vars config : Dict Json}

structure ToolAnswers (env : Env) (run : WorkflowRun) (slug : String) (params : Dict Json) : Prop where
  answers : ∀ log context, ∃ result, env.executeTool log ⟨run.createdBy.getD "", slug, params, context⟩ = .ok result ∧
    resultStatus result "denied" = false ∧ resultStatus result "failed" = false ∧
      ((context.get "approval_granted").truthy = true → resultStatus result "approval_required" = false)
  hashed : env.argumentsHash params ≠ ""

theorem toolExecutionServiceExecute_exec {call : ToolCall} {result : Dict Json}
    (answer : env.executeTool started.log call = .ok result) :
    (toolExecutionServiceExecute env run gate call).exec started =
      (.ok result, started.record (.toolExecuted run.id gate call.owner call.toolSlug call.params call.context)) := by
  unfold toolExecutionServiceExecute
  rw [exec_bind_ok (exec_get started), exec_bind_ok (emit_exec _ _), answer, exec_ofExcept]

structure Requested (env : Env) (run : WorkflowRun) (gate slug id : String) (params : Dict Json) (row : ApprovalRequest) :
    Prop where
  pending : row.status = .pending
  project : otherProject row run = false
  type : row.approvalType = "tool:" ++ slug
  bound : boundTo row run.id (some gate) = true
  unconsumed : alreadyConsumed row.payloadJson = false
  hash : env.argumentsHash params ≠ "" → row.payloadJson.get "arguments_hash" = .str (env.argumentsHash params)

theorem otherProject_self (approval : ApprovalRequest) (same : approval.projectId = run.projectId) :
    otherProject approval run = false := by
  unfold otherProject
  rw [same]
  cases run.projectId with
  | none => rfl
  | some project => simp

def draftPayload (slug : String) (params : Dict Json) (risk : String) (email : Json) : Dict Json :=
  [("tool_slug", .str slug), ("draft_arguments", .obj params), ("risk_level", .str risk), ("email", email)]

theorem rawEffectArguments_draft (slug : String) (params : Dict Json) (risk : String) (email : Json) :
    ∃ raw, rawEffectArguments (draftPayload slug params risk email) = .ok raw := by
  unfold rawEffectArguments
  have drafted : ((draftPayload slug params risk email).get "draft_arguments").toDict = .ok params := by
    simp [draftPayload, Dict.get, Dict.get?_cons, Json.toDict]
  rw [drafted]
  simp only [bind, Except.bind]
  split <;> exact ⟨_, rfl⟩

theorem createWorkflowApprovalRequest_exec (env : Env) (started : World) (run : WorkflowRun) (gate slug : String)
    (params : Dict Json) (reason risk : String) (email : Json) :
    ∃ row, Requested env run gate slug (env.uuid4 started.drawn) params row ∧
      (createWorkflowApprovalRequest env run gate ("tool:" ++ slug) ("tool:" ++ slug) (some (env.argumentsHash params)) reason
        (draftPayload slug params risk email)).exec started =
        (.ok (env.uuid4 started.drawn), (started.aside 1 (started.db.approvals.set (env.uuid4 started.drawn) row)
          started.db.taskRuns started.db.children).record (.approvalRequested run.id gate (env.uuid4 started.drawn))) := by
  obtain ⟨raw, read⟩ := rawEffectArguments_draft slug params risk email
  unfold createWorkflowApprovalRequest
  rw [read, exec_bind_ok (exec_ofExcept _ started)]
  refine ⟨_, ?_, rfl⟩
  dsimp only
  constructor
  · split <;> rfl
  · apply otherProject_self
    split <;> rfl
  · split <;> rfl
  · split
    all_goals simp [boundTo, exactEffectApproval, draftPayload, Dict.get, Dict.get?_update, Dict.get?_cons, Dict.get?_set]
  · split
    all_goals simp [alreadyConsumed, exactEffectApproval, draftPayload, Dict.get, Dict.get?_update, Dict.get?_cons, Dict.get?_set]
  · intro hashed
    split
    · simp
    rename_i aligned
    simp only [not_and, not_not] at aligned
    have same := aligned hashed
    simp [exactEffectApproval] at same
    simp [exactEffectApproval, Dict.get, Dict.get?_update, Dict.get?_cons, same]

theorem dispatchTool_simulated (gate : String) (params context vars : Dict Json) (named : slug ≠ "") (simulated : shouldSimulateExternalWrite env run slug = true) :
    ∃ output after, (dispatchTool env run gate slug params context vars).exec started =
      (.ok (succeeded output after), started) := by
  unfold dispatchTool
  rw [if_neg named, if_pos simulated]
  exact ⟨_, _, rfl⟩

theorem dispatchTool_answers (gate : String) (vars : Dict Json) {result : Dict Json} (named : slug ≠ "") (real : shouldSimulateExternalWrite env run slug = false)
    (answer : env.executeTool started.log ⟨run.createdBy.getD "", slug, params, context⟩ = .ok result)
    (granted : resultStatus result "approval_required" = false) (allowed : resultStatus result "denied" = false)
    (done : resultStatus result "failed" = false) :
    ∃ output, (dispatchTool env run gate slug params context vars).exec started =
      (.ok (succeeded output (vars.set ("tool_result_" ++ gate) (.obj result))),
        started.record (.toolExecuted run.id gate (run.createdBy.getD "") slug params context)) := by
  unfold dispatchTool
  rw [if_neg named, if_neg (by simp [real]), exec_bind_ok (toolExecutionServiceExecute_exec answer),
    if_neg (by simp [granted]), if_neg (by simp [allowed, done])]
  exact ⟨_, rfl⟩

def parkedVars (gate slug id : String) (params context result vars : Dict Json) : Dict Json :=
  (vars.set "pending_tool" (.obj (parkedCall gate slug params context result id))).set "pending_approval_request_id" (.str id)

theorem dispatchTool_asks {result : Dict Json} (named : slug ≠ "") (real : shouldSimulateExternalWrite env run slug = false)
    (answer : env.executeTool started.log ⟨run.createdBy.getD "", slug, params, context⟩ = .ok result)
    (asks : resultStatus result "approval_required" = true) :
    ∃ output row after, Requested env run gate slug (env.uuid4 started.drawn) params row ∧
      (dispatchTool env run gate slug params context vars).exec started =
        (.ok (paused output (parkedVars gate slug (env.uuid4 started.drawn) params context result vars) .waitingApproval),
          after) ∧
      (∃ newer, after.log = newer ++ started.log) ∧ after.db.runs = started.db.runs ∧
      after.db.versions = started.db.versions ∧ after.db.definitions = started.db.definitions ∧ after.now = started.now ∧
      after.db.approvals.get? (env.uuid4 started.drawn) = some row := by
  let executed := started.record (.toolExecuted run.id gate (run.createdBy.getD "") slug params context)
  obtain ⟨row, requested, created⟩ := createWorkflowApprovalRequest_exec env executed run gate slug params
    ("Workflow tool `" ++ slug ++ "` requires approval")
    (if slug = "gmail.send_draft" then "high" else "medium") (vars.get "email")
  refine ⟨?output, row, ?after, requested, ?ran, ⟨[.approvalRequested run.id gate (env.uuid4 started.drawn),
    .toolExecuted run.id gate (run.createdBy.getD "") slug params context], ?grown⟩, ?runs, ?versions, ?definitions, ?now, ?stored⟩
  case ran =>
    unfold dispatchTool
    rw [if_neg named, if_neg (by simp [real]), exec_bind_ok (toolExecutionServiceExecute_exec answer), if_pos asks]
    exact exec_bind_ok created
  case stored => exact get?_set_self _ _ _
  all_goals rfl

structure ToolReady (env : Env) (run : WorkflowRun) (version : WorkflowVersion) (slug : String) (params : Dict Json) :
    Prop where
  type : nodeTypeText (waitingNode run version) = "tool"
  config : ∃ config, nodeConfig (waitingNode run version) = .ok config ∧ configuredTool config = slug ∧
    configuredParams config run.contextJson.vars = .ok params
  named : slug ≠ ""
  unparked : run.contextJson.vars.get "pending_tool" = .null

theorem ToolReady.granted (configured : ToolReady env run version slug params) :
    (grantedResume env run (waitingNode run version) Resumption.plain run.contextJson.vars).exec w =
      (.ok run.contextJson.vars, w) := by
  unfold grantedResume
  simp [configured.type, configured.unparked, Resumption.plain]

theorem nodeType_tool (type : nodeTypeText node = "tool") : nodeType node = some .tool := by
  rw [nodeType, type]
  rfl

theorem ToolReady.executed (configured : ToolReady env run version slug params) (calls : Calls) (frame : Frame)
    (gate : String) (started : World) (here : frame.vars = run.contextJson.vars) :
    (executeNode env calls frame gate (waitingNode run version)).exec started =
      (dispatchTool env frame.run gate slug params (freshToolContext frame.run gate params) run.contextJson.vars).exec
        started := by
  obtain ⟨config, read, rfl, mapped⟩ := configured.config
  have fresh : pendingFor run.contextJson.vars gate = none := by
    unfold pendingFor
    rw [configured.unparked]
    rfl
  unfold executeNode
  rw [nodeType_tool configured.type]
  rw [here, executeToolNode, read, fresh, exec_bind_ok (exec_ofExcept _ _)]
  rw [mapped, exec_bind_ok (exec_ofExcept _ _)]

theorem Stands.served (reachable : Reachable env terms (w, [])) (stands : Stands w owner run version gate)
    (nests : 0 < env.nesting) (configured : ToolReady env run version slug params)
    (onward : Onward env run version gate .plain w)
    (open_ : shouldSimulateExternalWrite env run slug = true ∨ ∃ result,
      env.executeTool (.stepStarted run.id version gate .resumed run.contextJson.vars :: w.log)
        ⟨run.createdBy.getD "", slug, params, freshToolContext run gate params⟩ = .ok result ∧
        resultStatus result "approval_required" = false ∧ resultStatus result "denied" = false ∧
        resultStatus result "failed" = false) :
    Passes run.id gate (resumeRun env (service env) owner run.id .plain) w := by
  let vars := run.contextJson.vars
  let begun := (w.changeRun run.id (resumedRow vars)).record (.stepStarted run.id version gate .resumed vars)
  have executed : ∃ output after earlier vars', (executeNode env (inner env)
      (Frame.load (resumedRow vars run) version .resumed) gate (waitingNode run version)).exec begun =
        (.ok (succeeded output vars'), after) ∧ after.log = earlier ++ w.log := by
    rw [configured.executed (inner env) _ gate begun rfl]
    by_cases simulated : shouldSimulateExternalWrite env run slug = true
    · obtain ⟨output, vars', ran⟩ := @dispatchTool_simulated env begun slug (resumedRow vars run) gate params
        (freshToolContext run gate params) vars configured.named simulated
      exact ⟨output, begun, [_], vars', ran, rfl⟩
    · obtain ⟨result, answer, granted, allowed, done⟩ := open_.resolve_left simulated
      have real : shouldSimulateExternalWrite env run slug = false := by simpa using simulated
      obtain ⟨output, ran⟩ := @dispatchTool_answers env begun slug (resumedRow vars run) params
        (freshToolContext run gate params) gate vars result configured.named real answer granted allowed done
      exact ⟨output, _, [_, _], _, ran, rfl⟩
  obtain ⟨output, after, earlier, vars', ran, grown⟩ := executed
  exact stands.passes reachable nests earlier configured.granted ran grown onward

def parkedRow (gate slug id : String) (params result : Dict Json) (version : WorkflowVersion) (run : WorkflowRun) :
    WorkflowRun :=
  let frame := Frame.load (resumedRow run.contextJson.vars run) version .resumed
  pausedRow { frame with vars := parkedVars gate slug id params (freshToolContext run gate params) result frame.vars } gate
    .waitingApproval (resumedRow run.contextJson.vars run)

theorem parkedRow_node (slug id : String) (params result : Dict Json) (version : WorkflowVersion) (reached : run.currentNodeId = some gate) :
    waitingNode (parkedRow gate slug id params result version run) version = waitingNode run version := by
  unfold waitingNode
  rw [reached]
  rfl

theorem Stands.asked (reachable : Reachable env terms (w, [])) (stands : Stands w owner run version gate)
    (nests : 0 < env.nesting) (configured : ToolReady env run version slug params)
    (real : shouldSimulateExternalWrite env run slug = false) {result : Dict Json}
    (answer : env.executeTool (.stepStarted run.id version gate .resumed run.contextJson.vars :: w.log)
        ⟨run.createdBy.getD "", slug, params, freshToolContext run gate params⟩ = .ok result)
    (asks : resultStatus result "approval_required" = true) :
    ∃ row, Requested env run gate slug (env.uuid4 w.drawn) params row ∧
      ((Label.resume owner run.id .plain).next env w).db.approvals.get? (env.uuid4 w.drawn) = some row ∧
      ((Label.resume owner run.id .plain).next env w).now = w.now ∧
      Stands ((Label.resume owner run.id .plain).next env w) owner
        (parkedRow gate slug (env.uuid4 w.drawn) params result version run) version gate := by
  obtain ⟨definition, defined, readable⟩ := stands.readable
  obtain ⟨taken, -⟩ := resume_sound reachable stands.waiting configured.granted
  have here := stands.at run.contextJson.vars
  let vars := run.contextJson.vars
  let begun := (w.changeRun run.id (resumedRow vars)).record (.stepStarted run.id version gate .resumed vars)
  obtain ⟨output, row, after, requested, ran, -, runs, versions, definitions, now, stored⟩ :=
    @dispatchTool_asks env begun gate slug (resumedRow vars run) params (freshToolContext run gate params) vars result
      configured.named real answer asks
  let frame := Frame.load (resumedRow vars run) version .resumed
  have executed := (configured.executed (inner env) frame gate begun rfl).trans ran
  have visited := visitNode_pauses frame (w.changeRun run.id (resumedRow vars)) executed
  let kept := parkedVars gate slug (env.uuid4 w.drawn) params (freshToolContext run gate params) result vars
  let paused_ := (after.record (.stepFinished run.id gate (nodeTypeText (waitingNode run version)) .paused)).changeRun run.id
    (pausedRow { Frame.load (resumedRow vars run) version .resumed with vars := kept } gate .waitingApproval)
  have parked : paused_.db.runs.get? run.id = some (parkedRow gate slug (env.uuid4 w.drawn) params result version run) := by
    have row : after.db.runs.get? run.id = some (resumedRow vars run) := by rwa [runs]
    simp only [paused_, World.changeRun, World.record, Dict.get?_modify, row, Option.map_some, if_true]
    rfl
  have silent : (notifyIfTerminal (service env) run.id).exec paused_ = (.ok ⟨⟩, paused_) := by
    unfold notifyIfTerminal
    rw [exec_bind_ok (exec_get paused_), parked]
    rfl
  have resumed : (resumeRun env (service env) owner run.id .plain).exec w =
      (.ok ⟨⟩, { paused_ with committed := paused_.db }) := by
    rw [resumeRun_exec stands.waiting nests defined readable stands.versioned configured.granted taken,
      rest_stops here visited]
    exact exec_bind_ok silent
  have next : (Label.resume owner run.id .plain).next env w = { paused_ with committed := paused_.db } := by
    simp only [Label.next, called, resumed]
    rfl
  rw [next]
  have version_ : paused_.db.versions = w.db.versions := versions
  have definition_ : paused_.db.definitions = w.db.definitions := definitions
  refine ⟨row, ⟨requested.pending, requested.project, requested.type, requested.bound, requested.unconsumed,
    requested.hash⟩, stored, now, ⟨⟨parked, rfl, ?_⟩, ⟨definition, ?_, readable⟩, stands.versioned, rfl, stands.named, ?_⟩⟩
  · rw [version_]
    exact stands.waiting.version
  · rwa [definition_]
  · rw [parkedRow_node _ _ _ _ _ stands.reached]
    exact stands.found

structure Parks (run : WorkflowRun) (gate slug : String) (params pending : Dict Json) : Prop where
  stored : run.contextJson.vars.get "pending_tool" = .obj pending
  node : pending.get "node_id" = .str gate
  tool : pending.get "tool_slug" = .str slug
  params : pending.get "params" = .obj params
  context : ∃ context, (pending.get "context").toDict = .ok context

theorem parkedRow_parks (gate slug id : String) (params result : Dict Json) (version : WorkflowVersion)
    (run : WorkflowRun) :
    ∃ pending, Parks (parkedRow gate slug id params result version run) gate slug params pending := by
  refine ⟨parkedCall gate slug params (freshToolContext run gate params) result id, ?_, ?_, ?_, ?_, ?_⟩
  · simp [parkedRow, pausedRow, Frame.context, parkedVars, get_set]
  · simp [parkedCall, Dict.get, Dict.get?_cons]
  · simp [parkedCall, Dict.get, Dict.get?_cons]
  · simp [parkedCall, Dict.get, Dict.get?_cons]
  · simp [parkedCall, Dict.get, Dict.get?_cons, Json.toDict]

variable {pending : Dict Json} {approval : ApprovalRequest}

theorem Parks.checked (parks : Parks run gate slug params pending) (type : approval.approvalType = "tool:" ++ slug)
    (hashed : env.argumentsHash params ≠ "")
    (hash : approval.payloadJson.get "arguments_hash" = .str (env.argumentsHash params)) :
    checkPendingTool env approval run.contextJson.vars = .ok (approval, some (slug, params)) := by
  have call : pendingCall run.contextJson.vars = .ok (slug, params) := by
    have whole : (Json.obj pending).toDict = .ok pending := rfl
    have own : (Json.obj params).toDict = .ok params := rfl
    rw [pendingCall, parks.stored]
    simp only [bind, Except.bind, whole, parks.params, own, parks.tool, Json.strOrEmpty_str, pure, Except.pure]
  have exact_ : approval.approvalType ∈ exactTools slug := by simp [type, exactTools]
  unfold checkPendingTool
  simp [call, bind, Except.bind, exact_, hash, hashed]

/-- The mark `resume_run` sets on a call that was approved. -/
def markedCall (id : String) (approver : Json) (pending : Dict Json) : Dict Json :=
  ((pending.set "approval_request_id" (.str id)).set "approval_consumed" (.bool true)).set "approved_by" approver

theorem Parks.executed (parks : Parks run gate slug params pending) (named : slug ≠ "")
    (served : ToolAnswers env run slug params) (config : ∃ config, nodeConfig node = .ok config)
    (id : String) (approver : Json) (frame : Frame) (started : World) (own : frame.run.createdBy = run.createdBy)
    (vars : frame.vars = run.contextJson.vars.set "pending_tool" (.obj (markedCall id approver pending))) :
    ∃ output after newer vars', (executeToolNode env frame.run node gate frame.vars).exec started =
      (.ok (succeeded output vars'), after) ∧ after.log = newer ++ started.log := by
  obtain ⟨config, read⟩ := config
  obtain ⟨context, contexts⟩ := parks.context
  have found : pendingFor frame.vars gate = some (markedCall id approver pending) := by
    unfold pendingFor
    rw [vars, Dict.get_set_self]
    simp [Json.asObj?, markedCall, get_set, parks.node]
  have consumed : ((markedCall id approver pending).get "approval_consumed").truthy = true := by
    simp [markedCall, get_set]
  have slug_ : ((markedCall id approver pending).get "tool_slug").strOrEmpty = slug := by
    simp [markedCall, get_set, parks.tool]
  have params_ : ((markedCall id approver pending).get "params").toDict = .ok params := by
    simp [markedCall, get_set, parks.params, Json.toDict]
  have context_ : ((markedCall id approver pending).get "context").toDict = .ok context := by
    simpa [markedCall, get_set] using contexts
  rw [executeToolNode, read, exec_bind_ok (exec_ofExcept _ _), found]
  dsimp only
  rw [if_neg (not_not.mpr consumed), params_, exec_bind_ok (exec_ofExcept _ _), context_,
    exec_bind_ok (exec_ofExcept _ _), slug_]
  by_cases simulated : shouldSimulateExternalWrite env frame.run slug = true
  · obtain ⟨output, vars', ran⟩ := @dispatchTool_simulated env started slug frame.run gate params
      ((context.set "approval_granted" (.bool true)).set "approval_request_id"
        ((markedCall id approver pending).get "approval_request_id"))
      ((frame.vars.pop "pending_tool").pop "pending_approval_request_id") named simulated
    exact ⟨output, started, [], vars', ran, rfl⟩
  · obtain ⟨result, answer, allowed, done, given⟩ := served.answers started.log
      ((context.set "approval_granted" (.bool true)).set "approval_request_id"
        ((markedCall id approver pending).get "approval_request_id"))
    rw [← own] at answer
    have granted := given (by simp [get_set])
    obtain ⟨output, ran⟩ := dispatchTool_answers gate
      ((frame.vars.pop "pending_tool").pop "pending_approval_request_id") named (by simpa using simulated) answer granted allowed done
    exact ⟨output, _, [_], _, ran, rfl⟩

theorem Stands.permitted (reachable : Reachable env terms (w, [])) (stands : Stands w owner run version gate)
    (nests : 0 < env.nesting) (type : nodeTypeText (waitingNode run version) = "tool")
    (config : ∃ config, nodeConfig (waitingNode run version) = .ok config)
    (parks : Parks run gate slug params pending) (slugged : slug ≠ "") (served : ToolAnswers env run slug params)
    (found : w.db.approvals.get? id = some approval) (named : id ≠ "") (approved : approval.status = .approved)
    (project : otherProject approval run = false) (unconsumed : alreadyConsumed approval.payloadJson = false)
    (bound : boundTo approval run.id (some gate) = true) (kind : approval.approvalType = "tool:" ++ slug)
    (hash : approval.payloadJson.get "arguments_hash" = .str (env.argumentsHash params))
    (onward : Onward env run version gate { Resumption.plain with approvalRequestId := some id } w) :
    Passes run.id gate
      (resumeRun env (service env) owner run.id { Resumption.plain with approvalRequestId := some id }) w := by
  let approver := (Json.ofOption approval.approvedByUserId).pyOr (.ofOption none)
  let vars := run.contextJson.vars.set "pending_tool" (.obj (markedCall id approver pending))
  have granting : grantedVars id approval run.currentNodeId none true run.contextJson.vars = .ok vars := by
    rw [grantedVars, parks.stored]
    rfl
  have checked : checkApprovalForNode env (w.db.approvals.get? id) run run.currentNodeId run.contextJson.vars true =
      .ok (approval, some (slug, params)) := by
    rw [found, stands.reached, checkApprovalForNode_ok approved project unconsumed bound true]
    exact parks.checked kind served.hashed hash
  have holds : (run.contextJson.vars.get "pending_tool").truthy = true := by
    rw [parks.stored]
    cases pending with
    | nil => cases parks.node
    | cons entry rest => rfl
  have granted : (grantedResume env run (waitingNode run version)
      { Resumption.plain with approvalRequestId := some id } run.contextJson.vars).exec w =
        (.ok vars, consumedWorld env id approval (some (slug, params)) run w) := by
    unfold grantedResume
    simp only [type, show ("tool" = "approval") = False by decide, if_false, Option.getD_some, named, holds, and_self,
      if_true]
    exact consumeApprovalForNode_exec checked granting
  let frame := Frame.load (resumedRow vars run) version .resumed
  let begun := ((consumedWorld env id approval (some (slug, params)) run w).changeRun run.id (resumedRow vars)).record
    (.stepStarted run.id version gate .resumed vars)
  obtain ⟨output, after, newer, vars', ran, grown⟩ := parks.executed slugged served config id approver
    frame begun rfl rfl
  have executed : (executeNode env (inner env) frame gate (waitingNode run version)).exec begun =
      (.ok (succeeded output vars'), after) := by
    unfold executeNode
    rwa [nodeType_tool type]
  have added : after.log = (newer ++ [.stepStarted run.id version gate .resumed vars,
      .approvalConsumed run.id (run.currentNodeId.getD "") approval (some (slug, params))]) ++ w.log := by
    rw [grown, List.append_assoc]
    rfl
  exact stands.passes reachable nests _ granted executed added onward

end Calling

section Returning

variable {w : World} {owner approvalId gate : String} {run : WorkflowRun} {version : WorkflowVersion}
  {approval : ApprovalRequest} {config : Dict Json} {ruling : Ruling}

/-- What takes a run on that waits at a gate for changes. At an approval node it is a request, approved or still to be
    approved; at a tool it is the service, at once or behind an approval of its own. -/
inductive Continuable (env : Env) (ruling : Ruling) (w : World) (owner : String) (run : WorkflowRun)
    (version : WorkflowVersion) (gate : String) : Prop
  | approved (id : String) (approval : ApprovalRequest) (type : nodeTypeText (waitingNode run version) = "approval")
      (found : w.db.approvals.get? id = some approval) (admits : Admits run gate id approval)
      (onward : Onward env run version gate { Resumption.plain with approvalRequestId := some id } w)
  | approvable (id user : String) (reason : Option String) (approval : ApprovalRequest)
      (type : nodeTypeText (waitingNode run version) = "approval")
      (found : w.db.approvals.get? id = some approval) (pending : approval.status = .pending)
      (ruled : ruling approval true user w.now = .decided)
      (admits : Admits run gate id (decidedRow id user true reason approval))
      (onward : Onward env run version gate { Resumption.plain with approvalRequestId := some id }
        (ruledWorld id user reason approval w))
  | served (slug : String) (params : Dict Json) (configured : ToolReady env run version slug params)
      (onward : Onward env run version gate .plain w)
      (open_ : shouldSimulateExternalWrite env run slug = true ∨ ∃ result,
        env.executeTool (.stepStarted run.id version gate .resumed run.contextJson.vars :: w.log)
          ⟨run.createdBy.getD "", slug, params, freshToolContext run gate params⟩ = .ok result ∧
          resultStatus result "approval_required" = false ∧ resultStatus result "denied" = false ∧
          resultStatus result "failed" = false)
  | asked (slug user : String) (reason : Option String) (params result : Dict Json)
      (configured : ToolReady env run version slug params) (real : shouldSimulateExternalWrite env run slug = false)
      (answer : env.executeTool (.stepStarted run.id version gate .resumed run.contextJson.vars :: w.log)
        ⟨run.createdBy.getD "", slug, params, freshToolContext run gate params⟩ = .ok result)
      (asks : resultStatus result "approval_required" = true) (served : ToolAnswers env run slug params)
      (ruled : ∀ row, Requested env run gate slug (env.uuid4 w.drawn) params row → ruling row true user w.now = .decided)
      (onward : ∀ row, Requested env run gate slug (env.uuid4 w.drawn) params row →
        Onward env (parkedRow gate slug (env.uuid4 w.drawn) params result version run) version gate
          { Resumption.plain with approvalRequestId := some (env.uuid4 w.drawn) }
          (ruledWorld (env.uuid4 w.drawn) user reason row ((Label.resume owner run.id .plain).next env w)))

theorem Stands.asks_on (ran : Run env .any w) (stands : Stands w owner run version gate) (nests : 0 < env.nesting)
    (ids : ∀ n, env.uuid4 n ≠ "") {slug user : String} {reason : Option String} {params result : Dict Json}
    (configured : ToolReady env run version slug params) (real : shouldSimulateExternalWrite env run slug = false)
    (answer : env.executeTool (.stepStarted run.id version gate .resumed run.contextJson.vars :: w.log)
        ⟨run.createdBy.getD "", slug, params, freshToolContext run gate params⟩ = .ok result)
    (asks : resultStatus result "approval_required" = true) (served : ToolAnswers env run slug params)
    (ruled : ∀ row, Requested env run gate slug (env.uuid4 w.drawn) params row → ruling row true user w.now = .decided)
    (onward : ∀ row, Requested env run gate slug (env.uuid4 w.drawn) params row →
        Onward env (parkedRow gate slug (env.uuid4 w.drawn) params result version run) version gate
          { Resumption.plain with approvalRequestId := some (env.uuid4 w.drawn) }
          (ruledWorld (env.uuid4 w.drawn) user reason row ((Label.resume owner run.id .plain).next env w))) :
    Leavable env ruling run.id gate w := by
  obtain ⟨row, requested, found, now, stands'⟩ := stands.asked ran.reachable.1 nests configured real answer asks
  obtain ⟨pending, parks⟩ := parkedRow_parks gate slug (env.uuid4 w.drawn) params result version run
  have same := parkedRow_node slug (env.uuid4 w.drawn) params result version stands.reached
  obtain ⟨config, read, -⟩ := configured.config
  have ran' : Run env .any ((Label.resume owner run.id .plain).next env w) := ran.step trivial trivial
  have identified : run.id ≠ "" := by
    obtain ⟨-, k, -, drawn⟩ := ran.reachable.1.sound.rows _ _ stands.waiting.row
    rw [drawn]
    exact ids k
  have decision : Run env .any (ruledWorld (env.uuid4 w.drawn) user reason row
      ((Label.resume owner run.id .plain).next env w)) :=
    ran'.decided (env.uuid4 w.drawn) user reason row
  apply Leavable.later [.resume owner run.id .plain]
  apply stands'.decides ran' identified found requested.pending (now.symm ▸ ruled row requested) requested.bound
  intro reader reads
  apply reads.permitted decision.reachable.1 nests (same.symm ▸ configured.type) ⟨config, same.symm ▸ read⟩ parks
    configured.named ⟨served.answers, served.hashed⟩ (get?_set_self _ _ _) (ids _) rfl
  · exact requested.project
  · exact requested.unconsumed
  · exact requested.bound
  · exact requested.type
  · exact requested.hash served.hashed
  · exact onward row requested

theorem Continuable.leavable (ran : Run env .any w) (stands : Stands w owner run version gate) (nests : 0 < env.nesting)
    (ids : ∀ n, env.uuid4 n ≠ "") (continuable : Continuable env ruling w owner run version gate) :
    Leavable env ruling run.id gate w := by
  cases continuable with
  | approved id approval type found admits onward =>
    exact Leavable.now (stands.admitted ran.reachable.1 nests type found admits onward)
  | approvable id user reason approval type found pending ruled admits onward =>
    have identified : run.id ≠ "" := by
      obtain ⟨-, k, -, drawn⟩ := ran.reachable.1.sound.rows _ _ stands.waiting.row
      rw [drawn]
      exact ids k
    have decision : Run env .any (ruledWorld id user reason approval w) :=
      ran.decided id user reason approval
    apply stands.decides ran identified found pending ruled admits.bound
    intro reader reads
    exact reads.admitted decision.reachable.1 nests type (get?_set_self _ _ _) admits onward
  | served slug params configured onward open_ =>
    exact Leavable.now (stands.served ran.reachable.1 nests configured onward open_)
  | asked slug user reason params result configured real answer asks served ruled onward =>
    exact stands.asks_on ran nests ids configured real answer asks served ruled onward

def returnedRow (approvalId : String) (approval : ApprovalRequest) (config : Dict Json) (run : WorkflowRun) : WorkflowRun :=
  let rejection := rejectionOf approvalId approval run.currentNodeId config
  rejectedRow .requestChanges rejection (rejectedVars rejection run.contextJson.vars) run

theorem waitingNode_named {type : String} (typed : nodeTypeText (waitingNode run version) = type) (known : type ≠ "") :
    ∃ gate, run.currentNodeId = some gate ∧ gate ≠ "" := by
  have unknown : nodeTypeText .null = "" := rfl
  cases reached : run.currentNodeId with
  | none =>
    simp only [waitingNode, currentNode, reached, Option.getD_none, unknown] at typed
    exact absurd typed.symm known
  | some gate =>
    refine ⟨gate, rfl, fun empty => ?_⟩
    simp only [waitingNode, currentNode, reached, empty, if_true, Option.getD_none, unknown] at typed
    exact absurd typed.symm known

theorem reject_returns (named : ∀ row, w.db.runs.get? run.id = some row → row.id = run.id)
    (given : Acceptable w.db owner run.id approvalId run approval version config)
    (asked : continuationOf config = .requestChanges) :
    (Label.reject owner run.id approvalId).next env w =
      { rejectedWorld env approvalId run approval config w with
        committed := (rejectedWorld env approvalId run approval config w).db } := by
  rcases (applyApprovalRejection_exec named : (Refused w.db owner run.id approvalId ∧ ∃ error,
      (applyApprovalRejection env (service env) owner run.id approvalId).exec w = (.error error, w)) ∨ _) with
    ⟨refused, -⟩ | ⟨run', approval', version', config', given', carried⟩
  · exact absurd given (refused run approval version config)
  cases given.row.symm.trans given'.row
  cases given.request.symm.trans given'.request
  cases given.stored.2.symm.trans given'.stored.2
  cases given.config.symm.trans given'.config
  rw [asked] at carried
  simp only [Label.next, called, carried]
  rfl

theorem returned_stands (ran : Run env .any w)
    (given : Acceptable w.db owner run.id approvalId run approval version config)
    (asked : continuationOf config = .requestChanges) (reached : run.currentNodeId = some gate) (named : gate ≠ "")
    (found : (nodesById version.nodesJson).get? gate = some (waitingNode run version)) :
    Stands ((Label.reject owner run.id approvalId).next env w) owner (returnedRow approvalId approval config run) version
      gate := by
  have rows : ∀ row, w.db.runs.get? run.id = some row → row.id = run.id :=
    fun row stored => (ran.reachable.1.sound.rows run.id row stored).1
  rw [reject_returns rows given asked]
  have row : (rejectedWorld env approvalId run approval config w).db.runs.get? run.id =
      some (returnedRow approvalId approval config run) := by
    unfold rejectedWorld returnedRow
    rw [asked]
    simp [World.record, World.changeRun, World.aside, Dict.get?_modify, given.row]
  have same : waitingNode (returnedRow approvalId approval config run) version = waitingNode run version := by
    unfold waitingNode returnedRow rejectedRow
    simp_all
  refine ⟨⟨row, rfl, given.stored.2⟩, given.readable, given.stored.1, ?_, named, ?_⟩
  · unfold returnedRow rejectedRow
    simp_all
  · rwa [same]

/-- A run that is sent back for changes can be taken past its gate where a request, approved or still to be approved, opens
    the approval node, or the service lets the tool be called. The rejection itself leaves nothing that would. -/
theorem changes_leave_gate (ran : Run env .any w) (nests : 0 < env.nesting) (ids : ∀ n, env.uuid4 n ≠ "")
    (given : Acceptable w.db owner run.id approvalId run approval version config)
    (asked : continuationOf config = .requestChanges)
    (type : nodeTypeText (waitingNode run version) = "approval" ∨ nodeTypeText (waitingNode run version) = "tool")
    (once : (nodesById version.nodesJson).get? (run.currentNodeId.getD "") = some (waitingNode run version))
    (continuable : Continuable env ruling ((Label.reject owner run.id approvalId).next env w) owner
      (returnedRow approvalId approval config run) version (run.currentNodeId.getD "")) :
    Leavable env ruling run.id (run.currentNodeId.getD "") ((Label.reject owner run.id approvalId).next env w) := by
  obtain ⟨gate, reached, named⟩ : ∃ gate, run.currentNodeId = some gate ∧ gate ≠ "" := by
    rcases type with type | type <;> exact waitingNode_named type (by decide)
  rw [reached] at once continuable ⊢
  have stands : Stands ((Label.reject owner run.id approvalId).next env w) owner
      (returnedRow approvalId approval config run) version gate := returned_stands ran given asked reached named once
  have ran' : Run env .any ((Label.reject owner run.id approvalId).next env w) := ran.step trivial trivial
  have left := continuable.leavable ran' stands nests ids
  exact left

end Returning

section Stuck

variable {w : World} {ruling : Ruling}

structure DeadEnd (w : World) : Prop where
  decided : ∀ id row, w.db.approvals.get? id = some row → row.status ≠ .pending ∧ row.status ≠ .approved
  gates : ∀ id run version, w.db.runs.get? id = some run → w.db.versions.get? run.workflowVersionId = some version →
    nodeTypeText (waitingNode run version) = "approval"
  settled : w.committed = w.db

theorem DeadEnd.unopened (env : Env) (dead : DeadEnd w) (id : String) (run : WorkflowRun) (nodeId : Option String)
    (vars : Dict Json) :
    ∃ error, checkApprovalForNode env (w.db.approvals.get? id) run nodeId vars false = .error error := by
  cases found : w.db.approvals.get? id with
  | none => exact ⟨_, rfl⟩
  | some row =>
    have other := (dead.decided id row found).2
    exact ⟨_, by rw [checkApprovalForNode, if_pos other]⟩

theorem DeadEnd.resume (env : Env) (dead : DeadEnd w) (owner runId : String) (given : Resumption) :
    ∃ error, (resumeRun env (service env) owner runId given).exec w = (.error error, w) := by
  unfold resumeRun
  have ran := (getRun_reads runId).exec w
  cases read : ((getRun runId).exec w).1 with
  | error error => exact ⟨error, exec_bind_error (by rw [ran, read])⟩
  | ok run =>
    rw [read] at ran
    have row := getRun_found ran
    rw [exec_bind_ok ran]
    have defined := (getDefinition_reads owner run.workflowId).exec w
    cases found : ((getDefinition owner run.workflowId).exec w).1 with
    | error error => exact ⟨error, exec_bind_error (by rw [defined, found])⟩
    | ok definition =>
      rw [found] at defined
      rw [exec_bind_ok defined]
      have checked := (checkAccess_reads owner definition).exec w
      cases access : ((checkAccess owner definition).exec w).1 with
      | error error => exact ⟨error, exec_bind_error (by rw [checked, access])⟩
      | ok done =>
        rw [access] at checked
        rw [exec_bind_ok checked]
        by_cases resumable : run.status.resumable = true
        swap
        · exact ⟨_, by rw [if_pos resumable]; rfl⟩
        rw [if_neg (not_not.mpr resumable)]
        rcases getVersion_exec w run.workflowVersionId with ⟨version, -, stored, fetched⟩ | ⟨-, fetched⟩
        · rw [exec_bind_ok fetched]
          have type := dead.gates runId run version row stored
          have refused : ∃ error, (grantedResume env run (waitingNode run version) given run.contextJson.vars).exec w =
              (.error error, w) := by
            unfold grantedResume
            rw [if_pos type]
            by_cases empty : given.approvalRequestId.getD "" = ""
            · exact ⟨_, by rw [if_pos empty]; rfl⟩
            obtain ⟨error, failed⟩ := dead.unopened env (given.approvalRequestId.getD "") run run.currentNodeId
              run.contextJson.vars
            refine ⟨error, ?_⟩
            rw [if_neg empty, consumeApprovalForNode, exec_bind_ok (exec_get w), failed]
            rfl
          obtain ⟨error, failed⟩ := refused
          exact ⟨error, exec_bind_error failed⟩
        · rw [exec_bind_ok fetched]
          exact ⟨_, rfl⟩

theorem DeadEnd.labels (ruling : Ruling) (dead : DeadEnd w) (operation : Operation) :
    Operation.labels ruling w operation = [] ∨
      ∃ owner runId given, Operation.labels ruling w operation = [.resume owner runId given] := by
  cases operation with
  | resume owner runId given => exact .inr ⟨owner, runId, given, rfl⟩
  | decide approvalId userId approve reason =>
    left
    cases found : w.db.approvals.get? approvalId with
    | none => simp [Operation.labels, found]
    | some row => simp [Operation.labels, found, (dead.decided approvalId row found).1]

theorem DeadEnd.next (dead : DeadEnd w) (owner runId : String) (given : Resumption) :
    (Label.resume owner runId given).next env w = w := by
  obtain ⟨error, failed⟩ := dead.resume env owner runId given
  simp only [Label.next, called, failed]
  exact ends_settled dead.settled

theorem DeadEnd.afterwards (dead : DeadEnd w) (operations : List Operation) :
    Workflow.afterwards env ruling operations w = w := by
  induction operations with
  | nil => rfl
  | cons operation rest ih =>
    rw [Workflow.afterwards]
    rcases dead.labels ruling operation with none | ⟨owner, runId, given, one⟩
    · rwa [none]
    · rw [one]
      show Workflow.afterwards env ruling rest ((Label.resume owner runId given).next env w) = w
      rwa [dead.next]

theorem DeadEnd.stays (dead : DeadEnd w) (runId gate : String) : ¬ Leavable env ruling runId gate w := by
  rintro ⟨operations, operation, earlier, last, same, passes⟩
  rw [dead.afterwards] at same passes
  rcases dead.labels ruling operation with none | ⟨owner, id, given, one⟩
  · simp_all
  rw [one] at same
  cases earlier with
  | cons first others => cases others <;> cases same
  | nil =>
    cases same
    obtain ⟨after, newer, type, ran, -⟩ := passes
    obtain ⟨error, failed⟩ := dead.resume env owner id given
    cases failed.symm.trans ran

end Stuck

def draft : WorkflowVersion :=
  published "draft" [plainNode "gate" "approval" [("on_reject", .str "request_changes")]] [] "gate"

def draftRefusal : ApprovalRequest :=
  { ((World.after stillEnv (publishing draft ++ [.start (startOf "draft" []) "dev"]) {}).db.approvals.get? "rr").getD
      default with status := .rejected, reason := some "not yet" }

/-- The draft was started and its request rejected; `others` are further requests that are there by then. -/
def draftLabels (others : List ApprovalRequest) : List Label :=
  publishing draft ++ .start (startOf "draft" []) "dev" ::
    (others.map fun row => .changed (.approval row)) ++ [.changed (.approval draftRefusal)]

def draftWorld (others : List ApprovalRequest) : World := World.after stillEnv (draftLabels others) {}

def returnedWorld (others : List ApprovalRequest) : World :=
  (Label.reject "owner" "r" "rr").next stillEnv (draftWorld others)

theorem draftWorld_run (others : List ApprovalRequest) : Run stillEnv .any (draftWorld others) := by
  have changes : ∀ w, Possible stillEnv .any (others.map (fun row => .changed (.approval row)) ++
      [.changed (.approval draftRefusal)]) w := by
    induction others with
    | nil => exact fun w => ⟨trivial, trivial, trivial⟩
    | cons row rest ih => exact fun w => ⟨trivial, trivial, ih _⟩
  exact Run.init.after (publishing_possible trivial trivial ⟨trivial, trivial, changes _⟩)

theorem returned_draft_stuck :
    Run stillEnv .any (returnedWorld []) ∧ validateGraph draft.nodesJson draft.edgesJson draft.entryNodeId = [] ∧
      ((returnedWorld []).db.runs.get? "r").map (fun run => (run.status, run.currentNodeId)) =
        some (.waitingInput, some "gate") ∧
      ∀ ruling, ¬ Leavable stillEnv ruling "r" "gate" (returnedWorld []) := by
  have ran : Run stillEnv .any (returnedWorld []) := (draftWorld_run []).step trivial trivial
  have requests : ((returnedWorld []).db.approvals.all fun entry => entry.2.status = .rejected) = true := by decide +kernel
  have runs : ((returnedWorld []).db.runs.all fun entry => nodeTypeText (waitingNode entry.2 draft) = "approval") = true := by
    decide +kernel
  have versions : ((returnedWorld []).db.versions.all fun entry => entry.2 = draft) = true := by decide +kernel
  have dead : DeadEnd (returnedWorld []) := by
    refine ⟨fun id row found => ?_, fun id run version row stored => ?_, ran.reachable.2⟩
    · have rejected := List.all_eq_true.mp requests _ (mem_of_get? found)
      simp_all
    · have one := List.all_eq_true.mp versions _ (mem_of_get? stored)
      have gate := List.all_eq_true.mp runs _ (mem_of_get? row)
      simp_all
  exact ⟨ran, by decide +kernel, by decide +kernel, fun ruling => dead.stays "r" "gate"⟩

def secondRequest : ApprovalRequest :=
  { (default : ApprovalRequest) with
    id := "second", status := .pending,
    payloadJson := [("workflow_run_id", .str "r"), ("workflow_node_id", .str "gate")] }

def draftRun : WorkflowRun := ((draftWorld [secondRequest]).db.runs.get? "r").getD default

def goesOn (env : Env) (run : WorkflowRun) (version : WorkflowVersion) (gate : String) (given : Resumption) (w : World) :
    Bool :=
  match (grantedResume env run (waitingNode run version) given run.contextJson.vars).exec w with
  | (.error _, _) => true
  | (.ok vars, granting) =>
    match (visitNode env (inner env) (Frame.load (resumedRow vars run) version .resumed) gate (waitingNode run version)).exec
      (granting.changeRun run.id (resumedRow vars)) with
    | (.ok (some next), passed) => ((advanceLoop env (inner env) (maxSteps version - 1) next).exec passed).1.isOk
    | _ => true

theorem onward_of_goesOn {run : WorkflowRun} {version : WorkflowVersion} {gate : String} {given : Resumption} {w : World}
    (goes : goesOn env run version gate given w = true) : Onward env run version gate given w := by
  intro vars granting next passed granted visited
  unfold goesOn at goes
  simp only [granted, visited] at goes
  cases ended : ((advanceLoop env (inner env) (maxSteps version - 1) next).exec passed).1 with
  | error error =>
    rw [ended] at goes
    cases goes
  | ok done => rfl

theorem second_request_opens :
    Leavable stillEnv (fun _ _ _ _ => .decided) draftRun.id (draftRun.currentNodeId.getD "")
      ((Label.reject "owner" draftRun.id "rr").next stillEnv (draftWorld [secondRequest])) := by
  have row : (draftWorld [secondRequest]).db.runs.get? "r" = some draftRun := by decide +kernel
  have id : draftRun.id = "r" := by decide +kernel
  have ids : ∀ n, stillEnv.uuid4 n ≠ "" := by
    intro n same
    have texts := congrArg String.toList same
    simp [stillEnv] at texts
  have config : nodeConfig (waitingNode draftRun draft) = .ok [("on_reject", .str "request_changes")] := by decide +kernel
  have given : Acceptable (draftWorld [secondRequest]).db "owner" draftRun.id "rr" draftRun draftRefusal draft
      [("on_reject", .str "request_changes")] := by
    refine ⟨id ▸ row, ⟨publishedDefinition draft, ?_, .inl rfl⟩, ?_, ?_, rfl, ⟨?_, ?_⟩, config⟩
    all_goals decide +kernel
  have type : nodeTypeText (waitingNode draftRun draft) = "approval" := by decide +kernel
  apply changes_leave_gate (draftWorld_run [secondRequest]) (by decide) ids given (by decide +kernel) (.inl type)
    (by decide +kernel)
  apply Continuable.approvable "second" "owner" none secondRequest
  · decide +kernel
  · decide +kernel
  · rfl
  · rfl
  · refine ⟨rfl, by decide, ?_, ?_, ?_, [], ?_, rfl⟩
    all_goals decide +kernel
  · apply onward_of_goesOn
    decide +kernel

end Troop.Workflow
