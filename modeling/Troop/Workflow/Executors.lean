import Troop.Workflow.Spot

namespace Troop.Workflow

variable {env : Env} {terms : Terms} {spot : Spot env terms} {fact : World → Visit → Prop}

open Spot

theorem createWorkflowApprovalRequest_does (stable : Stable fact) (nodeId approvalType actionKey : String)
    (argsHash : Option String) (reason : String) (extraPayload : Dict Json) :
    spot.Does fact
      (createWorkflowApprovalRequest env spot.frame.run nodeId approvalType actionKey argsHash reason extraPayload)
      (fun _ => fact) := by
  refine Does.attempt fun rawArguments _ => ?_
  refine Does.bind (Does.uuid4 stable) fun id => Does.read fun w => ?_
  refine Does.bind (Does.setApprovals stable _) fun _ => ?_
  refine Does.bind (Does.emit (fun _ _ _ => .approvalRequested _ _) fun _ _ given => stable.reported given)
    fun _ => ?_
  exact Does.pure fun _ _ given => given

theorem executeApprovalNode_does (stable : Stable fact) (node : Json) :
    spot.Does fact (executeApprovalNode env spot.frame.run node spot.cursor spot.frame.vars)
      (fun outcome w visit => fact w visit ∧ ApprovalEffect spot.cursor spot.frame.vars outcome) := by
  refine Does.ite (fun grant => ?_) fun _ => Does.ite (fun _ => ?_) fun _ => ?_
  · refine Does.attempt fun consumed _ => ?_
    refine Does.ite (fun _ => ?_) fun _ => Does.ite (fun _ => ?_) fun _ => ?_
    · exact Does.pure fun _ _ given => ⟨given, .refused grant.1 grant.2⟩
    · exact Does.pure fun _ _ given => ⟨given, .refused grant.1 grant.2⟩
    · exact Does.pure fun _ _ given => ⟨given, .granted _ _ _ grant.1 grant.2⟩
  · exact Does.pure fun _ _ given => ⟨given, .waiting _⟩
  · refine Does.bind (createWorkflowApprovalRequest_does stable _ _ _ _ _ _) fun id => ?_
    exact Does.pure fun _ _ given => ⟨given, .requested id⟩

theorem executeDelayNode_does (stable : Stable fact) (node : Json) :
    spot.Does fact (executeDelayNode env spot.frame.run node spot.cursor spot.frame.vars)
      (fun outcome w visit => fact w visit ∧ DelayEffect spot.frame.vars outcome) := by
  refine Does.attempt fun config _ => Does.attempt fun delayState _ => Does.read fun w => ?_
  refine Does.ite (fun _ => ?_) fun _ => ?_
  · refine Does.attempt fun moment _ => ?_
    refine Does.ite (fun _ => ?_) fun _ => ?_
    · exact Does.pure fun _ _ given => ⟨given, .elapsed _⟩
    · exact Does.pure fun _ _ given => ⟨given, .early⟩
  · refine Does.attempt fun seconds _ => ?_
    refine Does.ite (fun _ => ?_) fun _ => ?_
    · refine Does.bind (Does.emit (fun _ _ _ => .delayScheduled _ _) fun _ _ given => stable.reported given)
        fun _ => ?_
      exact Does.pure fun _ _ given => ⟨given, .scheduled _ _⟩
    · exact Does.pure fun _ _ given => ⟨given, .none _⟩

structure ToolNode (spot : Spot env terms) (nodeId : String) (toolNode : Json) : Prop where
  found : spot.frame.nodes.get? nodeId = some toolNode
  type : nodeType toolNode = some .tool
  place : nodeId = spot.cursor ∨ nodeType spot.node = some .parallel

variable {nodeId : String} {toolNode : Json} {id : String} {track : Track} {vars pending : Dict Json}
  {rows : Dict TaskRun}

theorem toolExecutionServiceExecute_does (stable : Stable fact) {call : ToolCall}
    (dispatch : Dispatch env spot.frame spot.cursor spot.node nodeId call.toolSlug call.params call.context) :
    spot.Does fact (toolExecutionServiceExecute env spot.frame.run nodeId call) (fun _ => fact) := by
  refine Does.read fun w => ?_
  refine Does.bind (Does.emit (fun _ _ _ => .toolExecuted _ _ _ _ _ dispatch) fun _ _ given => stable.reported given)
    fun _ => ?_
  exact Does.ofExcept fun _ _ _ _ given => given

theorem parked_of_call {nodeId toolSlug : String} {vars base params context result : Dict Json} (dropped : ToolBase nodeId vars base) (called : CalledTool toolNode nodeId vars toolSlug) :
    Nonempty (Parked toolNode nodeId vars
      ((base.set "pending_tool" (.obj (parkedCall nodeId toolSlug params context result id))).set
        "pending_approval_request_id" (.str id))) := by
  refine ⟨⟨parkedCall nodeId toolSlug params context result id, base, dropped.imp_left And.right, ?_, ?_, ?_, ?_, ?_⟩⟩
  · rw [Dict.get_set_of_ne _ _ (by decide), Dict.get_set_self]
  · grind [Dict.get_set_of_ne]
  · simp [parkedCall, Dict.get, Dict.get?_cons]
  · simp [parkedCall, Dict.get, Dict.get?_cons]
  · simpa [parkedCall, Dict.get, Dict.get?_cons] using called

theorem dispatchTool_does (stable : Stable fact) {nodeId toolSlug : String}
    {params context base : Dict Json} (at_ : ToolNode spot nodeId toolNode)
    (dropped : ToolBase nodeId spot.frame.vars base) (called : CalledTool toolNode nodeId spot.frame.vars toolSlug)
    (source : context = freshToolContext spot.frame.run nodeId params ∨
      ∃ pending, pendingFor spot.frame.vars nodeId = some pending ∧
        (pending.get "approval_consumed").truthy = true ∧ (pending.get "params").toDict = .ok params) :
    spot.Does fact (dispatchTool env spot.frame.run nodeId toolSlug params context base)
      (fun outcome w visit => fact w visit ∧ ToolEffect toolNode nodeId spot.frame.vars outcome) := by
  refine Does.ite (fun _ => ?_) fun _ => Does.ite (fun _ => ?_) fun real => ?_
  · exact Does.pure fun _ _ given => ⟨given, .failed _ _ dropped⟩
  · exact Does.pure fun _ _ given => ⟨given, .result _ _ _ dropped⟩
  have dispatch : Dispatch env spot.frame spot.cursor spot.node nodeId toolSlug params context :=
    ⟨toolNode, at_.found, at_.type, at_.place, called, by simpa using real, source⟩
  refine Does.bind (toolExecutionServiceExecute_does stable dispatch) fun result => ?_
  refine Does.ite (fun _ => ?_) fun _ => Does.ite (fun _ => ?_) fun _ => ?_
  · refine Does.bind (createWorkflowApprovalRequest_does stable _ _ _ _ _ _) fun id => ?_
    exact Does.pure fun _ _ given => ⟨given, .parked _ _ (parked_of_call dropped called).some⟩
  · exact Does.pure fun _ _ given => ⟨given, .failed _ _ dropped⟩
  · exact Does.pure fun _ _ given => ⟨given, .result _ _ _ dropped⟩

theorem pendingFor_node (found : pendingFor vars nodeId = some pending) :
    vars.get "pending_tool" = .obj pending ∧ pending.get "node_id" = .str nodeId := by
  unfold pendingFor at found
  cases stored : vars.get "pending_tool" with
  | obj members =>
    simp only [stored, Json.asObj?] at found
    split at found
    · simp_all
    · cases found
  | _ => simp [stored, Json.asObj?] at found

theorem approvalOfPending_does (stable : Stable fact) (nodeId : String) (pending vars : Dict Json) :
    spot.Does fact (approvalOfPending env spot.frame.run nodeId pending vars) (fun _ => fact) := by
  refine Does.ite (fun _ => Does.pure fun _ _ given => given) fun _ => Does.attempt fun params _ => ?_
  refine Does.bind (createWorkflowApprovalRequest_does stable _ _ _ _ _ _) fun id => ?_
  exact Does.pure fun _ _ given => given

theorem parked_of_pending (approvalId : Json) (found : pendingFor vars nodeId = some pending)
    (unconsumed : (pending.get "approval_consumed").truthy = false) :
    Nonempty (Parked toolNode nodeId vars
      ((vars.set "pending_approval_request_id" approvalId).set "pending_tool"
        (.obj (pending.set "approval_request_id" approvalId)))) := by
  refine ⟨⟨pending.set "approval_request_id" approvalId, vars, .inl rfl, ?_, ?_, ?_, ?_, ?_⟩⟩
  · rw [Dict.get_set_self]
  · grind [Dict.get_set_of_ne]
  · rwa [Dict.get_set_of_ne _ _ (by decide)]
  · rw [Dict.get_set_of_ne _ _ (by decide)]
    exact (pendingFor_node found).2
  · rw [Dict.get_set_of_ne _ _ (by decide)]
    exact .inr ⟨pending, found, rfl⟩

theorem awaitToolApproval_does (stable : Stable fact) {pending : Dict Json}
    (found : pendingFor spot.frame.vars nodeId = some pending)
    (unconsumed : (pending.get "approval_consumed").truthy = false) :
    spot.Does fact (awaitToolApproval env spot.frame.run nodeId pending spot.frame.vars)
      (fun outcome w visit => fact w visit ∧ ToolEffect toolNode nodeId spot.frame.vars outcome) := by
  refine Does.ite (fun _ => Does.attempt fun params _ => ?_) fun _ => ?_
  · exact Does.pure fun _ _ given => ⟨given, .result _ _ _ (.inr rfl)⟩
  · refine Does.bind (approvalOfPending_does stable nodeId pending spot.frame.vars) fun approvalId => ?_
    exact Does.pure fun _ _ given => ⟨given, .parked _ _ (parked_of_pending approvalId found unconsumed).some⟩

theorem executeToolNode_does (stable : Stable fact) (at_ : ToolNode spot nodeId toolNode) :
    spot.Does fact (executeToolNode env spot.frame.run toolNode nodeId spot.frame.vars)
      (fun outcome w visit => fact w visit ∧ ToolEffect toolNode nodeId spot.frame.vars outcome) := by
  refine Does.attempt fun config configured => ?_
  split
  · rename_i pending found
    refine Does.ite (fun unconsumed => awaitToolApproval_does stable found (by simpa using unconsumed)) fun consumed => ?_
    refine Does.attempt fun params read => Does.attempt fun context _ => ?_
    exact dispatchTool_does stable at_ (.inr rfl) (.inr ⟨pending, found, rfl⟩)
      (.inr ⟨pending, found, by simpa using consumed, read⟩)
  · rename_i none
    refine Does.attempt fun params _ => ?_
    exact dispatchTool_does stable at_ (.inl ⟨none, rfl⟩) (.inl ⟨none, config, configured, rfl⟩) (.inl rfl)

theorem upsertChildExecution_does (stable : Stable fact) (update : ChildUpdate) :
    spot.Does fact (upsertChildExecution env update) (fun _ => fact) := by
  refine Does.read fun w => ?_
  split
  · exact Does.ite (fun _ => Does.throw) fun _ => Does.setChildren stable _
  · refine Does.bind (Does.uuid4 stable) fun id => ?_
    exact Does.ite (fun _ => Does.throw) fun _ => Does.setChildren stable _

theorem outputsFrom_set {row : TaskRun} (empty : row.outputPayloadJson = []) :
    OutputsFrom rows (rows.set id row) := by
  intro other found here
  rw [Dict.get?_set] at here
  split at here
  · simp_all
  · exact .inr ⟨found, here, rfl⟩

theorem outputsFrom_modify {change : TaskRun → TaskRun}
    (same : ∀ row, (change row).outputPayloadJson = row.outputPayloadJson) :
    OutputsFrom rows (rows.modify id change) := by
  intro other found here
  rw [Dict.get?_modify] at here
  cases stored : rows.get? other with
  | none => simp [stored] at here
  | some row =>
    refine .inr ⟨row, rfl, ?_⟩
    split at here
    · grind
    · simp_all

theorem taskRunStarterStart_does (stable : Stable fact) (agentId : String) (inputPayload : Dict Json) :
    spot.Does fact (taskRunStarterStart env spot.frame.run spot.cursor agentId inputPayload) (fun _ => fact) := by
  refine Does.read fun w => Does.attempt fun checkpoint _ => ?_
  refine Does.bind (Does.uuid4 stable) fun id => ?_
  refine Does.bind (Does.setTaskRuns stable _ fun _ => outputsFrom_set rfl) fun _ => ?_
  refine Does.bind (Does.emit (fun _ _ _ => .taskRunStarted id) fun _ _ given => stable.reported given) fun _ => ?_
  refine Does.bind (Does.commit stable) fun _ => ?_
  exact Does.pure fun _ _ given => given

theorem taskRunOutput_id (id : String) (taskRun : TaskRun) (rest : Dict Json) :
    Dict.get (taskRunOutput id taskRun ++ rest) "task_run_id" = .str id := by
  simp [taskRunOutput, Dict.get, Dict.get?_cons]

theorem taskRunOutput_named (id : String) (taskRun : TaskRun) :
    Dict.get (taskRunOutput id taskRun) "task_run_id" = .str id := by
  simpa using taskRunOutput_id id taskRun []

theorem agentHandoff_unnamed (run : WorkflowRun) (agentId : Json) :
    Dict.get (agentHandoff run agentId) "task_run_id" = .null := by
  unfold agentHandoff
  split <;> simp [Dict.get, Dict.get?_cons]

theorem collectTaskRun_does (stable : Stable fact) {nodeId id : String}
    {taskRun : TaskRun} {memo : Dict Json} (tracked : track.nodeId = spot.cursor)
    (read : (spot.frame.vars.get "_agent_runs").toDict = .ok memo) (known : memoEntry memo nodeId = some id) :
    spot.Does (fun w visit => fact w visit ∧ w.db.taskRuns.get? id = some taskRun)
      (collectTaskRun env spot.frame.run nodeId track id taskRun spot.frame.vars)
      (fun outcome w visit => fact w visit ∧
        AgentEffect spot.runId nodeId track spot.frame.vars visit.own outcome) := by
  let used := Event.childUsed spot.runId track.nodeId nodeId id
  let merged := Event.agentMerged spot.runId track.nodeId id (agentUpdate taskRun.outputPayloadJson)
  have keeps : Stable fun w visit => fact w visit ∧ used ∈ visit.own := stable.and (.owned used)
  have merges : Stable fun w visit => (fact w visit ∧ used ∈ visit.own) ∧
      (taskRun.status = .completed → merged ∈ visit.own) :=
    fun _ _ _ _ given same grown => ⟨keeps _ _ _ _ given.1 same grown, fun ended => grown (given.2 ended)⟩
  refine Does.bind (Does.emit
    (Q := fun w visit => (fact w visit ∧ used ∈ visit.own) ∧ w.db.taskRuns.get? id = some taskRun)
    (fun _ _ _ => tracked ▸ .childUsed _ _ (.inl ⟨memo, read, known⟩))
    fun _ _ given => ⟨⟨stable.reported given.1, List.mem_cons_self⟩, given.2⟩) fun _ => ?_
  refine Does.ite (fun _ => ?_) fun _ => ?_
  · refine Does.bind (R := fun _ w visit => (fact w visit ∧ used ∈ visit.own) ∧
      (taskRun.status = .completed → merged ∈ visit.own)) (Does.ite (fun _ => ?_) fun running => ?_) fun _ => ?_
    · exact Does.emit (fun _ _ given => tracked ▸ .agentMerged id taskRun given.2)
        fun _ _ given => ⟨keeps.reported given.1, fun _ => List.mem_cons_self⟩
    · exact Does.pure fun _ _ given => ⟨given.1, fun ended => absurd ended running⟩
    refine Does.bind (upsertChildExecution_does merges _) fun _ => ?_
    refine Does.ite (fun _ => ?_) fun ended => ?_
    · exact Does.pure fun _ _ given =>
        ⟨given.1.1, .failedTask id memo _ read known given.1.2 (taskRunOutput_id _ _ _)⟩
    · exact Does.pure fun _ _ given => ⟨given.1.1, .merged id memo _ _ read known given.1.2 (taskRunOutput_id _ _ _)
        (given.2 (by simpa using ended))⟩
  · refine Does.bind ((upsertChildExecution_does keeps _).before fun _ _ given => given.1) fun _ => ?_
    exact Does.pure fun _ _ given =>
      ⟨given.1, .waiting id memo _ read known given.2 (taskRunOutput_named id taskRun)⟩

theorem startAgentTaskRun_does (stable : Stable fact) {config memo memo' base : Dict Json}
    (tracked : track.nodeId = spot.cursor) (read : (spot.frame.vars.get "_agent_runs").toDict = .ok memo)
    (kept : MemoBase "_agent_runs" nodeId spot.frame.vars memo memo' base) :
    spot.Does fact (startAgentTaskRun env spot.frame.run config nodeId track memo' base)
      (fun outcome w visit => fact w visit ∧
        AgentEffect spot.runId nodeId track spot.frame.vars visit.own outcome) := by
  unfold startAgentTaskRun
  rw [tracked]
  refine Does.ite (fun _ => Does.read fun w => ?_) fun _ => ?_
  · refine Does.ite (fun _ => ?_) fun _ => ?_
    · exact Does.pure fun _ _ given => ⟨given, .refused memo memo' base _ read kept rfl⟩
    refine Does.attempt fun given _ => ?_
    refine Does.bind (taskRunStarterStart_does stable _ _) fun taskRun => ?_
    refine Does.attempt fun selected _ => Does.attempt fun checkpoint _ => ?_
    refine Does.bind (Does.setTaskRuns stable _ fun _ => outputsFrom_modify fun _ => rfl) fun _ => ?_
    refine Does.bind (Does.emit (fun _ _ _ => .childStarted nodeId taskRun.id)
      (Q := fun w visit => fact w visit ∧
        Event.childStarted spot.runId spot.cursor nodeId taskRun.id ∈ visit.own)
      fun _ _ given => ⟨stable.reported given, List.mem_cons_self⟩) fun _ => ?_
    refine Does.bind (upsertChildExecution_does (stable.and (.owned _)) _) fun _ => ?_
    refine Does.pure fun _ _ given => ⟨given.1, .started taskRun.id memo memo' base _ read kept ?_ ?_⟩
    · exact taskRunOutput_named taskRun.id taskRun
    · simp_all
  · exact Does.pure fun _ _ given => ⟨given, .handedOff memo memo' base _ read kept (agentHandoff_unnamed _ _)⟩

theorem executeAgentNode_does (stable : Stable fact) (node : Json) (tracked : track.nodeId = spot.cursor) :
    spot.Does fact (executeAgentNode env spot.frame.run node nodeId track spot.frame.vars)
      (fun outcome w visit => fact w visit ∧
        AgentEffect spot.runId nodeId track spot.frame.vars visit.own outcome) := by
  refine Does.attempt fun config _ => Does.attempt fun memo read => ?_
  split
  · rename_i known
    refine Does.bind (Does.get (Q := fun w0 w visit => fact w visit ∧ w = w0) fun _ _ given => ⟨given, rfl⟩)
      fun w0 => ?_
    split
    · refine (collectTaskRun_does stable tracked read known).before fun w visit given => ⟨given.1, ?_⟩
      rwa [given.2]
    · exact (startAgentTaskRun_does stable tracked read (.inr ⟨rfl, rfl⟩)).before fun _ _ given => given.1
  · exact startAgentTaskRun_does stable tracked read (.inl ⟨rfl, rfl⟩)

end Troop.Workflow
