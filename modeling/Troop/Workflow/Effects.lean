import Troop.Workflow.Runtime

namespace Troop.Workflow

structure Visit where
  branches : Dict Json
  own : List Event

inductive ApprovalEffect (cursor : String) (vars : Dict Json) : NodeOutcome → Prop
  | granted (approvalId : String) (consumed : List Json) (output : Dict Json)
      (grant : (vars.get "approval_granted").truthy = true)
      (request : (vars.get "approval_request_id").truthy = true) :
      ApprovalEffect cursor vars (succeeded output (spentGrant vars consumed approvalId))
  | refused (grant : (vars.get "approval_granted").truthy = true)
      (request : (vars.get "approval_request_id").truthy = true) :
      ApprovalEffect cursor vars (paused [] vars .waitingApproval)
  | waiting (id : Json) : ApprovalEffect cursor vars (approvalWaiting id vars)
  | requested (id : String) :
      ApprovalEffect cursor vars
        (approvalWaiting (.str id) (vars.set "pending_approval_request_id" (.str id)))

inductive DelayEffect (vars : Dict Json) : NodeOutcome → Prop
  | elapsed (output : Dict Json) : DelayEffect vars (succeeded output (vars.pop "_delay_resume"))
  | early : DelayEffect vars (paused [] vars .paused)
  | scheduled (output : Dict Json) (state : Json) :
      DelayEffect vars (paused output (vars.set "_delay_resume" state) .paused)
  | none (output : Dict Json) : DelayEffect vars (succeeded output vars)

def droppedCall (vars : Dict Json) : Dict Json := (vars.pop "pending_tool").pop "pending_approval_request_id"

def ToolBase (nodeId : String) (vars base : Dict Json) : Prop :=
  (pendingFor vars nodeId = none ∧ base = vars) ∨ base = droppedCall vars

def CalledTool (node : Json) (nodeId : String) (vars : Dict Json) (slug : String) : Prop :=
  (pendingFor vars nodeId = none ∧ ∃ config, nodeConfig node = .ok config ∧ slug = configuredTool config) ∨
    ∃ pending, pendingFor vars nodeId = some pending ∧ slug = (pending.get "tool_slug").strOrEmpty

structure Parked (node : Json) (nodeId : String) (vars after : Dict Json) where
  pending : Dict Json
  base : Dict Json
  kept : base = vars ∨ base = droppedCall vars
  stored : after.get "pending_tool" = .obj pending
  elsewhere : ∀ key, key ≠ "pending_tool" → key ≠ "pending_approval_request_id" → after.get key = base.get key
  unconsumed : (pending.get "approval_consumed").truthy = false
  atNode : pending.get "node_id" = .str nodeId
  tool : CalledTool node nodeId vars (pending.get "tool_slug").strOrEmpty

inductive ToolEffect (node : Json) (nodeId : String) (vars : Dict Json) : NodeOutcome → Prop
  | failed (output base : Dict Json) (dropped : ToolBase nodeId vars base) :
      ToolEffect node nodeId vars (failed output base)
  | result (output base : Dict Json) (answer : Json) (dropped : ToolBase nodeId vars base) :
      ToolEffect node nodeId vars (succeeded output (base.set ("tool_result_" ++ nodeId) answer))
  | parked (output after : Dict Json) (parked : Parked node nodeId vars after) :
      ToolEffect node nodeId vars (paused output after .waitingApproval)

def MemoBase (key nodeId : String) (vars memo memo' base : Dict Json) : Prop :=
  (memo' = memo ∧ base = vars) ∨ (memo' = memo.pop nodeId ∧ base = vars.set key (.obj memo'))

inductive AgentEffect (runId nodeId : String) (track : Track) (vars : Dict Json) (own : List Event) :
    NodeOutcome → Prop
  | waiting (id : String) (memo output : Dict Json)
      (read : (vars.get "_agent_runs").toDict = .ok memo) (known : memoEntry memo nodeId = some id)
      (used : Event.childUsed runId track.nodeId nodeId id ∈ own) (named : output.get "task_run_id" = .str id) :
      AgentEffect runId nodeId track vars own (paused output vars .paused)
  | failedTask (id : String) (memo output : Dict Json)
      (read : (vars.get "_agent_runs").toDict = .ok memo) (known : memoEntry memo nodeId = some id)
      (used : Event.childUsed runId track.nodeId nodeId id ∈ own) (named : output.get "task_run_id" = .str id) :
      AgentEffect runId nodeId track vars own (failed output vars)
  | merged (id : String) (memo output payload : Dict Json)
      (read : (vars.get "_agent_runs").toDict = .ok memo) (known : memoEntry memo nodeId = some id)
      (used : Event.childUsed runId track.nodeId nodeId id ∈ own) (named : output.get "task_run_id" = .str id)
      (reported : Event.agentMerged runId track.nodeId id (agentUpdate payload) ∈ own) :
      AgentEffect runId nodeId track vars own
        (succeeded output ((vars.set ("agent_output_" ++ nodeId) (.obj payload)).update (agentUpdate payload)))
  | started (id : String) (memo memo' base output : Dict Json)
      (read : (vars.get "_agent_runs").toDict = .ok memo) (kept : MemoBase "_agent_runs" nodeId vars memo memo' base)
      (named : output.get "task_run_id" = .str id)
      (reported : Event.childStarted runId track.nodeId nodeId id ∈ own) :
      AgentEffect runId nodeId track vars own
        (paused output (base.set "_agent_runs" (.obj (memo'.set nodeId (.str id)))) .paused)
  | refused (memo memo' base output : Dict Json)
      (read : (vars.get "_agent_runs").toDict = .ok memo) (kept : MemoBase "_agent_runs" nodeId vars memo memo' base)
      (unnamed : output.get "task_run_id" = .null) :
      AgentEffect runId nodeId track vars own (failed output base)
  | handedOff (memo memo' base output : Dict Json)
      (read : (vars.get "_agent_runs").toDict = .ok memo) (kept : MemoBase "_agent_runs" nodeId vars memo memo' base)
      (unnamed : output.get "task_run_id" = .null) :
      AgentEffect runId nodeId track vars own (succeeded output base)

inductive SubworkflowEffect (runId nodeId : String) (track : Track) (vars : Dict Json) (own : List Event) :
    NodeOutcome → Prop
  | known (id : String) (status : RunStatus) (memo : Dict Json)
      (read : (vars.get "_subworkflow_runs").toDict = .ok memo) (entry : memoEntry memo nodeId = some id)
      (used : Event.childUsed runId track.nodeId nodeId id ∈ own) :
      SubworkflowEffect runId nodeId track vars own (childRunOutcome id status vars)
  | started (id : String) (status : RunStatus) (memo memo' base : Dict Json)
      (read : (vars.get "_subworkflow_runs").toDict = .ok memo)
      (kept : MemoBase "_subworkflow_runs" nodeId vars memo memo' base)
      (reported : Event.childStarted runId track.nodeId nodeId id ∈ own) :
      SubworkflowEffect runId nodeId track vars own
        (childRunOutcome id status (base.set "_subworkflow_runs" (.obj (memo'.set nodeId (.str id)))))
  | refused (memo memo' base output : Dict Json)
      (read : (vars.get "_subworkflow_runs").toDict = .ok memo)
      (kept : MemoBase "_subworkflow_runs" nodeId vars memo memo' base)
      (unnamed : output.get "child_run_id" = .null) :
      SubworkflowEffect runId nodeId track vars own (failed output base)

def ParallelEffect (node : Json) (cursor : String) (vars branches : Dict Json) (outcome : NodeOutcome) : Prop :=
  ∃ config parallel, nodeConfig node = .ok config ∧ loadParallelState config cursor vars = .ok parallel ∧
    finalizeParallel parallel config cursor branches vars = .ok outcome

def NodeEffect (frame : Frame) (cursor : String) (node : Json) (visit : Visit) (outcome : NodeOutcome) : Prop :=
  match nodeType node with
  | some .approval => ApprovalEffect cursor frame.vars outcome
  | some .humanInput => outcome = executeHumanInputNode frame.vars
  | some .condition => executeConditionNode node frame.vars = .ok outcome
  | some .delay => DelayEffect frame.vars outcome
  | some .parallel => ParallelEffect node cursor frame.vars visit.branches outcome
  | some .router => executeRouterNode node cursor frame.edges frame.vars = .ok outcome
  | some .trigger => executeTriggerNode node cursor frame.vars = .ok outcome
  | some .tool => ToolEffect node cursor frame.vars outcome
  | some .skill => ∃ db, executeSkillNode db node frame.vars none = .ok outcome
  | some .agent => AgentEffect frame.run.id cursor ⟨cursor, none⟩ frame.vars visit.own outcome
  | some .subworkflow => SubworkflowEffect frame.run.id cursor ⟨cursor, none⟩ frame.vars visit.own outcome
  | none => outcome = recordedOutcome node frame.vars

def BranchChild (runId cursor key : String) (visit : Visit) (entry : Dict Json) : Prop :=
  entry.get "child_run_id" = .null ∨
  (∃ stored, storedBranch visit.branches key = .ok stored ∧
    entry.get "child_run_id" = stored.get "child_run_id") ∨
  ∃ id, entry.get "child_run_id" = .str id ∧
    (Event.childStarted runId cursor key id ∈ visit.own ∨ Event.childUsed runId cursor key id ∈ visit.own)

inductive BranchStep (frame : Frame) (cursor : String) (node : Json) (visit : Visit) : Visit → Prop
  | load (config : Dict Json) (parallel : ParallelState) (type : nodeType node = some .parallel)
      (read : nodeConfig node = .ok config)
      (loaded : loadParallelState config cursor frame.vars = .ok parallel) :
      BranchStep frame cursor node visit { visit with branches := parallel.branches }
  | refresh (key : String) (stored entry : Dict Json) (found : storedBranch visit.branches key = .ok stored)
      (waiting : branchStatus stored = "paused") (same : entry.get "child_run_id" = stored.get "child_run_id") :
      BranchStep frame cursor node visit { visit with branches := visit.branches.set key (.obj entry) }
  | settle (key : String) (entry : Dict Json)
      (started : Event.branchStarted frame.run.id cursor key ∈ visit.own)
      (child : BranchChild frame.run.id cursor key visit entry) :
      BranchStep frame cursor node visit { visit with branches := visit.branches.set key (.obj entry) }

def Known (vars : Dict Json) (visit : Visit) (key id : String) : Prop :=
  (∃ memo, (vars.get "_agent_runs").toDict = .ok memo ∧ memoEntry memo key = some id) ∨
  (∃ memo, (vars.get "_subworkflow_runs").toDict = .ok memo ∧ memoEntry memo key = some id) ∨
  ∃ entry, storedBranch visit.branches key = .ok entry ∧ branchStatus entry = "paused" ∧
    (entry.get "child_run_id").strOrEmpty = id

def KeptBranch (branches : Dict Json) (key : String) : Prop :=
  (∃ entry, storedBranch branches key = .ok entry ∧ branchStatus entry ∈ keptStatuses) ∨
    ∃ entry : Json, (key, entry) ∈ branches ∧ (entry.get "status").strOrEmpty = "failed"

structure Dispatch (env : Env) (frame : Frame) (cursor : String) (node : Json) (nodeId toolSlug : String)
    (params context : Dict Json) where
  toolNode : Json
  found : frame.nodes.get? nodeId = some toolNode
  type : nodeType toolNode = some .tool
  place : nodeId = cursor ∨ nodeType node = some .parallel
  called : CalledTool toolNode nodeId frame.vars toolSlug
  real : shouldSimulateExternalWrite env frame.run toolSlug = false
  source : context = freshToolContext frame.run nodeId params ∨
    ∃ pending, pendingFor frame.vars nodeId = some pending ∧
      (pending.get "approval_consumed").truthy = true ∧ (pending.get "params").toDict = .ok params

inductive Reports (env : Env) (w : World) (frame : Frame) (cursor : String) (node : Json) (visit : Visit) :
    Event → Prop
  | approvalRequested (nodeId id : String) :
      Reports env w frame cursor node visit (.approvalRequested frame.run.id nodeId id)
  | taskRunStarted (id : String) : Reports env w frame cursor node visit (.taskRunStarted frame.run.id cursor id)
  | delayScheduled (nodeId resumeAt : String) :
      Reports env w frame cursor node visit (.delayScheduled frame.run.id nodeId resumeAt)
  | childStarted (key id : String) : Reports env w frame cursor node visit (.childStarted frame.run.id cursor key id)
  | childUsed (key id : String) (known : Known frame.vars visit key id) :
      Reports env w frame cursor node visit (.childUsed frame.run.id cursor key id)
  | agentMerged (id : String) (row : TaskRun) (found : w.db.taskRuns.get? id = some row) :
      Reports env w frame cursor node visit
        (.agentMerged frame.run.id cursor id (agentUpdate row.outputPayloadJson))
  | branchStarted (key : String) : Reports env w frame cursor node visit (.branchStarted frame.run.id cursor key)
  | branchReused (key : String) (kept : KeptBranch visit.branches key) :
      Reports env w frame cursor node visit (.branchReused frame.run.id cursor key)
  | toolExecuted (nodeId owner toolSlug : String) (params context : Dict Json)
      (dispatch : Dispatch env frame cursor node nodeId toolSlug params context) :
      Reports env w frame cursor node visit (.toolExecuted frame.run.id nodeId owner toolSlug params context)

theorem Reports.run {env : Env} {w : World} {frame : Frame} {cursor : String} {node : Json} {visit : Visit}
    {event : Event} (report : Reports env w frame cursor node visit event) : event.run = frame.run.id := by
  cases report <;> rfl

end Troop.Workflow
