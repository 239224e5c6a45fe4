import Mathlib.Logic.Relation
import Troop.Workflow.System
import Troop.Workflow.Effects

namespace Troop.Workflow

/-- One `_advance` on the stack, with the runs that may still be nested inside it. It executes a node
    when it has a visit and is between two nodes when it has none. -/
structure Activation where
  frame : Frame
  budget : Nat
  visit : Option Visit

def Activation.start (run : WorkflowRun) (version : WorkflowVersion) (arrival : Arrival) (budget : Nat) :
    Activation :=
  ⟨Frame.load run version arrival, budget, none⟩

abbrev Machine := World × List Activation

namespace World

def record (event : Event) (w : World) : World :=
  { w with log := event :: w.log, db := { w.db with history := event :: w.db.history } }

def Last (w : World) (event : Event) : Prop := w.log.head? = some event ∧ w.db.history.head? = some event

def changeRun (id : String) (change : WorkflowRun → WorkflowRun) (w : World) : World :=
  { w with db := { w.db with runs := w.db.runs.modify id change } }

def aside (drawn : Nat) (approvals : Dict ApprovalRequest) (taskRuns : Dict TaskRun)
    (children : List WorkflowChildExecution) (w : World) : World :=
  { w with drawn := w.drawn + drawn, db := { w.db with approvals, taskRuns, children } }

def create (env : Env) (new : NewRun) (definition : WorkflowDefinition) (version : WorkflowVersion)
    (w : World) : World :=
  let run := startedRow (env.uuid4 w.drawn) new definition version
  { w with drawn := w.drawn + 1, db := { w.db with runs := w.db.runs.set run.id run } }.record
    (.runCreated run.id new.parent new.testMode)

end World

def OutputsFrom (before after : Dict TaskRun) : Prop :=
  ∀ id row, after.get? id = some row →
    row.outputPayloadJson = [] ∨ ∃ old, before.get? id = some old ∧ old.outputPayloadJson = row.outputPayloadJson

theorem OutputsFrom.refl (rows : Dict TaskRun) : OutputsFrom rows rows :=
  fun _ row found => .inr ⟨row, found, rfl⟩

/-- The definition and the graph `_create_run_record` settles on. -/
structure Resolved (new : NewRun) (w : World) (definition : WorkflowDefinition) (version : WorkflowVersion) :
    Prop where
  defined : (getDefinition new.owner new.workflowId).exec w = (.ok definition, w)
  resolved : (resolveStartVersion definition new).exec w = (.ok version, w)
  valid : validateGraph version.nodesJson version.edgesJson version.entryNodeId = []

/-- A run that `resume_run` or `apply_approval_rejection` accepts, with its graph. -/
structure Waiting (w : World) (run : WorkflowRun) (version : WorkflowVersion) : Prop where
  row : w.db.runs.get? run.id = some run
  status : run.status.resumable = true
  version : w.db.versions.get? run.workflowVersionId = some version

def waitingNode (run : WorkflowRun) (version : WorkflowVersion) : Json :=
  (currentNode version.nodesJson run.currentNodeId).getD .null

/-- What `resume_run` may have put into the vars of a run waiting at this node: where it took an
    approval for that, this is the last event. -/
inductive Granted (last : Event → Prop) (run : WorkflowRun) (node : Json) : Dict Json → Prop
  | approval (id : String) (approval : ApprovalRequest) (actor : Option String) (vars : Dict Json)
      (type : nodeTypeText node = "approval")
      (consumed : last (.approvalConsumed run.id (run.currentNodeId.getD "") approval none))
      (granted : grantedVars id approval run.currentNodeId actor false run.contextJson.vars = .ok vars) :
      Granted last run node vars
  | pendingTool (id : String) (approval : ApprovalRequest) (call : String × Dict Json) (actor : Option String)
      (vars : Dict Json) (type : nodeTypeText node = "tool")
      (parked : (run.contextJson.vars.get "pending_tool").truthy = true)
      (read : pendingCall run.contextJson.vars = .ok call)
      (consumed : last (.approvalConsumed run.id (run.currentNodeId.getD "") approval (some call)))
      (granted : grantedVars id approval run.currentNodeId actor true run.contextJson.vars = .ok vars) :
      Granted last run node vars
  | humanInput (payload : Dict Json) (actor : Option String) (type : nodeTypeText node = "human_input") :
      Granted last run node
        ((run.contextJson.vars.set "human_input" (.obj payload)).set "human_input_by" (.ofOption actor))
  | unchanged (noGate : nodeTypeText node ≠ "approval")
      (noCall : nodeTypeText node = "tool" → (run.contextJson.vars.get "pending_tool").truthy = false) :
      Granted last run node run.contextJson.vars

def Continuation.stops : Continuation → Prop
  | .requestChanges => True
  | .routeTo _ => False
  | .finish status => status.terminal

def ChildInput (nodeId : String) (vars input : Dict Json) : Prop :=
  ∃ memo memo', (vars.get "_subworkflow_runs").toDict = .ok memo ∧
    MemoBase "_subworkflow_runs" nodeId vars memo memo' input

structure At (frame : Frame) (cursor : String) (node : Json) : Prop where
  reached : frame.cursor = some cursor
  named : cursor ≠ ""
  found : frame.nodes.get? cursor = some node

inductive Step (env : Env) (terms : Terms) : Machine → Machine → Prop
  | aside (w : World) (stack : List Activation) (drawn : Nat) (approvals : Dict ApprovalRequest)
      (taskRuns : Dict TaskRun) (children : List WorkflowChildExecution)
      (outputs : OutputsFrom w.db.taskRuns taskRuns) :
      Step env terms (w, stack) (w.aside drawn approvals taskRuns children, stack)
  | commit (w : World) (stack : List Activation) :
      Step env terms (w, stack) ({ w with committed := w.db }, stack)
  | rollback (w : World) : Step env terms (w, []) ({ w with db := w.committed }, [])
  | changed (w : World) (change : Change) (possible : change.allowed w.db) (fits : terms.changes change)
      (same : w.committed = w.db) :
      Step env terms (w, []) ({ w with db := change.apply w.db, committed := change.apply w.committed }, [])
  | tick (w : World) (now : Int) : Step env terms (w, []) ({ w with now := now }, [])
  | start (w : World) (new : NewRun) (definition : WorkflowDefinition) (version : WorkflowVersion)
      (resolved : Resolved new w definition version) (fits : terms.starts new) (root : new.parent = none) :
      Step env terms (w, [])
        (w.create env new definition version,
          [.start (startedRow (env.uuid4 w.drawn) new definition version) version .start env.nesting])
  | startChild (w : World) (frame : Frame) (budget : Nat) (visit : Visit) (stack : List Activation)
      (cursor key workflowId : String) (node childNode : Json) (config input : Dict Json)
      (definition : WorkflowDefinition) (version : WorkflowVersion) (here : At frame cursor node)
      (found : frame.nodes.get? key = some childNode) (type : nodeType childNode = some .subworkflow)
      (place : key = cursor ∨ nodeType node = some .parallel)
      (read : nodeConfig childNode = .ok config) (named : workflowId = (config.get "workflow_id").pyStr)
      (given : ChildInput key frame.vars input)
      (resolved : Resolved (childRequest frame.run workflowId input) w definition version) :
      Step env terms (w, ⟨frame, budget + 1, some visit⟩ :: stack)
        ((w.create env (childRequest frame.run workflowId input) definition version).record
            (.childStarted frame.run.id cursor key (env.uuid4 w.drawn)),
          .start (startedRow (env.uuid4 w.drawn) (childRequest frame.run workflowId input) definition version)
              version .start budget ::
            ⟨frame, budget + 1, some { visit with
              own := .childStarted frame.run.id cursor key (env.uuid4 w.drawn) :: visit.own }⟩ :: stack)
  | exceeded (w : World) (frame : Frame) (stack : List Activation) :
      Step env terms (w, ⟨frame, 0, none⟩ :: stack)
        (w.record (.nestingExceeded frame.run.id frame.version.workflowId), stack)
  | consume (w : World) (stack : List Activation) (run : WorkflowRun) (version : WorkflowVersion) (id : String)
      (approval : ApprovalRequest) (tool : Option (String × Dict Json)) (pendingTool : Bool)
      (waiting : Waiting w run version)
      (checked : checkApprovalForNode env (w.db.approvals.get? id) run run.currentNodeId run.contextJson.vars
        pendingTool = .ok (approval, tool)) :
      Step env terms (w, stack) (w.record (.approvalConsumed run.id (run.currentNodeId.getD "") approval tool), stack)
  | resume (w : World) (stack : List Activation) (run : WorkflowRun) (version : WorkflowVersion)
      (vars : Dict Json) (waiting : Waiting w run version)
      (granted : Granted w.Last run (waitingNode run version) vars) :
      Step env terms (w, stack)
        (w.changeRun run.id (resumedRow vars),
          .start (resumedRow vars run) version .resumed env.nesting :: stack)
  | reject (w : World) (stack : List Activation) (run : WorkflowRun) (version : WorkflowVersion)
      (approval : ApprovalRequest) (rejection : Rejection) (continuation : Continuation)
      (waiting : Waiting w run version) (status : run.status = .waitingApproval)
      (rejected : approval.status = .rejected) (stops : continuation.stops) :
      Step env terms (w, stack)
        ((w.changeRun run.id (rejectedRow continuation rejection (rejectedVars rejection run.contextJson.vars))).record
          (.rejectionApplied run.id run.currentNodeId approval), stack)
  | reroute (w : World) (stack : List Activation) (run : WorkflowRun) (version : WorkflowVersion)
      (approval : ApprovalRequest) (rejection : Rejection) (config : Dict Json) (target : String)
      (waiting : Waiting w run version) (status : run.status = .waitingApproval)
      (rejected : approval.status = .rejected)
      (read : nodeConfig (waitingNode run version) = .ok config) (routed : continuationOf config = .routeTo target) :
      Step env terms (w, stack)
        ((w.changeRun run.id (rejectedRow (.routeTo target) rejection
            (rejectedVars rejection run.contextJson.vars))).record
            (.rejectionApplied run.id run.currentNodeId approval),
          .start (rejectedRow (.routeTo target) rejection (rejectedVars rejection run.contextJson.vars) run)
            version (.rejected (run.currentNodeId.getD "")) env.nesting :: stack)
  | visit (w : World) (frame : Frame) (budget : Nat) (stack : List Activation) (cursor : String) (node : Json)
      (here : At frame cursor node) :
      Step env terms (w, ⟨frame, budget, none⟩ :: stack)
        (w.record (.stepStarted frame.run.id frame.version cursor frame.arrival frame.vars),
          ⟨frame, budget, some ⟨[], []⟩⟩ :: stack)
  | report (w : World) (frame : Frame) (budget : Nat) (visit : Visit) (stack : List Activation)
      (cursor : String) (node : Json) (event : Event) (here : At frame cursor node)
      (reports : Reports env w frame cursor node visit event) :
      Step env terms (w, ⟨frame, budget, some visit⟩ :: stack)
        (w.record event, ⟨frame, budget, some { visit with own := event :: visit.own }⟩ :: stack)
  | branch (w : World) (frame : Frame) (budget : Nat) (visit visit' : Visit) (stack : List Activation)
      (cursor : String) (node : Json) (here : At frame cursor node)
      (changed : BranchStep frame cursor node visit visit') :
      Step env terms (w, ⟨frame, budget, some visit⟩ :: stack) (w, ⟨frame, budget, some visit'⟩ :: stack)
  | pause (w : World) (frame : Frame) (budget : Nat) (visit : Visit) (stack : List Activation)
      (cursor : String) (node : Json) (outcome : NodeOutcome) (status : RunStatus) (here : At frame cursor node)
      (effect : NodeEffect frame cursor node visit outcome) (stops : outcome.pause = some status) :
      Step env terms (w, ⟨frame, budget, some visit⟩ :: stack)
        ((w.record (.stepFinished frame.run.id cursor (nodeTypeText node) outcome.status)).changeRun frame.run.id
          (pausedRow { frame with vars := outcome.vars } cursor status), stack)
  | fail (w : World) (frame : Frame) (budget : Nat) (visit : Visit) (stack : List Activation)
      (cursor : String) (node : Json) (outcome : NodeOutcome) (here : At frame cursor node)
      (effect : NodeEffect frame cursor node visit outcome) (goes : outcome.pause = none)
      (failed : outcome.status = .failed) :
      Step env terms (w, ⟨frame, budget, some visit⟩ :: stack)
        ((w.record (.stepFinished frame.run.id cursor (nodeTypeText node) outcome.status)).changeRun frame.run.id
          (failedRow { frame with vars := outcome.vars } outcome.output), stack)
  | move (w : World) (frame : Frame) (budget : Nat) (visit : Visit) (stack : List Activation)
      (cursor : String) (node : Json) (outcome : NodeOutcome) (here : At frame cursor node)
      (effect : NodeEffect frame cursor node visit outcome) (goes : outcome.pause = none)
      (passed : outcome.status ≠ .failed) :
      Step env terms (w, ⟨frame, budget, some visit⟩ :: stack)
        ((w.record (.stepFinished frame.run.id cursor (nodeTypeText node) outcome.status)).changeRun frame.run.id
            (movedRow (frame.follow cursor outcome.vars)),
          ⟨frame.follow cursor outcome.vars, budget, none⟩ :: stack)
  | missing (w : World) (frame : Frame) (budget : Nat) (stack : List Activation) (cursor : String)
      (given : frame.cursor = some cursor) (named : cursor ≠ "") (absent : frame.nodes.get? cursor = none) :
      Step env terms (w, ⟨frame, budget, none⟩ :: stack)
        ((w.changeRun frame.run.id (missingRow cursor)).changeRun frame.run.id (leftRow frame), stack)
  | exhausted (w : World) (frame : Frame) (budget : Nat) (stack : List Activation) (cursor : String)
      (given : frame.cursor = some cursor) (named : cursor ≠ "") :
      Step env terms (w, ⟨frame, budget, none⟩ :: stack)
        ((w.record (.stepBudgetExhausted frame.run.id cursor)).changeRun frame.run.id (leftRow frame), stack)
  | ended (w : World) (frame : Frame) (budget : Nat) (stack : List Activation)
      (exhausted : frame.cursor = none ∨ frame.cursor = some "") :
      Step env terms (w, ⟨frame, budget, none⟩ :: stack) (w.changeRun frame.run.id (leftRow frame), stack)
  | abandon (w : World) (activation : Activation) (stack : List Activation) :
      Step env terms (w, activation :: stack) (w, stack)

abbrev Steps (env : Env) (terms : Terms) : Machine → Machine → Prop :=
  Relation.ReflTransGen (Step env terms)

def Reachable (env : Env) (terms : Terms) (machine : Machine) : Prop := Steps env terms ({}, []) machine

variable {env : Env} {terms other : Terms} {machine : Machine}

theorem Step.weaken {before after : Machine} (step : Step env terms before after)
    (starts : ∀ new, terms.starts new → other.starts new) (changes : ∀ change, terms.changes change → other.changes change) :
    Step env other before after := by
  cases step with
  | aside w stack drawn approvals taskRuns children outputs => exact .aside w stack drawn approvals taskRuns children outputs
  | commit w stack => exact .commit w stack
  | rollback w => exact .rollback w
  | changed w change possible fits same => exact .changed w change possible (changes _ fits) same
  | tick w now => exact .tick w now
  | start w new definition version resolved fits root => exact .start w new definition version resolved (starts _ fits) root
  | startChild w frame budget visit stack cursor key workflowId node childNode config input definition version here found
      type place read named given resolved =>
    exact .startChild w frame budget visit stack cursor key workflowId node childNode config input definition version here
      found type place read named given resolved
  | exceeded w frame stack => exact .exceeded w frame stack
  | consume w stack run version id approval tool pendingTool waiting checked =>
    exact .consume w stack run version id approval tool pendingTool waiting checked
  | resume w stack run version vars waiting granted => exact .resume w stack run version vars waiting granted
  | reject w stack run version approval rejection continuation waiting status rejected stops =>
    exact .reject w stack run version approval rejection continuation waiting status rejected stops
  | reroute w stack run version approval rejection config target waiting status rejected read routed =>
    exact .reroute w stack run version approval rejection config target waiting status rejected read routed
  | visit w frame budget stack cursor node here => exact .visit w frame budget stack cursor node here
  | report w frame budget visit stack cursor node event here reports =>
    exact .report w frame budget visit stack cursor node event here reports
  | branch w frame budget visit visit' stack cursor node here changed =>
    exact .branch w frame budget visit visit' stack cursor node here changed
  | pause w frame budget visit stack cursor node outcome status here effect stops =>
    exact .pause w frame budget visit stack cursor node outcome status here effect stops
  | fail w frame budget visit stack cursor node outcome here effect goes failed =>
    exact .fail w frame budget visit stack cursor node outcome here effect goes failed
  | move w frame budget visit stack cursor node outcome here effect goes passed =>
    exact .move w frame budget visit stack cursor node outcome here effect goes passed
  | missing w frame budget stack cursor given named absent =>
    exact .missing w frame budget stack cursor given named absent
  | exhausted w frame budget stack cursor given named => exact .exhausted w frame budget stack cursor given named
  | ended w frame budget stack exhausted => exact .ended w frame budget stack exhausted
  | abandon w activation stack => exact .abandon w activation stack

theorem Reachable.weaken (reachable : Reachable env terms machine)
    (starts : ∀ new, terms.starts new → other.starts new) (changes : ∀ change, terms.changes change → other.changes change) :
    Reachable env other machine := by
  induction reachable with
  | refl => exact .refl
  | tail _ step ih => exact ih.tail (step.weaken starts changes)

theorem Reachable.invariant {terms : Terms} {holds : Machine → Prop}
    (reachable : Reachable env terms machine) (init : holds ({}, []))
    (keeps : ∀ before after, Reachable env terms before → holds before → Step env terms before after → holds after) :
    holds machine := by
  induction reachable with
  | refl => exact init
  | tail earlier step ih => exact keeps _ _ earlier ih step

end Troop.Workflow
