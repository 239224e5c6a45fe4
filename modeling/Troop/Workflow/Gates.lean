import Troop.Workflow.Tables
import Troop.Workflow.Refinement

namespace Troop.Workflow

open List

variable {env : Env} {terms : Terms}

def HalfGrant (half : String) : Prop := half = "approval_granted" ∨ half = "approval_request_id"

/-- The mark that `_consume_approval_for_node` leaves on a pending call. -/
def marked (vars : Dict Json) : Bool := ((vars.get "pending_tool").get "approval_consumed").truthy

structure Ungranted (half : String) (vars : Dict Json) : Prop where
  grant : (vars.get half).truthy = false
  mark : marked vars = false

def Gated (gate : String → String → Option NodeType) (version : WorkflowVersion) : Prop :=
  ∀ node ∈ version.nodesJson, ∀ id, nodeId? node = some id → ∀ type, type = .approval ∨ type = .tool →
    (nodeType node = some type ↔ gate version.id id = some type)

def gateTerms (half : String) (gate : String → String → Option NodeType) : Terms :=
  .supplying (Ungranted half) (Gated gate)

variable {half : String} {gate : String → String → Option NodeType}

theorem Interprets.gated {frame : Frame} {row : WorkflowVersion}
    (interprets : Interprets (gateTerms half gate) frame row) : Gated gate frame.version := by
  intro node member id named type kind
  obtain ⟨original, there, sameId, sameType⟩ := interprets.overlaid.node member
  rw [sameType, interprets.overlaid.id]
  exact interprets.admitted original there id (sameId ▸ named) type kind

variable {version : WorkflowVersion} {vars : Dict Json} {approval : ApprovalRequest} {run : WorkflowRun}
  {tool : Option (String × Dict Json)} {type : NodeType} {runId nodeId : String} {past : List Event}

theorem Waiting.gated {w : World} {stack : List Activation}
    (waiting : Waiting w run version) (reachable : Reachable env (gateTerms half gate) (w, stack)) :
    Gated gate version ∧ version.id = run.workflowVersionId := by
  have interprets : Interprets (gateTerms half gate) (Frame.load run version .start) version :=
    waiting.interprets reachable rfl
  exact ⟨interprets.gated, interprets.named⟩

theorem Gated.at {frame : Frame} (gated : Gated gate frame.version) {cursor : String} {node : Json}
    (here : At frame cursor node) (kind : type = .approval ∨ type = .tool) :
    nodeType node = some type ↔ gate frame.version.id cursor = some type := by
  obtain ⟨member, named⟩ := nodesById_mem here.found
  exact gated node member cursor named type kind

theorem Gated.waiting (gated : Gated gate version) {cursor : String}
    (current : run.currentNodeId = some cursor) (kind : type = .approval ∨ type = .tool)
    (same : nodeType (waitingNode run version) = some type) : gate version.id cursor = some type := by
  rw [waitingNode, current] at same
  cases found : currentNode version.nodesJson (some cursor) with
  | none => simp [found, nodeType, nodeTypeText, Json.get, Json.strOrEmpty, NodeType.ofText] at same
  | some node =>
    obtain ⟨member, named⟩ := currentNode_mem found
    rw [found] at same
    exact (gated node member cursor named type kind).mp same

theorem Merged.ungranted (key : HalfGrant half) {merged : Dict Json} (given : Merged (gateTerms half gate) merged) :
    Ungranted half merged := by
  rcases given with rfl | ⟨row, fits, rfl⟩
  · rcases key with rfl | rfl <;> exact ⟨rfl, rfl⟩
  · exact fits

theorem HalfGrant.unwritten (key : HalfGrant half) (cursor : String) (type : Option NodeType) :
    half ∉ writtenKeys cursor type := by
  have apart : ∀ start ∈ ["trigger_", "tool_result_", "agent_output_"], ¬ half = start ++ cursor := by
    intro start member same
    have other : start ++ cursor ≠ half := prefixed_ne ?_
    · exact other same.symm
    rcases key with rfl | rfl <;> simp only [mem_cons, not_mem_nil, or_false] at member <;>
      rcases member with rfl | rfl | rfl <;> decide
  have fixed : ∀ written ∈ ["_consumed_approval_ids", "pending_approval_request_id", "_last_condition", "_delay_resume",
      "parallel_branches", "parallel_outputs", "_router_target", "pending_tool", "skill_payload", "_agent_runs",
      "_subworkflow_runs"], half ≠ written := by
    rcases key with rfl | rfl <;> decide
  cases type with
  | none => simp [writtenKeys]
  | some kind => cases kind <;> simp [writtenKeys, apart, fixed]

theorem marked_set (vars : Dict Json) {key : String} (value : Json) (apart : key ≠ "pending_tool") :
    marked (vars.set key value) = marked vars := by
  rw [marked, Dict.get_set_of_ne vars value apart, marked]

theorem marked_of_null (dropped : vars.get "pending_tool" = .null) : marked vars = false := by
  rw [marked, dropped]
  rfl

theorem marked_of_obj {vars pending : Dict Json} (stored : vars.get "pending_tool" = .obj pending) :
    marked vars = (pending.get "approval_consumed").truthy := by
  rw [marked, stored]
  rfl

theorem marked_follow (frame : Frame) (cursor : String) (vars : Dict Json) :
    marked (frame.follow cursor vars).vars = marked vars := by
  rw [marked, follow_vars, Dict.get_pop_of_ne vars (by decide), marked]

theorem unmarked_effect {w : World} {frame : Frame} {visit : Visit} {stack : List Activation} {cursor : String}
    {node : Json} {outcome : NodeOutcome} (key : HalfGrant half)
    (effect : NodeEffect frame cursor node visit outcome) (reachable : Reachable env (gateTerms half gate) (w, stack))
    (known : visit.own ⊆ w.log) (other : nodeType node ≠ some .tool) (unmarked : marked frame.vars = false) :
    marked outcome.vars = false := by
  have apart : "pending_tool" ∉ writtenKeys cursor (nodeType node) := by
    have prefixes : ∀ start ∈ ["trigger_", "agent_output_"], ¬ "pending_tool" = start ++ cursor := by
      intro start member same
      have apart : start ++ cursor ≠ "pending_tool" := prefixed_ne ?_
      · exact apart same.symm
      simp only [mem_cons, not_mem_nil, or_false] at member
      rcases member with rfl | rfl <;> decide
    cases type : nodeType node with
    | none => simp [writtenKeys]
    | some kind => cases kind <;> simp_all [writtenKeys]
  rcases effect.inherits apart with same | null | ⟨run, source, id, merged, reported, same⟩
  · rwa [marked, same]
  · exact marked_of_null null
  · rw [marked, same]
    exact ((reachable.merged (known reported)).ungranted key).mark

theorem spentGrant_get (key : HalfGrant half) (vars : Dict Json) (consumed : List Json) (approvalId : String) :
    (spentGrant vars consumed approvalId).get half = .null := by
  rcases key with rfl | rfl <;> simp [spentGrant, Dict.get_pop]

structure RowGuarded (half : String) (gate : String → String → Option NodeType) (run : WorkflowRun) : Prop where
  grant : (run.contextJson.vars.get half).truthy = true →
    ∃ cursor, run.currentNodeId = some cursor ∧ gate run.workflowVersionId cursor = some .approval
  mark : marked run.contextJson.vars = false
  call : ∀ cursor, run.currentNodeId = some cursor → gate run.workflowVersionId cursor = some .tool →
    (run.contextJson.vars.get "pending_tool").truthy = true → (pendingFor run.contextJson.vars cursor).isSome = true

structure FrameGuarded (half : String) (gate : String → String → Option NodeType) (frame : Frame) : Prop where
  grant : (frame.vars.get half).truthy = true → frame.arrival = .resumed ∧
    ∃ cursor, frame.cursor = some cursor ∧ gate frame.version.id cursor = some .approval
  mark : marked frame.vars = true → frame.arrival = .resumed ∧
    ∃ cursor, frame.cursor = some cursor ∧ gate frame.version.id cursor = some .tool ∧
      (pendingFor frame.vars cursor).isSome = true

theorem FrameGuarded.of_ungranted {frame : Frame} (ungranted : Ungranted half frame.vars) :
    FrameGuarded half gate frame where
  grant truthy := by rw [ungranted.grant] at truthy; cases truthy
  mark truthy := by rw [ungranted.mark] at truthy; cases truthy

theorem FrameGuarded.away {frame : Frame} {cursor : String} {node : Json} (guarded : FrameGuarded half gate frame)
    (gated : Gated gate frame.version) (here : At frame cursor node) :
    (nodeType node ≠ some .approval → (frame.vars.get half).truthy = false) ∧
      (nodeType node ≠ some .tool → marked frame.vars = false) := by
  refine ⟨fun other => ?_, fun other => ?_⟩
  · refine Bool.eq_false_iff.mpr fun truthy => ?_
    obtain ⟨_, at_, reached, kind⟩ := guarded.grant truthy
    cases here.reached.symm.trans reached
    exact other ((gated.at here (.inl rfl)).mpr kind)
  · refine Bool.eq_false_iff.mpr fun truthy => ?_
    obtain ⟨_, at_, reached, kind, _⟩ := guarded.mark truthy
    cases here.reached.symm.trans reached
    exact other ((gated.at here (.inr rfl)).mpr kind)

theorem FrameGuarded.child {frame : Frame} {cursor key : String} {node child : Json} {input : Dict Json}
    (half_ : HalfGrant half) (guarded : FrameGuarded half gate frame) (gated : Gated gate frame.version)
    (here : At frame cursor node) (found : frame.nodes.get? key = some child)
    (type : nodeType child = some .subworkflow) (place : key = cursor ∨ nodeType node = some .parallel)
    (given : ChildInput key frame.vars input) : Ungranted half input := by
  have away := guarded.away gated here
  have apart : nodeType node ≠ some .approval ∧ nodeType node ≠ some .tool := by
    rcases place with rfl | parallel
    · cases here.found.symm.trans found
      simp [type]
    · simp [parallel]
  refine ⟨?_, ?_⟩
  · rw [given.get (by rcases half_ with rfl | rfl <;> decide)]
    exact away.1 apart.1
  · rw [marked, given.get (by decide)]
    exact away.2 apart.2

theorem pendingFor_set (vars pending : Dict Json) (nodeId : String) :
    pendingFor (vars.set "pending_tool" (.obj pending)) nodeId =
      if pending.get "node_id" = .str nodeId then some pending else none := by
  simp [pendingFor, Json.asObj?]

theorem nodeType_of_text {node : Json} {text : String} (same : nodeTypeText node = text) :
    nodeType node = NodeType.ofText text := by rw [nodeType, same]

theorem RowGuarded.resume {last : Event → Prop} {cursor : String} (half_ : HalfGrant half)
    (guarded : RowGuarded half gate run) (gated : Gated gate version) (named : version.id = run.workflowVersionId)
    (current : run.currentNodeId = some cursor) (granted : Granted last run (waitingNode run version) vars) :
    FrameGuarded half gate (Frame.load (resumedRow vars run) version .resumed) := by
  have unmarked : vars.get "pending_tool" = run.contextJson.vars.get "pending_tool" → marked vars = false := by
    intro same
    rw [marked, same]
    exact guarded.mark
  have grant : vars.get half = run.contextJson.vars.get half → (vars.get half).truthy = true →
      ∃ cursor, run.currentNodeId = some cursor ∧ gate version.id cursor = some .approval := by
    intro same truthy
    rw [same] at truthy
    rw [named]
    exact guarded.grant truthy
  cases granted with
  | approval id approval actor _ type consumed granted =>
    obtain ⟨approver, rfl⟩ := grantedVars_false granted
    refine ⟨fun _ => ⟨rfl, cursor, current, gated.waiting current (.inl rfl) (nodeType_of_text type)⟩, fun truthy => ?_⟩
    rw [show marked (Frame.load (resumedRow _ run) version .resumed).vars = false from
      unmarked (by simp [Dict.get_set])] at truthy
    cases truthy
  | pendingTool id approval call actor _ type parked read consumed granted =>
    have tool := gated.waiting current (.inr rfl) (nodeType_of_text type)
    obtain ⟨pending, approver, stored, rfl⟩ := grantedVars_true granted
    refine ⟨fun truthy => ⟨rfl, grant ?_ truthy⟩, fun _ => ⟨rfl, cursor, current, tool, ?_⟩⟩
    · rw [Dict.get_set_of_ne _ _ (by rcases half_ with rfl | rfl <;> decide)]
    obtain ⟨own, found⟩ := Option.isSome_iff_exists.mp (guarded.call cursor current (named ▸ tool) parked)
    obtain ⟨here, atNode⟩ := pendingFor_node found
    rw [here] at stored
    cases stored
    simp only [Frame.load, resumedRow]
    rw [pendingFor_set]
    simp [Dict.get_set, atNode]
  | humanInput payload actor type =>
    refine ⟨fun truthy => ⟨rfl, grant ?_ truthy⟩, fun truthy => ?_⟩
    · rcases half_ with rfl | rfl <;> simp [Dict.get_set]
    · rw [show marked (Frame.load (resumedRow _ run) version .resumed).vars = false from
        unmarked (by simp [Dict.get_set])] at truthy
      cases truthy
  | unchanged noGate noCall =>
    refine ⟨fun truthy => ⟨rfl, grant rfl truthy⟩, fun truthy => ?_⟩
    simp [show marked (Frame.load (resumedRow _ run) version .resumed).vars = false from unmarked rfl] at truthy

theorem rejectedVars_ungranted (half_ : HalfGrant half) (rejection : Rejection) (vars : Dict Json) :
    (rejectedVars rejection vars).get half = .null ∧ (rejectedVars rejection vars).get "pending_tool" = .null := by
  rcases half_ with rfl | rfl <;> simp [rejectedVars, Dict.get_pop]

section Executing

variable {w : World} {frame : Frame} {visit : Visit} {stack : List Activation} {cursor : String} {node : Json}
  {outcome : NodeOutcome}

theorem ungranted_effect (half_ : HalfGrant half) (effect : NodeEffect frame cursor node visit outcome)
    (reachable : Reachable env (gateTerms half gate) (w, stack)) (known : visit.own ⊆ w.log)
    (unset : (frame.vars.get half).truthy = false) : (outcome.vars.get half).truthy = false :=
  effect.falsy reachable known (fun _ given => (given.ungranted half_).grant) (half_.unwritten cursor _) unset

theorem FrameGuarded.pause {status : RunStatus} {row : WorkflowRun} (half_ : HalfGrant half)
    (guarded : FrameGuarded half gate frame) (gated : Gated gate frame.version)
    (named : frame.version.id = row.workflowVersionId) (here : At frame cursor node)
    (effect : NodeEffect frame cursor node visit outcome) (stops : outcome.pause = some status)
    (waits : status.resumable = true) (reachable : Reachable env (gateTerms half gate) (w, stack))
    (known : visit.own ⊆ w.log) :
    RowGuarded half gate (pausedRow { frame with vars := outcome.vars } cursor status row) := by
  have parked : nodeType node = some .tool → marked outcome.vars = false ∧
      (pendingFor outcome.vars cursor).isSome = true := by
    intro tool
    rw [NodeEffect, tool] at effect
    cases effect with
    | failed output base dropped =>
      cases stops
      cases waits
    | result => cases stops
    | parked output after parked =>
      refine ⟨(marked_of_obj parked.stored).trans parked.unconsumed, ?_⟩
      simp [paused, pendingFor, parked.stored, Json.asObj?, parked.atNode]
  refine ⟨fun truthy => ⟨cursor, rfl, ?_⟩, ?_, fun other same kind _ => ?_⟩
  · by_contra other
    rw [show (pausedRow { frame with vars := outcome.vars } cursor status row).workflowVersionId = frame.version.id from
      named.symm] at other
    have away := (guarded.away gated here).1 fun approval => other ((gated.at here (.inl rfl)).mp approval)
    have unset : (outcome.vars.get half).truthy = false := ungranted_effect half_ effect reachable known away
    rw [show (pausedRow { frame with vars := outcome.vars } cursor status row).contextJson.vars = outcome.vars from rfl,
      unset] at truthy
    cases truthy
  · by_cases tool : nodeType node = some .tool
    · exact (parked tool).1
    · exact unmarked_effect half_ effect reachable known tool ((guarded.away gated here).2 tool)
  · cases same
    rw [show (pausedRow { frame with vars := outcome.vars } cursor status row).workflowVersionId = frame.version.id from
      named.symm] at kind
    exact (parked ((gated.at here (.inr rfl)).mpr kind)).2

theorem FrameGuarded.move (half_ : HalfGrant half) (guarded : FrameGuarded half gate frame)
    (gated : Gated gate frame.version) (here : At frame cursor node)
    (effect : NodeEffect frame cursor node visit outcome) (goes : outcome.pause = none)
    (reachable : Reachable env (gateTerms half gate) (w, stack)) (known : visit.own ⊆ w.log) :
    Ungranted half (frame.follow cursor outcome.vars).vars := by
  have away := guarded.away gated here
  refine ⟨?_, ?_⟩
  · have unset : (outcome.vars.get half).truthy = false := by
      by_cases approval : nodeType node = some .approval
      · rw [NodeEffect, approval] at effect
        cases effect with
        | granted approvalId consumed output grant request => simp [succeeded, spentGrant_get half_]
        | refused | waiting | requested => cases goes
      · exact ungranted_effect half_ effect reachable known (away.1 approval)
    rwa [follow_vars, Dict.get_pop_of_ne _ (by rcases half_ with rfl | rfl <;> decide)]
  · rw [marked_follow]
    by_cases tool : nodeType node = some .tool
    · rw [NodeEffect, tool] at effect
      cases effect with
      | result output base answer dropped =>
        have unmarked : marked base = false := by
          rcases dropped with ⟨none, rfl⟩ | rfl
          · refine Bool.eq_false_iff.mpr fun truthy => ?_
            obtain ⟨_, at_, reached, _, own⟩ := guarded.mark truthy
            cases here.reached.symm.trans reached
            simp [none] at own
          · exact marked_of_null (by simp [droppedCall, Dict.get_pop])
        rw [succeeded, marked_set _ _ (prefixed_ne (by decide)), unmarked]
      | _ => cases goes
    · exact unmarked_effect half_ effect reachable known tool (away.2 tool)

end Executing

def guarded (half_ : HalfGrant half) : Law env (gateTerms half gate) where
  row _ run := RowGuarded half gate run
  active _ activation := FrameGuarded half gate activation.frame
  row_add _ holds _ := holds
  row_lose _ holds := holds
  active_add _ holds _ := holds
  start _ _ fits := .of_ungranted fits
  child reachable holds here found type place _ _ given _ := by
    obtain ⟨row, interprets⟩ := reachable.interprets
    exact .of_ungranted (holds.child half_ interprets.gated here found type place given)
  resume reachable holds waiting granted := by
    obtain ⟨cursor, current, _⟩ := reachable.placed waiting
    obtain ⟨gated, named⟩ := waiting.gated reachable
    exact holds.resume half_ gated named current granted
  requestChanges _ rejection holds _ := by
    have gone := rejectedVars_ungranted half_ rejection
    refine ⟨fun truthy => ?_, ?_, fun cursor current kind truthy => ?_⟩
    · rw [requestChanges_vars, Dict.get_set_of_ne _ _ (by rcases half_ with rfl | rfl <;> decide), (gone _).1] at truthy
      cases truthy
    · rw [requestChanges_vars, marked_set _ _ (by decide), marked_of_null (gone _).2]
    · rw [requestChanges_vars, Dict.get_set_of_ne _ _ (by decide), (gone _).2] at truthy
      cases truthy
  reroute _ rejection _ _ _ _ _ := by
    have gone := rejectedVars_ungranted half_ rejection
    refine .of_ungranted ⟨?_, marked_of_null (gone _).2⟩
    exact (congrArg Json.truthy (gone _).1).trans rfl
  visit holds _ := holds
  report holds _ _ := holds
  branch holds _ _ := holds
  pause reachable holds here effect stops waits same := by
    obtain ⟨row, interprets⟩ := reachable.interprets
    have known := (reachable.chronicled.log _ List.mem_cons_self).owned
    have named := interprets.named.trans (congrArg (fun ids => ids.2.2) same).symm
    exact holds.pause half_ interprets.gated named here effect stops waits reachable known
  move reachable holds here effect goes _ := by
    obtain ⟨row, interprets⟩ := reachable.interprets
    have known := (reachable.chronicled.log _ List.mem_cons_self).owned
    exact .of_ungranted (holds.move half_ interprets.gated here effect goes reachable known)

theorem nodeTypeText_of_gate {node : Json} (kind : type = .approval ∨ type = .tool)
    (same : nodeType node = some type) : nodeTypeText node = if type = .approval then "approval" else "tool" := by
  rw [nodeType] at same
  unfold NodeType.ofText at same
  split at same <;> cases same <;> rcases kind with kind | kind <;> cases kind <;> assumption

theorem Gated.waiting_of_at {cursor : String} {node : Json} (gated : Gated gate version)
    (here : At (Frame.load (resumedRow vars run) version .resumed) cursor node) (kind : type = .approval ∨ type = .tool)
    (same : nodeType node = some type) :
    run.currentNodeId = some cursor ∧ nodeType (waitingNode run version) = some type := by
  have current : run.currentNodeId = some cursor := here.reached
  have gates : gate version.id cursor = some type := (gated.at here kind).mp same
  obtain ⟨member, named⟩ := nodesById_mem here.found
  obtain ⟨other, found⟩ : ∃ other, currentNode version.nodesJson (some cursor) = some other :=
    currentNode_some here.named member named
  obtain ⟨there, sameId⟩ := currentNode_mem found
  refine ⟨current, ?_⟩
  rw [waitingNode, current, found]
  exact (gated other there cursor sameId type kind).mpr gates

def Consumed (past : List Event) (runId nodeId : String) (approval : ApprovalRequest)
    (tool : Option (String × Dict Json)) : Prop :=
  past.head? = some (.approvalConsumed runId nodeId approval tool)

theorem Came.granted {frame : Frame} {cursor : String} {node : Json} (came : Came past frame)
    (guarded : FrameGuarded half gate frame) (gated : Gated gate frame.version) (here : At frame cursor node)
    (type : nodeType node = some .approval) (open_ : (frame.vars.get half).truthy = true) :
    frame.arrival = .resumed ∧ ∃ approval, Consumed past frame.run.id cursor approval none := by
  obtain ⟨resumed, _⟩ := guarded.grant open_
  refine ⟨resumed, ?_⟩
  cases came with
  | started id new definition version fresh same => subst same; cases resumed
  | followed prior source other visit outcome rest there effect goes passed quiet left same => subst same; cases resumed
  | rejected run version approval rejection config target rest read routed applied same => subst same; cases resumed
  | resumed run version vars granted same =>
    subst same
    obtain ⟨current, waits⟩ := gated.waiting_of_at here (.inl rfl) type
    have text := nodeTypeText_of_gate (.inl rfl) waits
    cases granted with
    | approval id approval actor _ _ consumed granted =>
      rw [current] at consumed
      exact ⟨approval, consumed⟩
    | pendingTool id approval call actor _ other => exact absurd (text.symm.trans other) (by decide)
    | humanInput payload actor other => exact absurd (text.symm.trans other) (by decide)
    | unchanged noGate noCall => exact absurd text noGate

theorem pendingCall_granted {id : String} {nodeId actor : Option String}
    {vars after : Dict Json} {call : String × Dict Json} (read : pendingCall vars = .ok call)
    (granted : grantedVars id approval nodeId actor true vars = .ok after) : pendingCall after = .ok call := by
  obtain ⟨pending, approver, stored, rfl⟩ := grantedVars_true granted
  rw [← read, pendingCall, pendingCall, stored, Dict.get_set_self]
  simp [bind, Except.bind, Json.toDict, Dict.get_set]

theorem unmarked_of_falsy (empty : (vars.get "pending_tool").truthy = false) : marked vars = false := by
  rw [marked]
  cases stored : vars.get "pending_tool" with
  | obj members =>
    rw [stored] at empty
    cases members with
    | nil => rfl
    | cons => cases empty
  | _ => rfl

theorem Came.approved {frame : Frame} {cursor : String} {node : Json} (came : Came past frame)
    (guarded : FrameGuarded half gate frame) (gated : Gated gate frame.version) (here : At frame cursor node)
    (open_ : marked frame.vars = true) :
    frame.arrival = .resumed ∧ nodeType node = some .tool ∧ ∃ approval call, pendingCall frame.vars = .ok call ∧
      Consumed past frame.run.id cursor approval (some call) := by
  obtain ⟨resumed, at_, reached, kind, own⟩ := guarded.mark open_
  cases here.reached.symm.trans reached
  have type : nodeType node = some .tool := (gated.at here (.inr rfl)).mpr kind
  refine ⟨resumed, type, ?_⟩
  cases came with
  | started id new definition version fresh same => subst same; cases resumed
  | followed prior source other visit outcome rest there effect goes passed quiet left same => subst same; cases resumed
  | rejected run version approval rejection config target rest read routed applied same => subst same; cases resumed
  | resumed run version vars granted same =>
    subst same
    obtain ⟨current, waits⟩ := gated.waiting_of_at here (.inr rfl) type
    have text := nodeTypeText_of_gate (.inr rfl) waits
    cases granted with
    | approval id approval actor _ other => exact absurd (text.symm.trans other) (by decide)
    | humanInput payload actor other => exact absurd (text.symm.trans other) (by decide)
    | pendingTool id approval call actor _ _ parked read consumed granted =>
      rw [current] at consumed
      exact ⟨approval, call, pendingCall_granted read granted, consumed⟩
    | unchanged noGate noCall =>
      have unmarked := unmarked_of_falsy (noCall text)
      cases unmarked.symm.trans open_

/-- The step under way at the node is that of a call of `resume_run` which consumed the approval right
    before it. -/
def OpenedBy (older : List Event) (runId nodeId : String) (approval : ApprovalRequest)
    (tool : Option (String × Dict Json)) : Prop :=
  ∃ own version vars earlier, Quiet own ∧ ofRun runId older = own ++
    .stepStarted runId version nodeId .resumed vars :: .approvalConsumed runId nodeId approval tool :: earlier

/-- The approval was approved, not consumed before, and bound to the run and to the node; for a tool
    also to the tool and to the hash of the params. -/
def Checked (env : Env) (runId nodeId : String) (approval : ApprovalRequest) (tool : Option (String × Dict Json)) :
    Prop :=
  approval.status = .approved ∧ alreadyConsumed approval.payloadJson = false ∧
    boundTo approval runId (some nodeId) = true ∧
    ∀ call, tool = some call → boundToCall env approval call.1 call.2 = true

def Opens (env : Env) (older : List Event) : Event → Prop
  | .approvalConsumed runId nodeId approval tool => Checked env runId nodeId approval tool
  | .stepFinished runId nodeId type status => type = "approval" → status = .succeeded →
    ∃ approval, OpenedBy older runId nodeId approval none
  | .toolExecuted runId nodeId _ toolSlug params context => (context.get "approval_granted").truthy = true →
    ∃ approval, OpenedBy older runId nodeId approval (some (toolSlug, params))
  | _ => True

theorem Consumed.openedBy {older own past : List Event} (consumed : Consumed past runId nodeId approval tool)
    (quiet : Quiet own) (same : ofRun runId older = own ++ .stepStarted runId version nodeId .resumed vars :: past) :
    OpenedBy older runId nodeId approval tool := by
  cases past with
  | nil => cases consumed
  | cons first earlier =>
    cases consumed
    exact ⟨own, version, vars, earlier, quiet, same⟩

theorem checked_of_consume {found : Option ApprovalRequest} {pendingTool : Bool}
    (checked : checkApprovalForNode env found run run.currentNodeId run.contextJson.vars pendingTool =
      .ok (approval, tool)) : Checked env run.id (run.currentNodeId.getD "") approval tool := by
  obtain ⟨approved, unconsumed, bound, rest⟩ := checkApprovalForNode_spec checked
  refine ⟨approved, unconsumed, bound, ?_⟩
  rintro call rfl
  cases pendingTool with
  | false => cases rest
  | true => simp_all

theorem ApprovalEffect.open_ {cursor : String} {outcome : NodeOutcome}
    (effect : ApprovalEffect cursor vars outcome) (half_ : HalfGrant half) (passed : outcome.status = .succeeded) :
    (vars.get half).truthy = true := by
  cases effect with
  | granted approvalId consumed output grant request =>
    rcases half_ with rfl | rfl
    · exact grant
    · exact request
  | refused | waiting | requested => cases passed

theorem Dispatch.granted {frame : Frame} {cursor nodeId toolSlug : String} {node : Json} {params context : Dict Json}
    (dispatch : Dispatch env frame cursor node nodeId toolSlug params context)
    (open_ : (context.get "approval_granted").truthy = true) :
    marked frame.vars = true ∧ pendingCall frame.vars = .ok (toolSlug, params) := by
  rcases dispatch.source with rfl | ⟨pending, found, consumed, read⟩
  · exact absurd open_ (by simp [freshToolContext, Dict.get, Dict.get?_cons, Json.truthy])
  obtain ⟨stored, _⟩ := pendingFor_node found
  refine ⟨(marked_of_obj stored).trans consumed, ?_⟩
  rcases dispatch.called with ⟨none, _⟩ | ⟨own, same, slug⟩
  · cases none.symm.trans found
  · cases same.symm.trans found
    have whole : (Json.obj pending).toDict = .ok pending := rfl
    rw [pendingCall, stored, slug]
    simp only [bind, Except.bind, whole, read, pure, Except.pure]

theorem Reachable.opens (half_ : HalfGrant half) {w : World} {stack : List Activation} {events : List Event}
    (reachable : Reachable env (gateTerms half gate) (w, stack)) (source : events = w.log ∨ events = w.db.history) :
    Justified (Opens env) events := by
  refine reachable.accounted source ?_ fun _ _ _ _ _ => trivial
  intro w stack event events earlier emission source
  cases emission with
  | consumed w stack run version id approval tool pendingTool waiting checked => exact checked_of_consume checked
  | finished w frame budget visit stack cursor node outcome here effect =>
    intro text passed
    have traced : Traced events ⟨frame, budget, some visit⟩ := by
      rcases source with rfl | rfl
      · exact earlier.chronicled.log.top
      · exact earlier.chronicled.history.top
    obtain ⟨quiet, past, came, same⟩ := traced.stepped here
    obtain ⟨row, interprets⟩ := earlier.interprets
    have type : nodeType node = some .approval := nodeType_of_text text
    rw [NodeEffect, type] at effect
    have held : FrameGuarded half gate frame := ((guarded half_).holds earlier).stack _ mem_cons_self
    obtain ⟨resumed, approval, consumed⟩ :=
      came.granted held interprets.gated here type (effect.open_ half_ passed)
    exact ⟨approval, consumed.openedBy quiet (resumed ▸ same)⟩
  | reported w frame budget visit stack cursor node event here reports =>
    cases reports with
    | toolExecuted nodeId owner toolSlug params context dispatch =>
      intro open_
      have traced : Traced events ⟨frame, budget, some visit⟩ := by
        rcases source with rfl | rfl
        · exact earlier.chronicled.log.top
        · exact earlier.chronicled.history.top
      obtain ⟨quiet, past, came, same⟩ := traced.stepped here
      obtain ⟨row, interprets⟩ := earlier.interprets
      obtain ⟨mark, call⟩ := dispatch.granted open_
      have held : FrameGuarded half gate frame := ((guarded half_).holds earlier).stack _ mem_cons_self
      obtain ⟨resumed, type, approval, other, read, consumed⟩ := came.approved held interprets.gated here mark
      cases read.symm.trans call
      have place : nodeId = cursor := dispatch.place.resolve_right fun parallel => by simp [type] at parallel
      subst place
      exact ⟨approval, consumed.openedBy quiet (resumed ▸ same)⟩
    | _ => trivial
  | created | exceeded | rejected | visited | exhausted => trivial

theorem OpenedBy.checked {older : List Event} (justified : Justified (Opens env) older)
    (opened : OpenedBy older runId nodeId approval tool) : Checked env runId nodeId approval tool := by
  obtain ⟨own, version, vars, earlier, _, same⟩ := opened
  have member : Event.approvalConsumed runId nodeId approval tool ∈ older :=
    mem_of_ofRun (same ▸ mem_append_right _ (mem_cons_of_mem _ mem_cons_self))
  obtain ⟨_, _, checked⟩ := justified.mem member
  exact checked

/-- No gate opens without its approval, when the dicts supplied from outside hold no grant and no
    pending call marked as approved, and an id that is an approval or a tool node stays one. -/
theorem approval_gate_opens_by_approval (half_ : HalfGrant half) {w : World} (run : Run env (gateTerms half gate) w)
    {events newer older : List Event} (source : events = w.log ∨ events = w.db.history) :
    (∀ runId nodeId, events = newer ++ .stepFinished runId nodeId "approval" .succeeded :: older →
      ∃ approval, OpenedBy older runId nodeId approval none ∧ Checked env runId nodeId approval none) ∧
    ∀ runId nodeId owner toolSlug params context,
      events = newer ++ .toolExecuted runId nodeId owner toolSlug params context :: older →
      (context.get "approval_granted").truthy = true →
      ∃ approval, OpenedBy older runId nodeId approval (some (toolSlug, params)) ∧
        Checked env runId nodeId approval (some (toolSlug, params)) := by
  have justified := run.reachable.1.opens half_ source
  refine ⟨fun runId nodeId split => ?_, fun runId nodeId owner toolSlug params context split open_ => ?_⟩
  · rw [split] at justified
    obtain ⟨approval, opened⟩ := justified.at rfl rfl
    exact ⟨approval, opened, opened.checked justified.since.2⟩
  · rw [split] at justified
    obtain ⟨approval, opened⟩ := justified.at open_
    exact ⟨approval, opened, opened.checked justified.since.2⟩

def gateway : WorkflowVersion :=
  published "gateway" [plainNode "gate" "approval" [], plainNode "send" "tool" [("tool", .str "mail")]]
    [plainEdge "gate" "send"] "gate"

def gatewayGate : String → String → Option NodeType
  | _, "gate" => some .approval
  | _, "send" => some .tool
  | _, _ => none

theorem gateway_gated : Gated gatewayGate gateway := by
  intro node member id named type _
  simp only [gateway, published, mem_cons, not_mem_nil, or_false] at member
  rcases member with rfl | rfl <;> cases named <;> rfl

def gatewayWorld (input : Dict Json) : World :=
  World.after stillEnv (publishing gateway ++ [.start (startOf "gateway" input) "dev"]) {}

def gatewayApproval : ApprovalRequest :=
  { ((gatewayWorld []).db.approvals.get? "rr").getD default with status := .approved }

def approvedWorld : World :=
  World.after stillEnv
    [.changed (.approval gatewayApproval), .resume "owner" "r" ⟨some "rr", .null, none, false⟩] (gatewayWorld [])

theorem approvedWorld_run : Run stillEnv (gateTerms "approval_granted" gatewayGate) approvedWorld := by
  have started : Run stillEnv (gateTerms "approval_granted" gatewayGate) (gatewayWorld []) :=
    Run.init.after (publishing_possible trivial gateway_gated ⟨trivial, ⟨rfl, rfl⟩, trivial⟩)
  exact started.after ⟨trivial, trivial, trivial, trivial, trivial⟩

theorem gateway_opened :
    ∃ approval, OpenedBy (approvedWorld.log.drop 4) "r" "gate" approval none ∧
      Checked stillEnv "r" "gate" approval none := by
  have log : approvedWorld.log = approvedWorld.log.take 3 ++
      .stepFinished "r" "gate" "approval" .succeeded :: approvedWorld.log.drop 4 := by decide +kernel
  exact (approval_gate_opens_by_approval (.inl rfl) approvedWorld_run (.inl rfl)).1 "r" "gate" log

def forged : Dict Json :=
  [("approval_granted", .bool true), ("approval_request_id", .str "any"),
    ("pending_tool", .obj [("node_id", .str "send"), ("tool_slug", .str "mail"), ("approval_consumed", .bool true)])]

theorem input_opens_gates :
    validateGraph gateway.nodesJson gateway.edgesJson gateway.entryNodeId = [] ∧
      Run stillEnv .any (gatewayWorld forged) ∧
      Event.stepFinished "r" "gate" "approval" .succeeded ∈ (gatewayWorld forged).log ∧
      (∃ params context, Event.toolExecuted "r" "send" "owner" "mail" params context ∈ (gatewayWorld forged).log ∧
        context.get "approval_granted" = .bool true) ∧
      ∀ runId nodeId approval tool, Event.approvalConsumed runId nodeId approval tool ∉ (gatewayWorld forged).log := by
  have log : (gatewayWorld forged).log = [.stepFinished "r" "send" "tool" .succeeded,
      .toolExecuted "r" "send" "owner" "mail" [] [("approval_granted", .bool true), ("approval_request_id", .null)],
      .stepStarted "r" gateway "send" (.followed "gate")
        [forged.getLast (by decide), ("_consumed_approval_ids", .arr [.str "any"])],
      .stepFinished "r" "gate" "approval" .succeeded, .stepStarted "r" gateway "gate" .start forged,
      .runCreated "r" none false] := by decide +kernel
  refine ⟨by decide, Run.init.after (publishing_possible trivial trivial ⟨trivial, trivial, trivial⟩), ?_⟩
  rw [log]
  refine ⟨by simp, ⟨_, _, mem_cons_of_mem _ mem_cons_self, rfl⟩, by simp⟩

end Troop.Workflow
