import Troop.Workflow.Rejections

namespace Troop.Workflow

open Prog (exec_bind exec_bind_ok exec_get exec_ofExcept)

variable {env : Env} {terms : Terms}

section Resuming

variable {w granting started after : World} {owner : String} {run : WorkflowRun} {version : WorkflowVersion}
  {definition : WorkflowDefinition} {gate : String} {node : Json} {given : Resumption} {vars : Dict Json} {frame next : Frame}
  {depth : Nat}

def inner (env : Env) : Calls := ⟨advanceWith env (hook env) (env.nesting - 1), hook env⟩

theorem inner_follows : Follows env terms (inner env) (env.nesting - 1) :=
  advanceWith_follows (onWorkflowRunCompletedWith_follows env.hookDepth) _

variable {output after_ : Dict Json} {runId : String} {calls : Calls} {steps : Nat}

theorem visitNode_moves
    (executed : (executeNode env calls frame gate node).exec
      (started.record (.stepStarted frame.run.id frame.version gate frame.arrival frame.vars)) =
        (.ok (succeeded output after_), after)) :
    (visitNode env calls frame gate node).exec started = (.ok (some (frame.follow gate after_)),
      (after.record (.stepFinished frame.run.id gate (nodeTypeText node) .succeeded)).changeRun frame.run.id
        (movedRow (frame.follow gate after_))) := by
  unfold visitNode
  rw [exec_bind_ok (emit_exec _ _), exec_bind_ok executed, exec_bind_ok (emit_exec _ _)]
  rfl

theorem visitNode_pauses (frame : Frame) (started : World) {status : RunStatus}
    (executed : (executeNode env calls frame gate node).exec
      (started.record (.stepStarted frame.run.id frame.version gate frame.arrival frame.vars)) =
        (.ok (paused output after_ status), after)) :
    (visitNode env calls frame gate node).exec started = (.ok none,
      (after.record (.stepFinished frame.run.id gate (nodeTypeText node) .paused)).changeRun frame.run.id
        (pausedRow { frame with vars := after_ } gate status)) := by
  unfold visitNode
  rw [exec_bind_ok (emit_exec _ _), exec_bind_ok executed, exec_bind_ok (emit_exec _ _)]
  rfl

theorem visit_sound (sound : Sound env (started, [⟨frame, env.nesting - 1 + 1, none⟩])) (here : At frame gate node)
    (visited : (visitNode env (inner env) frame gate node).exec started = (.ok (some next), after)) :
    Sound env (after, [⟨next, env.nesting - 1 + 1, none⟩]) := by
  have follows : Follows env Terms.any (inner env) (env.nesting - 1) := inner_follows
  have triple : Triple (Standing env Terms.any (started, [⟨frame, env.nesting - 1 + 1, none⟩])
      [⟨frame, env.nesting - 1 + 1, none⟩]) (visitNode env (inner env) frame gate node)
      (Left env Terms.any (started, [⟨frame, env.nesting - 1 + 1, none⟩]) [] (env.nesting - 1 + 1)) _ :=
    visitNode_follows follows sound here
  have left := triple.run started .refl
  rw [visited] at left
  exact sound.steps left

theorem resume_sound (reachable : Reachable env terms (w, [])) (waiting : Waiting w run version)
    (granted : (grantedResume env run (waitingNode run version) given run.contextJson.vars).exec w = (.ok vars, granting)) :
    (granting.changeRun run.id (resumedRow vars)).db.runs.get? run.id = some (resumedRow vars run) ∧
      Sound env (granting.changeRun run.id (resumedRow vars), [.start (resumedRow vars run) version .resumed env.nesting]) := by
  have facing : Facing env terms (w, []) [] run version w := ⟨.refl, waiting⟩
  have ran := (@grantedResume_follows env terms (w, []) [] run version given).run w facing
  rw [granted] at ran
  obtain ⟨⟨standing, waits⟩, grants⟩ := ran
  exact ⟨waits.changed, reachable.sound.steps (standing.tail (.resume granting [] run version vars waits grants))⟩

theorem notifyIfTerminal_ok (calls : Calls) (runId : String) (w : World) :
    ((notifyIfTerminal calls runId).exec w).1 = .ok ⟨⟩ := by
  unfold notifyIfTerminal
  rw [exec_bind_ok (exec_get w)]
  cases found : w.db.runs.get? runId with
  | none => rfl
  | some run =>
    dsimp only
    by_cases ended : run.status.terminal = true
    · rw [if_pos ended, Prog.exec_catching]
      cases outcome : (calls.onWorkflowRunCompleted runId run.status).exec w with
      | mk result after => cases result <;> rfl
    · simp_all

def rest (env : Env) (runId : String) (steps : Nat) (next : Frame) : Session PUnit := do
  advanceLoop env (inner env) steps next
  notifyIfTerminal (service env) runId
  commit

theorem rest_ok (runId : String) (steps : Nat) (onward : ((advanceLoop env (inner env) steps next).exec after).1 = .ok ⟨⟩) :
    ((rest env runId steps next).exec after).1 = .ok ⟨⟩ ∧
      ((rest env runId steps next).exec after).2.committed = ((rest env runId steps next).exec after).2.db := by
  unfold rest
  cases looped : (advanceLoop env (inner env) steps next).exec after with
  | mk result middle =>
    rw [looped] at onward
    cases onward
    rw [exec_bind_ok looped]
    have told := notifyIfTerminal_ok (service env) runId middle
    cases notified : (notifyIfTerminal (service env) runId).exec middle with
    | mk answer last =>
      rw [notified] at told
      cases told
      rw [exec_bind_ok notified]
      exact ⟨rfl, rfl⟩

theorem rest_log (runId : String) (steps : Nat) (sound : Sound env (after, [⟨next, env.nesting - 1 + 1, none⟩])) :
    ∃ newer, ((rest env runId steps next).exec after).2.log = newer ++ after.log := by
  have looped : Triple (fun state => state = after) (advanceLoop env (inner env) steps next)
      (fun _ => Standing env Terms.any (after, [⟨next, env.nesting - 1 + 1, none⟩]) [])
      (Standing env Terms.any (after, [⟨next, env.nesting - 1 + 1, none⟩]) []) := by
    apply (advanceLoop_follows inner_follows sound [] _ next).before
    rintro _ rfl
    exact .refl
  have follows : Triple (fun state => state = after) (rest env runId steps next)
      (fun _ => Standing env Terms.any (after, [⟨next, env.nesting - 1 + 1, none⟩]) [])
      (Standing env Terms.any (after, [⟨next, env.nesting - 1 + 1, none⟩]) []) :=
    Triple.bind looped fun _ => Triple.bind (notifyIfTerminal_follows service_follows sound [] runId) fun _ => commit_follows
  exact (lands follows rfl).log

theorem resumeRun_exec (waiting : Waiting w run version) (nests : 0 < env.nesting)
    (defined : w.db.definitions.get? run.workflowId = some definition)
    (readable : definition.ownerId = owner ∨ definition.isTemplate = true) (named : run.workflowVersionId ≠ "")
    (granted : (grantedResume env run (waitingNode run version) given run.contextJson.vars).exec w = (.ok vars, granting))
    (row : (granting.changeRun run.id (resumedRow vars)).db.runs.get? run.id = some (resumedRow vars run)) :
    (resumeRun env (service env) owner run.id given).exec w =
      (rest env run.id (maxSteps version - 1 + 1) (Frame.load (resumedRow vars run) version .resumed)).exec
        (granting.changeRun run.id (resumedRow vars)) := by
  have reads : (getDefinition owner run.workflowId).exec w = (.ok definition, w) := by
    rw [getDefinition_exec, defined]
    simp only [readable, if_true]
  have found : (getVersion (some run.workflowVersionId)).exec w = (.ok (some version), w) := by
    rcases getVersion_exec w run.workflowVersionId with ⟨other, -, stored, read⟩ | ⟨missing, -⟩
    · cases waiting.version.symm.trans stored
      exact read
    · exact absurd ⟨named, version, waiting.version⟩ missing
  have budget : maxSteps version = maxSteps version - 1 + 1 := by
    unfold maxSteps
    omega
  have deep : env.nesting = env.nesting - 1 + 1 := by omega
  unfold resumeRun
  rw [exec_bind_ok (getRun_exec waiting.row), exec_bind_ok reads, exec_bind_ok (checkAccess_exec readable),
    if_neg (not_not.mpr waiting.status), exec_bind_ok found]
  dsimp only
  rw [show (currentNode version.nodesJson run.currentNodeId).getD .null = waitingNode run version from rfl,
    exec_bind_ok granted, exec_bind_ok (updateRun_exec _ _ _)]
  have advanced : ((service env).advance run.id version .resumed).exec (granting.changeRun run.id (resumedRow vars)) =
      (advanceLoop env (inner env) (maxSteps version - 1 + 1) (Frame.load (resumedRow vars run) version .resumed)).exec
        (granting.changeRun run.id (resumedRow vars)) := by
    show (advanceWith env (hook env) env.nesting run.id version .resumed).exec _ = _
    rw [deep, advanceWith, exec_bind_ok (getRun_exec row), budget]
    rfl
  unfold rest
  rw [exec_bind, exec_bind, advanced]

theorem rest_moves (here : At frame gate node)
    (visited : (visitNode env (inner env) frame gate node).exec started = (.ok (some next), after)) :
    (rest env runId (steps + 1) frame).exec started = (rest env runId steps next).exec after := by
  unfold rest
  rw [exec_bind, exec_bind, advanceLoop]
  simp only [here.reached, if_neg here.named, here.found]
  rw [exec_bind_ok visited]

theorem rest_stops (here : At frame gate node)
    (visited : (visitNode env (inner env) frame gate node).exec started = (.ok none, after)) :
    (rest env runId (steps + 1) frame).exec started =
      (do notifyIfTerminal (service env) runId; commit : Session PUnit).exec after := by
  unfold rest
  rw [exec_bind, advanceLoop]
  simp only [here.reached, if_neg here.named, here.found]
  rw [exec_bind_ok visited]
  rfl

/-- A call that takes the run past its gate: it answers, all it wrote is committed, and the gate's step has succeeded. -/
def Passes (runId gate : String) (program : Session PUnit) (w : World) : Prop :=
  ∃ after newer type, program.exec w = (.ok ⟨⟩, after) ∧ after.committed = after.db ∧ after.log = newer ++ w.log ∧
    Event.stepFinished runId gate type .succeeded ∈ newer

def Onward (env : Env) (run : WorkflowRun) (version : WorkflowVersion) (gate : String) (given : Resumption) (w : World) :
    Prop :=
  ∀ vars granting next passed,
    (grantedResume env run (waitingNode run version) given run.contextJson.vars).exec w = (.ok vars, granting) →
    (visitNode env (inner env) (Frame.load (resumedRow vars run) version .resumed) gate (waitingNode run version)).exec
      (granting.changeRun run.id (resumedRow vars)) = (.ok (some next), passed) →
    ((advanceLoop env (inner env) (maxSteps version - 1) next).exec passed).1 = .ok ⟨⟩

structure Stands (w : World) (owner : String) (run : WorkflowRun) (version : WorkflowVersion) (gate : String) : Prop where
  waiting : Waiting w run version
  readable : ∃ definition, w.db.definitions.get? run.workflowId = some definition ∧
    (definition.ownerId = owner ∨ definition.isTemplate = true)
  versioned : run.workflowVersionId ≠ ""
  reached : run.currentNodeId = some gate
  named : gate ≠ ""
  found : (nodesById version.nodesJson).get? gate = some (waitingNode run version)

theorem Stands.at (stands : Stands w owner run version gate) (vars : Dict Json) :
    At (Frame.load (resumedRow vars run) version .resumed) gate (waitingNode run version) :=
  ⟨stands.reached, stands.named, stands.found⟩

theorem Stands.passes (reachable : Reachable env terms (w, [])) (stands : Stands w owner run version gate)
    (nests : 0 < env.nesting) (earlier : List Event) {output vars' : Dict Json}
    (granted : (grantedResume env run (waitingNode run version) given run.contextJson.vars).exec w = (.ok vars, granting))
    (executed : (executeNode env (inner env) (Frame.load (resumedRow vars run) version .resumed) gate
      (waitingNode run version)).exec ((granting.changeRun run.id (resumedRow vars)).record
        (.stepStarted run.id version gate .resumed vars)) = (.ok (succeeded output vars'), after))
    (grown : after.log = earlier ++ w.log) (onward : Onward env run version gate given w) :
    Passes run.id gate (resumeRun env (service env) owner run.id given) w := by
  obtain ⟨definition, defined, readable⟩ := stands.readable
  obtain ⟨row, sound⟩ := resume_sound reachable stands.waiting granted
  have here := stands.at vars
  have visited := visitNode_moves executed
  have deep : env.nesting = env.nesting - 1 + 1 := by omega
  rw [deep] at sound
  have left := visit_sound sound here visited
  obtain ⟨answer, kept⟩ := rest_ok run.id _ (onward _ _ _ _ granted visited)
  obtain ⟨newer, same⟩ := rest_log run.id (maxSteps version - 1) left
  have ran := (resumeRun_exec stands.waiting nests defined readable stands.versioned granted row).trans
    (rest_moves here visited)
  refine ⟨_, newer ++ .stepFinished run.id gate (nodeTypeText (waitingNode run version)) .succeeded :: earlier,
    nodeTypeText (waitingNode run version), ran.trans (Prod.ext answer rfl), kept, ?_, by simp⟩
  rw [same]
  simp only [World.changeRun, World.record, grown, List.append_assoc, List.cons_append]
  rfl

end Resuming

section Approving

def consumedWorld (env : Env) (id : String) (approval : ApprovalRequest) (tool : Option (String × Dict Json))
    (run : WorkflowRun) (w : World) : World :=
  (w.aside 0 (w.db.approvals.set id { approval with
    payloadJson := consumedPayload env approval.payloadJson run.currentNodeId w.now }) w.db.taskRuns w.db.children).record
      (.approvalConsumed run.id (run.currentNodeId.getD "") approval tool)

theorem consumeApprovalForNode_exec {w : World} {id : String} {run : WorkflowRun} {vars after : Dict Json}
    {actor : Option String} {pendingTool : Bool} {approval : ApprovalRequest} {tool : Option (String × Dict Json)}
    (checked : checkApprovalForNode env (w.db.approvals.get? id) run run.currentNodeId vars pendingTool = .ok (approval, tool))
    (granted : grantedVars id approval run.currentNodeId actor pendingTool vars = .ok after) :
    (consumeApprovalForNode env id run run.currentNodeId vars actor pendingTool).exec w =
      (.ok after, consumedWorld env id approval tool run w) := by
  unfold consumeApprovalForNode
  rw [exec_bind_ok (exec_get w), checked, exec_bind_ok (exec_ofExcept _ w)]
  rw [exec_bind_ok (modifyDb_exec _ w), exec_bind_ok (emit_exec _ _), granted, exec_ofExcept]
  simp only [consumedWorld, World.aside, Nat.add_zero]

structure Admits (run : WorkflowRun) (gate id : String) (approval : ApprovalRequest) : Prop where
  approved : approval.status = .approved
  named : id ≠ ""
  project : otherProject approval run = false
  unconsumed : alreadyConsumed approval.payloadJson = false
  bound : boundTo approval run.id (some gate) = true
  fresh : ∃ consumed, (run.contextJson.vars.get "_consumed_approval_ids").toList = .ok consumed ∧
    consumed.any (Json.pyEq (.str id)) = false

variable {w : World} {owner gate id : String} {run : WorkflowRun} {version : WorkflowVersion} {approval : ApprovalRequest}

theorem checkApprovalForNode_ok {nodeId : Option String} {vars : Dict Json} (approved : approval.status = .approved)
    (project : otherProject approval run = false) (unconsumed : alreadyConsumed approval.payloadJson = false)
    (bound : boundTo approval run.id nodeId = true) (pendingTool : Bool) :
    checkApprovalForNode env (some approval) run nodeId vars pendingTool =
      if pendingTool then checkPendingTool env approval vars else .ok (approval, none) := by
  simp only [boundTo, decide_eq_true_eq] at bound
  simp [checkApprovalForNode, approved, project, unconsumed, bound.1, bound.2]

theorem executeApprovalNode_passes {node : Json} {vars : Dict Json} {consumed : List Json} {started : World}
    (grant : vars.get "approval_granted" = .bool true) (request : vars.get "approval_request_id" = .str id)
    (named : id ≠ "") (mine : vars.get "approval_node_id" = .str gate)
    (read : (vars.get "_consumed_approval_ids").toList = .ok consumed)
    (fresh : consumed.any (Json.pyEq (.str id)) = false) :
    ∃ output, (executeApprovalNode env run node gate vars).exec started =
      (.ok (succeeded output (spentGrant vars consumed id)), started) := by
  have open_ : (vars.get "approval_granted").truthy ∧ (vars.get "approval_request_id").truthy := by
    rw [grant, request]
    exact ⟨rfl, by simpa [Json.truthy] using named⟩
  unfold executeApprovalNode
  rw [if_pos open_, read, exec_bind_ok (exec_ofExcept _ _)]
  have id_ : (vars.get "approval_request_id").pyStr = id := by
    rw [request]
    rfl
  rw [id_, if_neg (by simp [fresh]), mine, if_neg (by simp)]
  exact ⟨_, rfl⟩

theorem Stands.admitted (reachable : Reachable env terms (w, [])) (stands : Stands w owner run version gate)
    (nests : 0 < env.nesting) (type : nodeTypeText (waitingNode run version) = "approval")
    (found : w.db.approvals.get? id = some approval) (admits : Admits run gate id approval)
    (onward : Onward env run version gate { Resumption.plain with approvalRequestId := some id } w) :
    Passes run.id gate
      (resumeRun env (service env) owner run.id { Resumption.plain with approvalRequestId := some id }) w := by
  obtain ⟨consumed, read, fresh⟩ := admits.fresh
  let approver := (Json.ofOption approval.approvedByUserId).pyOr (.ofOption none)
  let vars := (((run.contextJson.vars.set "approval_granted" (.bool true)).set "approval_request_id" (.str id)).set
    "approval_node_id" (.ofOption run.currentNodeId)).set "approved_by" approver
  have granting : grantedVars id approval run.currentNodeId none false run.contextJson.vars = .ok vars := rfl
  have checked : checkApprovalForNode env (w.db.approvals.get? id) run run.currentNodeId run.contextJson.vars false =
      .ok (approval, none) := by
    rw [found, stands.reached]
    exact checkApprovalForNode_ok admits.approved admits.project admits.unconsumed admits.bound false
  have granted : (grantedResume env run (waitingNode run version)
      { Resumption.plain with approvalRequestId := some id } run.contextJson.vars).exec w =
        (.ok vars, consumedWorld env id approval none run w) := by
    unfold grantedResume
    simp only [type, if_true, Option.getD_some, admits.named, if_false]
    exact consumeApprovalForNode_exec checked granting
  have approvalType : nodeType (waitingNode run version) = some .approval := by
    rw [nodeType, type]
    rfl
  obtain ⟨output, executed⟩ : ∃ output, (executeNode env (inner env) (Frame.load (resumedRow vars run) version .resumed) gate
      (waitingNode run version)).exec (((consumedWorld env id approval none run w).changeRun run.id
        (resumedRow vars)).record (.stepStarted run.id version gate .resumed vars)) =
          (.ok (succeeded output (spentGrant vars consumed id)), _) := by
    unfold executeNode
    rw [approvalType]
    apply executeApprovalNode_passes
    · simp [vars, Frame.load, resumedRow, Dict.get_set]
    · simp [vars, Frame.load, resumedRow, Dict.get_set]
    · exact admits.named
    · simp [vars, Frame.load, resumedRow, Dict.get_set, stands.reached, Json.ofOption]
    · simpa [vars, Frame.load, resumedRow, Dict.get_set] using read
    · exact fresh
  exact stands.passes reachable nests [_, _] granted executed rfl onward

end Approving

end Troop.Workflow
