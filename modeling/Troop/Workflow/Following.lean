import Troop.Workflow.Branches

namespace Troop.Workflow

open Triple (bind catching forEach get ite modify ofExcept pure throw with_fact)

variable {env : Env} {terms : Terms} {calls : Calls} {budget : Nat}

def Standing (env : Env) (terms : Terms) (origin : Machine) (stack : List Activation) (w : World) : Prop :=
  Steps env terms origin (w, stack)

theorem notifyIfTerminal_follows (follows : Follows env terms calls budget) {origin : Machine}
    (sound : Sound env origin) (stack : List Activation) (runId : String) :
    Triple (Standing env terms origin stack) (notifyIfTerminal calls runId)
      (fun _ => Standing env terms origin stack) (Standing env terms origin stack) := by
  refine bind (get (Q := fun _ => Standing env terms origin stack) fun _ reached => reached) fun w => ?_
  split
  · refine ite (fun _ => ?_) fun _ => pure fun _ reached => reached
    exact catching (follows.hook origin sound stack runId _) fun _ => pure fun _ reached => reached
  · exact pure fun _ reached => reached

variable {frame : Frame} {w : World}

theorem leaveLoop_follows (follows : Follows env terms calls budget) {origin : Machine} (sound : Sound env origin)
    {stack : List Activation} {pre : World → Prop}
    (left : ∀ w, pre w → Standing env terms origin stack (w.changeRun frame.run.id (leftRow frame))) :
    Triple pre (leaveLoop calls frame) (fun _ => Standing env terms origin stack)
      (Standing env terms origin stack) :=
  bind (modify (Q := fun _ => Standing env terms origin stack) left) fun _ =>
    notifyIfTerminal_follows follows sound stack _

def Left (env : Env) (terms : Terms) (origin : Machine) (stack : List Activation) (budget : Nat) :
    Option Frame → World → Prop
  | some frame => Standing env terms origin (⟨frame, budget, none⟩ :: stack)
  | none => Standing env terms origin stack

theorem visitNode_follows (follows : Follows env terms calls budget) {origin : Machine} (sound : Sound env origin)
    {stack : List Activation} {cursor : String} {node : Json} (here : At frame cursor node) :
    Triple (Standing env terms origin (⟨frame, budget + 1, none⟩ :: stack)) (visitNode env calls frame cursor node)
      (Left env terms origin stack (budget + 1)) (Standing env terms origin stack) := by
  let spot : Spot env terms := ⟨origin, sound, frame, budget + 1, stack, cursor, node, here⟩
  refine bind (R := fun _ => spot.visiting fun _ _ => True) (modify fun w reached => ?_) fun _ => ?_
  · exact ⟨⟨[], []⟩, trivial, Relation.ReflTransGen.tail reached (.visit w frame _ stack cursor node here)⟩
  have executed : spot.Does (fun _ _ => True) (executeNode env calls frame cursor node) _ := executeNode_does follows rfl
  refine bind (executed.triple.weaken (fun _ h => h) (fun _ _ h => h) ?_) fun outcome => ?_
  · exact fun w ⟨visit, _, steps⟩ => Relation.ReflTransGen.tail steps (.abandon w _ stack)
  have ended : ∀ {w visit after stack'}, NodeEffect frame cursor node visit outcome →
      Steps env terms origin (spot.machine w visit) →
      Step env terms (spot.machine w visit) (after, stack') → Steps env terms origin (after, stack') :=
    fun _ steps step => Relation.ReflTransGen.tail steps step
  refine bind (R := fun _ after => ∃ w visit, NodeEffect frame cursor node visit outcome ∧
    Steps env terms origin (spot.machine w visit) ∧
    after = w.record (.stepFinished frame.run.id cursor (nodeTypeText node) outcome.status)) ?_ fun _ => ?_
  · exact modify fun w ⟨visit, effect, steps⟩ => ⟨w, visit, effect, steps, rfl⟩
  split
  · rename_i status stops
    refine bind (R := fun _ => Standing env terms origin stack) (modify ?_) fun _ =>
      pure fun _ reached => reached
    rintro _ ⟨w, visit, effect, steps, rfl⟩
    exact ended effect steps (.pause w frame _ visit stack cursor node outcome status here effect stops)
  · rename_i goes
    refine ite (fun failed => ?_) fun passed => ?_
    · refine bind (R := fun _ => Standing env terms origin stack) (bind
        (R := fun _ => Standing env terms origin stack) (modify ?_) fun _ =>
          notifyIfTerminal_follows follows sound stack _) fun _ => pure fun _ reached => reached
      rintro _ ⟨w, visit, effect, steps, rfl⟩
      exact ended effect steps (.fail w frame _ visit stack cursor node outcome here effect goes failed)
    · refine bind (R := fun _ => Left env terms origin stack (budget + 1)
        (some (frame.follow cursor outcome.vars))) (modify ?_) fun _ => pure fun _ reached => reached
      rintro _ ⟨w, visit, effect, steps, rfl⟩
      exact ended effect steps (.move w frame _ visit stack cursor node outcome here effect goes passed)

theorem exhausted_leaves {stack : List Activation} (long : hasText frame.cursor = true) :
    Step env terms (w, ⟨frame, budget + 1, none⟩ :: stack)
      ((w.record (.stepBudgetExhausted frame.run.id (frame.cursor.getD ""))).changeRun frame.run.id (leftRow frame),
        stack) := by
  cases reached : frame.cursor with
  | none => simp [hasText, reached] at long
  | some cursor =>
    refine .exhausted w frame _ stack cursor reached ?_
    simpa [hasText, reached] using long

theorem ended_leaves {stack : List Activation} (short : ¬ hasText frame.cursor = true) :
    Step env terms (w, ⟨frame, budget + 1, none⟩ :: stack) (w.changeRun frame.run.id (leftRow frame), stack) := by
  refine .ended w frame _ stack ?_
  cases reached : frame.cursor with
  | none => exact .inl rfl
  | some cursor =>
    right
    simpa [hasText, reached] using short

theorem advanceLoop_follows (follows : Follows env terms calls budget) {origin : Machine}
    (sound : Sound env origin) (stack : List Activation) (steps : Nat) :
    ∀ frame, Triple (Standing env terms origin (⟨frame, budget + 1, none⟩ :: stack))
      (advanceLoop env calls steps frame) (fun _ => Standing env terms origin stack)
      (Standing env terms origin stack) := by
  induction steps with
  | zero =>
    intro frame
    refine bind (R := fun _ after => ∃ w, Standing env terms origin (⟨frame, budget + 1, none⟩ :: stack) w ∧
      Step env terms (w, ⟨frame, budget + 1, none⟩ :: stack) (after.changeRun frame.run.id (leftRow frame), stack))
      (ite (fun long => ?_) fun short => ?_) fun _ => leaveLoop_follows follows sound ?_
    · exact modify fun w standing => ⟨w, standing, exhausted_leaves long⟩
    · exact pure fun w standing => ⟨w, standing, ended_leaves short⟩
    · rintro after ⟨w, standing, step⟩
      exact standing.tail step
  | succ steps ih =>
    intro frame
    unfold advanceLoop
    split
    · rename_i exhausted
      exact leaveLoop_follows follows sound fun w standing => standing.tail (.ended w frame _ stack (.inl exhausted))
    · rename_i cursor given
      refine ite (fun empty => ?_) fun named => ?_
      · exact leaveLoop_follows follows sound fun w standing =>
          standing.tail (.ended w frame _ stack (.inr (empty ▸ given)))
      · split
        · rename_i absent
          refine bind (R := fun _ after => ∃ w, Standing env terms origin (⟨frame, budget + 1, none⟩ :: stack) w ∧
            after = w.changeRun frame.run.id (missingRow cursor)) (modify fun w standing => ⟨w, standing, rfl⟩)
            fun _ => leaveLoop_follows follows sound ?_
          rintro _ ⟨w, standing, rfl⟩
          exact standing.tail (.missing w frame _ stack cursor given named absent)
        · rename_i found
          refine bind (visitNode_follows follows sound ⟨given, named, found⟩) fun next => ?_
          cases next with
          | some frame' => exact ih frame'
          | none => exact pure fun _ reached => reached

section Resuming

variable {origin : Machine} {stack : List Activation} {run : WorkflowRun} {version : WorkflowVersion}

variable {approval : ApprovalRequest} {id : String} {w : World} {rejection : Rejection} {after : World}

theorem getRun_found {run : WorkflowRun} (ran : (getRun id).exec w = (.ok run, w)) :
    w.db.runs.get? id = some run := by
  unfold getRun at ran
  rw [Prog.exec_bind_ok (Prog.exec_get w)] at ran
  cases found : w.db.runs.get? id with
  | none => simp [found, raiseValueError] at ran
  | some row => simp_all

theorem getVersion_found {version : WorkflowVersion}
    (ran : (getVersion (some id)).exec w = (.ok (some version), w)) : w.db.versions.get? id = some version := by
  unfold getVersion at ran
  rw [Prog.exec_bind_ok (Prog.exec_get w)] at ran
  simp only [Prog.exec_pure, Prod.mk.injEq, Except.ok.injEq, Option.bind_some] at ran
  split at ran
  · cases ran.1
  · exact ran.1

theorem checkAccess_reads (owner : String) (definition : WorkflowDefinition) :
    ReadOnly (checkAccess owner definition) := .ite .throw .pure

def Facing (env : Env) (terms : Terms) (origin : Machine) (stack : List Activation) (run : WorkflowRun)
    (version : WorkflowVersion) (w : World) : Prop :=
  Standing env terms origin stack w ∧ Waiting w run version

theorem consumeApprovalForNode_follows (id : String) (actor : Option String) (pendingTool : Bool)
    (vars : Dict Json) (mine : vars = run.contextJson.vars) :
    Triple (Facing env terms origin stack run version)
      (consumeApprovalForNode env id run run.currentNodeId vars actor pendingTool)
      (fun vars' w => Facing env terms origin stack run version w ∧ ∃ found approval tool,
        checkApprovalForNode env found run run.currentNodeId vars pendingTool = .ok (approval, tool) ∧
        w.Last (.approvalConsumed run.id (run.currentNodeId.getD "") approval tool) ∧
        grantedVars id approval run.currentNodeId actor pendingTool vars = .ok vars')
      (Standing env terms origin stack) := by
  subst mine
  refine bind (get (Q := fun w0 w => Facing env terms origin stack run version w ∧ w0 = w)
    fun _ given => ⟨given, rfl⟩) fun w0 => ?_
  refine bind (ofExcept (Q := fun checked w => (Facing env terms origin stack run version w ∧ w0 = w) ∧
    checkApprovalForNode env (w0.db.approvals.get? id) run run.currentNodeId run.contextJson.vars pendingTool =
      .ok checked) (fun _ ran _ given => ⟨given, ran⟩) fun _ given => given.1.1) fun checked => ?_
  obtain ⟨approval, tool⟩ := checked
  refine bind (modify (Q := fun _ after => ∃ w approvals, Facing env terms origin stack run version w ∧
    checkApprovalForNode env (w.db.approvals.get? id) run run.currentNodeId run.contextJson.vars pendingTool =
      .ok (approval, tool) ∧ after = w.aside 0 approvals w.db.taskRuns w.db.children) ?_) fun _ => ?_
  · rintro w ⟨⟨given, rfl⟩, checked⟩
    exact ⟨w0, _, given, checked, rfl⟩
  refine bind (modify (Q := fun _ after => Facing env terms origin stack run version after ∧
    ∃ found, checkApprovalForNode env found run run.currentNodeId run.contextJson.vars pendingTool = .ok (approval, tool) ∧
      after.Last (.approvalConsumed run.id (run.currentNodeId.getD "") approval tool)) ?_) fun _ => ?_
  · rintro _ ⟨w, approvals, ⟨standing, waiting⟩, checked, rfl⟩
    refine ⟨⟨?_, waiting.kept rfl rfl⟩, _, checked, rfl, rfl⟩
    have consumed := standing.tail (.consume w stack run version id approval tool pendingTool waiting checked)
    exact consumed.tail (.aside _ stack 0 approvals w.db.taskRuns w.db.children (.refl _))
  · refine ofExcept (fun vars' granted w given => ?_) fun _ given => given.1.1
    obtain ⟨facing, found, checked, reported⟩ := given
    exact ⟨facing, found, approval, tool, checked, reported, granted⟩

theorem grantedResume_follows (run : WorkflowRun) (version : WorkflowVersion) (given : Resumption) :
    Triple (Facing env terms origin stack run version)
      (grantedResume env run (waitingNode run version) given run.contextJson.vars)
      (fun vars w => Facing env terms origin stack run version w ∧ Granted w.Last run (waitingNode run version) vars)
      (Standing env terms origin stack) := by
  have refused : ∀ {α} {message : String} {post : α → World → Prop},
      Triple (Facing env terms origin stack run version) (raiseValueError message) post
        (Standing env terms origin stack) := fun {_ _ _} => throw fun _ facing => facing.1
  refine ite (fun approval => ite (fun _ => refused) fun _ => ?_) fun noGate =>
    ite (fun tool => ite (fun _ => refused) fun _ => ?_) fun noCall =>
      ite (fun human => ?_) fun _ => ite (fun _ => refused) fun _ => pure fun _ facing => ⟨facing, ?_⟩
  · refine (consumeApprovalForNode_follows _ _ _ _ rfl).after fun vars w reached => ⟨reached.1, ?_⟩
    obtain ⟨_, found, consumed, call, checked, reported, granted⟩ := reached
    have none := (checkApprovalForNode_spec checked).2.2.2
    subst none
    exact .approval _ consumed _ vars approval reported granted
  · refine (consumeApprovalForNode_follows _ _ _ _ rfl).after fun vars w reached => ⟨reached.1, ?_⟩
    obtain ⟨_, found, consumed, call, checked, reported, granted⟩ := reached
    obtain ⟨pending, rfl, read, _⟩ := (checkApprovalForNode_spec checked).2.2.2
    exact .pendingTool _ consumed pending _ vars tool.1 tool.2 read reported granted
  · split
    · exact pure fun _ facing => ⟨facing, .humanInput _ _ human⟩
    · exact refused
  · exact .unchanged noGate fun type => by simpa [type] using noCall

theorem commit_follows :
    Triple (Standing env terms origin stack) commit (fun _ => Standing env terms origin stack)
      (Standing env terms origin stack) :=
  modify fun w standing => standing.tail (.commit w stack)

theorem getRun_follows (sound : Sound env origin) (runId : String) :
    Triple (Standing env terms origin stack) (getRun runId)
      (fun run w => (Standing env terms origin stack w ∧ w.db.runs.get? run.id = some run) ∧ run.id = runId)
      (Standing env terms origin stack) := by
  refine ((getRun_reads runId).triple fun _ standing => standing).after fun run w found => ?_
  have row := getRun_found found.2
  have named := ((sound.steps found.1).rows runId run row).1
  exact ⟨⟨found.1, named ▸ row⟩, named⟩

theorem resumeRun_follows (follows : Follows env terms calls env.nesting) (sound : Sound env origin)
    (stack : List Activation) (owner runId : String) (given : Resumption) :
    Triple (Standing env terms origin stack) (resumeRun env calls owner runId given)
      (fun _ => Standing env terms origin stack) (Standing env terms origin stack) := by
  refine bind (getRun_follows sound runId) fun run => with_fact fun named => ?_
  subst named
  refine bind ((getDefinition_reads _ _).triple fun _ known => known.1) fun definition => ?_
  refine bind ((checkAccess_reads _ _).triple fun _ known => known.1.1) fun _ => ?_
  refine ite (fun _ => throw fun _ known => known.1.1.1) fun status => ?_
  refine bind ((getVersion_reads _).triple fun _ known => known.1.1.1) fun found => ?_
  cases found with
  | none => exact throw fun _ known => known.1.1.1.1
  | some version =>
    refine bind ((grantedResume_follows run version given).before fun w known =>
      ⟨known.1.1.1.1, known.1.1.1.2, by simpa using status, getVersion_found known.2⟩) fun vars => ?_
    refine bind (modify (Q := fun _ w => ∃ row, w.db.runs.get? run.id = some row ∧
      Standing env terms origin (.start row version .resumed env.nesting :: stack) w) fun w known => ?_) fun _ => ?_
    · exact ⟨resumedRow vars run, known.1.2.changed,
        known.1.1.tail (.resume w stack run version vars known.1.2 known.2)⟩
    · refine bind (follows.advance origin sound stack run.id version .resumed) fun _ => ?_
      exact bind (notifyIfTerminal_follows follows sound stack _) fun _ => commit_follows

theorem rejectedApproval_reads (id : String) : ReadOnly (rejectedApproval id) := by
  refine .bind .get fun w => ?_
  split
  · exact .ite .pure .throw
  · exact .throw

theorem rejectedApproval_found
    (ran : (rejectedApproval id).exec w = (.ok approval, w)) : approval.status = .rejected := by
  unfold rejectedApproval at ran
  rw [Prog.exec_bind_ok (Prog.exec_get w)] at ran
  cases found : w.db.approvals.get? id with
  | none => simp [found, raiseValueError] at ran
  | some row =>
    simp only [found] at ran
    split at ran
    · simp_all
    · simp [raiseValueError] at ran

theorem continuationOf_stops (config : Dict Json) :
    (continuationOf config).stops ∨ ∃ target, continuationOf config = .routeTo target := by
  unfold continuationOf
  split
  · exact .inl trivial
  · split
    · exact .inr ⟨_, rfl⟩
    · split <;> exact .inl rfl

def Rejected (env : Env) (terms : Terms) (origin : Machine) (stack : List Activation) (run : WorkflowRun)
    (version : WorkflowVersion) (approval : ApprovalRequest) (rejection : Rejection) (continuation : Continuation)
    (after : World) : Prop :=
  ∃ w, Facing env terms origin stack run version w ∧
    after = (w.changeRun run.id (rejectedRow continuation rejection
      (rejectedVars rejection run.contextJson.vars))).record (.rejectionApplied run.id run.currentNodeId approval)

theorem Rejected.stops {continuation : Continuation} (reached : Rejected env terms origin stack run version approval rejection continuation after)
    (status : run.status = .waitingApproval) (rejected : approval.status = .rejected) (stops : continuation.stops) :
    Standing env terms origin stack after := by
  obtain ⟨w, facing, rfl⟩ := reached
  exact facing.1.tail (.reject w stack run version approval rejection _ facing.2 status rejected stops)

theorem Rejected.routes {config : Dict Json} {target : String} (reached : Rejected env terms origin stack run version approval rejection (.routeTo target) after)
    (status : run.status = .waitingApproval) (rejected : approval.status = .rejected)
    (read : nodeConfig (waitingNode run version) = .ok config) (routed : continuationOf config = .routeTo target) :
    ∃ row, after.db.runs.get? run.id = some row ∧ Standing env terms origin
      (.start row version (.rejected (run.currentNodeId.getD "")) env.nesting :: stack) after := by
  obtain ⟨w, facing, rfl⟩ := reached
  exact ⟨_, facing.2.changed,
    facing.1.tail (.reroute w stack run version approval rejection config target facing.2 status rejected read routed)⟩

theorem applyApprovalRejection_follows (follows : Follows env terms calls env.nesting) (sound : Sound env origin)
    (stack : List Activation) (owner runId approvalId : String) :
    Triple (Standing env terms origin stack) (applyApprovalRejection env calls owner runId approvalId)
      (fun _ => Standing env terms origin stack) (Standing env terms origin stack) := by
  refine bind (getRun_follows sound runId) fun run => with_fact fun named => ?_
  subst named
  refine bind ((getDefinition_reads _ _).triple fun _ known => known.1) fun definition => ?_
  refine bind ((checkAccess_reads _ _).triple fun _ known => known.1.1) fun _ => ?_
  refine ite (fun _ => throw fun _ known => known.1.1.1) fun status => ?_
  rw [not_not] at status
  refine bind ((rejectedApproval_reads _).triple fun _ known => known.1.1.1) fun approval => ?_
  refine bind ((getVersion_reads _).triple fun _ known => known.1.1.1.1) fun found => ?_
  cases found with
  | none => exact throw fun _ known => known.1.1.1.1.1
  | some version =>
    refine Triple.before (P := fun w => Facing env terms origin stack run version w ∧
      approval.status = .rejected) ?_ fun w known => ⟨⟨known.1.1.1.1.1, known.1.1.1.1.2,
        by rw [status]; rfl, getVersion_found known.2⟩, rejectedApproval_found known.1.2⟩
    refine with_fact fun rejected => ?_
    refine bind (ofExcept (Q := fun config w => Facing env terms origin stack run version w ∧
      nodeConfig (waitingNode run version) = .ok config) (fun _ read _ facing => ⟨facing, read⟩)
      fun _ facing => facing.1) fun config => with_fact fun read => ?_
    refine bind (get (Q := fun _ => Facing env terms origin stack run version)
      fun _ facing => facing) fun w0 => ?_
    have stop := continuationOf_stops config
    generalize rejectionOf approvalId approval run.currentNodeId config = rejection
    generalize routed : continuationOf config = continuation at stop ⊢
    refine bind (modify (Q := fun _ => Facing env terms origin stack run version) fun w facing => ?_)
      fun _ => ?_
    · exact ⟨facing.1.tail (.aside w stack 0 (w.db.approvals.set approvalId _) w.db.taskRuns w.db.children (.refl _)),
        facing.2.kept rfl rfl⟩
    refine bind (modify (Q := fun _ after => ∃ w, Facing env terms origin stack run version w ∧
      after = w.changeRun run.id (rejectedRow continuation rejection
        (rejectedVars rejection run.contextJson.vars))) fun w facing => ⟨w, facing, rfl⟩) fun _ => ?_
    refine bind (modify (Q := fun _ => Rejected env terms origin stack run version approval rejection
      continuation) ?_) fun _ => ?_
    · rintro _ ⟨w, facing, rfl⟩
      exact ⟨w, facing, rfl⟩
    cases continuation with
    | requestChanges => exact commit_follows.before fun _ reached => reached.stops status rejected trivial
    | routeTo target =>
      refine bind ((follows.advance origin sound stack run.id version _).before fun _ reached =>
        reached.routes status rejected read routed) fun _ => ?_
      exact bind (notifyIfTerminal_follows follows sound stack _) fun _ => commit_follows
    | finish ended =>
      refine bind ((notifyIfTerminal_follows follows sound stack _).before fun _ reached =>
        reached.stops status rejected ?_) fun _ => commit_follows
      rcases stop with stops | ⟨target, absurd⟩
      · exact stops
      · cases absurd

theorem resumeWorkflow_follows (follows : Follows env terms calls env.nesting) (sound : Sound env origin)
    (stack : List Activation) (run : WorkflowRun) (approvalRequestId : Option String) :
    Triple (Standing env terms origin stack) (resumeWorkflow env calls run approvalRequestId)
      (fun _ => Standing env terms origin stack) (Standing env terms origin stack) :=
  ite (fun _ => catching (resumeRun_follows follows sound stack _ _ _)
    fun _ => pure fun _ standing => standing) fun _ => pure fun _ standing => standing

theorem rejectWorkflow_follows (follows : Follows env terms calls env.nesting) (sound : Sound env origin)
    (stack : List Activation) (run : WorkflowRun) (approvalRequestId : String) :
    Triple (Standing env terms origin stack) (rejectWorkflow env calls run approvalRequestId)
      (fun _ => Standing env terms origin stack) (Standing env terms origin stack) :=
  ite (fun _ => catching (applyApprovalRejection_follows follows sound stack _ _ _)
    fun _ => pure fun _ standing => standing) fun _ => pure fun _ standing => standing

theorem reads_follows {α : Type} {program : Session α} (reads : ReadOnly program) :
    Triple (Standing env terms origin stack) program (fun _ => Standing env terms origin stack)
      (Standing env terms origin stack) :=
  (reads.triple fun _ standing => standing).after fun _ _ found => found.1

theorem onChildTerminal_follows (follows : Follows env terms calls env.nesting) (sound : Sound env origin)
    (stack : List Activation) (kind : ChildKind) (childId status : String) :
    Triple (Standing env terms origin stack) (onChildTerminal env calls kind childId status)
      (fun _ => Standing env terms origin stack) (Standing env terms origin stack) := by
  refine bind (reads_follows .get) fun w => ite (fun _ => ?_) fun _ => ?_
  · refine forEach fun runId _ => ?_
    refine bind (reads_follows (getRun_reads runId)) fun run => ?_
    refine bind (reads_follows .ofExcept) fun memo => ?_
    exact ite (fun _ => resumeWorkflow_follows follows sound stack run none)
      fun _ => pure fun _ standing => standing
  · refine bind (modify (Q := fun _ => Standing env terms origin stack) fun w standing => ?_) fun _ => ?_
    · exact standing.tail (.aside w stack 0 w.db.approvals w.db.taskRuns (w.db.children.map _) (.refl _))
    refine forEach fun runId _ => ?_
    refine bind (reads_follows .get) fun w => ?_
    split
    · exact ite (fun _ => resumeWorkflow_follows follows sound stack _ none)
        fun _ => pure fun _ standing => standing
    · exact pure fun _ standing => standing

end Resuming

def HookFollows (env : Env) (terms : Terms) (hook : String → RunStatus → Session PUnit) : Prop :=
  ∀ origin, Sound env origin → ∀ stack runId status,
    Triple (fun w => Steps env terms origin (w, stack)) (hook runId status)
      (fun _ w => Steps env terms origin (w, stack)) (fun w => Steps env terms origin (w, stack))

theorem advanceWith_follows {hook : String → RunStatus → Session PUnit} (hooked : HookFollows env terms hook) :
    ∀ depth, Follows env terms ⟨advanceWith env hook depth, hook⟩ depth := by
  intro depth
  induction depth with
  | zero =>
    refine ⟨fun origin sound stack runId version arrival => ?_, hooked⟩
    refine bind (modify (Q := fun _ => Standing env terms origin stack) ?_)
      fun _ => throw fun _ standing => standing
    rintro w ⟨row, found, steps⟩
    have named := ((sound.steps steps).rows runId row found).1
    subst named
    exact steps.tail (.exceeded w (Frame.load row version arrival) stack)
  | succ depth ih =>
    refine ⟨fun origin sound stack runId version arrival => ?_, hooked⟩
    refine bind (R := fun run => Standing env terms origin (.start run version arrival (depth + 1) :: stack))
      ⟨?_⟩ fun run => advanceLoop_follows ih sound stack _ _
    rintro w ⟨row, found, steps⟩
    have ran : (getRun runId).exec w = (.ok row, w) := by
      unfold getRun
      rw [Prog.exec_bind_ok (Prog.exec_get w), found]
      rfl
    rwa [ran]

theorem onWorkflowRunCompletedWith_follows :
    ∀ depth, HookFollows env terms (onWorkflowRunCompletedWith env depth) := by
  intro depth
  induction depth with
  | zero => exact fun origin sound stack runId status => throw fun _ standing => standing
  | succ depth ih =>
    intro origin sound stack runId status
    exact ite (fun _ => onChildTerminal_follows (advanceWith_follows ih env.nesting) sound stack _ _ _)
      fun _ => pure fun _ standing => standing

theorem service_follows : Follows env terms (service env) env.nesting :=
  advanceWith_follows (onWorkflowRunCompletedWith_follows env.hookDepth) env.nesting

section Entering

variable {origin : Machine}

theorem startRun_follows (sound : Sound env origin) {new : NewRun} (fits : terms.starts new) (root : new.parent = none) :
    Triple (Standing env terms origin []) (startRun env new) (fun _ => Standing env terms origin [])
      (Standing env terms origin []) := by
  refine bind (R := fun created w => ∃ row, w.db.runs.get? created.1.id = some row ∧
    Standing env terms origin [.start row created.2 .start env.nesting] w) ⟨fun w standing => ?_⟩ fun created => ?_
  · rcases createRunRecord_exec env new w with ⟨error, ran⟩ | ⟨definition, version, resolved, ran⟩
    · rwa [ran]
    · rw [ran]
      exact ⟨_, created_row env new definition version w,
        standing.tail (.start w new definition version resolved fits root)⟩
  · refine bind (service_follows.advance origin sound [] created.1.id created.2 .start) fun _ => ?_
    refine bind (notifyIfTerminal_follows service_follows sound [] _) fun _ => ?_
    exact bind commit_follows fun _ => pure fun _ standing => standing

theorem onTaskRunTerminal_follows (sound : Sound env origin) (taskRunId : String) (status : Option TaskStatus) :
    Triple (Standing env terms origin []) (onTaskRunTerminal env taskRunId status)
      (fun _ => Standing env terms origin []) (Standing env terms origin []) := by
  refine bind (reads_follows .get) fun w => ?_
  split
  · exact ite (fun _ => onChildTerminal_follows service_follows sound [] _ _ _)
      fun _ => pure fun _ standing => standing
  · exact pure fun _ standing => standing

theorem onApprovalDecided_follows (sound : Sound env origin) (approvalId : String) :
    Triple (Standing env terms origin []) (onApprovalDecided env approvalId)
      (fun _ => Standing env terms origin []) (Standing env terms origin []) := by
  refine bind (reads_follows .get) fun w => ?_
  split
  · refine ite (fun _ => ?_) fun _ => ite (fun _ => ?_) fun _ => pure fun _ standing => standing
    · refine bind (reads_follows .ofExcept) fun targets => forEach fun run _ => ?_
      exact resumeWorkflow_follows service_follows sound [] run _
    · refine bind (reads_follows .ofExcept) fun targets => forEach fun run _ => ?_
      exact rejectWorkflow_follows service_follows sound [] run _
  · exact pure fun _ standing => standing

theorem resumeWorkflowAfterDelay_follows (sound : Sound env origin) (runId nodeId owner : String)
    (expected : Option String) :
    Triple (Standing env terms origin []) (resumeWorkflowAfterDelay env runId nodeId owner expected)
      (fun _ => Standing env terms origin []) (Standing env terms origin []) := by
  have skipped : Triple (Standing env terms origin []) (pure ⟨⟩ : Session PUnit)
      (fun _ => Standing env terms origin []) (Standing env terms origin []) := pure fun _ standing => standing
  refine bind (reads_follows .get) fun w => ?_
  split
  · refine ite (fun _ => skipped) fun _ => bind (reads_follows .ofExcept) fun delayState => ?_
    refine ite (fun _ => skipped) fun _ => ite (fun _ => skipped) fun _ => ?_
    exact resumeRun_follows service_follows sound [] owner runId _
  · exact skipped

end Entering

end Troop.Workflow
