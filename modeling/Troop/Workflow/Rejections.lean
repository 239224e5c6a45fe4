import Troop.Workflow.Tenancy

namespace Troop.Workflow

open Prog (exec_bind_error exec_bind_ok exec_get)

variable {env : Env} {terms : Terms}

/-- What `apply_approval_rejection` checks before it changes the run. -/
structure Acceptable (db : Db) (owner runId approvalId : String) (run : WorkflowRun) (approval : ApprovalRequest)
    (version : WorkflowVersion) (config : Dict Json) : Prop where
  row : db.runs.get? runId = some run
  readable : ∃ definition, db.definitions.get? run.workflowId = some definition ∧
    (definition.ownerId = owner ∨ definition.isTemplate = true)
  status : run.status = .waitingApproval
  request : db.approvals.get? approvalId = some approval
  rejected : approval.status = .rejected
  stored : run.workflowVersionId ≠ "" ∧ db.versions.get? run.workflowVersionId = some version
  config : nodeConfig (waitingNode run version) = .ok config

def Refused (db : Db) (owner runId approvalId : String) : Prop :=
  ∀ run approval version config, ¬ Acceptable db owner runId approvalId run approval version config

def rejectedWorld (env : Env) (approvalId : String) (run : WorkflowRun) (approval : ApprovalRequest)
    (config : Dict Json) (w : World) : World :=
  let rejection := rejectionOf approvalId approval run.currentNodeId config
  let stamped := { approval with payloadJson := rejectedPayload env approval.payloadJson rejection.reason w.now }
  ((w.aside 0 (w.db.approvals.set approvalId stamped) w.db.taskRuns w.db.children).changeRun run.id
    (rejectedRow (continuationOf config) rejection (rejectedVars rejection run.contextJson.vars))).record
      (.rejectionApplied run.id run.currentNodeId approval)

def carryOn (env : Env) (run : WorkflowRun) (version : WorkflowVersion) (continuation : Continuation) :
    Session PUnit := do
  match continuation with
  | .requestChanges => commit
  | .routeTo _ =>
    (service env).advance run.id version (.rejected (run.currentNodeId.getD ""))
    notifyIfTerminal (service env) run.id
    commit
  | .finish _ =>
    notifyIfTerminal (service env) run.id
    commit

theorem checkAccess_exec {w : World} {owner : String} {definition : WorkflowDefinition}
    (readable : definition.ownerId = owner ∨ definition.isTemplate = true) :
    (checkAccess owner definition).exec w = (.ok ⟨⟩, w) := by
  have open_ : ¬ (definition.ownerId ≠ owner ∧ ¬ definition.isTemplate = true) := by grind
  simp only [checkAccess, open_, if_false]
  rfl

theorem updateRun_exec (id : String) (change : WorkflowRun → WorkflowRun) (w : World) :
    (updateRun id change).exec w = (.ok ⟨⟩, w.changeRun id change) := rfl

theorem emit_exec (event : Event) (w : World) : (emit event).exec w = (.ok ⟨⟩, w.record event) := rfl

theorem rejectedApproval_exec (w : World) (id : String) :
    (∃ approval, w.db.approvals.get? id = some approval ∧ approval.status = .rejected ∧
      (rejectedApproval id).exec w = (.ok approval, w)) ∨
    (∀ approval, w.db.approvals.get? id = some approval → approval.status ≠ .rejected) ∧
      ∃ error, (rejectedApproval id).exec w = (.error error, w) := by
  unfold rejectedApproval
  rw [exec_bind_ok (exec_get w)]
  cases found : w.db.approvals.get? id with
  | none => exact .inr ⟨fun _ same => (by cases same), _, rfl⟩
  | some approval =>
    dsimp only
    by_cases rejected : approval.status = .rejected
    · simp_all
    · rw [if_neg rejected]
      exact .inr ⟨fun _ same => (by cases same; exact rejected), _, rfl⟩

theorem getVersion_exec (w : World) (id : String) :
    (∃ version, id ≠ "" ∧ w.db.versions.get? id = some version ∧
      (getVersion (some id)).exec w = (.ok (some version), w)) ∨
    ¬ (id ≠ "" ∧ ∃ version, w.db.versions.get? id = some version) ∧ (getVersion (some id)).exec w = (.ok none, w) := by
  unfold getVersion
  rw [exec_bind_ok (exec_get w)]
  by_cases empty : id = ""
  · simp_all
  · cases found : w.db.versions.get? id with
    | none => exact .inr ⟨by simp, by simp [empty, found]⟩
    | some version => exact .inl ⟨version, empty, rfl, by simp [empty, found]⟩

theorem applyApprovalRejection_exec {w : World} {owner runId approvalId : String}
    (named : ∀ run, w.db.runs.get? runId = some run → run.id = runId) :
    (Refused w.db owner runId approvalId ∧ ∃ error,
      (applyApprovalRejection env (service env) owner runId approvalId).exec w = (.error error, w)) ∨
    ∃ run approval version config, Acceptable w.db owner runId approvalId run approval version config ∧
      (applyApprovalRejection env (service env) owner runId approvalId).exec w =
        (carryOn env run version (continuationOf config)).exec
          (rejectedWorld env approvalId run approval config w) := by
  unfold applyApprovalRejection
  cases row : w.db.runs.get? runId with
  | none =>
    refine .inl ⟨fun _ _ _ _ given => ?_, .valueError "run not found", exec_bind_error ?_⟩
    · cases row.symm.trans given.row
    · unfold getRun
      rw [exec_bind_ok (exec_get w), row]
      rfl
  | some run =>
  have same := named run row
  subst same
  rw [exec_bind_ok (getRun_exec row)]
  cases defined : w.db.definitions.get? run.workflowId with
  | none =>
    refine .inl ⟨fun _ _ _ _ given => ?_, .valueError "workflow not found", exec_bind_error ?_⟩
    · cases row.symm.trans given.row
      obtain ⟨definition, found, _⟩ := given.readable
      cases defined.symm.trans found
    · rw [getDefinition_exec, defined]
  | some definition =>
  by_cases readable : definition.ownerId = owner ∨ definition.isTemplate = true
  swap
  · refine .inl ⟨fun _ _ _ _ given => ?_, .valueError "workflow not found", exec_bind_error ?_⟩
    · cases row.symm.trans given.row
      obtain ⟨other, found, right⟩ := given.readable
      cases defined.symm.trans found
      exact readable right
    · rw [getDefinition_exec, defined]
      simp only [readable, if_false]
  have reads : (getDefinition owner run.workflowId).exec w = (.ok definition, w) := by
    rw [getDefinition_exec, defined]
    simp only [readable, if_true]
  rw [exec_bind_ok reads, exec_bind_ok (checkAccess_exec readable)]
  by_cases waits : run.status = .waitingApproval
  swap
  · rw [if_pos waits]
    refine .inl ⟨fun _ _ _ _ given => ?_, _, rfl⟩
    cases row.symm.trans given.row
    exact waits given.status
  rw [if_neg (not_not.mpr waits)]
  rcases rejectedApproval_exec w approvalId with ⟨approval, request, rejected, found⟩ | ⟨other, error, failed⟩
  swap
  · refine .inl ⟨fun _ approval _ _ given => other approval given.request given.rejected, error, ?_⟩
    exact exec_bind_error failed
  rw [exec_bind_ok found]
  rcases getVersion_exec w run.workflowVersionId with ⟨version, named, stored, read⟩ | ⟨missing, read⟩
  swap
  · rw [exec_bind_ok read]
    refine .inl ⟨fun _ _ version _ given => ?_, _, rfl⟩
    cases row.symm.trans given.row
    exact missing ⟨given.stored.1, version, given.stored.2⟩
  rw [exec_bind_ok read]
  dsimp only
  cases config : nodeConfig (waitingNode run version) with
  | error error =>
    refine .inl ⟨fun _ _ _ _ given => ?_, error, exec_bind_error ?_⟩
    · cases row.symm.trans given.row
      cases stored.symm.trans given.stored.2
      cases config.symm.trans given.config
    · exact (Prog.exec_ofExcept _ w).trans (congrArg (fun result => (result, w)) config)
  | ok config' =>
    refine .inr ⟨run, approval, version, config', ?_, ?_⟩
    · exact ⟨row, ⟨definition, defined, readable⟩, waits, request, rejected, ⟨named, stored⟩, config⟩
    have given : (Prog.ofExcept (nodeConfig (waitingNode run version)) : Session (Dict Json)).exec w =
        (.ok config', w) := by rw [config]; rfl
    rw [show (currentNode version.nodesJson run.currentNodeId).getD .null = waitingNode run version from rfl]
    rw [exec_bind_ok given, exec_bind_ok (exec_get w)]
    rw [exec_bind_ok (modifyDb_exec _ w), exec_bind_ok (updateRun_exec _ _ _), exec_bind_ok (emit_exec _ _)]
    refine congrArg₂ Prog.exec ?_ ?_
    · generalize continuationOf config' = continuation
      cases continuation <;> rfl
    · simp only [rejectedWorld, World.aside, Nat.add_zero]

theorem Step.log {before after : Machine} (step : Step env terms before after) :
    ∃ newer, after.1.log = newer ++ before.1.log := by
  cases step with
  | aside | commit | rollback | changed | tick | branch | missing | ended | abandon | resume => exact ⟨[], rfl⟩
  | startChild => exact ⟨[_, _], rfl⟩
  | start | exceeded | consume | reject | reroute | visit | report | pause | fail | move | exhausted =>
    exact ⟨[_], rfl⟩

theorem Steps.log {before after : Machine} (steps : Steps env terms before after) :
    ∃ newer, after.1.log = newer ++ before.1.log := by
  induction steps with
  | refl => exact ⟨[], rfl⟩
  | tail _ step ih =>
    obtain ⟨earlier, same⟩ := ih
    obtain ⟨newer, more⟩ := step.log
    exact ⟨newer ++ earlier, by rw [more, same, List.append_assoc]⟩

def stampedWorld (env : Env) (approvalId : String) (run : WorkflowRun) (approval : ApprovalRequest)
    (config : Dict Json) (w : World) : World :=
  let rejection := rejectionOf approvalId approval run.currentNodeId config
  let stamped := { approval with payloadJson := rejectedPayload env approval.payloadJson rejection.reason w.now }
  w.aside 0 (w.db.approvals.set approvalId stamped) w.db.taskRuns w.db.children

section Carrying

variable {w : World} {owner approvalId : String} {run : WorkflowRun} {approval : ApprovalRequest}
  {version : WorkflowVersion} {config : Dict Json}

theorem Acceptable.waiting (given : Acceptable w.db owner run.id approvalId run approval version config) :
    Waiting (stampedWorld env approvalId run approval config w) run version := by
  have resumable : run.status.resumable = true := by
    rw [given.status]
    rfl
  have waiting : Waiting w run version := ⟨given.row, resumable, given.stored.2⟩
  exact waiting.kept rfl rfl

theorem stampedWorld_reachable (reachable : Reachable env terms (w, [])) :
    Reachable env terms (stampedWorld env approvalId run approval config w, []) :=
  reachable.tail (.aside w [] 0 _ w.db.taskRuns w.db.children (.refl _))

theorem lands {P Q : World → Prop} {program : Session PUnit} (triple : Triple P program (fun _ => Q) Q)
    (given : P w) : Q (program.exec w).2 := by
  have ran := triple.run w given
  cases outcome : (program.exec w).1 with
  | _ => simpa only [outcome] using ran

theorem Standing.log {origin : Machine} {stack : List Activation} (standing : Standing env terms origin stack w) :
    ∃ newer, w.log = newer ++ origin.1.log := Steps.log standing

theorem carryOn_log (reachable : Reachable env terms (w, []))
    (given : Acceptable w.db owner run.id approvalId run approval version config) :
    ∃ newer, ((carryOn env run version (continuationOf config)).exec
      (rejectedWorld env approvalId run approval config w)).2.log =
        newer ++ .rejectionApplied run.id run.currentNodeId approval :: w.log := by
  have waiting : Waiting (stampedWorld env approvalId run approval config w) run version := given.waiting
  have stamped : Reachable env terms (stampedWorld env approvalId run approval config w, []) :=
    stampedWorld_reachable reachable
  let rejection := rejectionOf approvalId approval run.currentNodeId config
  let after := rejectedWorld env approvalId run approval config w
  have written : after = ((stampedWorld env approvalId run approval config w).changeRun run.id
      (rejectedRow (continuationOf config) rejection (rejectedVars rejection run.contextJson.vars))).record
        (.rejectionApplied run.id run.currentNodeId approval) := rfl
  have row : after.db.runs.get? run.id =
      some (rejectedRow (continuationOf config) rejection (rejectedVars rejection run.contextJson.vars) run) := by
    exact waiting.changed
  have stop := continuationOf_stops config
  cases routed : continuationOf config with
  | requestChanges => exact ⟨[], rfl⟩
  | routeTo target =>
    have step : Step env terms _ _ := .reroute _ [] run version approval rejection config target waiting
      given.status given.rejected given.config routed
    rw [routed] at written row
    rw [← written] at step
    let stack : List Activation := [.start (rejectedRow (.routeTo target) rejection
      (rejectedVars rejection run.contextJson.vars) run) version (.rejected (run.currentNodeId.getD "")) env.nesting]
    have sound : Sound env (after, stack) := Reachable.sound (stamped.tail step)
    have follows : Triple (fun state => state = after) (carryOn env run version (.routeTo target))
        (fun _ => Standing env terms (after, stack) []) (Standing env terms (after, stack) []) := by
      refine Triple.bind ((service_follows.advance _ sound [] run.id version _).before ?_) fun _ => ?_
      · grind
      · exact Triple.bind (notifyIfTerminal_follows service_follows sound [] run.id) fun _ => commit_follows
    exact (lands follows rfl).log
  | finish ended =>
    rw [routed] at stop written
    have stops : (Continuation.finish ended).stops := by
      rcases stop with stops | ⟨target, other⟩
      · exact stops
      · cases other
    have step : Step env terms _ _ := .reject _ [] run version approval rejection (.finish ended) waiting
      given.status given.rejected stops
    rw [← written] at step
    have sound : Sound env (after, []) := Reachable.sound (stamped.tail step)
    have follows : Triple (fun state => state = after) (carryOn env run version (.finish ended))
        (fun _ => Standing env terms (after, []) []) (Standing env terms (after, []) []) := by
      refine Triple.bind ((notifyIfTerminal_follows service_follows sound [] run.id).before ?_) fun _ => commit_follows
      rintro _ rfl
      exact Relation.ReflTransGen.refl
    exact (lands follows rfl).log

end Carrying

def Belongs (db : Db) (run : WorkflowRun) (approval : ApprovalRequest) : Prop :=
  boundTo approval run.id run.currentNodeId = true ∧
    ∀ nodeId earlier, Event.rejectionApplied run.id nodeId earlier ∈ db.history → earlier.id ≠ approval.id

def Applies (w after : World) (run : WorkflowRun) (approval : ApprovalRequest) : Prop :=
  ∃ newer, after.log = newer ++ .rejectionApplied run.id run.currentNodeId approval :: w.log

/-- A rejection hits the gate it belongs to, and once, exactly where the checks the code makes leave
    only such requests: a call that is turned away fails and changes nothing, and any other call
    writes the rejection, whatever the request is bound to and however often it was applied. -/
theorem rejection_hits_its_gate {w : World} (reachable : Reachable env terms (w, []))
    (owner runId approvalId : String) {ended : Except PyError PUnit} {after : World}
    (ran : (applyApprovalRejection env (service env) owner runId approvalId).exec w = (ended, after)) :
    ((∀ run approval, w.db.runs.get? runId = some run → w.db.approvals.get? approvalId = some approval →
        Applies w after run approval → Belongs w.db run approval) ∧
      ((∀ run approval, w.db.runs.get? runId = some run → w.db.approvals.get? approvalId = some approval →
        ¬ Applies w after run approval) → after = w ∧ ∃ error, ended = .error error)) ↔
    ∀ run approval version config, Acceptable w.db owner runId approvalId run approval version config →
      Belongs w.db run approval := by
  have named : ∀ run, w.db.runs.get? runId = some run → run.id = runId :=
    fun run found => (reachable.sound.rows runId run found).1
  rcases (applyApprovalRejection_exec named : (Refused w.db owner runId approvalId ∧ ∃ error,
      (applyApprovalRejection env (service env) owner runId approvalId).exec w = (.error error, w)) ∨ _) with
    ⟨refused, error, failed⟩ | ⟨run, approval, version, config, given, carried⟩
  · rw [failed] at ran
    cases ran
    have unchanged : ∀ run approval, ¬ Applies w w run approval := by
      rintro run approval ⟨newer, same⟩
      have lengths := congrArg List.length same
      simp only [List.length_append, List.length_cons] at lengths
      omega
    constructor
    · exact fun _ run approval version config given => absurd given (refused run approval version config)
    · exact fun _ => ⟨fun run approval _ _ applied => absurd applied (unchanged run approval), fun _ => ⟨rfl, error, rfl⟩⟩
  · have same := named run given.row
    subst same
    have applied : Applies w after run approval := by
      have grown := carryOn_log reachable given
      rwa [← carried, ran] at grown
    constructor
    · rintro ⟨belongs, _⟩ run' approval' version' config' given'
      cases given.row.symm.trans given'.row
      cases given.request.symm.trans given'.request
      exact belongs run approval given.row given.request applied
    · intro belongs
      refine ⟨fun run' approval' row request _ => ?_, fun untouched => ?_⟩
      · cases given.row.symm.trans row
        cases given.request.symm.trans request
        exact belongs run approval version config given
      · exact absurd applied (untouched run approval given.row given.request)

def letter : WorkflowVersion := published "letter" [plainNode "gate" "approval" []] [] "gate"

def refusal (runId nodeId : String) : ApprovalRequest :=
  { (default : ApprovalRequest) with
    id := "refusal", status := .rejected,
    payloadJson := [("workflow_run_id", .str runId), ("workflow_node_id", .str nodeId)] }

def waitingWorld (runId nodeId : String) : World :=
  World.after stillEnv
    (publishing letter ++ [.start (startOf "letter" []) "dev", .changed (.approval (refusal runId nodeId))]) {}

theorem waitingWorld_run (runId nodeId : String) : Run stillEnv .any (waitingWorld runId nodeId) :=
  Run.init.after (publishing_possible trivial trivial ⟨trivial, trivial, trivial, trivial, trivial⟩)

def rejecting : Session PUnit := applyApprovalRejection stillEnv (service stillEnv) "owner" "r" "refusal"

theorem own_refusal_belongs :
    ∀ run approval version config, Acceptable (waitingWorld "r" "gate").db "owner" "r" "refusal" run approval version
      config → Belongs (waitingWorld "r" "gate").db run approval := by
  have row : (waitingWorld "r" "gate").db.runs.get? "r" =
      some (((waitingWorld "r" "gate").db.runs.get? "r").getD default) := by decide +kernel
  have request : (waitingWorld "r" "gate").db.approvals.get? "refusal" = some (refusal "r" "gate") := by decide +kernel
  have unapplied : (waitingWorld "r" "gate").db.history = [.stepFinished "r" "gate" "approval" .paused,
      .approvalRequested "r" "gate" "rr", .stepStarted "r" letter "gate" .start [], .runCreated "r" none false] := by
    decide +kernel
  intro run approval version config given
  cases row.symm.trans given.row
  cases request.symm.trans given.request
  refine ⟨by decide +kernel, fun nodeId earlier applied => ?_⟩
  simp [unapplied] at applied

theorem own_refusal_hits :
    Run stillEnv .any (waitingWorld "r" "gate") ∧
      ∀ run approval, (waitingWorld "r" "gate").db.runs.get? "r" = some run →
        (waitingWorld "r" "gate").db.approvals.get? "refusal" = some approval →
        Applies (waitingWorld "r" "gate") (rejecting.exec (waitingWorld "r" "gate")).2 run approval →
        Belongs (waitingWorld "r" "gate").db run approval :=
  ⟨waitingWorld_run "r" "gate",
    ((rejection_hits_its_gate (waitingWorld_run "r" "gate").reachable.1 "owner" "r" "refusal" rfl).mpr
      own_refusal_belongs).1⟩

theorem foreign_refusal_hits :
    Run stillEnv .any (waitingWorld "other" "elsewhere") ∧
      ((waitingWorld "other" "elsewhere").db.runs.get? "r").map
        (fun run => (run.status, run.currentNodeId, boundTo (refusal "other" "elsewhere") run.id run.currentNodeId)) =
          some (.waitingApproval, some "gate", false) ∧
      ((((Label.reject "owner" "r" "refusal").next stillEnv (waitingWorld "other" "elsewhere")).db.runs.get? "r").map
        WorkflowRun.status) = some .failed := by
  refine ⟨waitingWorld_run _ _, ?_, ?_⟩ <;> decide +kernel

end Troop.Workflow
