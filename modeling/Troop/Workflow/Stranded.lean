import Troop.Workflow.Resting

namespace Troop.Workflow

open List
open Triple (assuming before bind get ite modify pure throw with_fact)

variable {env : Env} {terms : Terms}

inductive RunRequest where
  | start (request : StartRequest) (environment : String)
  | startTest (request : StartRequest) (versionId : Option String)
  | resume (owner runId : String) (given : Resumption)
  | reject (owner runId approvalId : String)

def RunRequest.program (env : Env) : RunRequest → Session String
  | .start request environment => startRun env (request.production environment)
  | .startTest request versionId => startRun env (request.test versionId)
  | .resume owner runId given => do
    resumeRun env (service env) owner runId given
    return runId
  | .reject owner runId approvalId => do
    applyApprovalRejection env (service env) owner runId approvalId
    return runId

def ReadyRuns (w : World) : Prop :=
  ∀ run version, Waiting w run version → run.currentNodeId ≠ some "" ∧ Accepted version

section Requests

variable {origin : Machine} {stack : List Activation}

def Rested (env : Env) (terms : Terms) (origin : Machine) (stack : List Activation) (runId : String) (w : World) : Prop :=
  Standing env terms origin stack w ∧ Rests runId w

theorem commit_rests {runId : String} :
    Triple (Rested env terms origin stack runId) commit (fun _ => Rested env terms origin stack runId)
      (Standing env terms origin stack) :=
  modify fun w rested => ⟨rested.1.tail (.commit w stack), rested.2⟩

theorem settle_rests (sound : Sound env origin) {runId : String}
    (apart : ∀ activation ∈ stack, activation.frame.run.id ≠ runId) :
    Triple (Rested env terms origin stack runId) (do notifyIfTerminal (service env) runId; commit)
      (fun _ => Rested env terms origin stack runId) (Standing env terms origin stack) :=
  bind (notifyIfTerminal_rests service_follows sound apart) fun _ => commit_rests

theorem startRun_rests (sound : Sound env origin) {new : NewRun} (fits : terms.starts new) (root : new.parent = none) :
    Triple (Standing env terms origin []) (startRun env new) (fun runId => Rested env terms origin [] runId)
      (Standing env terms origin []) := by
  refine bind (R := fun created w => (∃ row, w.db.runs.get? created.1.id = some row ∧ row.currentNodeId ≠ some "" ∧
    Standing env terms origin [.start row created.2 .start env.nesting] w) ∧ Accepted created.2) ⟨fun w standing => ?_⟩
    fun created => with_fact fun accepted => ?_
  · rcases createRunRecord_exec env new w with ⟨error, ran⟩ | ⟨definition, version, resolved, ran⟩
    · rwa [ran]
    · rw [ran]
      have accepted : Accepted version := resolved.valid
      exact ⟨⟨_, created_row env new definition version w, accepted.entry,
        standing.tail (.start w new definition version resolved fits root)⟩, accepted⟩
  · refine bind (advanceWith_rests sound env.nesting accepted) fun _ => ?_
    refine bind (notifyIfTerminal_rests service_follows sound fun _ member => by cases member) fun _ => ?_
    exact bind commit_rests fun _ => pure fun _ rested => rested

theorem resumeRun_rests (sound : Sound env origin) (stack : List Activation) (owner runId : String) (given : Resumption) :
    Triple (fun w => Standing env terms origin stack w ∧ ReadyRuns w) (resumeRun env (service env) owner runId given)
      (fun _ => Rested env terms origin stack runId) (Standing env terms origin stack) := by
  refine bind ((getRun_reads runId).triple fun _ known => known.1) fun run => ?_
  refine bind ((getDefinition_reads _ _).triple fun _ known => known.1.1) fun definition => ?_
  refine bind ((checkAccess_reads _ _).triple fun _ known => known.1.1.1) fun _ => ?_
  refine ite (fun _ => throw fun _ known => known.1.1.1.1) fun status => ?_
  refine bind ((getVersion_reads _).triple fun _ known => known.1.1.1.1) fun found => ?_
  cases found with
  | none => exact throw fun _ known => known.1.1.1.1.1
  | some version =>
    refine before (P := fun w => Facing env terms origin stack run version w ∧
      (run.id = runId ∧ run.currentNodeId ≠ some "" ∧ Accepted version)) ?_ fun w known => ?_
    · refine with_fact fun ⟨named, placed, accepted⟩ => ?_
      subst named
      refine bind (grantedResume_follows run version given) fun vars => ?_
      refine assuming fun w0 known => ?_
      have apart := (sound.steps known.1.1).waiting_apart known.1.2
      refine bind (modify (Q := fun _ w => ∃ row, w.db.runs.get? run.id = some row ∧
        row.currentNodeId ≠ some "" ∧ Standing env terms origin (.start row version .resumed env.nesting :: stack) w) ?_)
        fun _ => ?_
      · rintro w rfl
        exact ⟨resumedRow vars run, known.1.2.changed, placed,
          known.1.1.tail (.resume w stack run version vars known.1.2 known.2)⟩
      · exact bind (advanceWith_rests sound env.nesting accepted) fun _ => settle_rests sound apart
    · obtain ⟨⟨⟨⟨⟨standing, ready⟩, ran⟩, _⟩, _⟩, read⟩ := known
      have row := getRun_found ran
      have named := ((sound.steps standing).rows runId run row).1
      have waiting : Waiting w run version := ⟨named.symm ▸ row, by simpa using status, getVersion_found read⟩
      exact ⟨⟨standing, waiting⟩, named, ready run version waiting⟩

theorem rejectRoute_named {config : Dict Json} {target : String} (routed : continuationOf config = .routeTo target) :
    target ≠ "" := by
  unfold continuationOf at routed
  split at routed
  · cases routed
  · split at routed
    · simp_all
    · split at routed <;> cases routed

theorem rejectedRow_halts {continuation : Continuation} (stops : continuation.stops) (rejection : Rejection)
    (vars : Dict Json) (run : WorkflowRun) : (rejectedRow continuation rejection vars run).status ≠ .running := by
  cases continuation with
  | requestChanges => exact fun running => by cases running
  | routeTo target => cases stops
  | finish status =>
    intro running
    have ended : status.terminal = true := stops
    rw [show status = .running from running] at ended
    cases ended

theorem applyApprovalRejection_rests (sound : Sound env origin) (stack : List Activation)
    (owner runId approvalId : String) :
    Triple (fun w => Standing env terms origin stack w ∧ ReadyRuns w)
      (applyApprovalRejection env (service env) owner runId approvalId)
      (fun _ => Rested env terms origin stack runId) (Standing env terms origin stack) := by
  refine bind ((getRun_reads runId).triple fun _ known => known.1) fun run => ?_
  refine bind ((getDefinition_reads _ _).triple fun _ known => known.1.1) fun definition => ?_
  refine bind ((checkAccess_reads _ _).triple fun _ known => known.1.1.1) fun _ => ?_
  refine ite (fun _ => throw fun _ known => known.1.1.1.1) fun status => ?_
  rw [not_not] at status
  refine bind ((rejectedApproval_reads _).triple fun _ known => known.1.1.1.1) fun approval => ?_
  refine bind ((getVersion_reads _).triple fun _ known => known.1.1.1.1.1) fun found => ?_
  cases found with
  | none => exact throw fun _ known => known.1.1.1.1.1.1
  | some version =>
    refine before (P := fun w => Facing env terms origin stack run version w ∧
      (run.id = runId ∧ Accepted version ∧ approval.status = .rejected)) ?_ fun w known => ?_
    · refine with_fact fun ⟨named, accepted, rejected⟩ => ?_
      subst named
      refine assuming fun w0 facing => ?_
      have apart := (sound.steps facing.1).waiting_apart facing.2
      refine before (P := Facing env terms origin stack run version) ?_ fun w same => same ▸ facing
      refine bind (Triple.ofExcept (Q := fun config w => Facing env terms origin stack run version w ∧
        nodeConfig (waitingNode run version) = .ok config) (fun _ read _ facing => ⟨facing, read⟩)
        fun _ facing => facing.1) fun config => with_fact fun read => ?_
      refine bind (get (Q := fun _ => Facing env terms origin stack run version)
        fun _ facing => facing) fun w1 => ?_
      have stop := continuationOf_stops config
      generalize rejectionOf approvalId approval run.currentNodeId config = rejection
      generalize routed : continuationOf config = continuation at stop ⊢
      refine bind (modify (Q := fun _ => Facing env terms origin stack run version) fun w facing => ?_)
        fun _ => ?_
      · exact ⟨facing.1.tail (.aside w stack 0 (w.db.approvals.set approvalId _) w.db.taskRuns w.db.children (.refl _)),
          facing.2.kept rfl rfl⟩
      refine bind (modify (Q := fun _ after => ∃ w, Facing env terms origin stack run version w ∧
        after = w.changeRun run.id (rejectedRow continuation rejection
          (rejectedVars rejection run.contextJson.vars))) fun w facing => ⟨w, facing, rfl⟩) fun _ => ?_
      refine bind (modify (Q := fun _ => Rejected env terms origin stack run version approval rejection
        continuation) ?_) fun _ => ?_
      · rintro _ ⟨w, facing, rfl⟩
        exact ⟨w, facing, rfl⟩
      have stopped (stops : continuation.stops) {after : World}
          (reached : Rejected env terms origin stack run version approval rejection continuation after) :
          Rested env terms origin stack run.id after := by
        refine ⟨reached.stops status rejected stops, ?_⟩
        obtain ⟨w, facing, rfl⟩ := reached
        exact Rests.of_status facing.2.changed (rejectedRow_halts stops _ _ _)
      cases continuation with
      | requestChanges => exact commit_rests.before fun _ reached => stopped trivial reached
      | routeTo target =>
        refine bind ((advanceWith_rests sound env.nesting accepted).before ?_) fun _ => settle_rests sound apart
        rintro _ ⟨w, facing, rfl⟩
        exact ⟨_, facing.2.changed, fun empty => rejectRoute_named routed (Option.some.inj empty),
          facing.1.tail (.reroute w stack run version approval rejection config target facing.2 status rejected read
            routed)⟩
      | finish ended =>
        refine (settle_rests sound apart).before fun _ reached => stopped ?_ reached
        rcases stop with stops | ⟨target, absurd⟩
        · exact stops
        · cases absurd
    · obtain ⟨⟨⟨⟨⟨⟨standing, ready⟩, ran⟩, _⟩, _⟩, asked⟩, read⟩ := known
      have row := getRun_found ran
      have named := ((sound.steps standing).rows runId run row).1
      have waiting : Waiting w run version := ⟨named.symm ▸ row, by rw [status]; rfl, getVersion_found read⟩
      exact ⟨⟨standing, waiting⟩, named, (ready run version waiting).2, rejectedApproval_found asked⟩

end Requests

theorem RunRequest.rests {w after : World} {runId : String} (request : RunRequest) (reachable : Reachable env .any (w, []))
    (ready : ReadyRuns w) (ran : (request.program env).exec w = (.ok runId, after)) :
    Reachable env .any (after, []) ∧ Rests runId after := by
  have sound : Sound env ({}, []) := Sound.initial
  have starts (new : NewRun) (root : new.parent = none) :
      Triple (Standing env .any ({}, []) []) (startRun env new) (fun runId => Rested env .any ({}, []) [] runId)
        (Standing env .any ({}, []) []) := startRun_rests sound trivial root
  cases request with
  | start request environment => exact (starts (request.production environment) rfl).result reachable ran
  | startTest request versionId => exact (starts (request.test versionId) rfl).result reachable ran
  | resume owner runId given =>
    obtain ⟨_, middle, resumed, same⟩ := Prog.exec_bind_split ran
    cases same
    exact (resumeRun_rests sound [] owner runId given).result ⟨reachable, ready⟩ resumed
  | reject owner runId approvalId =>
    obtain ⟨_, middle, rejected, same⟩ := Prog.exec_bind_split ran
    cases same
    exact (applyApprovalRejection_rests sound [] owner runId approvalId).result ⟨reachable, ready⟩ rejected

section Spending

def Running (runs : Dict WorkflowRun) (runId : String) : Prop := ∃ row, runs.get? runId = some row ∧ row.status = .running

structure Spends (machine : Machine) : Prop where
  active : ∀ activation ∈ machine.2, activation.frame.cursor ≠ none → Running machine.1.db.runs activation.frame.run.id
  spent : ∀ runId, Spent machine.1.db.history runId → Running machine.1.db.runs runId
  apart : ∀ activation ∈ machine.2, ¬ Spent machine.1.db.history activation.frame.run.id
  saved : ∀ runId, Spent machine.1.committed.history runId → Running machine.1.committed.runs runId

variable {w : World} {stack : List Activation} {activation : Activation}

variable {change : WorkflowRun → WorkflowRun} {runId : String} {event : Event}

theorem Running.changeRun_ne {id runId : String} (running : Running w.db.runs runId)
    (other : id ≠ runId) : Running (w.changeRun id change).db.runs runId := by
  obtain ⟨row, found, status⟩ := running
  exact ⟨row, (get?_changeRun_ne other).trans found, status⟩

theorem Running.changeRun (running : Running w.db.runs runId)
    (keeps : ∀ row : WorkflowRun, row.status = .running → (change row).status = .running) :
    Running (w.changeRun runId change).db.runs runId := by
  obtain ⟨row, found, status⟩ := running
  exact ⟨change row, changed_row found, keeps row status⟩

theorem Running.not_waiting {run : WorkflowRun} {version : WorkflowVersion} (waiting : Waiting w run version) :
    ¬ Running w.db.runs run.id := by
  rintro ⟨row, found, running⟩
  cases waiting.row.symm.trans found
  have status := waiting.status
  rw [running] at status
  cases status

def Event.spends : Event → Prop
  | .stepBudgetExhausted .. => True
  | _ => False

theorem Spent.of_cons {history : List Event} (spent : Spent (event :: history) runId)
    (other : ¬ event.spends) : Spent history runId := by
  obtain ⟨cursor, member⟩ := spent
  rcases mem_cons.mp member with same | earlier
  · exact absurd (same ▸ trivial) other
  · exact ⟨cursor, earlier⟩

theorem Reports.not_spends {frame : Frame} {cursor : String} {node : Json} {visit : Visit}
    (reports : Reports env w frame cursor node visit event) : ¬ event.spends := by
  cases reports <;> exact fun spends => spends

namespace Spends

theorem record (spends : Spends (w, stack)) (event : Event) (other : ¬ event.spends) : Spends (w.record event, stack) where
  active := spends.active
  spent runId spent := spends.spent runId (spent.of_cons other)
  apart activation member spent := spends.apart activation member (spent.of_cons other)
  saved := spends.saved

theorem pop (spends : Spends (w, activation :: stack)) : Spends (w, stack) where
  active other member := spends.active other (mem_cons_of_mem _ member)
  spent := spends.spent
  apart other member := spends.apart other (mem_cons_of_mem _ member)
  saved := spends.saved

theorem push (spends : Spends (w, stack)) (running : activation.frame.cursor ≠ none → Running w.db.runs activation.frame.run.id)
    (unspent : ¬ Spent w.db.history activation.frame.run.id) : Spends (w, activation :: stack) where
  active := forall_mem_cons.mpr ⟨running, spends.active⟩
  spent := spends.spent
  apart := forall_mem_cons.mpr ⟨unspent, spends.apart⟩
  saved := spends.saved

theorem revisit {frame : Frame} {budget : Nat} {visit visit' : Option Visit}
    (spends : Spends (w, ⟨frame, budget, visit⟩ :: stack)) : Spends (w, ⟨frame, budget, visit'⟩ :: stack) :=
  spends.pop.push (spends.active ⟨frame, budget, visit⟩ mem_cons_self) (spends.apart ⟨frame, budget, visit⟩ mem_cons_self)

theorem changeRun (spends : Spends (w, stack)) {id : String} (change : WorkflowRun → WorkflowRun)
    (apart : ∀ activation ∈ stack, activation.frame.run.id ≠ id) (unspent : ¬ Spent w.db.history id) :
    Spends (w.changeRun id change, stack) where
  active activation member goes := (spends.active activation member goes).changeRun_ne (apart activation member).symm
  spent runId spent := (spends.spent runId spent).changeRun_ne fun same => unspent (same ▸ spent)
  apart := spends.apart
  saved := spends.saved

theorem unspent_waiting (spends : Spends (w, stack)) {run : WorkflowRun} {version : WorkflowVersion}
    (waiting : Waiting w run version) : ¬ Spent w.db.history run.id :=
  fun spent => Running.not_waiting waiting (spends.spent _ spent)

theorem unspent_fresh (sound : Sound env (w, stack)) : ¬ Spent w.db.history (env.uuid4 w.drawn) :=
  fun ⟨_, member⟩ => (sound.events _ (sound.history member)).fresh rfl

theorem create (spends : Spends (w, stack)) (sound : Sound env (w, stack)) (new : NewRun)
    (definition : WorkflowDefinition) (version : WorkflowVersion) :
    Spends (w.create env new definition version, stack) := by
  have kept {runId : String} (running : Running w.db.runs runId) :
      Running (w.create env new definition version).db.runs runId := by
    obtain ⟨row, found, status⟩ := running
    exact ⟨row, (get?_create_ne (sound.rows _ _ found).2).trans found, status⟩
  refine ⟨fun activation member goes => kept (spends.active activation member goes), fun runId spent => ?_,
    fun activation member spent => ?_, spends.saved⟩
  · exact kept (spends.spent runId (Spent.of_cons spent fun spends => spends))
  · exact spends.apart activation member (Spent.of_cons spent fun spends => spends)

theorem step {before after : Machine} (spends : Spends before) (sound : Sound env before)
    (step : Step env terms before after) : Spends after := by
  have running_ {w : World} {run : WorkflowRun} {version : WorkflowVersion} {change : WorkflowRun → WorkflowRun}
      (waiting : Waiting w run version) (status : (change run).status = .running) :
      Running (w.changeRun run.id change).db.runs run.id := ⟨change run, waiting.changed, status⟩
  cases step with
  | aside => exact ⟨spends.active, spends.spent, spends.apart, spends.saved⟩
  | commit => exact ⟨spends.active, spends.spent, spends.apart, spends.spent⟩
  | rollback => exact ⟨by simp, spends.saved, by simp, spends.saved⟩
  | changed w change possible fits same =>
    have kept : ∀ db : Db, (change.apply db).runs = db.runs ∧ (change.apply db).history = db.history := by
      intro db
      cases change <;> exact ⟨rfl, rfl⟩
    refine ⟨by simp, ?_, by simp, ?_⟩
    · simpa only [kept w.db] using spends.spent
    · simpa only [kept w.committed] using spends.saved
  | tick => exact ⟨by simp, spends.spent, by simp, spends.saved⟩
  | start w new definition version resolved fits root =>
    refine (spends.create sound new definition version).push (fun _ => ?_) fun spent => ?_
    · exact ⟨_, created_row env new definition version w, rfl⟩
    · exact unspent_fresh sound (Spent.of_cons spent fun spends => spends)
  | startChild w frame budget visit stack cursor key workflowId node childNode config input definition version here
      found type place read named given resolved =>
    have created := (spends.create sound (childRequest frame.run workflowId input) definition version).record
      (.childStarted frame.run.id cursor key (env.uuid4 w.drawn)) fun spends => spends
    refine created.revisit.push (fun _ => ⟨_, created_row env _ definition version w, rfl⟩) fun spent => ?_
    exact unspent_fresh sound (Spent.of_cons (Spent.of_cons spent fun spends => spends) fun spends => spends)
  | exceeded w frame stack => exact spends.pop.record _ fun spends => spends
  | consume => exact spends.record _ fun spends => spends
  | resume w stack run version vars waiting granted =>
    have unspent := spends.unspent_waiting waiting
    exact (spends.changeRun _ (sound.waiting_apart waiting) unspent).push (fun _ => running_ waiting rfl) unspent
  | reject w stack run version approval rejection continuation waiting status rejected stops =>
    exact (spends.changeRun _ (sound.waiting_apart waiting) (spends.unspent_waiting waiting)).record
      (.rejectionApplied run.id run.currentNodeId approval) fun spends => spends
  | reroute w stack run version approval rejection config target waiting status rejected read routed =>
    have unspent := spends.unspent_waiting waiting
    refine ((spends.changeRun _ (sound.waiting_apart waiting) unspent).record
      (.rejectionApplied run.id run.currentNodeId approval) fun spends => spends).push
      (fun _ => running_ waiting rfl) fun spent => ?_
    exact unspent (Spent.of_cons spent fun spends => spends)
  | visit w frame budget stack cursor node here =>
    exact (spends.record (.stepStarted frame.run.id frame.version cursor frame.arrival frame.vars)
      fun spends => spends).revisit
  | report w frame budget visit stack cursor node event here reports =>
    exact (spends.record event reports.not_spends).revisit
  | branch w frame budget visit visit' stack cursor node here changed =>
    exact spends.revisit
  | pause w frame budget visit stack cursor node outcome status here effect stops =>
    have recorded := spends.record (.stepFinished frame.run.id cursor (nodeTypeText node) outcome.status)
      fun spends => spends
    exact recorded.pop.changeRun _ (fun _ => sound.below _) (recorded.apart _ mem_cons_self)
  | fail w frame budget visit stack cursor node outcome here effect goes failed =>
    have recorded := spends.record (.stepFinished frame.run.id cursor (nodeTypeText node) outcome.status)
      fun spends => spends
    exact recorded.pop.changeRun _ (fun _ => sound.below _) (recorded.apart _ mem_cons_self)
  | move w frame budget visit stack cursor node outcome here effect goes passed =>
    have recorded := spends.record (.stepFinished frame.run.id cursor (nodeTypeText node) outcome.status)
      fun spends => spends
    have unspent := recorded.apart _ mem_cons_self
    refine (recorded.pop.changeRun _ (fun _ => sound.below _) unspent).push (fun onward => ?_) unspent
    refine (spends.active _ mem_cons_self (by rw [here.reached]; exact Option.some_ne_none _)).changeRun
      fun row running => ?_
    rwa [movedRow, if_neg onward]
  | missing w frame budget stack cursor given named absent =>
    have unspent := spends.apart _ mem_cons_self
    exact (spends.pop.changeRun _ (fun _ => sound.below _) unspent).changeRun _ (fun _ => sound.below _) unspent
  | exhausted w frame budget stack cursor given named =>
    have mine : Running w.db.runs frame.run.id :=
      spends.active _ mem_cons_self (by rw [given]; exact Option.some_ne_none _)
    have kept : Running (w.changeRun frame.run.id (leftRow frame)).db.runs frame.run.id := by
      refine mine.changeRun fun row running => ?_
      rw [leftRow, if_neg fun both => by rw [given] at both; cases both.2]
      exact running
    have unspent := spends.apart _ mem_cons_self
    have left := spends.pop.changeRun (leftRow frame) (fun _ => sound.below _) unspent
    have mineOnly {runId : String}
        (spent : Spent (.stepBudgetExhausted frame.run.id cursor :: w.db.history) runId) :
        runId = frame.run.id ∨ Spent w.db.history runId := by
      obtain ⟨other, member⟩ := spent
      rcases mem_cons.mp member with same | earlier
      · simp_all
      · exact .inr ⟨other, earlier⟩
    refine ⟨left.active, fun runId spent => ?_, fun activation member spent => ?_, left.saved⟩
    · rcases mineOnly spent with rfl | earlier
      · exact kept
      · exact left.spent runId earlier
    · rcases mineOnly spent with same | earlier
      · exact sound.below activation member same
      · exact left.apart activation member earlier
  | ended w frame budget stack exhausted =>
    exact spends.pop.changeRun _ (fun _ => sound.below _) (spends.apart _ mem_cons_self)
  | abandon w activation stack => exact spends.pop

end Spends

theorem Reachable.spends {machine : Machine} (reachable : Reachable env terms machine) : Spends machine := by
  refine reachable.invariant ⟨by simp, ?_, by simp, ?_⟩ fun _ _ earlier spends step => spends.step earlier.sound step
  all_goals
    rintro runId ⟨cursor, member⟩
    cases member

end Spending

/-- The run is finished, or `resume_run` takes it up. -/
def RunStatus.settled (status : RunStatus) : Prop := status.terminal = true ∨ status.resumable = true

theorem RunStatus.settled_iff (status : RunStatus) : status.settled ↔ status ≠ .running := by
  unfold settled
  cases status <;> decide

def bell (edges : List Json) : WorkflowVersion := published "bell" [plainNode "ring" "trigger" []] edges "ring"

def bellWorld (edges : List Json) : World := World.after stillEnv (publishing (bell edges)) {}

def ringing : Session String := (RunRequest.start (startOf "bell" []) "dev").program stillEnv

theorem bellWorld_run (edges : List Json) : Run stillEnv .any (bellWorld edges) := by
  have possible : Possible stillEnv .any (publishing (bell edges) ++ []) {} := publishing_possible trivial trivial trivial
  exact Run.init.after possible

end Troop.Workflow
