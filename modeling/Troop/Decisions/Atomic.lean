import Troop.Decisions.Verdicts
import Troop.Workflow.System

namespace Troop.Decisions

open Approvals (BoundApproval Decision isApprovalExpired)
open Transaction
open List
open Option (filter_some map_some some)

section Torn

variable {around : Surroundings} {db : Db}

theorem verdict_emitRunEvent {β : Type} (run : TaskRun) (eventType : String) (next : PUnit → Work β) :
    (emitRunEvent run eventType >>= next).verdict db = .committed := rfl

theorem verdict_unblock {β : Type} (run : TaskRun) {next : PUnit → Work β}
    (commits : ∀ after, (next ⟨⟩).verdict after = .committed) :
    (unblockTask around run >>= next).verdict db = .committed := by
  unfold unblockTask
  cases given run.taskId with
  | none => exact commits db
  | some taskId =>
    rw [assoc, verdict_rows_bind]
    cases db.tasks taskId with
    | none => exact commits db
    | some task =>
      dsimp only
      by_cases blocked : task.status = "blocked"
      · have valid := @transition_valid task.status "planned" (by rw [blocked]; decide)
        rw [if_pos blocked]
        unfold transitionTaskStatus
        rw [if_neg valid.1, if_neg (not_not.mpr valid.2)]
        rfl
      · rw [if_neg blocked]
        exact commits db

theorem verdict_resume (approval : BoundApproval) : (resumeApproved around .approved approval).verdict db = .committed ↔
    ∃ run, runFor db approval = some run ∧ run.status = "blocked" := by
  unfold resumeApproved
  rw [if_pos rfl, verdict_runOf]
  cases runFor db approval with
  | none => simp
  | some run =>
    dsimp only
    by_cases blocked : run.status = "blocked"
    · rw [if_pos blocked, verdict_change_bind, verdict_unblock _ fun after => verdict_emitRunEvent _ _ _]
      simp [blocked]
    · simp_all

theorem grant_torn (userId : String) (reason : Option String) (approval : BoundApproval) :
    (consequences around userId .approved reason approval).reachesCommit db = true ↔
      GrantTorn around db userId approval := by
  rw [← verdict_committed]
  unfold consequences GrantTorn
  have kept := (@sideEffect_keeps around _ _ runs_aside userId .approved reason approval (.inr rfl)).outcome db
  have granted := @verdict_grant around db userId reason approval
  rw [verdict_bind, granted]
  cases known : grantVerdict around db userId approval with
  | quiet =>
    rw [known] at granted
    obtain ⟨_, value, outcome⟩ := verdict_quiet.mp granted
    cases ran : (sideEffect around userId .approved reason approval).outcome db with
    | mk result after =>
      rw [ran] at kept outcome
      have same : runFor after approval = runFor db approval := by
        unfold runFor Db.run?
        rw [show after.runs = db.runs from kept]
      rw [show result = .ok value from outcome, ← same]
      dsimp only
      have skipped : (returnRejected around .approved reason approval : Work PUnit) = pure ⟨⟩ := if_neg fun both => by
        cases both.1
      rw [skipped, verdict_pure_bind, verdict_resume]
      simp
  | _ => simp

theorem outcome_taskOf (approval : BoundApproval) : (taskOf approval).outcome db = (.ok (taskFor db approval), db) := by
  unfold taskOf taskFor
  cases given approval.taskId <;> rfl

theorem outcome_runOf (approval : BoundApproval) : (runOf approval).outcome db = (.ok (runFor db approval), db) := by
  unfold runOf runFor
  cases given approval.runId <;> rfl

theorem failRejectedRun_cases (reason : Option String) (approval : BoundApproval) :
    ((∃ run, runFor db approval = some run ∧ openRun run = true) ∧
      (failRejectedRun reason approval).verdict db = .committed) ∨
    ((¬ ∃ run, runFor db approval = some run ∧ openRun run = true) ∧
      (failRejectedRun reason approval).verdict db = .quiet ∧
      (failRejectedRun reason approval).outcome db = (.ok none, db)) := by
  unfold failRejectedRun
  rw [verdict_runOf, outcome_bind, outcome_runOf]
  cases runFor db approval with
  | none => exact .inr ⟨by simp, rfl, rfl⟩
  | some run =>
    dsimp only
    by_cases ongoing : openRun run = true
    · rw [if_pos ongoing]
      exact .inl ⟨⟨run, rfl, ongoing⟩, rfl⟩
    · rw [if_neg ongoing]
      exact .inr ⟨by simp [ongoing], rfl, rfl⟩

def Returned (db : Db) (approval : BoundApproval) : Prop :=
  ∃ task, taskFor db approval = some task ∧ task.status ∈ ["blocked", "approved", "completed"] ∧ hasRun db task = true

theorem plannable {status : String} (listed : status ∈ ["blocked", "approved", "completed"]) :
    status ≠ "planned" ∧ Projects.isValidTaskTransition status "planned" = true := by
  simp only [mem_cons, not_mem_nil, or_false] at listed
  rcases listed with rfl | rfl | rfl <;> decide

theorem returnTask_cases (approval : BoundApproval) :
    (Returned db approval ∧ (returnTask around approval).verdict db = .committed) ∨
    (¬ Returned db approval ∧ (returnTask around approval).verdict db = .quiet ∧
      ∃ tasks runEvents, (returnTask around approval).outcome db = (.ok ⟨⟩, { db with tasks, runEvents })) := by
  unfold returnTask Returned
  rw [verdict_taskOf, outcome_bind, outcome_taskOf]
  cases taskFor db approval with
  | none => exact .inr ⟨by simp, rfl, _, _, rfl⟩
  | some task =>
    dsimp only
    by_cases listed : task.status ∈ ["blocked", "approved", "completed"]
    · have verdict := @transitionVerdict_valid db task "planned" (plannable listed)
      rw [if_pos listed, verdict_discard, verdict_transition, verdict]
      by_cases run : hasRun db task = true
      · exact .inl ⟨⟨task, rfl, listed, run⟩, if_pos run⟩
      · rw [if_neg run] at verdict ⊢
        have passed : transitionVerdict db task "planned" ≠ .refused := by simp [verdict]
        obtain ⟨_, tasks, runEvents, outcome, _⟩ := @outcome_transition around _ _ _ passed
        exact .inr ⟨by simp [run], rfl, tasks, runEvents, outcome_discard outcome⟩
    · rw [if_neg listed]
      refine .inr ⟨?_, rfl, db.tasks, db.runEvents, rfl⟩
      rintro ⟨other, same, member, _⟩
      cases same
      exact listed member

theorem verdict_returned (reason : Option String) (approval : BoundApproval) :
    (returnTask around approval >>= fun _ => discard (failRejectedRun reason approval) : Work PUnit).verdict db =
        .committed ↔
      (∃ run, runFor db approval = some run ∧ openRun run = true) ∨ Returned db approval := by
  rw [verdict_bind]
  rcases @returnTask_cases around db approval with ⟨returned, verdict⟩ | ⟨stays, verdict, tasks, runEvents, outcome⟩
  · simp_all
  rw [verdict, outcome]
  dsimp only
  rw [verdict_discard]
  have same : runFor { db with tasks, runEvents } approval = runFor db approval := rfl
  rcases @failRejectedRun_cases { db with tasks, runEvents } reason approval with ⟨ongoing, fails⟩ | ⟨ended, calm, _⟩
  · simp_all
  · simp_all

theorem verdict_replanned (reason : Option String) (approval : BoundApproval) :
    (replan around reason approval >>= fun _ =>
        (returnTask around approval >>= fun _ => discard (failRejectedRun reason approval) : Work PUnit)).verdict db =
        .committed ↔
      (∃ run, runFor db approval = some run ∧ openRun run = true) ∨ Returned db approval := by
  unfold replan
  rw [assoc, verdict_taskOf]
  cases found : taskFor db approval with
  | none =>
    rw [verdict_bind, verdict_discard]
    rcases @failRejectedRun_cases db reason approval with ⟨ongoing, fails⟩ | ⟨ended, calm, outcome⟩
    · simp_all
    · rw [calm, outcome_discard outcome]
      exact verdict_returned reason approval
  | some task =>
    dsimp only
    have followed : ∀ (after : Db) (replanned : Option TaskRun → Work PUnit), replanned none = pure PUnit.unit →
        after.runs = db.runs → (¬ (∃ run, runFor db approval = some run ∧ openRun run = true) →
          (Returned after approval ↔ Returned db approval)) →
        (((failRejectedRun reason approval >>= replanned) >>= fun _ =>
            (returnTask around approval >>= fun _ => discard (failRejectedRun reason approval) : Work PUnit)).verdict after =
          .committed ↔ (∃ run, runFor db approval = some run ∧ openRun run = true) ∨ Returned db approval) := by
      intro after replanned idle runs returned
      have same : runFor after approval = runFor db approval := by
        unfold runFor Db.run?
        rw [runs]
      rw [assoc, verdict_bind]
      rcases @failRejectedRun_cases after reason approval with ⟨ongoing, fails⟩ | ⟨ended, calm, outcome⟩
      · simp_all
      · rw [same] at ended
        rw [calm, outcome]
        dsimp only
        rw [idle, verdict_pure_bind, verdict_returned, same, returned ended]
    unfold reopenDone
    by_cases listed : task.status ∈ ["approved", "completed"]
    · have done : task.status ∈ ["blocked", "approved", "completed"] := mem_cons_of_mem _ listed
      have verdict := @transitionVerdict_valid db task "planned" (plannable done)
      rw [if_pos listed, assoc, verdict_bind, verdict_transition, verdict]
      by_cases run : hasRun db task = true
      · have returned : Returned db approval := ⟨task, found, done, run⟩
        simp [run, returned]
      · rw [if_neg run] at verdict ⊢
        have passed : transitionVerdict db task "planned" ≠ .refused := by simp [verdict]
        obtain ⟨row, tasks, runEvents, outcome, project, id, _, rows⟩ := @outcome_transition around _ _ _ passed
        rw [outcome]
        refine followed { db with tasks, runEvents } _ rfl rfl fun _ => ?_
        constructor
        · rintro ⟨other, there, member, reported⟩
          obtain ⟨taskId, named, there⟩ := Option.bind_eq_some_iff.mp there
          rcases rows taskId other there with old | new
          · exact ⟨other, Option.bind_eq_some_iff.mpr ⟨taskId, named, old⟩, member, reported⟩
          · have same : hasRun { db with tasks, runEvents } other = hasRun db task := by simp_all
            exact absurd (same.symm.trans reported) run
        · rintro ⟨other, there, _, reported⟩
          simp_all
    · rw [if_neg listed, assoc, verdict_pure_bind]
      exact followed db _ rfl rfl fun _ => Iff.rfl

theorem sideEffect_rejected (userId : String) (reason : Option String) (approval : BoundApproval) :
    (given approval.taskId ≠ none ∧ sideEffect around userId .rejected reason approval = replan around reason approval) ∨
      (sideEffect around userId .rejected reason approval).verdict db = .quiet ∧
        ∃ memories, (sideEffect around userId .rejected reason approval).outcome db = (.ok ⟨⟩, { db with memories }) := by
  have nothing : ∀ {work : Work PUnit}, work = pure ⟨⟩ →
      work.verdict db = .quiet ∧ ∃ memories, work.outcome db = (.ok ⟨⟩, { db with memories }) := by
    intro work same
    rw [same]
    exact ⟨rfl, db.memories, rfl⟩
  unfold sideEffect
  simp only [reduceCtorEq, false_and, if_false, true_and]
  split
  · right
    unfold decideAgentMemory
    split
    · rw [verdict_rows_bind, outcome_bind, outcome_rows]
      dsimp only
      split
      · exact ⟨rfl, db.memories, rfl⟩
      · exact ⟨rfl, _, rfl⟩
      · simp_all
    · exact nothing rfl
  split
  · right
    unfold decideSemanticMemory
    rw [verdict_statement_bind, outcome_bind, outcome_statement]
    simp_all
  split
  · exact .inr (nothing rfl)
  split
  · exact .inr (nothing rfl)
  split
  · exact .inr (nothing rfl)
  split
  · rename_i tasked
    exact .inl ⟨tasked, rfl⟩
  · exact .inr (nothing rfl)

theorem refusal_torn (userId : String) (reason : Option String) (approval : BoundApproval) :
    (consequences around userId .rejected reason approval).reachesCommit db = true ↔ RefusalTorn db approval := by
  rw [← verdict_committed]
  have skipped : (resumeApproved around .rejected approval : Work (Option String)) = pure none := rfl
  have last : ∀ (work : Work PUnit) (after : Db),
      ((work >>= fun _ => resumeApproved around .rejected approval).verdict after = .committed ↔
        work.verdict after = .committed) := by
    intro work after
    rw [skipped, verdict_bind]
    cases known : work.verdict after with
    | quiet =>
      obtain ⟨_, value, outcome⟩ := verdict_quiet.mp known
      cases ran : work.outcome after with
      | mk result state => simp_all
    | _ => rfl
  unfold consequences RefusalTorn
  by_cases tasked : given approval.taskId = none
  · have idle : (returnRejected around .rejected reason approval : Work PUnit) = pure ⟨⟩ := if_neg fun both => both.2 tasked
    rcases @sideEffect_rejected around db userId reason approval with ⟨there, _⟩ | ⟨quiet, memories, outcome⟩
    · exact absurd tasked there
    · rw [verdict_bind, quiet, outcome, idle]
      simp [tasked, skipped]
  · have returns : (returnRejected around .rejected reason approval : Work PUnit) =
        (returnTask around approval >>= fun _ => discard (failRejectedRun reason approval)) := if_pos ⟨rfl, tasked⟩
    rw [returns]
    simp only [ne_eq, tasked, not_false_eq_true, true_and]
    rcases @sideEffect_rejected around db userId reason approval with ⟨_, replans⟩ | ⟨quiet, memories, outcome⟩
    · rw [replans, ← assoc, last]
      exact verdict_replanned reason approval
    · rw [verdict_bind, quiet, outcome]
      rw [last]
      exact verdict_returned reason approval

end Torn

section Atomic

variable (around : Surroundings) (userId approvalId : String) (decision : Decision) (reason : Option String) (w : Db)

def TornBy (approval : BoundApproval) : Prop :=
  around.eligible userId approval = true ∧ (decision = .rejected → Text.strip (reason.getD "") ≠ "") ∧
    match decision with
    | .approved => GrantTorn around w userId (decidedRow userId decision reason approval)
    | .rejected => RefusalTorn w (decidedRow userId decision reason approval)

def Torn : Prop :=
  ∃ approval, w.approval? approvalId = some approval ∧ around.accessible userId approval = true ∧
    approval.status = .pending ∧
    (isApprovalExpired around.env approval around.now = .ok true ∨
      isApprovalExpired around.env approval around.now = .ok false ∧ TornBy around userId decision reason w approval)

variable {around userId approvalId decision reason w}

theorem consequences_torn (approval : BoundApproval) :
    (consequences around userId decision reason (decidedRow userId decision reason approval)).reachesCommit
        (w.putApproval (decidedRow userId decision reason approval)) = true ↔
      match decision with
      | .approved => GrantTorn around w userId (decidedRow userId decision reason approval)
      | .rejected => RefusalTorn w (decidedRow userId decision reason approval) := by
  cases decision with
  | approved => exact grant_torn _ _ _
  | rejected => exact refusal_torn _ _ _

variable {approval : BoundApproval}

theorem approval?_some {id : String} (found : w.approval? id = some approval) : approval.id = id := by
  simpa using find?_some found

theorem approval?_putApproval {approval row : BoundApproval} (found : w.approval? row.id = some approval) :
    (w.putApproval row).approval? row.id = some row := by
  have test : (fun other : BoundApproval => decide (other.id = row.id)) ∘
      (fun other : BoundApproval => if other.id = row.id then row else other) = fun other => decide (other.id = row.id) := by
    funext other
    by_cases same : other.id = row.id <;> simp [same]
  unfold Db.approval? at found
  simp only [Db.approval?, Db.putApproval, find?_map, test, found, map_some, some.injEq]
  rw [if_pos (by simpa using find?_some found)]

theorem refused_allOrNothing {α : Type} {program : Work α} (refused : program.verdict w = .refused) (left : Option Nat) :
    program.AllOrNothing w left := by
  refine allOrNothing_of_quiet ?_ left
  refine Bool.eq_false_iff.mpr fun reaches => ?_
  simp [verdict_committed.mpr reaches] at refused

theorem afterDecision_quiet (row : BoundApproval) (resumed : Option String) (after : Db) :
    (afterDecision row resumed).reachesCommit after = false ∧
      ∃ answer, ((afterDecision row resumed).outcome after).1 = .ok answer := by
  cases resumed with
  | none => exact ⟨rfl, ⟨⟩, rfl⟩
  | some run =>
    unfold afterDecision
    by_cases project : given row.projectId ≠ none
    · rw [if_pos project]
      exact ⟨rfl, ⟨⟩, rfl⟩
    · simp_all

def decided (around : Surroundings) (userId : String) (decision : Decision) (reason : Option String)
    (approval : BoundApproval) : Work PUnit :=
  recorded (fun db => db.putApproval (decidedRow userId decision reason approval))
    (consequences around userId decision reason (decidedRow userId decision reason approval))
    (fun _ db => { db with
      auditLogs := db.auditLogs ++ [auditEntry userId decision (decidedRow userId decision reason approval)] })
    (afterDecision (decidedRow userId decision reason approval))

theorem decideApproval_eq : decideApproval around userId approvalId decision reason =
    admitDecision around userId approvalId decision reason >>= decided around userId decision reason := rfl

theorem decided_allOrNothing (found : w.approval? approval.id = some approval) (pending : approval.status = .pending) :
    (∀ left, (decided around userId decision reason approval).AllOrNothing w left) ↔
      (consequences around userId decision reason (decidedRow userId decision reason approval)).reachesCommit
        (w.putApproval (decidedRow userId decision reason approval)) = false := by
  have keeps := @consequences_keeps around _ _ (ledger_aside approval.id) (fun _ _ => rfl) userId decision reason
    (decidedRow userId decision reason approval)
  have seen : (Prod.fst ∘ ledger approval.id) (w.putApproval (decidedRow userId decision reason approval)) ≠
      (Prod.fst ∘ ledger approval.id) w := by
    have put := @approval?_putApproval w approval (decidedRow userId decision reason approval) found
    have put : (w.putApproval (decidedRow userId decision reason approval)).approval? approval.id = _ := put
    simp only [Function.comp, ledger, put, found, map_some, pending]
    cases decision <;> simp [decidedRow, Decision.status]
  have recorded : ∀ (value : Option String) (after : Db), (Prod.snd ∘ ledger approval.id)
      { after with auditLogs := after.auditLogs ++ [auditEntry userId decision (decidedRow userId decision reason approval)] } ≠
        (Prod.snd ∘ ledger approval.id) after := by
    simp [ledger]
  exact recorded_allOrNothing_iff seen recorded keeps.map keeps.map
    (fun resumed after => (afterDecision_quiet _ resumed after).1)
    fun resumed after => (afterDecision_quiet _ resumed after).2

theorem admit_cases :
    (∃ approval, w.approval? approvalId = some approval ∧ around.accessible userId approval = true ∧
      approval.status = .pending ∧ isApprovalExpired around.env approval around.now = .ok true) ∨
    ((decideApproval around userId approvalId decision reason).verdict w = .refused ∧
      ¬ Torn around userId approvalId decision reason w) ∨
    ∃ approval, w.approval? approvalId = some approval ∧ around.accessible userId approval = true ∧
      approval.status = .pending ∧ isApprovalExpired around.env approval around.now = .ok false ∧
      around.eligible userId approval = true ∧ (decision = .rejected → Text.strip (reason.getD "") ≠ "") ∧
      (admitDecision around userId approvalId decision reason).outcome w = (.ok approval, w) ∧
      (admitDecision around userId approvalId decision reason).reachesCommit w = false := by
  have only : ∀ {approval other : BoundApproval}, w.approval? approvalId = some approval →
      w.approval? approvalId = some other → other = approval :=
    fun found there => some.inj (there.symm.trans found)
  rw [decideApproval_eq]
  unfold admitDecision
  rw [assoc, verdict_rows_bind, outcome_bind, outcome_rows, reachesCommit_bind, reachesCommit_rows, outcome_rows]
  cases found : w.approval? approvalId with
  | none =>
    refine .inr (.inl ⟨rfl, ?_⟩)
    rintro ⟨other, there, _⟩
    cases found.symm.trans there
  | some approval =>
    by_cases accessible : around.accessible userId approval = true
    · rw [filter_some, if_pos accessible]
      dsimp only
      by_cases pending : approval.status = .pending
      · rw [if_neg (not_not.mpr pending)]
        cases expired : isApprovalExpired around.env approval around.now with
        | error error =>
          refine .inr (.inl ⟨rfl, ?_⟩)
          rintro ⟨other, there, _, _, stale | ⟨fresh, _⟩⟩
          · cases expired.symm.trans (only found there ▸ stale)
          · cases expired.symm.trans (only found there ▸ fresh)
        | ok stale =>
          cases stale with
          | true => exact .inl ⟨approval, rfl, accessible, pending, expired⟩
          | false =>
            right
            have torn : Torn around userId approvalId decision reason w →
                TornBy around userId decision reason w approval := by
              rintro ⟨other, there, _, _, stale | ⟨_, torn⟩⟩
              · cases expired.symm.trans (only found there ▸ stale)
              · exact only found there ▸ torn
            by_cases eligible : around.eligible userId approval = true
            · by_cases silent : decision = .rejected ∧ Text.strip (reason.getD "") = ""
              · left
                refine ⟨?_, fun given => (torn given).2.1 silent.1 silent.2⟩
                rw [if_neg (not_not.mpr eligible), if_pos silent]
                rfl
              · right
                refine ⟨approval, rfl, accessible, pending, expired, eligible, fun rejected blank =>
                  silent ⟨rejected, blank⟩, ?_, ?_⟩
                · rw [if_neg (not_not.mpr eligible), if_neg silent]
                  rfl
                · rw [if_neg (not_not.mpr eligible), if_neg silent]
                  rfl
            · left
              refine ⟨?_, fun given => eligible (torn given).1⟩
              rw [if_pos eligible]
              rfl
      · rw [if_pos pending]
        refine .inr (.inl ⟨rfl, ?_⟩)
        rintro ⟨other, there, _, waiting, _⟩
        exact pending (only found there ▸ waiting)
    · rw [filter_some, if_neg accessible]
      refine .inr (.inl ⟨rfl, ?_⟩)
      rintro ⟨other, there, seen, _⟩
      exact accessible (only found there ▸ seen)

theorem expired_tears (found : w.approval? approvalId = some approval)
    (accessible : around.accessible userId approval = true) (pending : approval.status = .pending)
    (expired : isApprovalExpired around.env approval around.now = .ok true) :
    ¬ (decideApproval around userId approvalId decision reason).AllOrNothing w none := by
  let stale : BoundApproval :=
    { approval with status := .stale, reason := some "Approval effect expired before decision" }
  have marked : (decideApproval around userId approvalId decision reason).run none ⟨w, w⟩ =
      ⟨.error (.raised (.http 409 "Approval effect expired before decision")), none,
        ⟨w.putApproval stale, w.putApproval stale⟩⟩ := by
    rw [decideApproval_eq, run_bind]
    unfold admitDecision
    rw [run_rows_bind]
    rw [found, filter_some, if_pos accessible]
    dsimp only
    rw [if_neg (not_not.mpr pending), expired]
    rfl
  have ended : ∀ value, ((decideApproval around userId approvalId decision reason).outcome w).1 ≠ .ok value := by
    intro value returned
    obtain ⟨committed, undisturbed⟩ := @run_none _ _ _ (decideApproval around userId approvalId decision reason) ⟨w, w⟩
    rw [marked, returned] at undisturbed
    cases congrArg Ended.result undisturbed
  rintro (nothing | ⟨⟨value, returned⟩, _⟩)
  · rw [marked] at nothing
    have named := approval?_some found
    have put := @approval?_putApproval w approval stale (by rw [show stale.id = approvalId from named]; exact found)
    have nothing : w.putApproval stale = w := nothing
    rw [nothing, show stale.id = approvalId from named, found] at put
    have same := congrArg BoundApproval.toApprovalRequest (some.inj put)
    have status : approval.status = .stale := congrArg Workflow.ApprovalRequest.status same
    simp [pending] at status
  · exact ended value returned

/-- Deciding an approval is all-or-nothing at every point of failure exactly where it is not torn. -/
theorem decision_atomic_iff (around : Surroundings) (userId approvalId : String) (decision : Decision)
    (reason : Option String) (w : Db) :
    (∀ left, (decideApproval around userId approvalId decision reason).AllOrNothing w left) ↔
      ¬ Torn around userId approvalId decision reason w := by
  rcases @admit_cases around userId approvalId decision reason w with
    ⟨approval, found, accessible, pending, expired⟩ | ⟨refused, whole⟩ |
      ⟨approval, found, accessible, pending, fresh, eligible, explained, admitted, calm⟩
  · have torn : Torn around userId approvalId decision reason w := ⟨approval, found, accessible, pending, .inl expired⟩
    exact ⟨fun holds => absurd (holds none) (expired_tears found accessible pending expired), fun whole => absurd torn whole⟩
  · exact ⟨fun _ => whole, fun _ left => refused_allOrNothing refused left⟩
  have named := approval?_some found
  rw [decideApproval_eq, allOrNothing_bind admitted calm,
    decided_allOrNothing (by rw [named]; exact found) pending, ← Bool.not_eq_true, consequences_torn]
  refine not_congr ⟨fun torn => ?_, ?_⟩
  · exact ⟨approval, found, accessible, pending, .inr ⟨fresh, eligible, explained, torn⟩⟩
  · rintro ⟨other, there, _, _, stale | ⟨_, _, _, torn⟩⟩
    · simp [some.inj (there.symm.trans found), fresh] at stale
    · exact some.inj (there.symm.trans found) ▸ torn

end Atomic

section Blocked

def permissive : Surroundings where
  env := Workflow.stillEnv
  now := 0
  accessible _ _ := true
  eligible _ _ := true
  namedWorkspace := some none
  projectReadable _ _ := true
  cachedDenial _ _ := false
  draftFault _ := none
  rowFault _ _ := none
  stored _ _ _ := .duplicate
  conflicts _ _ _ := false
  applied entry _ := .ok entry
  promotion _ := none
  blockedHandoff task := task.metadataJson
  claim _ _ := .ok .claimed
  comment _ _ := none
  closes _ := true
  review _ _ := true
  updates _ _ := true
  pullRequest _ _ := none

def toolApproval : BoundApproval :=
  { (default : BoundApproval) with id := "a", approvalType := "tool_use", status := .pending, runId := some "r" }

def waiting : Db where
  approvals := [toolApproval]
  projects _ := none
  tasks _ := none
  runs := [⟨"r", "p", none, "blocked", none⟩]
  memories _ := none
  entries := []
  issueLinks _ := none
  repositories _ := none
  connections _ := none
  workspaces := []
  companies := []
  suggested := []
  syncEvents := []
  runEvents := []
  auditLogs := []

theorem lost_audit_tears :
    ¬ (decideApproval permissive "u" "a" .approved none).AllOrNothing waiting (some 6) := by
  have stopped : ledger "a" ((decideApproval permissive "u" "a" .approved none).run (some 6) ⟨waiting, waiting⟩).held.committed =
      (some .approved, []) := by
    decide +kernel
  have before : ledger "a" waiting = (some .pending, []) := by decide
  have undisturbed : ledger "a" ((decideApproval permissive "u" "a" .approved none).run none ⟨waiting, waiting⟩).held.committed =
      (some .approved, [⟨"orchestration.approval.approved", "u", "a"⟩]) := by
    decide +kernel
  rintro (nothing | ⟨_, everything⟩)
  · simp [nothing, before] at stopped
  · simp [everything, undisturbed] at stopped

end Blocked

end Troop.Decisions
