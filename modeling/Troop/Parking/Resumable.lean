import Troop.Parking.Handlers

namespace Troop.Parking

open Execution (RunStatus RunMode Exn)
open Runs (WorkflowState WorkflowStep)
open List

def parked (status : RunStatus) : Bool := status = .failed ∨ status = .blocked

/-- `resume_run` accepts the run as it is stored. -/
def ParkedResumable (s : Session) : Prop :=
  parked s.storedStatus = true → runIsResumable s.storedStatus s.storedWorkflow = true

theorem runIsResumable_parked {status : RunStatus} (waits : parked status = true) (state : WorkflowState) :
    runIsResumable status state = resumableCurrent state := if_pos (by simpa [parked] using waits)

def Op.working : Op → Bool
  | .enters status => !parked status
  | _ => true

def Op.quiet : Op → Bool
  | .enters _ | .begins _ | .completes _ _ | .stops _ _ _ => false
  | _ => true

section Runs

variable {now : String} {answers : Nat → Answer}

theorem runOps_keeps {P : Session → Prop} {ops : List Op} (n : Nat) {s : Session}
    (kept : ∀ op ∈ ops, ∀ answer s, P s → P (op.run now answer s)) (holds : P s) : P (runOps now answers n ops s).1 := by
  induction ops generalizing n s with
  | nil => exact holds
  | cons op rest ih =>
    have one := kept op mem_cons_self (answers n) s holds
    rw [runOps]
    cases op.raises (answers n) with
    | none => exact ih _ (fun other among => kept other (mem_cons_of_mem _ among)) one
    | some exn => exact one

structure Worked (before after : Session) (commits : Bool) : Prop where
  held : parked after.status = false
  stored : commits = true → parked after.storedStatus = false
  unstored : commits = false → after.storedStatus = before.storedStatus ∧ after.storedWorkflow = before.storedWorkflow

theorem change_stored (answer : Answer) (s : Session) (op : Op) :
    (op.change now answer s).storedStatus = s.storedStatus ∧ (op.change now answer s).storedWorkflow = s.storedWorkflow := by
  cases op <;> exact ⟨rfl, rfl⟩

theorem change_working {answer : Answer} {s : Session} {op : Op} (works : op.working = true) (held : parked s.status = false) :
    parked (op.change now answer s).status = false := by
  cases op with
  | enters status => rwa [Op.working, Bool.not_eq_true'] at works
  | _ => exact held

theorem run_worked {answer : Answer} {s : Session} {op : Op} (works : op.working = true) (held : parked s.status = false) :
    Worked s (op.run now answer s) (op.commits answer) := by
  have changed := @change_working now answer s op works held
  unfold Op.run
  cases commits : op.commits answer with
  | true => exact ⟨changed, fun _ => changed, nofun⟩
  | false => exact ⟨changed, nofun, fun _ => change_stored _ _ _⟩

theorem Worked.trans {before middle after : Session} {first second : Bool} (one : Worked before middle first)
    (two : Worked middle after second) : Worked before after (first || second) := by
  refine ⟨two.held, fun either => ?_, fun neither => ?_⟩
  · cases second with
    | true => exact two.stored rfl
    | false =>
      rw [Bool.or_false] at either
      rw [(two.unstored rfl).1]
      exact one.stored either
  · rw [Bool.or_eq_false_iff] at neither
    have early := one.unstored neither.1
    have late := two.unstored neither.2
    exact ⟨late.1.trans early.1, late.2.trans early.2⟩

theorem runOps_worked {ops : List Op} (n : Nat) {s : Session} (working : ∀ op ∈ ops, op.working = true)
    (held : parked s.status = false) : Worked s (runOps now answers n ops s).1 (committed answers n ops) := by
  induction ops generalizing n s with
  | nil => exact ⟨held, nofun, fun _ => ⟨rfl, rfl⟩⟩
  | cons op rest ih =>
    have one := @run_worked now (answers n) s op (working op mem_cons_self) held
    rw [runOps, committed]
    cases op.raises (answers n) with
    | none => exact one.trans (ih (n + 1) (fun other among => working other (mem_cons_of_mem _ among)) one.held)
    | some exn => rwa [Option.isNone_some, Bool.false_and, Bool.or_false]

theorem committed_of_event {ops : List Op} {n : Nat} (event : Op.event ∈ ops) (passes : stopped answers n ops = none) :
    committed answers n ops = true := by
  induction ops generalizing n with
  | nil => cases event
  | cons op rest ih =>
    rw [stopped, Option.or_eq_none_iff] at passes
    rw [committed, passes.1, Option.isNone_none, Bool.true_and]
    rcases mem_cons.mp event with same | later
    · subst same
      have silent : (answers n).raises = none := passes.1
      rw [Op.commits, silent]
      rfl
    · rw [ih later passes.2, Bool.or_true]

end Runs

section Recovery

variable {now : String} {answers : Nat → Answer}

theorem change_quiet {answer : Answer} {s : Session} {op : Op} (quiet : op.quiet = true) :
    (op.change now answer s).status = s.status ∧
      resumableCurrent (op.change now answer s).workflow = resumableCurrent s.workflow := by
  cases op with
  | enters | begins | completes | stops => cases quiet
  | _ => exact ⟨rfl, rfl⟩

def Held (status : RunStatus) (resumable : Bool) (s : Session) : Prop :=
  s.status = status ∧ resumableCurrent s.workflow = resumable

def Stored (status : RunStatus) (resumable : Bool) (s : Session) : Prop :=
  s.storedStatus = status ∧ resumableCurrent s.storedWorkflow = resumable

theorem run_held {answer : Answer} {s : Session} {op : Op} {status : RunStatus} {resumable : Bool} (quiet : op.quiet = true)
    (held : Held status resumable s) : Held status resumable (op.run now answer s) := by
  have changed := @change_quiet now answer s op quiet
  have kept : Held status resumable (op.change now answer s) := ⟨changed.1.trans held.1, changed.2.trans held.2⟩
  unfold Op.run
  split <;> exact kept

theorem run_stored {answer : Answer} {s : Session} {op : Op} {status : RunStatus} {resumable : Bool} (quiet : op.quiet = true)
    (held : Held status resumable s) :
    Stored status resumable (op.run now answer s) ∨
      (op.run now answer s).storedStatus = s.storedStatus ∧ (op.run now answer s).storedWorkflow = s.storedWorkflow := by
  have after := @run_held now answer _ _ _ _ quiet held
  unfold Op.run at after ⊢
  split
  case isTrue commits =>
    rw [if_pos commits] at after
    exact .inl after
  case isFalse => exact .inr (change_stored _ _ _)

theorem runOps_stored {ops : List Op} (n : Nat) {s : Session} {status : RunStatus} {resumable : Bool}
    (quiet : ∀ op ∈ ops, op.quiet = true) (held : Held status resumable s) :
    Stored status resumable (runOps now answers n ops s).1 ∨
      (runOps now answers n ops s).1.storedStatus = s.storedStatus ∧
        (runOps now answers n ops s).1.storedWorkflow = s.storedWorkflow := by
  have both : Held status resumable (runOps now answers n ops s).1 ∧ (Stored status resumable (runOps now answers n ops s).1 ∨
      (runOps now answers n ops s).1.storedStatus = s.storedStatus ∧
        (runOps now answers n ops s).1.storedWorkflow = s.storedWorkflow) := by
    apply @runOps_keeps now answers (fun after => Held status resumable after ∧ (Stored status resumable after ∨
      after.storedStatus = s.storedStatus ∧ after.storedWorkflow = s.storedWorkflow)) ops n s _ ⟨held, .inr ⟨rfl, rfl⟩⟩
    rintro op among answer after ⟨still, stored⟩
    refine ⟨run_held (quiet op among) still, ?_⟩
    rcases @run_stored now answer _ _ _ _ (quiet op among) still with now_ | ⟨status', workflow'⟩
    · exact .inl now_
    rcases stored with earlier | ⟨first, second⟩
    · left
      unfold Stored
      rwa [status', workflow']
    · exact .inr ⟨status'.trans first, workflow'.trans second⟩
  exact both.2

theorem runOps_commit {ops : List Op} (n : Nat) {s : Session} {status : RunStatus} {resumable : Bool}
    (quiet : ∀ op ∈ ops, op.quiet = true) (commit : Op.commit ∈ ops) (silent : ∀ op ∈ ops, ∀ n, op.raises (answers n) = none)
    (held : Held status resumable s) : Stored status resumable (runOps now answers n ops s).1 := by
  induction ops generalizing n s with
  | nil => cases commit
  | cons op rest ih =>
    have still := @run_held now (answers n) _ _ _ _ (quiet op mem_cons_self) held
    rw [runOps, silent op mem_cons_self n]
    rcases mem_cons.mp commit with same | later
    · subst same
      rcases @runOps_stored now answers rest (n + 1) _ _ _
        (fun other among => quiet other (mem_cons_of_mem _ among)) still with stored | ⟨kept, kept'⟩
      · exact stored
      · exact ⟨kept.trans held.1, (congrArg resumableCurrent kept').trans held.2⟩
    · simp_all

end Recovery

section Handlers

def Each (kind : Op → Bool) (ops : List Op) : Prop := ∀ op ∈ ops, kind op = true

variable {kind : Op → Bool}

@[simp] theorem each_nil : Each kind [] := forall_mem_nil _

@[simp] theorem each_cons (op : Op) (ops : List Op) : Each kind (op :: ops) ↔ kind op = true ∧ Each kind ops := forall_mem_cons

@[simp] theorem each_append (first second : List Op) : Each kind (first ++ second) ↔ Each kind first ∧ Each kind second :=
  forall_mem_append

@[simp] theorem each_ite (condition : Prop) [Decidable condition] (first second : List Op) :
    Each kind (if condition then first else second) ↔ (condition → Each kind first) ∧ (¬ condition → Each kind second) := by
  split <;> rename_i holds <;> simp [holds]

@[simp] theorem each_calls (names : List String) : Each kind (calls names) ↔ ∀ name ∈ names, kind (.call name) = true := by
  unfold Each calls
  rw [forall_mem_map]

@[simp] theorem each_onlyIf (condition : Bool) (ops : List Op) :
    Each kind (onlyIf condition ops) ↔ (condition = true → Each kind ops) := by
  cases condition <;> simp [onlyIf]

@[simp] theorem each_repeated (n : Nat) (ops : List Op) : Each kind (repeated n ops) ↔ n = 0 ∨ Each kind ops := by
  unfold Each repeated
  rw [forall_mem_flatten, forall_mem_replicate]

theorem handler_working (work : Work) : Each Op.working work.handler := by
  cases work with
  | singleAgent o => simp [Work.handler, executeSingleAgentRun, inStep, beginning, completing, Op.working]
  | managerWorker o =>
    simp [Work.handler, executeManagerWorkerRun, resolveBlockers, followReview, inStep, beginning, completing, Op.working]
  | review o => simp [Work.handler, executeReviewRun, inStep, beginning, completing, Op.working]
  | brainstorm o => simp [Work.handler, executeBrainstormRun, Op.working]
  | debate o => simp [Work.handler, executeDebateRun, debateArgument, completing, Op.working]

theorem tryOps_working (o : Occasion) : Each Op.working (tryOps o) := by
  have handled := handler_working o.work
  simp [tryOps, completeOps, handled, Op.working, parked]

theorem startOps_working (o : Occasion) (prior : RunStatus) (signalled : Bool) : Each Op.working (startOps o prior signalled) := by
  simp [startOps, Op.working]

end Handlers

end Troop.Parking
