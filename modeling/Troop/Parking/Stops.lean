import Troop.Parking.Resumable

namespace Troop.Parking

open Execution (RunStatus RunMode Exn)
open Runs (WorkflowState WorkflowStep)
open List

def leftAt (state : WorkflowState) (ops : List Op) : Option String :=
  currentBy (lastMark (stepIds state) ops) state.currentStepId

def parkable (state : WorkflowState) (id : String) : Bool :=
  decide (id ∈ stepIds state) &&
    resumableStep state (if normalizeWorkflowStepId id ∈ stepIds state then normalizeWorkflowStepId id else id)

section Recovery

variable {now : String} {answers : Nat → Answer} {o : Occasion} {s : Session}

theorem statusOf_parked (exn : Exn) : parked (statusOf exn) = true := by cases exn <;> rfl

variable (step : Option WorkflowStep)

theorem parkOps_quiet (exn : Exn) : Each Op.quiet (parkOps o step exn) := by
  cases exn <;> simp [parkOps, Op.quiet]

theorem commit_parkOps (exn : Exn) : Op.commit ∈ parkOps o step exn := by
  cases exn <;> simp [parkOps]

/-- The run behind the mark of the `except` clause. -/
def atMark (now : String) (s : Session) (step : Option WorkflowStep) (exn : Exn) : Session :=
  let entered := { s with status := statusOf exn }
  match step, exn with
  | some found, .blockedExecution reason => (Op.stops found.id true reason).change now ⟨none, false, .null⟩ entered
  | some found, .other detail => (Op.stops found.id false detail).change now ⟨none, false, .null⟩ entered
  | none, _ => entered

theorem runOps_exceptOps (exn : Exn) :
    ∃ n, runOps now answers 0 (exceptOps o step exn) s = runOps now answers n (parkOps o step exn) (atMark now s step exn) := by
  cases step with
  | none => exact ⟨1, rfl⟩
  | some found => cases exn <;> exact ⟨2, rfl⟩

theorem currentStep_eq_none (unnamed : "" ∉ stepIds s.workflow) (none_ : currentStep s.workflow = none) :
    s.workflow.currentStepId.any (parkable s.workflow) = false := by
  cases current : s.workflow.currentStepId with
  | none => rfl
  | some id =>
    have absent : id ∉ stepIds s.workflow := by
      intro known
      have named : id ≠ "" := fun empty => unnamed (empty ▸ known)
      rw [currentStep, current, Option.filter_some_pos (by simpa using named)] at none_
      obtain ⟨step, among, same⟩ := mem_map.mp known
      have missed := find?_eq_none.mp none_ step among
      exact missed (by simpa using same)
    rw [Option.any_some, parkable, decide_eq_false absent, Bool.false_and]

theorem currentStep_eq_some {found : WorkflowStep} (current : currentStep s.workflow = some found) :
    s.workflow.currentStepId = some found.id ∧ found.id ∈ stepIds s.workflow := by
  obtain ⟨id, held, step⟩ := Option.bind_eq_some_iff.mp current
  have same : found.id = id := by simpa using find?_some step
  subst same
  exact ⟨(Option.mem_filter_iff.mp held).1, mem_map.mpr ⟨found, mem_of_find?_eq_some step, rfl⟩⟩

theorem atMark_held (unnamed : "" ∉ stepIds s.workflow) (exn : Exn) :
    Held (statusOf exn) (s.workflow.currentStepId.any (parkable s.workflow)) (atMark now s (currentStep s.workflow) exn) := by
  have marked (blocked : Bool) (error : String) {found : WorkflowStep} (current : currentStep s.workflow = some found) :
      resumableCurrent ((Op.stops found.id blocked error).change now ⟨none, false, .null⟩ { s with status := statusOf exn }).workflow =
        s.workflow.currentStepId.any (parkable s.workflow) := by
    obtain ⟨held, known⟩ := currentStep_eq_some current
    have same := @change_same now ⟨none, false, .null⟩ { s with status := statusOf exn } (.stops found.id blocked error)
    have after : ((Op.stops found.id blocked error).change now ⟨none, false, .null⟩
        { s with status := statusOf exn }).workflow.currentStepId =
        some (if normalizeWorkflowStepId found.id ∈ stepIds s.workflow then normalizeWorkflowStepId found.id else found.id) := by
      rw [change_current]
      change currentBy ((some (normalizeWorkflowStepId found.id, true)).filter (·.1 ∈ stepIds s.workflow)) s.workflow.currentStepId = _
      by_cases renamed : normalizeWorkflowStepId found.id ∈ stepIds s.workflow
      · rw [Option.filter_some_pos (by simpa using renamed), if_pos renamed]
        rfl
      · rw [Option.filter_some_neg (by simpa using renamed), if_neg renamed]
        exact held
    have named : (if normalizeWorkflowStepId found.id ∈ stepIds s.workflow then normalizeWorkflowStepId found.id
        else found.id) ≠ "" := by
      split
      case isTrue renamed => exact fun empty => unnamed (empty ▸ renamed)
      case isFalse => exact fun empty => unnamed (empty ▸ known)
    rw [resumableCurrent_eq, after, held, Option.any_some, parkable, decide_eq_true known, Bool.true_and]
    change (decide (_ ≠ "") && resumableStep _ _) = _
    rw [decide_eq_true named, Bool.true_and, same.resumable]
  cases current : currentStep s.workflow with
  | none =>
    refine ⟨rfl, ?_⟩
    rw [currentStep_eq_none unnamed current]
    change resumableCurrent s.workflow = false
    rw [resumableCurrent, current]
    rfl
  | some found =>
    cases exn with
    | blockedExecution reason => exact ⟨rfl, marked true reason current⟩
    | other detail => exact ⟨rfl, marked false detail current⟩

end Recovery

section Executing

variable (now : String) (o : Occasion) (answers : Nat → Answer) (status : RunStatus) (workflow : WorkflowState)

/-- The operations before the `try` of a run that is loaded so. -/
def startsOf : List Op := startOps o status (decide ((ensureRunWorkflow o.work.mode workflow).signalQueue ≠ []))

/-- Where a claimed run stops in the `try`, a step is open that can be resumed; where it stops earlier with nothing committed, it was
    resumable when it was loaded, if it was parked. -/
structure StopsOpen : Prop where
  before : status.isExecutionClaimable = true → stopped answers 0 (startsOf o status workflow) ≠ none →
    committed answers 0 (startsOf o status workflow) = false → parked status = true → resumableCurrent workflow = true
  within : status.isExecutionClaimable = true → stopped answers 0 (startsOf o status workflow) = none →
    stopped answers (startsOf o status workflow).length (tryOps o) ≠ none →
      (leftAt (begun now o workflow) (carried answers (startsOf o status workflow).length (tryOps o))).any
        (parkable (begun now o workflow)) = true

variable {now o answers status workflow}

theorem claimable_of_parked (waits : parked status = true) : status.isExecutionClaimable = true := by
  cases status <;> first | rfl | cases waits

theorem begun_unnamed : "" ∉ stepIds (begun now o workflow) := by
  have steps : (begun now o workflow).steps = (ensureRunWorkflow o.work.mode workflow).steps := by
    unfold begun WorkflowState.consumeSignalQueue
    split <;> rfl
  have apart (given : List WorkflowStep) : ∀ step ∈ normalizeWorkflowSteps given, step.id ≠ "" := by
    intro step member
    simpa using (mem_filter.mp member).2
  unfold stepIds
  rw [steps]
  intro empty
  obtain ⟨step, member, same⟩ := mem_map.mp empty
  unfold ensureRunWorkflow at member
  dsimp only at member
  split at member <;> exact apart _ step member same

theorem startOps_held (n : Nat) {s : Session} {prior : RunStatus} {signalled : Bool} :
    (runOps now answers n (startOps o prior signalled) s).1.status = s.status ∧
      (runOps now answers n (startOps o prior signalled) s).1.workflow = s.workflow := by
  have outside : Each (fun op => match op with | .call _ | .event => true | _ => false) (startOps o prior signalled) := by
    simp [startOps]
  apply @runOps_keeps now answers (fun after => after.status = s.status ∧ after.workflow = s.workflow) _ n s _ ⟨rfl, rfl⟩
  intro op among answer after held
  have kind := outside op among
  have same : op.change now answer after = after := by
    cases op with
    | call | event => rfl
    | _ => cases kind
  unfold Op.run
  rw [same]
  split <;> exact held

theorem quiet_answers (step : Option WorkflowStep) (exn : Exn) :
    ∀ op ∈ parkOps o step exn, ∀ n, op.raises ((fun _ => ⟨none, false, .null⟩ : Nat → Answer) n) = none := by
  have each : Each (fun op => match op with | .refuse _ => false | _ => true) (parkOps o step exn) := by
    cases exn <;> simp [parkOps]
  intro op among n
  have kind := each op among
  cases op with
  | refuse => cases kind
  | _ => rfl

theorem recovered {s : Session} (unnamed : "" ∉ stepIds s.workflow) (exn : Exn) :
    (∀ recovery, Stored (statusOf exn) (s.workflow.currentStepId.any (parkable s.workflow))
        (runOps now recovery 0 (exceptOps o (currentStep s.workflow) exn) s).1 ∨
      (runOps now recovery 0 (exceptOps o (currentStep s.workflow) exn) s).1.storedStatus = s.storedStatus) ∧
    ∃ recovery, Stored (statusOf exn) (s.workflow.currentStepId.any (parkable s.workflow))
      (runOps now recovery 0 (exceptOps o (currentStep s.workflow) exn) s).1 := by
  have held := @atMark_held now s unnamed exn
  have before : (atMark now s (currentStep s.workflow) exn).storedStatus = s.storedStatus := by
    cases currentStep s.workflow with
    | none => rfl
    | some found => cases exn <;> rfl
  constructor
  · intro recovery
    obtain ⟨n, same⟩ := @runOps_exceptOps now recovery o s (currentStep s.workflow) exn
    rw [same]
    rcases @runOps_stored now recovery _ n _ _ _ (parkOps_quiet _ exn) held with stored | ⟨kept, _⟩
    · exact .inl stored
    · exact .inr (kept.trans before)
  · refine ⟨fun _ => ⟨none, false, .null⟩, ?_⟩
    obtain ⟨n, same⟩ := @runOps_exceptOps now (fun _ => ⟨none, false, .null⟩) o s (currentStep s.workflow) exn
    rw [same]
    exact runOps_commit n (parkOps_quiet _ exn) (commit_parkOps _ exn) (quiet_answers _ exn) held

theorem Stored.resumable_iff {s : Session} {state : RunStatus} {resumable : Bool} (stored : Stored state resumable s)
    (waits : parked state = true) : ParkedResumable s ↔ resumable = true := by
  unfold ParkedResumable
  rw [stored.1, runIsResumable_parked waits, stored.2]
  exact ⟨fun holds => holds waits, fun holds _ => holds⟩

/-- The run when the `try` is entered, and when it is left. -/
def entered (now : String) (o : Occasion) (answers : Nat → Answer) (status : RunStatus) (workflow : WorkflowState) : Session :=
  (runOps now answers 0 (startsOf o status workflow)
    { Session.loaded status workflow with status := .inProgress, workflow := begun now o workflow }).1

def left (now : String) (o : Occasion) (answers : Nat → Answer) (status : RunStatus) (workflow : WorkflowState) : Session :=
  (runOps now answers (startsOf o status workflow).length (tryOps o) (entered now o answers status workflow)).1

theorem executeRun_claimed (claimed : status.isExecutionClaimable = true) (recovery : Nat → Answer) :
    executeRun now o answers recovery status workflow =
      match stopped answers 0 (startsOf o status workflow), stopped answers (startsOf o status workflow).length (tryOps o) with
      | some _, _ => entered now o answers status workflow
      | none, none => left now o answers status workflow
      | none, some exn => (runOps now recovery 0 (exceptOps o (currentStep (left now o answers status workflow).workflow) exn)
        (left now o answers status workflow)).1 := by
  have first := @runOps_stopped now answers 0 (startsOf o status workflow)
    { Session.loaded status workflow with status := .inProgress, workflow := begun now o workflow }
  have second := @runOps_stopped now answers (startsOf o status workflow).length (tryOps o) (entered now o answers status workflow)
  rw [← first, ← second]
  unfold executeRun left entered
  rw [if_pos claimed]
  have starts : startOps o status (decide ((ensureRunWorkflow o.work.mode workflow).signalQueue ≠ [])) =
      startsOf o status workflow := rfl
  dsimp only
  rw [starts]
  cases runOps now answers 0 (startsOf o status workflow)
    { Session.loaded status workflow with status := .inProgress, workflow := begun now o workflow } with
  | mk s raised =>
    cases raised with
    | some exn => rfl
    | none =>
      dsimp only
      cases runOps now answers (startsOf o status workflow).length (tryOps o) s with
      | mk after raised => cases raised <;> rfl

theorem entered_worked : Worked { Session.loaded status workflow with status := .inProgress, workflow := begun now o workflow }
    (entered now o answers status workflow) (committed answers 0 (startsOf o status workflow)) :=
  runOps_worked 0 (startOps_working o status _) rfl

theorem entered_workflow : (entered now o answers status workflow).workflow = begun now o workflow :=
  (startOps_held 0).2

theorem left_working (passes : stopped answers 0 (startsOf o status workflow) = none) :
    parked (left now o answers status workflow).storedStatus = false := by
  have event : Op.event ∈ startsOf o status workflow := by simp [startsOf, startOps]
  have started := @entered_worked now o answers status workflow
  have stored := started.stored (committed_of_event event passes)
  have worked := @runOps_worked now answers (tryOps o) (startsOf o status workflow).length _ (tryOps_working o) started.held
  cases commits : committed answers (startsOf o status workflow).length (tryOps o) with
  | true => exact worked.stored commits
  | false =>
    have same := (worked.unstored commits).1
    change parked (runOps now answers _ (tryOps o) (entered now o answers status workflow)).1.storedStatus = false
    rwa [same]

theorem left_open :
    (left now o answers status workflow).workflow.currentStepId.any (parkable (left now o answers status workflow).workflow) =
      (leftAt (begun now o workflow) (carried answers (startsOf o status workflow).length (tryOps o))).any
        (parkable (begun now o workflow)) := by
  have same := @runOps_same now answers (startsOf o status workflow).length (tryOps o) (entered now o answers status workflow)
  have current := @runOps_current now answers (startsOf o status workflow).length (tryOps o) (entered now o answers status workflow)
  rw [entered_workflow] at same current
  have judged : parkable (left now o answers status workflow).workflow = parkable (begun now o workflow) := by
    funext id
    unfold parkable left
    rw [same.ids, same.resumable]
  rw [judged]
  unfold left leftAt
  rw [current]

/-- Whatever the calls of the `except` clauses do, a run that is left parked can be resumed exactly when it stops with a step open. -/
theorem parked_resumable_iff (now : String) (o : Occasion) (answers : Nat → Answer) (status : RunStatus) (workflow : WorkflowState) :
    (∀ recovery, ParkedResumable (executeRun now o answers recovery status workflow)) ↔
      StopsOpen now o answers status workflow := by
  cases claimed : status.isExecutionClaimable with
  | false =>
    have idle : parked status = false := by
      cases waits : parked status with
      | false => rfl
      | true => rw [claimable_of_parked waits] at claimed; cases claimed
    constructor
    · intro _
      constructor <;> simp [claimed]
    · intro _ recovery waits
      unfold executeRun at waits
      rw [claimed] at waits
      change parked status = true at waits
      simp [idle] at waits
  | true =>
    have ran := @executeRun_claimed now o answers status workflow claimed
    cases first : stopped answers 0 (startsOf o status workflow) with
    | some raised =>
      -- nothing of the run is written, or it is committed as at work
      have worked := @entered_worked now o answers status workflow
      have idle : ∀ recovery, executeRun now o answers recovery status workflow = entered now o answers status workflow := by
        simp_all
      have same : (∀ recovery, ParkedResumable (executeRun now o answers recovery status workflow)) ↔
          ParkedResumable (entered now o answers status workflow) :=
        ⟨fun each => idle (fun _ => ⟨none, false, .null⟩) ▸ each _, fun holds recovery => (idle recovery).symm ▸ holds⟩
      rw [same]
      constructor
      · intro resumable
        refine ⟨fun _ _ uncommitted waits => ?_, fun _ passes => ?_⟩
        · obtain ⟨state, flow⟩ := worked.unstored uncommitted
          unfold ParkedResumable at resumable
          rw [state, flow] at resumable
          exact (runIsResumable_parked waits workflow) ▸ resumable waits
        · simp [first] at passes
      · intro stops waits
        cases commits : committed answers 0 (startsOf o status workflow) with
        | true => simp [worked.stored commits] at waits
        | false =>
          obtain ⟨state, flow⟩ := worked.unstored commits
          rw [state] at waits
          change parked status = true at waits
          rw [state, flow]
          change runIsResumable status workflow = true
          rw [runIsResumable_parked waits]
          exact stops.before claimed (by rw [first]; exact Option.some_ne_none _) commits waits
    | none =>
      have working := @left_working now o answers status workflow first
      have opened := @left_open now o answers status workflow
      cases second : stopped answers (startsOf o status workflow).length (tryOps o) with
      | none =>
        constructor
        · intro _
          refine ⟨fun _ raises => absurd first raises, fun _ _ raises => absurd second raises⟩
        · intro _ recovery waits
          rw [ran, first, second] at waits
          simp [working] at waits
      | some exn =>
        have unnamed : "" ∉ stepIds (left now o answers status workflow).workflow := by
          have same := @runOps_same now answers (startsOf o status workflow).length (tryOps o) (entered now o answers status workflow)
          unfold left
          rw [same.ids, entered_workflow]
          exact begun_unnamed
        obtain ⟨each, recovery, stored⟩ := @recovered now o _ unnamed exn
        constructor
        · intro resumable
          refine ⟨fun _ raises => absurd first raises, fun _ _ _ => ?_⟩
          have ended := resumable recovery
          rw [ran, first, second] at ended
          rw [← opened]
          exact (stored.resumable_iff (statusOf_parked exn)).mp ended
        · intro stops recovery'
          have open_ := stops.within claimed first (by rw [second]; exact Option.some_ne_none _)
          rw [← opened] at open_
          rw [ran, first, second]
          rcases each recovery' with stored' | kept
          · exact (stored'.resumable_iff (statusOf_parked exn)).mpr open_
          · intro waits
            simp [kept, working] at waits

def freshWorkflow : WorkflowState :=
  { status := "pending", steps := [], currentStepId := none, lastCompletedStepId := none, lastFailure := none, recoveryCount := 0
    signalQueue := [], signalHistory := [], querySnapshot := [], artifacts := [], updatedAt := "" }

def firstOccasion : Occasion where
  work := .singleAgent ⟨false, false, false, 0, 0, 0⟩
  hasTask := false
  queued := false
  waiting := false
  closes := false
  blocked := false
  data := []

def failsAt (index : Nat) (exn : Exn) (n : Nat) : Answer := ⟨if n = index then some exn else none, false, .null⟩

/-- The provider of the run cannot be resolved, or its output fails the schema after the last step: the run is stored as failed or
    blocked, and `resume_run` refuses it. -/
theorem parked_between_steps :
    ¬ ParkedResumable (executeRun "now" firstOccasion (failsAt 9 (.other "No provider")) (failsAt 99 (.other "")) .queued freshWorkflow) ∧
    ¬ ParkedResumable (executeRun "now" firstOccasion (failsAt 44 (.blockedExecution "Output validation failed"))
      (failsAt 99 (.other "")) .queued freshWorkflow) := by
  constructor
  · intro resumable
    exact absurd (resumable (by decide)) (by decide)
  · intro resumable
    exact absurd (resumable (by decide)) (by decide)

end Executing

end Troop.Parking
