import Troop.Delegation.Success

namespace Troop.Delegation

open Execution (Exn)

variable {env first second : Surroundings} {saved : Checkpoint}

/-- `resume_run`, as far as the artifacts go: it counts the resumption and queues child runs again, whose rows no execution
    reads. -/
def resumeRun (saved : Checkpoint) : Checkpoint := saved

def due (ended : Ended) : List String :=
  match ended.finish with
  | .blocked branches => branches.map fun result => result.task.branchId
  | .rework scope =>
    (ended.saved.routedSubTasks.filter fun item => scope = [] ∨ item.title ∈ scope).map SubTask.branchId
  | _ => []

/-- The next execution begins the branches that are due, and no completed branch besides. -/
structure Reexecutes (ended next : Ended) : Prop where
  again : ∀ id ∈ due ended, id ∈ next.started.map SubTask.branchId
  once : ∀ result ∈ ended.saved.branchResults.getD [], result.status = .completed → result.task.branchId ∉ due ended →
    result.task.branchId ∉ next.started.map SubTask.branchId

def LeftBlocked (ended : Ended) : Prop := (∃ branches, ended.finish = .blocked branches) ∨ ∃ scope, ended.finish = .rework scope

theorem saved_results_begin_nothing {results : List BranchResult} (stored : saved.branchResults = some results) :
    (executeManagerWorkerRun env saved).started = [] := by
  unfold executeManagerWorkerRun
  cases ready : env.ready.bind fun _ => planPhase env saved with
  | error exn => rfl
  | ok planned =>
    dsimp only
    have planned_ : planPhase env saved = .ok planned := by
      cases begun : env.ready with
      | error exn =>
        rw [begun] at ready
        cases ready
      | ok done => rwa [begun] at ready
    cases second : routePhase env planned with
    | error exn => rfl
    | ok routed =>
      have known : routed.branchResults = some results := by
        rwa [(routePhase_ok second).1, (planPhase_ok planned_).2]
      have worked : workPhase env routed = (.ok routed, []) := by
        unfold workPhase
        rw [known]
      simp_all

theorem finishPhase_blocked {results branches : List BranchResult} (blocked : finishPhase env results = .blocked branches) :
    branches ≠ [] := by
  unfold finishPhase at blocked
  dsimp only at blocked
  split at blocked
  · cases told : env.escalation (results.filter fun result => result.status = .blocked) with
    | error exn =>
      rw [told] at blocked
      cases blocked
    | ok done =>
      rw [told] at blocked
      have same : results.filter (fun result => result.status = .blocked) = branches := Finish.blocked.inj blocked
      rwa [← same]
  · cases synthesised : env.synthesis results with
    | error exn =>
      rw [synthesised] at blocked
      cases blocked
    | ok done =>
      rw [synthesised] at blocked
      cases reviewed : env.review results with
      | error exn =>
        rw [reviewed] at blocked
        cases blocked
      | ok review =>
        rw [reviewed] at blocked
        simp only [raisedOr] at blocked
        split at blocked
        · cases published : env.publishing with
          | _ => simp [published] at blocked
        · cases blocked

theorem LeftBlocked.calm {ended : Ended} (left : LeftBlocked ended) (exn : Exn) : ended.finish ≠ .raised exn := by
  intro raised
  rcases left with ⟨branches, finish⟩ | ⟨scope, finish⟩ <;> cases raised.symm.trans finish

theorem due_empty_iff (left : LeftBlocked (executeManagerWorkerRun first saved)) :
    due (executeManagerWorkerRun first saved) = [] ↔
      ∃ scope, (executeManagerWorkerRun first saved).finish = .rework scope ∧ scope ≠ [] ∧
        ∀ item ∈ (executeManagerWorkerRun first saved).saved.routedSubTasks, item.title ∉ scope := by
  obtain ⟨planned, routed, worked, started, -, routes, works, same, ended⟩ := executeManagerWorkerRun_ended left.calm
  rcases left with ⟨branches, finish⟩ | ⟨scope, finish⟩
  · have some_ : branches ≠ [] := finishPhase_blocked (ended.symm.trans finish)
    constructor
    · intro none_
      rw [due, finish] at none_
      exact absurd (List.map_eq_nil_iff.mp none_) some_
    · grind
  · have some_ : (executeManagerWorkerRun first saved).saved.routedSubTasks ≠ [] := by
      rw [same, (workPhase_ok works).1]
      exact (routePhase_ok routes).2.1
    rw [due, finish]
    rw [List.map_eq_nil_iff, List.filter_eq_nil_iff]
    constructor
    · intro outside
      refine ⟨scope, rfl, ?_, ?_⟩
      · intro whole
        obtain ⟨item, member⟩ := List.exists_mem_of_ne_nil _ some_
        exact outside item member (by simp [whole])
      · simp_all
    · grind

/-- A run left blocked is taken up as the claim has it exactly where nothing is due: the results of its branches are saved,
    and with them no further execution begins a branch. -/
theorem resumed_executes_due_iff (left : LeftBlocked (executeManagerWorkerRun first saved)) :
    Reexecutes (executeManagerWorkerRun first saved)
        (executeManagerWorkerRun second (resumeRun (executeManagerWorkerRun first saved).saved)) ↔
      ∃ scope, (executeManagerWorkerRun first saved).finish = .rework scope ∧ scope ≠ [] ∧
        ∀ item ∈ (executeManagerWorkerRun first saved).saved.routedSubTasks, item.title ∉ scope := by
  obtain ⟨planned, routed, worked, started, -, routes, works, same, -⟩ := executeManagerWorkerRun_ended left.calm
  obtain ⟨results, stored⟩ : ∃ results, worked.branchResults = some results := by
    obtain ⟨-, known, fresh⟩ := workPhase_ok works
    cases before : routed.branchResults with
    | some results => exact ⟨results, known results before⟩
    | none => grind
  have nothing : (executeManagerWorkerRun second (resumeRun (executeManagerWorkerRun first saved).saved)).started = [] := by
    rw [resumeRun, same]
    exact saved_results_begin_nothing stored
  rw [← due_empty_iff left]
  constructor
  · rintro ⟨again, -⟩
    rw [nothing] at again
    exact List.eq_nil_iff_forall_not_mem.mpr fun id member => absurd (again id member) (by simp)
  · intro none_
    refine ⟨?_, ?_⟩ <;> simp_all

def demanding (plan : List PlanItem) (scope : List String) : Surroundings :=
  { willing plan "completed" with review := fun _ => .ok ("rework", scope) }

theorem rework_elsewhere_resumes :
    Reexecutes (executeManagerWorkerRun (demanding [itemOf "a"] ["elsewhere"]) .new)
      (executeManagerWorkerRun (willing [itemOf "a"] "completed")
        (resumeRun (executeManagerWorkerRun (demanding [itemOf "a"] ["elsewhere"]) .new).saved)) := by
  have finish : (executeManagerWorkerRun (demanding [itemOf "a"] ["elsewhere"]) .new).finish = .rework ["elsewhere"] := by
    decide +kernel
  apply (resumed_executes_due_iff (.inr ⟨_, finish⟩)).mpr
  refine ⟨["elsewhere"], finish, by decide, ?_⟩
  decide +kernel

theorem blocked_branch_not_resumed :
    (LeftBlocked (executeManagerWorkerRun (willing [itemOf "a"] "blocked") .new) ∧
      ¬ Reexecutes (executeManagerWorkerRun (willing [itemOf "a"] "blocked") .new)
        (executeManagerWorkerRun (willing [itemOf "a"] "completed")
          (resumeRun (executeManagerWorkerRun (willing [itemOf "a"] "blocked") .new).saved))) ∧
    LeftBlocked (executeManagerWorkerRun (demanding [itemOf "a"] ["a"]) .new) ∧
      ¬ Reexecutes (executeManagerWorkerRun (demanding [itemOf "a"] ["a"]) .new)
        (executeManagerWorkerRun (willing [itemOf "a"] "completed")
          (resumeRun (executeManagerWorkerRun (demanding [itemOf "a"] ["a"]) .new).saved)) := by
  refine ⟨⟨.inl ⟨_, rfl⟩, ?_⟩, .inr ⟨["a"], by decide +kernel⟩, ?_⟩
  · rintro ⟨again, -⟩
    have member := again "a" (by decide +kernel)
    revert member
    decide +kernel
  · rintro ⟨again, -⟩
    have member := again "a" (by decide +kernel)
    revert member
    decide +kernel

end Troop.Delegation
