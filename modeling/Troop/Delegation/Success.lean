import Troop.Delegation.Outcomes

namespace Troop.Delegation

open Execution (Exn)
open List

variable {env : Surroundings} {saved planned routed worked : Checkpoint} {started : List SubTask}

theorem planPhase_ok (ran : planPhase env saved = .ok planned) :
    planned.routedSubTasks = saved.routedSubTasks ∧ planned.branchResults = saved.branchResults := by
  unfold planPhase at ran
  cases known : saved.plan with
  | some plan => simp_all
  | none =>
    rw [known] at ran
    cases made : env.plan with
    | error exn =>
      rw [made] at ran
      cases ran
    | ok plan =>
      rw [made] at ran
      have same : { saved with plan } = planned := Except.ok.inj ran
      subst same
      exact ⟨rfl, rfl⟩

theorem routeFrom_ok {index : Nat} {items tasks : List SubTask} (ran : routeFrom env index items = .ok tasks) :
    tasks.map SubTask.branchId = items.map SubTask.branchId := by
  induction items generalizing index tasks with
  | nil =>
    cases ran
    rfl
  | cons item rest ih =>
    unfold routeFrom at ran
    cases chosen : env.chooses index item with
    | error exn =>
      rw [chosen] at ran
      cases ran
    | ok agent =>
      rw [chosen] at ran
      cases others : routeFrom env (index + 1) rest with
      | error exn => simp_all [Except.bind, Except.map]
      | ok routed =>
        simp only [Except.bind, others, Except.map] at ran
        have same := Except.ok.inj ran
        subst same
        rw [map_cons, map_cons, ih others]

theorem subTasksOf_some (plan : Option (List PlanItem)) : normalizeSubtaskGraph (subTasksOf env plan) ≠ [] := by
  have some_ : subTasksOf env plan ≠ [] := by
    unfold subTasksOf
    split <;> exact cons_ne_nil _ _
  intro empty
  have length := congrArg length empty
  rw [normalizeSubtaskGraph, length_mapIdx] at length
  exact some_ (length_eq_zero_iff.mp length)

def branchesOf (env : Surroundings) (planned : Checkpoint) : List String :=
  if planned.routedSubTasks = [] then (normalizeSubtaskGraph (subTasksOf env planned.plan)).map SubTask.branchId
  else planned.routedSubTasks.map SubTask.branchId

theorem routePhase_ok (ran : routePhase env planned = .ok routed) :
    routed.branchResults = planned.branchResults ∧ routed.routedSubTasks ≠ [] ∧
      routed.routedSubTasks.map SubTask.branchId = branchesOf env planned ∧
      (planned.routedSubTasks ≠ [] → routed = planned) := by
  unfold routePhase at ran
  unfold branchesOf
  by_cases fresh : planned.routedSubTasks = []
  · rw [if_pos fresh] at ran ⊢
    cases made : routeFrom env 0 (normalizeSubtaskGraph (subTasksOf env planned.plan)) with
    | error exn =>
      rw [made] at ran
      cases ran
    | ok tasks =>
      rw [made] at ran
      have same : { planned with routedSubTasks := tasks } = routed := Except.ok.inj ran
      subst same
      have ids := routeFrom_ok made
      refine ⟨rfl, fun empty => ?_, ids, fun other => absurd fresh other⟩
      have none_ : tasks = [] := empty
      rw [none_, map_nil] at ids
      exact subTasksOf_some planned.plan (map_eq_nil_iff.mp ids.symm)
  · simp_all

theorem workPhase_ok (ran : workPhase env routed = (.ok worked, started)) :
    worked.routedSubTasks = routed.routedSubTasks ∧
      (∀ results, routed.branchResults = some results → worked.branchResults = some results) ∧
      (routed.branchResults = none → ∃ results, worked.branchResults = some results ∧ Traced env results ∧
        (serials (results.map BranchResult.task)).Perm (serials (latest routed.routedSubTasks))) := by
  unfold workPhase at ran
  cases known : routed.branchResults with
  | some results => simp_all
  | none =>
    rw [known, pendingById_eq] at ran
    dsimp only at ran
    cases looped : runRounds env (tagged (latest routed.routedSubTasks)).length ⟨[], []⟩
        (tagged (latest routed.routedSubTasks)) with
    | mk outcome reached =>
      rw [looped] at ran
      cases outcome with
      | error exn => cases ran
      | ok done =>
        cases ran
        have start : Progress.Faithful env ⟨[], []⟩ := ⟨rfl, fun index result found => by cases found⟩
        have enough : (latest routed.routedSubTasks).length ≤ (tagged (latest routed.routedSubTasks)).length :=
          (tagged_length _).ge
        obtain ⟨added, results, traced, same⟩ := runRounds_ok (latest_distinct _) enough start looped
        refine ⟨rfl, fun other same => (by cases same), fun _ => ⟨reached.results, rfl, traced, ?_⟩⟩
        rwa [results]

structure Formed (saved : Checkpoint) : Prop where
  routed : ∀ results, saved.branchResults = some results → saved.routedSubTasks ≠ []
  answers : ∀ results, saved.branchResults = some results →
    (serials (results.map BranchResult.task)).Perm (serials (latest saved.routedSubTasks))

theorem Formed.plans (formed : Formed saved) (ran : planPhase env saved = .ok planned) : Formed planned := by
  obtain ⟨tasks, results⟩ := planPhase_ok ran
  refine ⟨?_, ?_⟩
  · rw [tasks, results]
    exact formed.routed
  · rw [tasks, results]
    exact formed.answers

theorem Formed.routes (formed : Formed planned) (ran : routePhase env planned = .ok routed) : Formed routed := by
  obtain ⟨results, some_, -, kept⟩ := routePhase_ok ran
  refine ⟨fun _ _ => some_, fun other same => ?_⟩
  rw [results] at same
  rw [kept (formed.routed other same)]
  exact formed.answers other same

theorem Formed.works (formed : Formed routed) (some_ : routed.routedSubTasks ≠ [])
    (ran : workPhase env routed = (.ok worked, started)) : Formed worked := by
  obtain ⟨tasks, known, fresh⟩ := workPhase_ok ran
  refine ⟨fun _ _ => tasks ▸ some_, fun results same => ?_⟩
  rw [tasks]
  cases before : routed.branchResults with
  | some other =>
    cases (known other before).symm.trans same
    exact formed.answers results before
  | none => simp_all

theorem Reached.formed (reached : Reached saved) : Formed saved := by
  induction reached with
  | new => exact ⟨fun _ same => (by cases same), fun _ same => (by cases same)⟩
  | planned env reached first ih => exact ih.plans first
  | routed env reached first second ih => exact (ih.plans first).routes second
  | worked env reached first second third ih =>
    exact ((ih.plans first).routes second).works (routePhase_ok second).2.1 third

def Succeeded (saved : Checkpoint) : Prop :=
  ∃ results, saved.branchResults = some results ∧
    (serials (results.map BranchResult.task)).Perm (serials saved.routedSubTasks) ∧
    ∀ result ∈ results, result.status = .completed

/-- No branch failed or will fail: none of the saved results, or none of the answers that the workers give. -/
def NoFailure (env : Surroundings) (planned : Checkpoint) : Prop :=
  match planned.branchResults with
  | some results => ∀ result ∈ results, result.status ≠ .failed
  | none => ∀ index < (branchesOf env planned).length, ∀ payload, env.outputs index = .ok payload →
      contractStatus payload ≠ .failed

theorem finishPhase_approved {results : List BranchResult} (approved : finishPhase env results = .approved) :
    ∀ result ∈ results, result.status ≠ .blocked := by
  unfold finishPhase at approved
  dsimp only at approved
  split at approved
  · cases told : env.escalation (results.filter fun result => result.status = .blocked) with
    | _ =>
      rw [told] at approved
      cases approved
  · simp_all

theorem distinct_of_latest {items : List SubTask} (same : (serials (latest items)).Perm (serials items)) :
    (items.map SubTask.branchId).Nodup := by
  have ids := same.map SubTask.branchId
  rw [serials_ids, serials_ids] at ids
  exact ids.nodup_iff.mp (latest_distinct items)

theorem completed_of {status : BranchStatus} (unblocked : status ≠ .blocked) (passed : status ≠ .failed) :
    status = .completed := by
  cases status with
  | completed => rfl
  | blocked => exact absurd rfl unblocked
  | failed => exact absurd rfl passed

theorem executeManagerWorkerRun_ended (calm : ∀ exn, (executeManagerWorkerRun env saved).finish ≠ .raised exn) :
    ∃ planned routed worked started, planPhase env saved = .ok planned ∧ routePhase env planned = .ok routed ∧
      workPhase env routed = (.ok worked, started) ∧ (executeManagerWorkerRun env saved).saved = worked ∧
      (executeManagerWorkerRun env saved).finish = finishPhase env (worked.branchResults.getD []) := by
  unfold executeManagerWorkerRun at calm ⊢
  cases ready : env.ready with
  | error exn =>
    rw [ready] at calm
    exact absurd rfl (calm exn)
  | ok done =>
    rw [ready] at calm
    simp only [Except.bind] at calm ⊢
    cases first : planPhase env saved with
    | error exn => simp_all
    | ok planned =>
      rw [first] at calm
      dsimp only at calm ⊢
      cases second : routePhase env planned with
      | error exn => simp_all
      | ok routed =>
        rw [second] at calm
        dsimp only at calm ⊢
        cases third : workPhase env routed with
        | mk outcome started =>
          rw [third] at calm
          cases outcome with
          | error exn => exact absurd rfl (calm exn)
          | ok worked => exact ⟨planned, routed, worked, started, rfl, second, third, rfl, rfl⟩

def withPlan (env : Surroundings) (saved : Checkpoint) : Checkpoint := (planPhase env saved).toOption.getD saved

def itemOf (id : String) : PlanItem :=
  { branchId := some id, id := none, title := some id, dependencyIds := [], dependencyIndexes := [], parallelizable := false }

def willing (plan : List PlanItem) (status : String) : Surroundings where
  ready := .ok ()
  plan := .ok (some plan)
  primary := itemOf "primary"
  chooses _ _ := .ok (some "worker")
  loads _ := true
  maxParallelBranches := 999
  outputs _ := .ok [("status", .str status)]
  escalation _ := .ok ()
  synthesis _ := .ok ()
  review _ := .ok ("approved", [])
  publishing := .ok ()

end Troop.Delegation
