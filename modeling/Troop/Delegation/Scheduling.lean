import Troop.Delegation.Success

namespace Troop.Delegation

open Execution (Exn)
open List

variable {env : Surroundings}

/-- The `while` loop over the branches of the routed sub-tasks. -/
def schedule (env : Surroundings) (routed : List SubTask) : Except Exn Unit × Progress :=
  runRounds env (pendingById routed).length ⟨[], []⟩ (pendingById routed)

def Waited (results : List BranchResult) : Prop :=
  ∀ index result, results[index]? = some result →
    ∀ id ∈ result.task.dependencyIds, id ∈ completedIds (results.take index)

structure Scheduled (routed : List SubTask) (reached : Progress) (done : List BranchResult) (left : List SubTask) : Prop where
  results : reached.results = done ++ left.map unreachable
  begun : done.map BranchResult.task = reached.started
  /-- but for the mark that they run in parallel, which an overflow takes from them -/
  each : (serials (reached.started ++ left)).Perm (serials routed)
  waited : Waited done
  unmet : ∀ item ∈ left, ∃ id ∈ item.dependencyIds, id ∉ completedIds done

/-- The loop ends, and each routed sub-task is executed once and after its dependencies, or reported once as blocked. -/
def SchedulesEach (env : Surroundings) (routed : List SubTask) : Prop :=
  (∃ enough, ∀ rounds, enough ≤ rounds →
    runRounds env rounds ⟨[], []⟩ (pendingById routed) = schedule env routed) ∧
  ∃ done left, Scheduled routed (schedule env routed).2 done left

section Rounds

variable {progress : Progress} {items : List SubTask}

theorem readyTasks_tagged (results : List BranchResult) (items : List SubTask) : readyTasks results (tagged items) =
    items.filter fun item => item.dependencyIds.all fun id => id ∈ completedIds results := by
  rw [readyTasks, tagged_values]

theorem pending_decreases {ready : List SubTask} (some_ : ready ≠ []) (among : ∀ item ∈ ready, item ∈ items) :
    (items.filter fun item => item.branchId ∉ ready.map SubTask.branchId).length < items.length := by
  obtain ⟨item, member⟩ := exists_mem_of_ne_nil _ some_
  apply length_filter_lt_length_iff_exists.mpr
  refine ⟨item, among item member, ?_⟩
  have taken : item.branchId ∈ ready.map SubTask.branchId := mem_map_of_mem member
  simpa using taken

theorem runRounds_enough : ∀ (m n : Nat) (progress : Progress) (items : List SubTask), items.length ≤ m → items.length ≤ n →
    runRounds env m progress (tagged items) = runRounds env n progress (tagged items) := by
  intro m
  induction m with
  | zero =>
    intro n progress items first _
    have none_ : items = [] := length_eq_zero_iff.mp (Nat.le_zero.mp first)
    subst none_
    cases n <;> rfl
  | succ m ih =>
    intro n progress items first second
    cases n with
    | zero => grind
    | succ n =>
      unfold runRounds
      by_cases empty : tagged items = []
      · rw [if_pos empty, if_pos empty]
      rw [if_neg empty, if_neg empty]
      dsimp only
      rw [readyTasks_tagged]
      split
      · rfl
      rename_i some_
      have fewer := pending_decreases some_ fun item member => mem_of_mem_filter member
      cases runBranches env progress (ordered env (items.filter fun item =>
          item.dependencyIds.all fun id => id ∈ completedIds progress.results)) with
      | mk outcome reached =>
        cases outcome with
        | error exn => rfl
        | ok done =>
          rw [tagged_filter]
          exact ih n reached _ (by omega) (by omega)

theorem completedIds_append (first second : List BranchResult) :
    completedIds (first ++ second) = completedIds first ++ completedIds second := by
  simp [completedIds]

theorem Waited.append {results more : List BranchResult} (waited : Waited results)
    (met : ∀ result ∈ more, ∀ id ∈ result.task.dependencyIds, id ∈ completedIds results) : Waited (results ++ more) := by
  intro index result found id needed
  by_cases inside : index < results.length
  · rw [getElem?_append_left inside] at found
    rw [take_append_of_le_length (Nat.le_of_lt inside)]
    exact waited index result found id needed
  · have beyond : results.length ≤ index := Nat.le_of_not_lt inside
    rw [getElem?_append_right beyond] at found
    rw [take_append, take_of_length_le beyond, completedIds_append]
    exact mem_append_left _ (met result (mem_of_getElem? found) id needed)

theorem ordered_met {ready : List SubTask} {item : SubTask} (member : item ∈ ordered env ready) :
    ∃ known ∈ ready, known.dependencyIds = item.dependencyIds := by
  have listed : item.sequential ∈ serials (ordered env ready) := mem_map_of_mem member
  obtain ⟨known, there, same⟩ := mem_map.mp ((ordered_perm ready).mem_iff.mp listed)
  have waits : known.sequential.dependencyIds = item.sequential.dependencyIds := congrArg SubTask.dependencyIds same
  exact ⟨known, there, waits⟩

theorem runRounds_schedules {rounds : Nat} {progress reached : Progress} {items : List SubTask}
    (distinct : (items.map SubTask.branchId).Nodup) (enough : items.length ≤ rounds) (faithful : progress.Faithful env)
    (waited : Waited progress.results) (ran : runRounds env rounds progress (tagged items) = (.ok (), reached)) :
    ∃ added left, reached.results = progress.results ++ added ++ left.map unreachable ∧
      reached.started = progress.started ++ added.map BranchResult.task ∧
      (serials (added.map BranchResult.task ++ left)).Perm (serials items) ∧ Waited (progress.results ++ added) ∧
      ∀ item ∈ left, ∃ id ∈ item.dependencyIds, id ∉ completedIds (progress.results ++ added) := by
  induction rounds generalizing progress items with
  | zero =>
    have none_ : items = [] := length_eq_zero_iff.mp (Nat.le_zero.mp enough)
    subst none_
    cases ran
    refine ⟨[], [], by simp, by simp, Perm.refl _, by simpa using waited, fun _ member => by cases member⟩
  | succ rounds ih =>
    unfold runRounds at ran
    by_cases empty : tagged items = []
    · rw [if_pos empty] at ran
      cases ran
      have none_ : items = [] := map_eq_nil_iff.mp empty
      subst none_
      refine ⟨[], [], by simp, by simp, Perm.refl _, by simpa using waited, fun _ member => by cases member⟩
    rw [if_neg empty] at ran
    rw [readyTasks_tagged, tagged_values] at ran
    let test := fun item : SubTask => item.dependencyIds.all fun id => id ∈ completedIds progress.results
    by_cases stuck : items.filter test = []
    · rw [if_pos stuck] at ran
      cases ran
      refine ⟨[], items, by simp, by simp, Perm.refl _, by simpa using waited, ?_⟩
      intro item member
      have unready := filter_eq_nil_iff.mp stuck item member
      simpa [test] using unready
    · rw [if_neg stuck] at ran
      cases round : runBranches env progress (ordered env (items.filter test)) with
      | mk outcome middle =>
        rw [round] at ran
        cases outcome with
        | error exn => cases ran
        | ok done =>
          obtain ⟨next, started, first, firsts, tasks⟩ := faithful.runBranches round
          rw [tagged_filter, kept_unready distinct test] at ran
          obtain ⟨apart, fewer⟩ := fewer_unready distinct enough stuck
          have further : Waited middle.results := by
            rw [firsts]
            apply waited.append
            intro result member id needed
            have inside : result.task ∈ ordered env (items.filter test) := tasks ▸ mem_map_of_mem member
            obtain ⟨known, there, same⟩ := ordered_met inside
            have ready := (mem_filter.mp there).2
            rw [← same] at needed
            exact of_decide_eq_true (all_eq_true.mp ready id needed)
          obtain ⟨added, left, results, begun, perm, last, unmet⟩ := ih apart fewer next further ran
          rw [firsts, append_assoc] at last unmet
          refine ⟨first ++ added, left, ?_, ?_, ?_, last, unmet⟩
          · simp [results, firsts]
          · rw [begun, started, map_append, tasks, append_assoc]
          rw [map_append, tasks, append_assoc, serials_append]
          exact ((ordered_perm _).append perm).trans (serials_parts test items)

end Rounds

section Loop

variable {routed : List SubTask}

theorem schedule_ok (returned : (schedule env routed).1 = .ok ()) :
    ∃ done left, Scheduled (latest routed) (schedule env routed).2 done left := by
  have fresh : Progress.Faithful env ⟨[], []⟩ := ⟨rfl, fun _ _ found => by simp at found⟩
  have ran : runRounds env (tagged (latest routed)).length ⟨[], []⟩ (tagged (latest routed)) =
      (.ok (), (schedule env routed).2) := by
    rw [← pendingById_eq, ← returned]
    rfl
  have quiet : Waited (Progress.mk [] []).results := fun _ _ found => by simp at found
  obtain ⟨done, left, results, begun, each, waited, unmet⟩ :=
    runRounds_schedules (latest_distinct routed) (by simp) fresh quiet ran
  refine ⟨done, left, results, begun.symm, ?_, waited, unmet⟩
  rwa [begun]

theorem schedule_ends (routed : List SubTask) : ∃ enough, ∀ rounds, enough ≤ rounds →
    runRounds env rounds ⟨[], []⟩ (pendingById routed) = schedule env routed := by
  refine ⟨(latest routed).length, fun rounds more => ?_⟩
  rw [schedule, pendingById_eq, tagged_length]
  exact runRounds_enough _ _ _ _ more (le_refl _)

theorem Scheduled.left_unique {one other : List SubTask} {reached : Progress} {done done' : List BranchResult}
    {left left' : List SubTask} (first : Scheduled one reached done left) (second : Scheduled other reached done' left') :
    left = left' := by
  have same : done ++ left.map unreachable = done' ++ left'.map unreachable := first.results.symm.trans second.results
  have lengths : done.length = done'.length := by
    have begun := congrArg length (first.begun.trans second.begun.symm)
    rwa [length_map, length_map] at begun
  have rest := congrArg (map BranchResult.task) (append_inj same lengths).2
  have tasks : ∀ items : List SubTask, (items.map unreachable).map BranchResult.task = items := by
    simp [map_map, Function.comp_def, unreachable]
  rwa [tasks, tasks] at rest

def chainedPlan : List PlanItem :=
  [itemOf "a", { itemOf "b" with dependencyIndexes := [0] }, { itemOf "c" with dependencyIds := ["d"] }]

def routedFor (plan : List PlanItem) : List SubTask :=
  (normalizeSubtaskGraph plan).map fun item => { item with assignedAgentId := some "worker" }

end Loop

end Troop.Delegation
