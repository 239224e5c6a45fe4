import Mathlib.Data.List.Nodup
import Troop.Delegation.Branches

namespace Troop.Delegation

open Execution (Exn)
open List

variable {env : Surroundings}

def tagged (items : List SubTask) : Dict SubTask := items.map fun item => (item.branchId, item)

@[simp] theorem tagged_values (items : List SubTask) : (tagged items).values = items := by
  simp [tagged, Dict.values, map_map, Function.comp_def]

@[simp] theorem tagged_length (items : List SubTask) : (tagged items).length = items.length := length_map _

def replaceBranch (items : List SubTask) (item : SubTask) : List SubTask :=
  match items with
  | [] => [item]
  | head :: rest => if head.branchId = item.branchId then item :: rest else head :: replaceBranch rest item

theorem tagged_set (items : List SubTask) (item : SubTask) :
    (tagged items).set item.branchId item = tagged (replaceBranch items item) := by
  induction items with
  | nil => rfl
  | cons head rest ih =>
    have split : (tagged (head :: rest)).set item.branchId item =
        if head.branchId = item.branchId then (item.branchId, item) :: tagged rest
        else (head.branchId, head) :: (tagged rest).set item.branchId item := rfl
    by_cases same : head.branchId = item.branchId
    · have placed : replaceBranch (head :: rest) item = item :: rest := if_pos same
      rw [split, if_pos same, placed]
      rfl
    · have placed : replaceBranch (head :: rest) item = head :: replaceBranch rest item := if_neg same
      rw [split, if_neg same, ih, placed]
      rfl

theorem replaceBranch_ids (items : List SubTask) (item : SubTask) :
    (replaceBranch items item).map SubTask.branchId =
      if item.branchId ∈ items.map SubTask.branchId then items.map SubTask.branchId
      else items.map SubTask.branchId ++ [item.branchId] := by
  induction items with
  | nil => rfl
  | cons head rest ih =>
    unfold replaceBranch
    by_cases same : head.branchId = item.branchId
    · simp [same]
    · grind

variable {items : List SubTask} {results more : List BranchResult} {progress reached : Progress} {item : SubTask}

theorem replaceBranch_new (fresh : item.branchId ∉ items.map SubTask.branchId) :
    replaceBranch items item = items ++ [item] := by
  induction items with
  | nil => rfl
  | cons head rest ih =>
    rw [map_cons, mem_cons, not_or] at fresh
    unfold replaceBranch
    rw [if_neg (Ne.symm fresh.1), ih fresh.2]
    rfl

/-- The branches that `pending_by_id` holds. -/
def latest (routed : List SubTask) : List SubTask := routed.foldl replaceBranch []

theorem pendingById_eq (routed : List SubTask) : pendingById routed = tagged (latest routed) := by
  have step : ∀ items, routed.foldl (fun pending item => pending.set item.branchId item) (tagged items) =
      tagged (routed.foldl replaceBranch items) := by
    induction routed with
    | nil => exact fun items => rfl
    | cons item rest ih =>
      intro items
      rw [foldl_cons, foldl_cons, tagged_set]
      exact ih _
  exact step []

theorem latest_distinct (routed : List SubTask) : ((latest routed).map SubTask.branchId).Nodup := by
  have step : ∀ items : List SubTask, (items.map SubTask.branchId).Nodup →
      ((routed.foldl replaceBranch items).map SubTask.branchId).Nodup := by
    induction routed with
    | nil => exact fun items distinct => distinct
    | cons item rest ih =>
      intro items distinct
      apply ih
      rw [replaceBranch_ids]
      split
      · exact distinct
      · grind
  exact step [] nodup_nil

theorem latest_of_distinct {routed : List SubTask} (distinct : (routed.map SubTask.branchId).Nodup) :
    latest routed = routed := by
  have step : ∀ items : List SubTask, ((items ++ routed).map SubTask.branchId).Nodup →
      routed.foldl replaceBranch items = items ++ routed := by
    induction routed with
    | nil => exact fun items _ => (append_nil items).symm
    | cons item rest ih =>
      intro items apart
      have fresh : item.branchId ∉ items.map SubTask.branchId := by grind
      rw [foldl_cons, replaceBranch_new fresh]
      have shifted : items ++ [item] ++ rest = items ++ item :: rest := append_cons items item rest ▸ rfl
      rw [ih (nodup_cons.mp distinct).2 (items ++ [item]) (by rw [shifted]; exact apart), shifted]
  exact step [] distinct

def serials (items : List SubTask) : List SubTask := items.map SubTask.sequential

theorem serials_append (first second : List SubTask) : serials (first ++ second) = serials first ++ serials second :=
  map_append

theorem serials_sequential (items : List SubTask) : serials (items.map SubTask.sequential) = serials items := by
  simp [serials, map_map, Function.comp_def, SubTask.sequential]

theorem serials_ids (items : List SubTask) : (serials items).map SubTask.branchId = items.map SubTask.branchId := by
  simp [serials, map_map, Function.comp_def, SubTask.sequential]

theorem splitAtLimit_append (limit : Int) (items : List SubTask) :
    (splitAtLimit limit items).1 ++ (splitAtLimit limit items).2 = items := by
  cases limit <;> exact take_append_drop _ _

theorem serials_parts (test : SubTask → Bool) (items : List SubTask) :
    (serials (items.filter test) ++ serials (items.filter fun item => !test item)).Perm (serials items) := by
  rw [← serials_append]
  exact (filter_append_perm test items).map _

theorem ordered_perm (ready : List SubTask) : (serials (ordered env ready)).Perm (serials ready) := by
  have kept := serials_parts (fun item => item.parallelizable) ready
  unfold ordered
  dsimp only
  split
  · rw [serials_append, serials_append, serials_sequential]
    have parts := congrArg serials
      (splitAtLimit_append env.maxParallelBranches (ready.filter fun item => item.parallelizable))
    rw [serials_append] at parts
    rw [← parts] at kept
    refine Perm.trans ?_ kept
    rw [append_assoc]
    exact Perm.append_left _ perm_append_comm
  · rwa [serials_append]

def Traced (env : Surroundings) (results : List BranchResult) : Prop :=
  ∀ index result, results[index]? = some result →
    result.status = .blocked ∨ ∃ payload, env.outputs index = .ok payload ∧ result.status = contractStatus payload

theorem answered_status (item : SubTask) (payload : Dict Json) :
    (answered item payload).status = contractStatus payload := by
  dsimp only [answered]

theorem executeSubtaskBranch_ok {index : Nat} {result : BranchResult}
    (ran : executeSubtaskBranch env index item = .ok result) :
    result.task = item ∧
      (result.status = .blocked ∨ ∃ payload, env.outputs index = .ok payload ∧ result.status = contractStatus payload) := by
  unfold executeSubtaskBranch at ran
  split at ran
  · split at ran
    · cases said : env.outputs index with
      | error exn =>
        rw [said] at ran
        cases ran
      | ok payload =>
        rw [said] at ran
        have same : answered item payload = result := Except.ok.inj ran
        rw [← same]
        exact ⟨rfl, .inr ⟨payload, rfl, answered_status item payload⟩⟩
    · cases ran
      exact ⟨rfl, .inl rfl⟩
  · cases ran
    exact ⟨rfl, .inl rfl⟩

theorem Traced.append (traced : Traced env results)
    (later : ∀ index result, more[index]? = some result → result.status = .blocked ∨
      ∃ payload, env.outputs (results.length + index) = .ok payload ∧ result.status = contractStatus payload) :
    Traced env (results ++ more) := by
  intro index result found
  by_cases inside : index < results.length
  · rw [getElem?_append_left inside] at found
    exact traced index result found
  · grind

theorem Traced.blocked (traced : Traced env results)
    (waits : ∀ result ∈ more, result.status = .blocked) : Traced env (results ++ more) := by
  apply traced.append
  intro index result found
  exact .inl (waits result (mem_of_getElem? found))

structure Progress.Faithful (env : Surroundings) (progress : Progress) : Prop where
  tasks : progress.results.map BranchResult.task = progress.started
  traced : Traced env progress.results

theorem Progress.Faithful.runBranches
    (faithful : progress.Faithful env) (ran : runBranches env progress items = (.ok (), reached)) :
    reached.Faithful env ∧ reached.started = progress.started ++ items ∧
      ∃ added, reached.results = progress.results ++ added ∧ added.map BranchResult.task = items := by
  induction items generalizing progress with
  | nil =>
    cases ran
    exact ⟨faithful, (append_nil _).symm, [], (append_nil _).symm, rfl⟩
  | cons item rest ih =>
    unfold Delegation.runBranches at ran
    split at ran
    · rename_i result executed
      obtain ⟨task, status⟩ := executeSubtaskBranch_ok executed
      have length : progress.started.length = progress.results.length := by
        rw [← faithful.tasks, length_map]
      have next : Progress.Faithful env ⟨progress.results ++ [result], progress.started ++ [item]⟩ := by
        refine ⟨?_, ?_⟩
        · simp [faithful.tasks, task]
        apply faithful.traced.append
        intro index other found
        cases index with
        | zero => simp_all
        | succ index => cases found
      obtain ⟨later, started, added, results, tasks⟩ := ih next ran
      refine ⟨later, ?_, result :: added, ?_, ?_⟩
      · simp [started, append_assoc]
      · simp [results, append_assoc]
      · rw [map_cons, tasks, task]
    · cases ran

theorem tagged_filter (items : List SubTask) (ids : List String) :
    (tagged items).filter (fun entry => entry.1 ∉ ids) = tagged (items.filter fun item => item.branchId ∉ ids) := by
  simp [tagged, filter_map, Function.comp_def]

theorem kept_unready (distinct : (items.map SubTask.branchId).Nodup) (test : SubTask → Bool) :
    (items.filter fun item => item.branchId ∉ (items.filter test).map SubTask.branchId) = items.filter fun item => !test item := by
  apply filter_congr
  intro item member
  have known : item.branchId ∈ (items.filter test).map SubTask.branchId ↔ test item = true := by
    constructor
    · intro found
      obtain ⟨other, chosen, same⟩ := mem_map.mp found
      obtain ⟨there, passed⟩ := mem_filter.mp chosen
      have equal := inj_on_of_nodup_map distinct there member same
      rwa [equal] at passed
    · exact fun passed => mem_map.mpr ⟨item, mem_filter.mpr ⟨member, passed⟩, rfl⟩
  by_cases passed : test item = true <;> simp [known, passed]

theorem fewer_unready {test : SubTask → Bool} {rounds : Nat} (distinct : (items.map SubTask.branchId).Nodup)
    (enough : items.length ≤ rounds + 1) (ready : items.filter test ≠ []) :
    ((items.filter fun item => !test item).map SubTask.branchId).Nodup ∧
      (items.filter fun item => !test item).length ≤ rounds := by
  refine ⟨distinct.sublist (filter_sublist.map _), ?_⟩
  have whole := (filter_append_perm test items).length_eq
  have some_ := length_pos_iff.mpr ready
  rw [length_append] at whole
  omega

theorem runRounds_ok {rounds : Nat} (distinct : (items.map SubTask.branchId).Nodup) (enough : items.length ≤ rounds)
    (faithful : progress.Faithful env) (ran : runRounds env rounds progress (tagged items) = (.ok (), reached)) :
    ∃ added, reached.results = progress.results ++ added ∧ Traced env reached.results ∧
      (serials (added.map BranchResult.task)).Perm (serials items) := by
  induction rounds generalizing progress items with
  | zero =>
    have none_ : items = [] := length_eq_zero_iff.mp (Nat.le_zero.mp enough)
    subst none_
    cases ran
    exact ⟨[], (append_nil _).symm, faithful.traced, .refl _⟩
  | succ rounds ih =>
    unfold runRounds at ran
    by_cases empty : tagged items = []
    · rw [if_pos empty] at ran
      cases ran
      have none_ : items = [] := map_eq_nil_iff.mp empty
      subst none_
      exact ⟨[], (append_nil _).symm, faithful.traced, .refl _⟩
    rw [if_neg empty] at ran
    have chosen : readyTasks progress.results (tagged items) =
        items.filter fun item => item.dependencyIds.all fun id => id ∈ completedIds progress.results := by
      rw [readyTasks, tagged_values]
    rw [chosen, tagged_values] at ran
    let test := fun item : SubTask => item.dependencyIds.all fun id => id ∈ completedIds progress.results
    by_cases stuck : items.filter test = []
    · rw [if_pos stuck] at ran
      cases ran
      refine ⟨items.map unreachable, rfl, ?_, ?_⟩
      · apply faithful.traced.blocked
        intro result member
        obtain ⟨item, -, rfl⟩ := mem_map.mp member
        rfl
      · have tasks : (items.map unreachable).map BranchResult.task = items := by
          simp [map_map, Function.comp_def, unreachable]
        rw [tasks]
    · rw [if_neg stuck] at ran
      cases round : runBranches env progress (ordered env (items.filter test)) with
      | mk outcome middle =>
        rw [round] at ran
        cases outcome with
        | error exn => cases ran
        | ok done =>
          obtain ⟨next, -, first, firsts, tasks⟩ := faithful.runBranches round
          rw [tagged_filter, kept_unready distinct test] at ran
          obtain ⟨apart, fewer⟩ := fewer_unready distinct enough stuck
          obtain ⟨added, results, traced, same⟩ := ih apart fewer next ran
          refine ⟨first ++ added, ?_, traced, ?_⟩
          · rw [results, firsts, append_assoc]
          rw [map_append, serials_append, tasks]
          exact ((ordered_perm _).append same).trans (serials_parts test items)

end Troop.Delegation
