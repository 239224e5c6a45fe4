import Troop.Execution.Lifecycle

namespace Troop.Delegation

open Execution (Exn)

/-- An entry of `sub_tasks` in a manager's plan. -/
structure PlanItem where
  branchId : Option String
  id : Option String
  title : Option String
  dependencyIds : List String
  dependencyIndexes : List Int
  parallelizable : Bool
deriving DecidableEq

structure SubTask where
  branchId : String
  title : String
  dependencyIds : List String
  parallelizable : Bool
  assignedAgentId : Option String
deriving DecidableEq

inductive BranchStatus where
  | completed | blocked | failed
deriving DecidableEq

structure BranchResult where
  task : SubTask
  status : BranchStatus
  reason : Option String
  blockerReason : String
deriving DecidableEq

/-- `first or second or fallback` -/
def firstText (texts : List (Option String)) (fallback : String) : String :=
  ((texts.filterMap id).find? (· ≠ "")).getD fallback

def PlanItem.identity (item : PlanItem) (index : Nat) : String :=
  Text.strip (firstText [item.branchId, item.id] ("branch-" ++ toString (index + 1)))

/-- The ids that `dependency_indexes` adds to `dependency_ids`. -/
def addIndexes (items : List PlanItem) (known : List String) (indexes : List Int) : List String :=
  indexes.foldl
    (fun ids index =>
      match index with
      | .ofNat position =>
        match items[position]? with
        | some item => if item.identity position ≠ "" ∧ item.identity position ∉ ids then ids ++ [item.identity position] else ids
        | none => ids
      | .negSucc _ => ids)
    known

def normalizeSubtaskGraph (items : List PlanItem) : List SubTask :=
  items.mapIdx fun index item =>
    { branchId := item.identity index
      title := firstText [item.title] ("Subtask " ++ toString (index + 1))
      dependencyIds := addIndexes items ((item.dependencyIds.map Text.strip).filter (· ≠ "")) item.dependencyIndexes
      parallelizable := item.parallelizable
      assignedAgentId := none }

/-- The status of a worker's answer, by `worker_result_contract`. -/
def contractStatus (payload : Dict Json) : BranchStatus :=
  let said := payload.get "status"
  let status := Text.lower (Text.strip (if said.truthy then said.pyStr else "completed"))
  if status = "blocked" then .blocked else if status = "failed" then .failed else .completed

/-- What a manager-worker run meets: the plan of the manager, the worker chosen for each sub-task and whether it is still there,
    the answer of each executed branch, and what the later phases end with. -/
structure Surroundings where
  /-- loading the agents, the provider, the project -/
  ready : Except Exn Unit
  /-- `sub_tasks` of the plan; `none` where the plan is an empty dict -/
  plan : Except Exn (Option (List PlanItem))
  /-- the one sub-task of a plan that names none -/
  primary : PlanItem
  chooses : Nat → SubTask → Except Exn (Option String)
  loads : String → Bool
  maxParallelBranches : Int
  outputs : Nat → Except Exn (Dict Json)
  escalation : List BranchResult → Except Exn Unit
  synthesis : List BranchResult → Except Exn Unit
  /-- the decision of the review and its rework scope -/
  review : List BranchResult → Except Exn (String × List String)
  publishing : Except Exn Unit

def noWorker (item : SubTask) : BranchResult :=
  { task := item, status := .blocked, reason := some "no_capable_worker", blockerReason := "No capable worker found." }

def unreachable (item : SubTask) : BranchResult :=
  { task := item, status := .blocked, reason := some "dependency_cycle_or_missing_dependency"
    blockerReason := "Dependency cycle or missing dependency prevented execution." }

def answered (item : SubTask) (payload : Dict Json) : BranchResult :=
  { task := item, status := contractStatus payload, reason := none, blockerReason := (payload.get "blocker_reason").strOrEmpty }

structure Progress where
  results : List BranchResult
  started : List SubTask
deriving DecidableEq

variable (env : Surroundings)

def executeSubtaskBranch (index : Nat) (item : SubTask) : Except Exn BranchResult :=
  match item.assignedAgentId with
  | some agent => if env.loads agent then (env.outputs index).map (answered item) else .ok (noWorker item)
  | none => .ok (noWorker item)

def runBranches : Progress → List SubTask → Except Exn Unit × Progress
  | progress, [] => (.ok (), progress)
  | progress, item :: rest =>
    let begun := { progress with started := progress.started ++ [item] }
    match executeSubtaskBranch env progress.started.length item with
    | .ok result => runBranches { begun with results := progress.results ++ [result] } rest
    | .error exn => (.error exn, begun)

/-- `xs[:limit]` and `xs[limit:]` -/
def splitAtLimit (limit : Int) (items : List SubTask) : List SubTask × List SubTask :=
  match limit with
  | .ofNat count => (items.take count, items.drop count)
  | .negSucc before => (items.take (items.length - (before + 1)), items.drop (items.length - (before + 1)))

def SubTask.sequential (item : SubTask) : SubTask := { item with parallelizable := false }

def ordered (ready : List SubTask) : List SubTask :=
  let parallel := ready.filter fun item => item.parallelizable
  let serial := ready.filter fun item => !item.parallelizable
  if parallel ≠ [] ∧ env.maxParallelBranches < parallel.length then
    let (first, overflow) := splitAtLimit env.maxParallelBranches parallel
    first ++ (serial ++ overflow.map SubTask.sequential)
  else parallel ++ serial

def completedIds (results : List BranchResult) : List String :=
  (results.filter fun result => result.status = .completed).map fun result => result.task.branchId

def readyTasks (results : List BranchResult) (pending : Dict SubTask) : List SubTask :=
  pending.values.filter fun item => item.dependencyIds.all fun id => id ∈ completedIds results

/-- The `while` loop over the pending branches; each round takes at least one, so that as many rounds as branches are enough. -/
def runRounds : Nat → Progress → Dict SubTask → Except Exn Unit × Progress
  | 0, progress, _ => (.ok (), progress)
  | rounds + 1, progress, pending =>
    if pending = [] then (.ok (), progress)
    else
      let ready := readyTasks progress.results pending
      if ready = [] then (.ok (), { progress with results := progress.results ++ pending.values.map unreachable })
      else
        match runBranches env progress (ordered env ready) with
        | (.error exn, reached) => (.error exn, reached)
        | (.ok (), reached) =>
          runRounds rounds reached (pending.filter fun entry => entry.1 ∉ ready.map SubTask.branchId)

/-- `pending_by_id`: of several branches with one id the last counts. -/
def pendingById (routed : List SubTask) : Dict SubTask :=
  routed.foldl (fun pending item => pending.set item.branchId item) []

structure Checkpoint where
  plan : Option (List PlanItem)
  routedSubTasks : List SubTask
  branchResults : Option (List BranchResult)
deriving DecidableEq

def Checkpoint.new : Checkpoint := { plan := none, routedSubTasks := [], branchResults := none }

def planPhase (saved : Checkpoint) : Except Exn Checkpoint :=
  match saved.plan with
  | some _ => .ok saved
  | none => env.plan.map fun plan => { saved with plan }

/-- `manager_plan.get("sub_tasks") or [...]` -/
def subTasksOf (plan : Option (List PlanItem)) : List PlanItem :=
  match plan with
  | some (item :: rest) => item :: rest
  | _ => [env.primary]

def routeFrom (index : Nat) : List SubTask → Except Exn (List SubTask)
  | [] => .ok []
  | item :: rest =>
    (env.chooses index item).bind fun agent =>
      (routeFrom (index + 1) rest).map fun routed => { item with assignedAgentId := agent } :: routed

def routePhase (saved : Checkpoint) : Except Exn Checkpoint :=
  if saved.routedSubTasks = [] then
    (routeFrom env 0 (normalizeSubtaskGraph (subTasksOf env saved.plan))).map fun routedSubTasks =>
      { saved with routedSubTasks }
  else .ok saved

def workPhase (saved : Checkpoint) : Except Exn Checkpoint × List SubTask :=
  match saved.branchResults with
  | some _ => (.ok saved, [])
  | none =>
    let pending := pendingById saved.routedSubTasks
    let (outcome, reached) := runRounds env pending.length ⟨[], []⟩ pending
    (outcome.map fun _ => { saved with branchResults := some reached.results }, reached.started)

inductive Finish where
  | approved
  /-- the branches that stay blocked -/
  | blocked (branches : List BranchResult)
  | rework (scope : List String)
  | raised (exn : Exn)
deriving DecidableEq

def raisedOr {α : Type} (outcome : Except Exn α) (next : α → Finish) : Finish :=
  match outcome with
  | .ok value => next value
  | .error exn => .raised exn

def finishPhase (results : List BranchResult) : Finish :=
  let blocked := results.filter fun result => result.status = .blocked
  if blocked ≠ [] then raisedOr (env.escalation blocked) fun _ => .blocked blocked
  else
    raisedOr (env.synthesis results) fun _ =>
      raisedOr (env.review results) fun review =>
        if review.1 = "approved" then raisedOr env.publishing fun _ => .approved else .rework review.2

/-- What an execution of `_execute_manager_worker_run` leaves: the artifacts, the branches that it began, and how it ended;
    `approved` where it returned. -/
structure Ended where
  saved : Checkpoint
  started : List SubTask
  finish : Finish
deriving DecidableEq

def executeManagerWorkerRun (saved : Checkpoint) : Ended :=
  match env.ready.bind fun _ => planPhase env saved with
  | .error exn => ⟨saved, [], .raised exn⟩
  | .ok planned =>
    match routePhase env planned with
    | .error exn => ⟨planned, [], .raised exn⟩
    | .ok routed =>
      match workPhase env routed with
      | (.error exn, started) => ⟨routed, started, .raised exn⟩
      | (.ok worked, started) => ⟨worked, started, finishPhase env (worked.branchResults.getD [])⟩

/-- The checkpoints of a run: what any of its executions, whole or cut off after a phase, left. -/
inductive Reached : Checkpoint → Prop
  | new : Reached .new
  | planned {saved planned : Checkpoint} (env : Surroundings) (reached : Reached saved)
      (first : planPhase env saved = .ok planned) : Reached planned
  | routed {saved planned routed : Checkpoint} (env : Surroundings) (reached : Reached saved)
      (first : planPhase env saved = .ok planned) (second : routePhase env planned = .ok routed) : Reached routed
  | worked {saved planned routed worked : Checkpoint} (env : Surroundings) (reached : Reached saved)
      (first : planPhase env saved = .ok planned) (second : routePhase env planned = .ok routed) {started : List SubTask}
      (third : workPhase env routed = (.ok worked, started)) : Reached worked

end Troop.Delegation
