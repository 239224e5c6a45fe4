import Troop.Workflow.Children

namespace Troop.Workflow

inductive BranchStatus where
  | succeeded | failed | paused
deriving DecidableEq, Repr, Inhabited

def BranchStatus.text : BranchStatus → String
  | .succeeded => "succeeded"
  | .failed => "failed"
  | .paused => "paused"

/-- `_normalize_join_policy` and `_normalize_merge_policy` -/
def normalizePolicy (policy fallback : String) : String :=
  Text.replaceChar '-' '_' (Text.lower (if policy = "" then fallback else policy))

/-- The count in front of `_of_` in a policy such as `2_of_3`. -/
def countOfPolicy (policy : String) : Option Int :=
  (Text.cutAt "_of_" policy).bind fun head => if Text.isDigits head then head.toInt? else none

def parseParallelJoinConfig (config : Dict Json) : Except PyError (String × Option Int) := do
  let raw := ((config.get "join_policy").pyOr ((config.get "policy").pyOr (.str "all_success"))).pyStr
  let policy := normalizePolicy raw "all_success"
  let given := if config.get "n" ≠ .null then config.get "n" else config.get "min_success"
  if given ≠ .null then
    let n ← given.toInt
    return (policy, some n)
  else
    match countOfPolicy policy with
    | some n => return ("n_of_m", some n)
    | none => return (policy, none)

/-- The successes the join waits for. `n_of_m` without a number raises, as `int("n")` does. -/
def requiredSuccesses (policy : String) (n : Option Int) (total : Nat) : Except PyError Int :=
  match n with
  | some n => .ok n
  | none =>
    match Text.cutAt "_of_" policy with
    | some head => (Json.str head).toInt
    | none => .ok total

def evaluateParallelJoin (policyText : String) (statuses : List String) (n : Option Int) :
    Except PyError BranchStatus := do
  let policy := normalizePolicy policyText "all_success"
  let succeeded := statuses.count "succeeded"
  let failed := statuses.count "failed"
  let total := statuses.length
  let pending := total - succeeded - failed
  if policy = "any_success" then
    return if 0 < succeeded then .succeeded else if pending = 0 then .failed else .paused
  else if policy = "best_effort" then
    return if 0 < succeeded then .succeeded else if pending = 0 ∧ failed = total then .failed else .paused
  else if policy = "fail_fast" then
    return if 0 < failed then .failed else if 0 < pending then .paused else .succeeded
  else if policy = "n_of_m" ∨ (countOfPolicy policy).isSome then
    let required ← requiredSuccesses policy n total
    return if required ≤ succeeded then .succeeded
      else if ((succeeded : Int) + pending) < required then .failed
      else .paused
  else return if 0 < pending then .paused else if 0 < failed then .failed else .succeeded

def succeededOutputs (branches : Dict Json) (children : List String) : Except PyError (List (String × Json)) :=
  match children with
  | [] => .ok []
  | child :: rest => do
    let entry ← (branches.get child).toDict
    let others ← succeededOutputs branches rest
    if (entry.get "status").strOrEmpty ≠ "succeeded" then return others
    else return (child, .obj (← (entry.get "output").toDict)) :: others

def mergedOutputs (policy : String) (config branches : Dict Json) (outputs : List (String × Json)) :
    Except PyError Json := do
  if policy = "collect_array" then return .arr (outputs.map Prod.snd)
  else if policy = "merge_objects" then
    return .obj (outputs.foldl (fun merged out => Dict.update merged (out.2.asObj?.getD [])) [])
  else if policy = "selected_output" then
    let selected := ((config.get "selected_branch").pyOr (config.get "selected_output")).pyOr
      (config.get "selected_branch_id")
    if selected ≠ .null then
      let entry ← (branches.get selected.pyStr).toDict
      return .obj (← (entry.get "output").toDict)
    else return (outputs.head?.map Prod.snd).getD (.obj [])
  else return .obj (outputs.foldl (fun named out => Dict.set named out.1 out.2) [])

def applyParallelMergePolicy (vars : Dict Json) (nodeId : String) (branches : Dict Json)
    (children : List String) (mergePolicy : String) (config : Dict Json) : Except PyError (Dict Json) := do
  let outputs ← succeededOutputs branches children
  let all ← (vars.get "parallel_outputs").toDict
  let merged ← mergedOutputs (normalizePolicy mergePolicy "namespaced") config branches outputs
  return vars.set "parallel_outputs" (.obj (all.set nodeId merged))

def taskBranchStatus (status : TaskStatus) : BranchStatus :=
  if status = .completed then .succeeded else if status.terminal then .failed else .paused

def runBranchStatus (status : RunStatus) : BranchStatus :=
  if status = .completed then .succeeded
  else if status = .failed ∨ status = .cancelled then .failed
  else .paused

def withResult (entry : Dict Json) (status : BranchStatus) (output : Dict Json) : Dict Json :=
  (entry.set "status" (.str status.text)).set "output" (.obj output)

/-- `_refresh_parallel_branch_status`: a paused branch takes the state of its durable child or of
    the clock. -/
def refreshParallelBranchStatus (env : Env) (run : WorkflowRun) (parallelNodeId childId : String)
    (entry : Dict Json) (childNode : Option Json) : Session (Dict Json) := do
  let kind := Text.lower ((entry.get "child_type").pyOr ((childNode.getD .null).get "type")).strOrEmpty
  let childRunId := (entry.get "child_run_id").strOrEmpty
  let w ← get
  if kind = "agent" ∨ kind = "task_run" then
    match w.db.taskRuns.get? childRunId with
    | none => return entry
    | some taskRun =>
      emit (.childUsed run.id parallelNodeId childId childRunId)
      onlyIf taskRun.status.terminal
        (upsertChildExecution env ⟨run.id, parallelNodeId, "task_run", some childRunId, some childId,
          taskRun.status.text, taskRunOutput childRunId taskRun⟩)
      return withResult entry (taskBranchStatus taskRun.status) (taskRunOutput childRunId taskRun)
  else if kind = "subworkflow" ∨ kind = "workflow_run" then
    match w.db.runs.get? childRunId with
    | none => return entry
    | some child =>
      emit (.childUsed run.id parallelNodeId childId childRunId)
      onlyIf child.status.terminal
        (upsertChildExecution env ⟨run.id, parallelNodeId, "workflow_run", some childRunId, some childId,
          child.status.text, childRunOutput childRunId child.status⟩)
      return withResult entry (runBranchStatus child.status) (childRunOutput childRunId child.status)
  else if kind = "delay" ∨ (entry.get "delay").truthy then
    let delay ← Prog.ofExcept (entry.get "delay").toDict
    let resumeAt := delay.get "resume_at"
    if resumeAt.truthy then
      let moment ← Prog.ofExcept (parseResumeAt env resumeAt)
      if moment ≤ w.now then
        let output : Dict Json := [("delayed", .bool true), ("resume_at", resumeAt)]
        upsertChildExecution env ⟨run.id, parallelNodeId, "branch", none, some childId, "completed", output⟩
        return withResult entry .succeeded output
      else return entry.set "status" (.str "paused")
    else return entry
  else return entry

def outcomeBranchStatus (outcome : NodeOutcome) : BranchStatus :=
  if outcome.pause.isSome then .paused else if outcome.status = .failed then .failed else .succeeded

def branchEntry (childType childRunKey : String) (outcome : NodeOutcome) : Dict Json :=
  [("status", .str (outcomeBranchStatus outcome).text), ("output", .obj outcome.output),
    ("child_type", .str childType), ("child_run_id", outcome.output.get childRunKey)]

/-- The delay branch of `_start_parallel_async_branch`. -/
def startDelayBranch (env : Env) (run : WorkflowRun) (parallelNodeId childId : String) (childNode : Json) :
    Session (Dict Json) := do
  let config ← Prog.ofExcept (nodeConfig childNode)
  let seconds ← Prog.ofExcept (delaySeconds config)
  if seconds ≤ 0 then
    let output : Dict Json := [("delayed", .bool false), ("seconds", .num 0)]
    upsertChildExecution env ⟨run.id, parallelNodeId, "branch", none, some childId, "completed", output⟩
    return [("status", .str "succeeded"), ("output", .obj output), ("child_type", .str "delay")]
  else
    let w ← get
    let resumeAt := env.isoformat (w.now + seconds)
    let output : Dict Json := [("resume_at", .str resumeAt), ("seconds", .num seconds)]
    upsertChildExecution env ⟨run.id, parallelNodeId, "branch", none, some childId, "paused", output⟩
    scheduleDelayResume run parallelNodeId resumeAt
    return [("status", .str "paused"), ("output", .obj output), ("child_type", .str "delay"),
      ("delay", .obj [("node_id", .str childId), ("resume_at", .str resumeAt),
        ("parallel_node_id", .str parallelNodeId)])]

def failedEntry (entry : Dict Json) (message : String) : Dict Json :=
  withResult entry .failed [("error", .str message)]

def startBranch (env : Env) (calls : Calls) (run : WorkflowRun) (nodeId childId : String) (childNode : Json)
    (entry vars : Dict Json) : Session (Dict Json) := do
  match nodeType childNode with
  | some .agent => do
    let outcome ← executeAgentNode env run childNode childId ⟨nodeId, some childId⟩ vars
    return branchEntry "task_run" "task_run_id" outcome
  | some .subworkflow => do
    let outcome ← executeSubworkflowNode env calls run childNode childId ⟨nodeId, some childId⟩ vars
    return branchEntry "workflow_run" "child_run_id" outcome
  | some .delay => startDelayBranch env run nodeId childId childNode
  | some .tool | some .skill | some .condition | some .trigger => do
    let outcome ← executeSimpleNode env run childNode childId vars
    return (withResult entry (outcomeBranchStatus outcome) outcome.output).set "child_type"
      (.str (nodeTypeText childNode))
  | _ => return failedEntry entry ("child type `" ++ nodeTypeText childNode ++ "` is not supported in parallel")

def branchStatuses (branches : Dict Json) : List String :=
  branches.values.map fun entry => (entry.get "status").strOrEmpty

def failedBranches (branches : Dict Json) : List String :=
  Dict.keys (branches.filter fun branch => (branch.2.get "status").strOrEmpty = "failed")

structure JoinPlan where
  policy : String
  n : Option Int

def JoinPlan.early (plan : JoinPlan) (branches : Dict Json) : Except PyError Bool :=
  if plan.policy = "n_of_m" then
    (evaluateParallelJoin plan.policy (branchStatuses branches) plan.n).map fun joined => joined != .paused
  else .ok false

def JoinPlan.startedEarly (plan : JoinPlan) (childNode : Option Json) (branches : Dict Json) : Except PyError Bool :=
  if childNode.isSome then plan.early branches else .ok false

def JoinPlan.failsFast (plan : JoinPlan) (status : String) : Bool :=
  plan.policy = "fail_fast" && status = "failed"

/-- `dict(branches.get(child_id) or \{"status": "pending", "output": \{}})` -/
def storedBranch (branches : Dict Json) (childId : String) : Except PyError (Dict Json) :=
  ((branches.get childId).pyOr (.obj [("status", .str "pending"), ("output", .obj [])])).toDict

def branchStatus (entry : Dict Json) : String := ((entry.get "status").pyOr (.str "pending")).strOrEmpty

def keptStatuses : List String := ["succeeded", "failed", "paused"]

def refreshedBranch (env : Env) (run : WorkflowRun) (nodeId childId : String) (stored : Dict Json)
    (childNode : Option Json) : Session (Dict Json) :=
  if branchStatus stored = "paused" then refreshParallelBranchStatus env run nodeId childId stored childNode
  else return stored

def startedBranch (env : Env) (calls : Calls) (run : WorkflowRun) (nodeId childId : String)
    (childNode : Option Json) (entry vars : Dict Json) : Session (Dict Json) := do
  emit (.branchStarted run.id nodeId childId)
  match childNode with
  | none => return failedEntry entry "child node not found"
  | some childNode => startBranch env calls run nodeId childId childNode entry vars

/-- One child of the loop of `_execute_parallel_node`: its branches afterwards, and whether the loop
    ends here. -/
def visitBranch (env : Env) (calls : Calls) (run : WorkflowRun) (nodeId : String) (nodes : Dict Json)
    (vars : Dict Json) (plan : JoinPlan) (branches : Dict Json) (childId : String) :
    Session (Dict Json × Bool) := do
  let stored ← Prog.ofExcept (storedBranch branches childId)
  onlyIf (branchStatus stored ∈ keptStatuses) (emit (.branchReused run.id nodeId childId))
  let entry ← refreshedBranch env run nodeId childId stored (nodes.get? childId)
  let current := if branchStatus stored = "paused" then branches.set childId (.obj entry) else branches
  if branchStatus entry = "succeeded" ∨ branchStatus entry = "failed" then
    let early ← Prog.ofExcept (plan.early current)
    return (current, early || plan.failsFast (branchStatus entry))
  else if branchStatus entry = "paused" then return (current, false)
  else
    let started ← startedBranch env calls run nodeId childId (nodes.get? childId) entry vars
    let after := current.set childId (.obj started)
    let early ← Prog.ofExcept (plan.startedEarly (nodes.get? childId) after)
    return (after, plan.failsFast (started.get "status").strOrEmpty || early)

def visitBranches (env : Env) (calls : Calls) (run : WorkflowRun) (nodeId : String) (nodes : Dict Json)
    (vars : Dict Json) (plan : JoinPlan) : List String → Dict Json → Session (Dict Json)
  | [], branches => return branches
  | childId :: rest, branches => do
    let (after, ends) ← visitBranch env calls run nodeId nodes vars plan branches childId
    if ends then return after
    else visitBranches env calls run nodeId nodes vars plan rest after

structure ParallelState where
  children : List String
  plan : JoinPlan
  mergePolicy : String
  all : Dict Json
  state : Dict Json
  branches : Dict Json

def initialBranches (children : List String) : Dict Json :=
  children.foldl (fun branches child =>
    Dict.set branches child (.obj [("status", .str "pending"), ("output", .obj [])])) []

def optionalInt : Option Int → Json
  | some n => .num n
  | none => .null

def setDefault (state : Dict Json) (key : String) (value : Json) : Dict Json :=
  if (state.get? key).isSome then state else state.set key value

def loadParallelState (config : Dict Json) (nodeId : String) (vars : Dict Json) :
    Except PyError ParallelState := do
  let (policy, n) ← parseParallelJoinConfig config
  let merge := normalizePolicy
    ((config.get "merge_policy").pyOr ((config.get "merge").pyOr (.str "namespaced"))).pyStr "namespaced"
  let children := (← (config.get "children").toList).map Json.pyStr
  let all ← (vars.get "parallel_branches").toDict
  let stored ← (all.get nodeId).toDict
  if stored.isEmpty then
    let branches := initialBranches children
    return {
      children := children
      plan := ⟨policy, n⟩
      mergePolicy := merge
      all := all
      state := [("join_policy", .str policy), ("n", optionalInt n), ("merge_policy", .str merge),
        ("branches", .obj branches)]
      branches := branches }
  else
    let named := setDefault (setDefault stored "join_policy" (.str policy)) "merge_policy" (.str merge)
    let state := match n with
      | some n => named.set "n" (.num n)
      | none => named
    let kept ← if state.get "n" = .null then pure n else (state.get "n").toInt.map some
    let branches ← (state.get "branches").toDict
    return {
      children := children
      plan := ⟨((state.get "join_policy").pyOr (.str policy)).strOrEmpty, kept⟩
      mergePolicy := normalizePolicy ((state.get "merge_policy").pyOr (.str merge)).strOrEmpty "namespaced"
      all := all
      state := state
      branches := branches }

def finalizeParallel (parallel : ParallelState) (config : Dict Json) (nodeId : String)
    (branches vars : Dict Json) : Except PyError NodeOutcome := do
  let state := (parallel.state.set "branches" (.obj branches)).set "merge_policy" (.str parallel.mergePolicy)
  let stored := vars.set "parallel_branches" (.obj (parallel.all.set nodeId (.obj state)))
  let joined ← evaluateParallelJoin parallel.plan.policy (branchStatuses branches) parallel.plan.n
  let output : Dict Json :=
    [("parallel_branches", .obj state), ("join_policy", .str parallel.plan.policy),
      ("merge_policy", .str parallel.mergePolicy), ("n", optionalInt parallel.plan.n),
      ("join_result", .str joined.text)]
  match joined with
  | .succeeded => do
    let merged ← applyParallelMergePolicy stored nodeId branches parallel.children parallel.mergePolicy config
    let outputs := (merged.get "parallel_outputs").get nodeId
    let shown := if parallel.mergePolicy = "namespaced" then outputs else .obj [("value", outputs)]
    return succeeded (output.set "parallel_outputs" shown) merged
  | .failed => return failed output stored
  | .paused => return paused output stored .paused

def executeParallelNode (env : Env) (calls : Calls) (run : WorkflowRun) (node : Json) (nodeId : String)
    (nodes vars : Dict Json) : Session NodeOutcome := do
  let config ← Prog.ofExcept (nodeConfig node)
  let parallel ← Prog.ofExcept (loadParallelState config nodeId vars)
  if parallel.plan.policy = "fail_fast" ∧ "failed" ∈ branchStatuses parallel.branches then
    (failedBranches parallel.branches).forM fun child => emit (.branchReused run.id nodeId child)
    Prog.ofExcept (finalizeParallel parallel config nodeId parallel.branches vars)
  else
    let branches ← visitBranches env calls run nodeId nodes vars parallel.plan parallel.children
      parallel.branches
    Prog.ofExcept (finalizeParallel parallel config nodeId branches vars)

variable (entry : Dict Json)

@[simp] theorem branchStatus_withResult (status : BranchStatus) (output : Dict Json) :
    branchStatus (withResult entry status output) = status.text := by
  have read : (withResult entry status output).get "status" = .str status.text := by
    rw [withResult, Dict.get_set_of_ne _ _ (by decide), Dict.get_set_self]
  rw [branchStatus, read]
  cases status <;> rfl

theorem withResult_output (status : BranchStatus) (output : Dict Json) :
    (withResult entry status output).get "output" = .obj output := Dict.get_set_self _ _ _

theorem withResult_other (status : BranchStatus) (output : Dict Json) {key : String}
    (apart : key ≠ "status" ∧ key ≠ "output") : (withResult entry status output).get key = entry.get key := by
  rw [withResult, Dict.get_set_of_ne _ _ (Ne.symm apart.2), Dict.get_set_of_ne _ _ (Ne.symm apart.1)]

end Troop.Workflow
