import Troop.Workflow.BranchResults
import Troop.Workflow.TestRuns

namespace Troop.Workflow

def BranchIs (nodeId child : String) (entry vars : Dict Json) : Prop :=
  ∃ state branches : Dict Json, storedState vars nodeId = .ok state ∧ state.get "branches" = .obj branches ∧
    branches.get child = .obj entry

structure ParkedBranch (entry : Dict Json) : Prop where
  paused : branchStatus entry = "paused"
  kind : entry.get "child_type" = .str "tool"
  clock : entry.get "delay" = .null

/-- The node is executed again after the run was resumed, with or without an approval. What else is
    stored may have changed in any way. -/
structure Resumed (env : Env) (calls : Calls) (node : Json) (nodeId : String) (nodes : Dict Json)
    (earlier later : NodeOutcome) : Prop where
  paused : earlier.pause = some .paused
  resumed : ∃ run given vars w middle start after,
    (grantedResume env run node given earlier.vars).exec w = (.ok vars, middle) ∧
      (executeParallelNode env calls run node nodeId nodes vars).exec start = (.ok later, after)

section ParkedBranch

variable {env : Env} {calls : Calls} {run : WorkflowRun} {nodeId child : String} {childNode node : Json}
  {nodes vars branches entry : Dict Json} {plan : JoinPlan}

theorem ParkedBranch.refresh (parked : ParkedBranch entry) (w : World) (found : Option Json) :
    (refreshParallelBranchStatus env run nodeId child entry found).exec w = (.ok entry, w) := by
  have read : Text.lower ((entry.get "child_type").pyOr ((found.getD .null).get "type")).strOrEmpty = "tool" := by
    have text : ((Json.str "tool").pyOr ((found.getD .null).get "type")).strOrEmpty = "tool" := by
      simp [Json.pyOr, Json.truthy, Json.strOrEmpty, Json.pyStr]
    rw [parked.kind, text]
    decide
  have clock : (entry.get "delay").truthy = false := by
    rw [parked.clock]
    rfl
  unfold refreshParallelBranchStatus
  simp only [read, clock]
  rfl

theorem ParkedBranch.stored (parked : ParkedBranch entry) (found : branches.get child = .obj entry) :
    storedBranch branches child = .ok entry := by
  unfold storedBranch
  rw [found]
  cases entry with
  | nil => exact absurd parked.kind (by simp [Dict.get])
  | cons first rest => rfl

theorem ParkedBranch.visit (parked : ParkedBranch entry) (found : branches.get child = .obj entry) (w : World) :
    (visitBranch env calls run nodeId nodes vars plan branches child).exec w =
      (.ok (branches.set child (.obj entry), false), ((emit (.branchReused run.id nodeId child)).exec w).2) := by
  unfold visitBranch refreshedBranch
  rw [parked.stored found]
  simp only [Prog.exec_bind, Prog.exec_ofExcept, onlyIf, if_true, parked.paused, parked.refresh]
  rfl

theorem ParkedBranch.kept (parked : ParkedBranch entry) (found : branches.get child = .obj entry) (other : String) :
    Yields (visitBranch env calls run nodeId nodes vars plan branches other) fun after =>
      after.1.get child = .obj entry := by
  by_cases same : other = child
  · subst same
    refine ⟨fun w value after ran => ?_⟩
    rw [parked.visit found] at ran
    cases ran
    exact Dict.get_set_self _ _ _
  · have other_ : ∀ (branches : Dict Json) (value : Json), branches.get child = .obj entry →
        (branches.set other value).get child = .obj entry := by
      intro branches value found
      rwa [Dict.get_set_of_ne _ _ same]
    apply Yields.next
    intro stored
    apply Yields.next
    intro _
    apply Yields.next
    intro refreshed
    have current : (if branchStatus stored = "paused" then branches.set other (.obj refreshed) else branches).get child =
        .obj entry := by
      split
      · exact other_ _ _ found
      · exact found
    apply Yields.ite
    · grind [Yields.next, Yields.pure]
    · intro _
      apply Yields.ite
      · exact fun _ => Yields.pure current
      · grind [Yields.next, Yields.pure]

theorem ParkedBranch.visits (parked : ParkedBranch entry) {children : List String} :
    ∀ {branches : Dict Json}, branches.get child = .obj entry →
      Yields (visitBranches env calls run nodeId nodes vars plan children branches) fun after =>
        after.get child = .obj entry := by
  induction children with
  | nil => exact fun found => Yields.pure found
  | cons first rest ih =>
    intro branches found
    apply Yields.bind (parked.kept found first)
    intro after held
    apply Yields.ite
    · exact fun _ => Yields.pure held
    · exact fun _ => ih held

variable {config : Dict Json} {parallel : ParallelState}

theorem finalizeParallel_branch {outcome : NodeOutcome}
    (finished : finalizeParallel parallel config nodeId branches vars = .ok outcome)
    (found : branches.get child = .obj entry) : BranchIs nodeId child entry outcome.vars := by
  refine ⟨_, branches, finalizeParallel_stored finished, ?_, found⟩
  rw [Dict.get_set_of_ne _ _ (by decide), Dict.get_set_self]

theorem loaded_branch (holds : BranchIs nodeId child entry vars)
    (loaded : loadParallelState config nodeId vars = .ok parallel) : parallel.branches.get child = .obj entry := by
  obtain ⟨state, branches, stored, listed, found⟩ := holds
  rcases loaded_from loaded with ⟨fresh, _⟩ | ⟨other, kept⟩
  · simp_all
  have same : other = state := Except.ok.inj (kept.stored.symm.trans stored)
  have entries := kept.branches
  rw [same, listed] at entries
  cases entries
  exact found

theorem ParkedBranch.executed (parked : ParkedBranch entry) (holds : BranchIs nodeId child entry vars) :
    Yields (executeParallelNode env calls run node nodeId nodes vars) fun outcome =>
      BranchIs nodeId child entry outcome.vars := by
  apply Yields.next
  intro config
  apply Yields.bind (@Yields.ofExcept World _ _ (fun parallel => parallel.branches.get child = .obj entry) _
    fun _ loaded => loaded_branch holds loaded)
  intro parallel found
  apply Yields.ite
  · intro _
    apply Yields.next
    intro _
    apply Yields.ofExcept
    exact fun outcome finished => finalizeParallel_branch finished found
  · intro _
    apply Yields.bind (parked.visits found)
    intro branches held
    apply Yields.ofExcept
    exact fun outcome finished => finalizeParallel_branch finished held

theorem grantedResume_parallel (typed : nodeType node = some .parallel) {given : Resumption} {resumed : Dict Json}
    {w after : World} (ran : (grantedResume env run node given vars).exec w = (.ok resumed, after)) : resumed = vars := by
  have text : nodeTypeText node = "parallel" := by
    unfold nodeType NodeType.ofText at typed
    split at typed <;> cases typed
    assumption
  have spec : Yields (grantedResume env run node given vars) fun resumed => resumed = vars := by
    unfold grantedResume
    simp only [text]
    apply Yields.ite
    · exact fun approval => absurd approval (by decide)
    intro _
    apply Yields.ite
    · exact fun tool => absurd tool.1 (by decide)
    intro _
    apply Yields.ite
    · exact fun human => absurd human (by decide)
    · intro _
      apply Yields.ite
      · exact fun _ => Yields.throw
      · exact fun _ => Yields.pure rfl
  exact spec.run _ _ _ ran

theorem Resumed.branch {earlier later : NodeOutcome} (resumed : Resumed env calls node nodeId nodes earlier later)
    (typed : nodeType node = some .parallel) (parked : ParkedBranch entry)
    (holds : BranchIs nodeId child entry earlier.vars) : BranchIs nodeId child entry later.vars := by
  obtain ⟨run, given, vars, w, middle, start, after, granted, ran⟩ := resumed.resumed
  rw [← grantedResume_parallel typed granted] at holds
  exact (parked.executed holds).run _ _ _ ran

theorem JoinExecuted.parked {earlier : NodeOutcome} (executed : JoinExecuted env calls node nodeId nodes earlier)
    (configured : nodeConfig node = .ok config) (here : nodes.get? child = some childNode)
    (tool : nodeType childNode = some .tool) (holds : BranchIs nodeId child entry earlier.vars)
    (paused : branchStatus entry = "paused") : ParkedBranch entry := by
  obtain ⟨vars, parallel, visited, ran, -⟩ := sourced_rule.executed configured executed
  obtain ⟨state, stored, listed, -⟩ := ran.stored
  obtain ⟨other, branches, read, members, found⟩ := holds
  rw [stored] at read
  cases read
  have same : branches = visited := Json.obj.inj (members.symm.trans listed)
  subst same
  obtain ⟨value, there⟩ : ∃ value, branches.get? child = some value := by
    cases present : branches.get? child with
    | some value => exact ⟨value, rfl⟩
    | none => simp [Dict.get, present] at found
  obtain ⟨own, equal, sourced⟩ := ran.branchwise _ (Dict.mem_of_get? there)
  have entry_ : own = entry := by simp_all [Dict.get, Option.getD_some, Json.obj.inj]
  subst entry_
  obtain ⟨node, type, there, typed, _, kind⟩ := sourced.paused paused
  rw [here] at there
  cases there
  rw [tool] at typed
  cases typed
  refine ⟨paused, kind, ?_⟩
  rcases sourced.clock with none | ⟨node, there, delayed⟩
  · exact none
  · simp_all

end ParkedBranch

/-- A tool branch whose tool asks for an approval is paused, and from then on nothing happens to it: the
    approval has no effect on it, its tool is not executed, and its entry stays as it is over any number
    of resumptions. -/
theorem approved_branches_never_run {env : Env} {calls : Calls} {node childNode : Json} {nodeId child : String}
    {nodes config : Dict Json} (configured : nodeConfig node = .ok config) (typed : nodeType node = some .parallel)
    (here : nodes.get? child = some childNode) (tool : nodeType childNode = some .tool) :
    (∀ run vars stored w outcome after, (executeToolNode env run childNode child vars).exec w = (.ok outcome, after) →
      outcome.pause = some .waitingApproval →
      ∃ entry, (startBranch env calls run nodeId child childNode stored vars).exec w = (.ok entry, after) ∧
        branchStatus entry = "paused" ∧ entry.get "output" = .obj outcome.output) ∧
    ∀ earlier entry, JoinExecuted env calls node nodeId nodes earlier → BranchIs nodeId child entry earlier.vars →
      branchStatus entry = "paused" →
      (∀ later, Relation.ReflTransGen (Resumed env calls node nodeId nodes) earlier later →
        BranchIs nodeId child entry later.vars) ∧
      ∀ run vars plan (branches : Dict Json) w, branches.get child = .obj entry →
        (visitBranch env calls run nodeId nodes vars plan branches child).exec w =
          (.ok (branches.set child (.obj entry), false), ((emit (.branchReused run.id nodeId child)).exec w).2) := by
  constructor
  · intro run vars stored w outcome after ran asked
    have simple : executeSimpleNode env run childNode child vars = executeToolNode env run childNode child vars := by
      rw [executeSimpleNode, tool]
    have status : outcomeBranchStatus outcome = .paused := by
      simp [outcomeBranchStatus, asked]
    refine ⟨(withResult stored .paused outcome.output).set "child_type" (.str (nodeTypeText childNode)), ?_, ?_, ?_⟩
    · unfold startBranch
      rw [tool]
      rw [simple, Prog.exec_bind, ran]
      simp_all
    · have read : branchStatus (withResult stored .paused outcome.output) = "paused" := branchStatus_withResult _ _ _
      rw [branchStatus, Dict.get_set_of_ne _ _ (by decide)]
      exact read
    · rw [Dict.get_set_of_ne _ _ (by decide), withResult_output]
  · intro earlier entry executed holds paused
    have parked := executed.parked configured here tool holds paused
    constructor
    · intro later resumed
      induction resumed with
      | refl => exact holds
      | tail _ again ih => exact again.branch typed parked ih
    · exact fun run vars plan branches w found => parked.visit found w

def askingTool (call : ToolCall) : Dict Json :=
  [("status", .str (if (call.context.get "approval_granted").truthy then "ok" else "approval_required"))]

def askingEnv : Env := { stillEnv with executeTool := fun _ call => .ok (askingTool call) }

def askingJoin : Json := plainNode "join" "parallel" [("children", .arr [.str "a"])]

def askedJoin : Except PyError NodeOutcome × World :=
  (executeParallelNode askingEnv idleCalls default askingJoin "join" [("a", mailNode)] []).exec {}

theorem askedJoin_stays :
    ∃ outcome after entry, askedJoin = (.ok outcome, after) ∧ branchStatus entry = "paused" ∧
      ∀ later, Relation.ReflTransGen (Resumed askingEnv idleCalls askingJoin "join" [("a", mailNode)]) outcome later →
        BranchIs "join" "a" entry later.vars := by
  obtain ⟨outcome, after, entry, ran, holds, paused⟩ : ∃ outcome after, ∃ entry : Dict Json,
      askedJoin = (.ok outcome, after) ∧ BranchIs "join" "a" entry outcome.vars ∧ branchStatus entry = "paused" :=
    ⟨_, _, _, rfl, ⟨_, _, rfl, rfl, rfl⟩, rfl⟩
  have never := (approved_branches_never_run (by rfl : nodeConfig askingJoin = .ok [("children", .arr [.str "a"])]) rfl rfl
    rfl).2 outcome entry (.first rfl ran) holds paused
  exact ⟨outcome, after, entry, ran, paused, never.1⟩

def asking : WorkflowVersion := published "asking" [askingJoin, mailNode] [] "join"

def joinedWorld : World := World.after askingEnv (publishing asking ++ [.start (startOf "asking" []) "dev"]) {}

def askedApproval : ApprovalRequest :=
  { ((joinedWorld.db.approvals.get? "rr").getD default) with status := .approved }

def decidedWorld : World :=
  World.after askingEnv [.changed (.approval askedApproval), .approvalDecided "rr" true] joinedWorld

def runVars (w : World) : Option (RunStatus × Dict Json) :=
  (w.db.runs.get? "r").map fun run => (run.status, run.contextJson.vars)

theorem approval_of_branch_changes_nothing :
    Run askingEnv .any decidedWorld ∧
      (decidedWorld.db.approvals.get? "rr").map (·.status) = some .approved ∧
      runVars decidedWorld = runVars joinedWorld ∧ (runVars decidedWorld).map Prod.fst = some .paused ∧
      decidedWorld.log = [.stepFinished "r" "join" "parallel" .paused, .branchReused "r" "join" "a",
        .stepStarted "r" asking "join" .resumed (((runVars joinedWorld).map Prod.snd).getD [])] ++ joinedWorld.log := by
  have started : Run askingEnv .any joinedWorld :=
    Run.init.after (publishing_possible trivial trivial ⟨trivial, trivial, trivial⟩)
  exact ⟨started.after ⟨trivial, trivial, trivial, trivial, trivial⟩, by decide +kernel, by decide +kernel,
    by decide +kernel, by decide +kernel⟩

end Troop.Workflow
