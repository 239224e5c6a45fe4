import Troop.Workflow.Joins

namespace Troop.Workflow

open List
open Dict (get_set_of_ne get_set_self)
open Json (pyOr pyStr str strOrEmpty truthy)
open Yields (bind)
open Prog (exec_bind_split exec_ofExcept_split)

def pendingEntry : Dict Json := [("status", .str "pending"), ("output", .obj [])]

def Branchwise (P : String → Dict Json → Prop) (branches : Dict Json) : Prop :=
  ∀ branch ∈ branches, ∃ entry, branch.2 = .obj entry ∧ P branch.1 entry

structure BranchRule (env : Env) (calls : Calls) (nodeId : String) (nodes : Dict Json)
    (P : String → Dict Json → Prop) : Prop where
  pending : ∀ child, P child pendingEntry
  refreshed : ∀ run child stored, P child stored → branchStatus stored = "paused" →
    Yields (refreshParallelBranchStatus env run nodeId child stored (nodes.get? child)) (P child)
  started : ∀ run child entry vars, P child entry → branchStatus entry ∉ keptStatuses →
    Yields (startedBranch env calls run nodeId child (nodes.get? child) entry vars) (P child)

section Rule

variable {env : Env} {calls : Calls} {run : WorkflowRun} {nodeId : String} {nodes vars branches : Dict Json}
  {P : String → Dict Json → Prop} {plan : JoinPlan}

theorem Branchwise.set {child : String} {entry : Dict Json} (holds : Branchwise P branches) (given : P child entry) :
    Branchwise P (branches.set child (.obj entry)) := by
  intro branch member
  rcases Dict.mem_set member with rfl | old
  · exact ⟨entry, rfl, given⟩
  · exact holds branch old

theorem Branchwise.stored {child : String} {stored : Dict Json} (holds : Branchwise P branches)
    (pending : ∀ child, P child pendingEntry) (found : storedBranch branches child = .ok stored) : P child stored := by
  unfold storedBranch at found
  cases present : branches.get? child with
  | none =>
    have absent : branches.get child = .null := by rw [Dict.get, present]; rfl
    rw [absent] at found
    cases found
    exact pending child
  | some value =>
    obtain ⟨entry, same, given⟩ := holds _ (Dict.mem_of_get? present)
    have read : branches.get child = .obj entry := by rwa [Dict.get, present]
    rw [read] at found
    cases entry with
    | nil =>
      cases found
      exact pending child
    | cons first rest =>
      cases found
      exact given

theorem BranchRule.visit (rule : BranchRule env calls nodeId nodes P) (holds : Branchwise P branches) (child : String) :
    Yields (visitBranch env calls run nodeId nodes vars plan branches child) fun after => Branchwise P after.1 := by
  apply bind (@Yields.ofExcept World _ _ (P child) _ fun stored found => holds.stored rule.pending found)
  intro stored given
  apply Yields.next
  intro _
  have fresh : Yields (refreshedBranch env run nodeId child stored (nodes.get? child)) fun entry =>
      P child entry := by
    apply Yields.ite
    · exact fun waiting => rule.refreshed run child stored given waiting
    · exact fun _ => Yields.pure given
  apply bind fresh
  intro entry refreshed
  have current : Branchwise P (if branchStatus stored = "paused" then branches.set child (.obj entry) else branches) := by
    split
    · exact holds.set refreshed
    · exact holds
  apply Yields.ite
  · grind [Yields.next, Yields.pure]
  intro unended
  apply Yields.ite
  · exact fun _ => Yields.pure current
  intro unpaused
  have waiting : branchStatus entry ∉ keptStatuses := by
    simp only [keptStatuses, mem_cons, not_mem_nil, or_false]
    exact fun kept => by
      rcases kept with good | bad | paused
      · exact unended (.inl good)
      · exact unended (.inr bad)
      · exact unpaused paused
  apply bind (rule.started run child entry vars refreshed waiting)
  intro started given
  apply Yields.next
  exact fun early => Yields.pure (current.set given)

theorem BranchRule.visits (rule : BranchRule env calls nodeId nodes P) {children : List String} :
    ∀ {branches : Dict Json}, Branchwise P branches →
      Yields (visitBranches env calls run nodeId nodes vars plan children branches) fun after => Branchwise P after := by
  induction children with
  | nil => exact fun holds => Yields.pure holds
  | cons child rest ih =>
    intro branches holds
    apply bind (rule.visit holds child)
    intro after given
    apply Yields.ite
    · exact fun _ => Yields.pure given
    · exact fun _ => ih given

end Rule

def configuredMerge (config : Dict Json) : String :=
  normalizePolicy ((config.get "merge_policy").pyOr ((config.get "merge").pyOr (.str "namespaced"))).pyStr "namespaced"

structure ParallelRun (P : String → Dict Json → Prop) (config vars : Dict Json) (nodeId : String)
    (parallel : ParallelState) (branches : Dict Json) (outcome : NodeOutcome) : Prop where
  loaded : loadParallelState config nodeId vars = .ok parallel
  branchwise : Branchwise P branches
  finished : finalizeParallel parallel config nodeId branches vars = .ok outcome

theorem loaded_children {config vars : Dict Json} {nodeId : String} {parallel : ParallelState} {children : List Json}
    (listed : (config.get "children").toList = .ok children)
    (loaded : loadParallelState config nodeId vars = .ok parallel) : parallel.children = children.map Json.pyStr := by
  obtain ⟨⟨policy, n⟩, _, loaded⟩ := except_bind_ok loaded
  obtain ⟨found, read, loaded⟩ := except_bind_ok loaded
  rw [listed] at read
  cases read
  obtain ⟨all, _, loaded⟩ := except_bind_ok loaded
  obtain ⟨state, _, loaded⟩ := except_bind_ok loaded
  split at loaded
  · cases loaded
    rfl
  · cases n <;> dsimp only at loaded <;> split at loaded
    all_goals
      obtain ⟨_, _, loaded⟩ := except_bind_ok loaded
      obtain ⟨_, _, loaded⟩ := except_bind_ok loaded
      cases loaded
      rfl

theorem BranchRule.execute {env : Env} {calls : Calls} {run : WorkflowRun} {nodeId : String} {nodes vars : Dict Json}
    {P : String → Dict Json → Prop} {node : Json} {config : Dict Json} (rule : BranchRule env calls nodeId nodes P)
    (configured : nodeConfig node = .ok config)
    (loads : ∀ parallel, loadParallelState config nodeId vars = .ok parallel → Branchwise P parallel.branches) :
    Yields (executeParallelNode env calls run node nodeId nodes vars) fun outcome =>
      ∃ parallel branches, ParallelRun P config vars nodeId parallel branches outcome := by
  unfold executeParallelNode
  rw [configured]
  apply bind (@Yields.ofExcept World _ _ (fun read => read = config) _ fun read same => (Except.ok.inj same).symm)
  rintro read rfl
  apply bind
    (@Yields.ofExcept World _ _ (fun parallel => loadParallelState read nodeId vars = .ok parallel) _ fun _ same => same)
  intro parallel loaded
  apply Yields.ite
  · intro _
    apply Yields.next
    intro _
    apply Yields.ofExcept
    exact fun outcome finished => ⟨parallel, _, loaded, loads parallel loaded, finished⟩
  · intro _
    apply bind (rule.visits (loads parallel loaded))
    intro branches holds
    apply Yields.ofExcept
    exact fun outcome finished => ⟨parallel, branches, loaded, holds, finished⟩

section Executions

variable {env : Env} {calls : Calls} {node : Json} {nodeId : String} {nodes vars config branches : Dict Json}
  {P : String → Dict Json → Prop} {parallel : ParallelState} {outcome : NodeOutcome}

theorem initialBranches_wise (pending : ∀ child, P child pendingEntry) (children : List String) :
    Branchwise P (initialBranches children) := by
  have general : ∀ (children : List String) (branches : Dict Json), Branchwise P branches →
      Branchwise P (children.foldl (fun branches child => Dict.set branches child (.obj pendingEntry)) branches) := by
    intro children
    induction children with
    | nil => exact fun _ holds => holds
    | cons first rest ih => exact fun branches holds => ih _ (holds.set (pending first))
  exact general children [] (by simp [Branchwise])

structure Found (config vars : Dict Json) (nodeId : String) (parallel : ParallelState) (state : Dict Json) : Prop where
  stored : storedState vars nodeId = .ok state
  present : state ≠ []
  branches : (state.get "branches").toDict = .ok parallel.branches
  merge : ∀ merge, state.get "merge_policy" = .str merge → merge ≠ "" →
    parallel.mergePolicy = normalizePolicy merge "namespaced"

theorem loaded_from (loaded : loadParallelState config nodeId vars = .ok parallel) :
    (storedState vars nodeId = .ok [] ∧ parallel.branches = initialBranches parallel.children ∧
      parallel.mergePolicy = configuredMerge config) ∨ ∃ state, Found config vars nodeId parallel state := by
  obtain ⟨⟨policy, n⟩, parsed, loaded⟩ := except_bind_ok loaded
  obtain ⟨children, listed, loaded⟩ := except_bind_ok loaded
  obtain ⟨all, read, loaded⟩ := except_bind_ok loaded
  obtain ⟨state, found, loaded⟩ := except_bind_ok loaded
  have stored : storedState vars nodeId = .ok state := by rwa [storedState, read]
  have merged : ∀ (value : Json) (after : Dict Json) (merge : String),
      after.get "merge_policy" =
        (setDefault (setDefault state "join_policy" (.str policy)) "merge_policy" value).get "merge_policy" →
      state.get "merge_policy" = .str merge → merge ≠ "" →
      normalizePolicy ((after.get "merge_policy").pyOr value).strOrEmpty "namespaced" =
        normalizePolicy merge "namespaced" := by
    intro value after merge same named nonempty
    have kept : (setDefault state "join_policy" (.str policy)).get "merge_policy" = .str merge :=
      (setDefault_other _ (by decide)).trans named
    have present : after.get "merge_policy" = .str merge := by
      rw [same, setDefault_present _ (by simp [kept]), kept]
    have text : ((str merge).pyOr value).strOrEmpty = merge := by
      simp [pyOr, truthy, nonempty, strOrEmpty, pyStr]
    rw [present, text]
  split at loaded
  · rename_i empty
    have none := isEmpty_iff.mp empty
    subst none
    cases loaded
    exact .inl ⟨stored, rfl, rfl⟩
  · rename_i full
    have present : state ≠ [] := fun none => full (by rw [none]; rfl)
    cases n with
    | none =>
      dsimp only at loaded
      split at loaded
      all_goals
        obtain ⟨kept, _, loaded⟩ := except_bind_ok loaded
        obtain ⟨branches, entries, loaded⟩ := except_bind_ok loaded
        cases loaded
        refine .inr ⟨state, stored, present, ?_, fun merge named nonempty => merged _ _ merge rfl named nonempty⟩
        rw [← entries, setDefault_other _ (by decide), setDefault_other _ (by decide)]
    | some n =>
      dsimp only at loaded
      split at loaded
      all_goals
        obtain ⟨kept, _, loaded⟩ := except_bind_ok loaded
        obtain ⟨branches, entries, loaded⟩ := except_bind_ok loaded
        cases loaded
        refine .inr ⟨state, stored, present, ?_,
          fun merge named nonempty => merged _ _ merge (get_set_of_ne _ _ (by decide)) named nonempty⟩
        rw [← entries, get_set_of_ne _ _ (by decide), setDefault_other _ (by decide), setDefault_other _ (by decide)]

theorem ParallelRun.stored (ran : ParallelRun P config vars nodeId parallel branches outcome) :
    ∃ state, storedState outcome.vars nodeId = .ok state ∧ state.get "branches" = .obj branches ∧
      state.get "merge_policy" = .str parallel.mergePolicy := by
  refine ⟨_, finalizeParallel_stored ran.finished, ?_, get_set_self _ _ _⟩
  rw [get_set_of_ne _ _ (by decide), get_set_self]

theorem BranchRule.executed (rule : BranchRule env calls nodeId nodes P) (configured : nodeConfig node = .ok config)
    (executed : JoinExecuted env calls node nodeId nodes outcome) :
    ∃ vars parallel branches, ParallelRun P config vars nodeId parallel branches outcome ∧
      (configuredMerge config = "namespaced" → parallel.mergePolicy = "namespaced") := by
  induction executed with
  | @first run vars w after outcome fresh ran =>
    have loads : ∀ parallel, loadParallelState config nodeId vars = .ok parallel →
        Branchwise P parallel.branches ∧ parallel.mergePolicy = configuredMerge config := by
      intro parallel loaded
      rcases loaded_from loaded with ⟨_, same, merge⟩ | ⟨state, found⟩
      · rw [same]
        exact ⟨initialBranches_wise rule.pending _, merge⟩
      · have none : state = [] := Except.ok.inj (found.stored.symm.trans fresh)
        exact absurd none found.present
    obtain ⟨parallel, branches, done⟩ :=
      (rule.execute configured fun parallel loaded => (loads parallel loaded).1).run _ _ _ ran
    exact ⟨vars, parallel, branches, done, fun named => (loads parallel done.loaded).2.trans named⟩
  | @again earlier run vars w after outcome executed paused kept ran ih =>
    obtain ⟨_, previous, before, last, named⟩ := ih
    obtain ⟨state, stored, held, merge⟩ := last.stored
    have loads : ∀ parallel, loadParallelState config nodeId vars = .ok parallel →
        Branchwise P parallel.branches ∧ (configuredMerge config = "namespaced" → parallel.mergePolicy = "namespaced") := by
      intro parallel loaded
      rcases loaded_from loaded with ⟨fresh, _⟩ | ⟨other, found⟩
      · simp_all
      have same : other = state := Except.ok.inj (found.stored.symm.trans (kept.trans stored))
      rw [same] at found
      have entries := found.branches
      rw [held] at entries
      cases entries
      refine ⟨last.branchwise, fun configured => ?_⟩
      rw [named configured] at merge
      rw [found.merge _ merge (by decide)]
      decide
    obtain ⟨parallel, branches, done⟩ :=
      (rule.execute configured fun parallel loaded => (loads parallel loaded).1).run _ _ _ ran
    exact ⟨vars, parallel, branches, done, (loads parallel done.loaded).2⟩

end Executions

section Merging

variable {branches config : Dict Json} {nodeId : String}

theorem succeededOutputs_spec {children : List String} :
    ∀ {outputs : List (String × Json)}, succeededOutputs branches children = .ok outputs →
      (∀ output ∈ outputs, ∃ entry out, (branches.get output.1).toDict = .ok entry ∧
        (entry.get "output").toDict = .ok out ∧ output.2 = .obj out) ∧
      ∀ child ∈ children, ∀ entry, (branches.get child).toDict = .ok entry →
        (entry.get "status").strOrEmpty = "succeeded" → ∃ output ∈ outputs, output.1 = child := by
  induction children with
  | nil =>
    intro outputs ran
    cases ran
    simp
  | cons first rest ih =>
    intro outputs ran
    obtain ⟨entry, read, ran⟩ := except_bind_ok ran
    obtain ⟨others, tail, ran⟩ := except_bind_ok ran
    obtain ⟨sound, complete⟩ := ih tail
    split at ran
    · cases ran
      refine ⟨sound, fun child member other found succeeded => ?_⟩
      rcases mem_cons.mp member with rfl | later
      · simp_all
      · exact complete child later other found succeeded
    · obtain ⟨out, given, ran⟩ := except_bind_ok ran
      cases ran
      constructor
      · intro output member
        rcases mem_cons.mp member with rfl | later
        · exact ⟨entry, out, read, given, rfl⟩
        · exact sound output later
      · intro child member other found succeeded
        rcases mem_cons.mp member with rfl | later
        · exact ⟨_, mem_cons_self, rfl⟩
        · simp_all

variable {outputs : List (String × Json)}

theorem foldl_set_get {key : String} {value : Json} (only : ∀ output ∈ outputs, output.1 = key → output.2 = value) :
    ∀ named : Dict Json, ((∃ output ∈ outputs, output.1 = key) ∨ named.get? key = some value) →
      (outputs.foldl (fun named out => Dict.set named out.1 out.2) named).get? key = some value := by
  induction outputs with
  | nil => simp
  | cons first rest ih =>
    intro named given
    apply ih fun output member => only output (mem_cons_of_mem _ member)
    by_cases same : first.1 = key
    · simp_all
    rcases given with ⟨output, member, named_⟩ | held
    · rcases mem_cons.mp member with rfl | later
      · exact absurd named_ same
      · exact .inl ⟨output, later, named_⟩
    · rw [Dict.get?_set_of_ne _ _ same]
      exact .inr held

theorem mergedOutputs_namespaced {merged : Json} (ran : mergedOutputs "namespaced" config branches outputs = .ok merged) :
    merged = .obj (outputs.foldl (fun named out => Dict.set named out.1 out.2) []) := by
  exact (Except.ok.inj ran).symm

theorem finalizeParallel_outputs {parallel : ParallelState} {vars entry out : Dict Json} {outcome : NodeOutcome}
    (finished : finalizeParallel parallel config nodeId branches vars = .ok outcome)
    (passed : outcome.status = .succeeded) (namespaced : parallel.mergePolicy = "namespaced")
    {child : String} (listed : child ∈ parallel.children) (found : branches.get child = .obj entry)
    (succeeded : (entry.get "status").strOrEmpty = "succeeded") (held : entry.get "output" = .obj out) :
    ((outcome.vars.get "parallel_outputs").get nodeId).get child = .obj out := by
  obtain ⟨joined, _, finished⟩ := except_bind_ok finished
  cases joined with
  | succeeded =>
    obtain ⟨merged, applied, finished⟩ := except_bind_ok finished
    cases finished
    obtain ⟨outputs, collected, applied⟩ := except_bind_ok applied
    obtain ⟨all, _, applied⟩ := except_bind_ok applied
    obtain ⟨value, joins, applied⟩ := except_bind_ok applied
    cases applied
    rw [namespaced, show normalizePolicy "namespaced" "namespaced" = "namespaced" by decide] at joins
    rw [mergedOutputs_namespaced joins]
    show (Json.get (Dict.get (Dict.set _ "parallel_outputs" _) "parallel_outputs") nodeId).get child = _
    rw [get_set_self]
    show Json.get (Dict.get (all.set nodeId _) nodeId) child = _
    rw [get_set_self]
    obtain ⟨sound, complete⟩ := succeededOutputs_spec collected
    have read : (branches.get child).toDict = .ok entry := by rw [found]; rfl
    have only : ∀ output ∈ outputs, output.1 = child → output.2 = .obj out := by
      intro output member same
      obtain ⟨other, given, reads, reads_, equal⟩ := sound output member
      rw [same, read] at reads
      cases reads
      rw [held] at reads_
      cases reads_
      exact equal
    have set := foldl_set_get only [] (.inl (complete child listed entry read succeeded))
    show (Dict.get? (outputs.foldl (fun named out => Dict.set named out.1 out.2) []) child).getD .null = _
    rw [set]
    rfl
  | _ =>
    cases finished
    cases passed

end Merging

inductive BranchResult where
  | executed (run : WorkflowRun) (vars : Dict Json) (w : World) (outcome : NodeOutcome)
  | taskRun (id : String) (row : TaskRun)
  | childRun (id : String) (status : RunStatus)
  | elapsed (output : Dict Json)

def BranchResult.output : BranchResult → Dict Json
  | .executed _ _ _ outcome => outcome.output
  | .taskRun id row => taskRunOutput id row
  | .childRun id status => childRunOutput id status
  | .elapsed output => output

def runBranch (env : Env) (calls : Calls) (run : WorkflowRun) (nodeId childId : String) (childNode : Json)
    (type : NodeType) (vars : Dict Json) : Session NodeOutcome :=
  match type with
  | .agent => executeAgentNode env run childNode childId ⟨nodeId, some childId⟩ vars
  | .subworkflow => executeSubworkflowNode env calls run childNode childId ⟨nodeId, some childId⟩ vars
  | _ => executeSimpleNode env run childNode childId vars

inductive FinishedAs (env : Env) (calls : Calls) (nodeId childId : String) (childNode : Json) :
    NodeType → BranchResult → Prop
  | executed {type : NodeType} {run : WorkflowRun} {vars : Dict Json} {w after : World} {outcome : NodeOutcome}
      (ran : (runBranch env calls run nodeId childId childNode type vars).exec w = (.ok outcome, after))
      (done : outcomeBranchStatus outcome = .succeeded) :
      FinishedAs env calls nodeId childId childNode type (.executed run vars w outcome)
  | taskRun {w : World} {id : String} {row : TaskRun} (found : w.db.taskRuns.get? id = some row)
      (completed : row.status = .completed) :
      FinishedAs env calls nodeId childId childNode .agent (.taskRun id row)
  | childRun {w : World} {id : String} {row : WorkflowRun} (found : w.db.runs.get? id = some row)
      (completed : row.status = .completed) :
      FinishedAs env calls nodeId childId childNode .subworkflow (.childRun id row.status)
  | elapsed {output : Dict Json} : FinishedAs env calls nodeId childId childNode .delay (.elapsed output)

/-- `child_type` of the entry of a started branch. -/
def trackedKind : NodeType → String
  | .agent => "task_run"
  | .subworkflow => "workflow_run"
  | .delay => "delay"
  | .tool => "tool"
  | .skill => "skill"
  | .condition => "condition"
  | .trigger => "trigger"
  | _ => ""

structure Sourced (env : Env) (calls : Calls) (nodeId : String) (nodes : Dict Json) (childId : String)
    (entry : Dict Json) : Prop where
  paused : branchStatus entry = "paused" → ∃ childNode type, nodes.get? childId = some childNode ∧
    nodeType childNode = some type ∧ trackedKind type ≠ "" ∧ entry.get "child_type" = .str (trackedKind type)
  succeeded : branchStatus entry = "succeeded" → ∃ childNode type result, nodes.get? childId = some childNode ∧
    nodeType childNode = some type ∧ FinishedAs env calls nodeId childId childNode type result ∧
    entry.get "output" = .obj result.output
  clock : entry.get "delay" = .null ∨ ∃ childNode, nodes.get? childId = some childNode ∧ nodeType childNode = some .delay

section Sources

variable {env : Env} {calls : Calls} {run : WorkflowRun} {nodeId childId : String} {nodes vars entry : Dict Json}

theorem pendingEntry_sourced (childId : String) : Sourced env calls nodeId nodes childId pendingEntry :=
  ⟨fun paused => absurd paused (by decide), fun succeeded => absurd succeeded (by decide), .inl rfl⟩

variable {type : NodeType}

theorem nodeTypeText_tracked {node : Json} (typed : nodeType node = some type)
    (simple : type ∈ [.tool, .skill, .condition, .trigger]) : nodeTypeText node = trackedKind type := by
  unfold nodeType NodeType.ofText at typed
  split at typed <;> cases typed <;> first | assumption | (simp at simple)

theorem failedEntry_sourced (given : Sourced env calls nodeId nodes childId entry) (message : String) :
    Sourced env calls nodeId nodes childId (failedEntry entry message) := by
  have status : branchStatus (failedEntry entry message) = "failed" := branchStatus_withResult _ _ _
  refine ⟨?_, ?_, ?_⟩
  · simp [status]
  · simp [status]
  · rw [failedEntry, withResult_other _ _ _ (by decide)]
    exact given.clock

theorem withResult_sourced {childNode : Json} (given : Sourced env calls nodeId nodes childId entry)
    (here : nodes.get? childId = some childNode) (typed : nodeType childNode = some type) (tracked : trackedKind type ≠ "")
    (kind : entry.get "child_type" = .str (trackedKind type)) (status : BranchStatus) (result : BranchResult)
    (finished : status = .succeeded → FinishedAs env calls nodeId childId childNode type result) :
    Sourced env calls nodeId nodes childId (withResult entry status result.output) := by
  refine ⟨?_, ?_, ?_⟩
  · intro _
    refine ⟨childNode, type, here, typed, tracked, ?_⟩
    rw [withResult_other _ _ _ (by decide)]
    exact kind
  · intro succeeded
    rw [branchStatus_withResult] at succeeded
    have good : status = .succeeded := by cases status <;> first | rfl | (revert succeeded; decide)
    exact ⟨childNode, type, result, here, typed, finished good, withResult_output _ _ _⟩
  · rw [withResult_other _ _ _ (by decide)]
    exact given.clock

theorem taskBranchStatus_succeeded {status : TaskStatus} (good : taskBranchStatus status = .succeeded) :
    status = .completed := by
  unfold taskBranchStatus at good
  split at good
  · assumption
  · split at good <;> cases good

theorem runBranchStatus_succeeded {status : RunStatus} (good : runBranchStatus status = .succeeded) :
    status = .completed := by
  unfold runBranchStatus at good
  split at good
  · assumption
  · split at good <;> cases good

theorem refreshed_sourced (given : Sourced env calls nodeId nodes childId entry) (waiting : branchStatus entry = "paused") :
    Yields (refreshParallelBranchStatus env run nodeId childId entry (nodes.get? childId))
      (Sourced env calls nodeId nodes childId) := by
  obtain ⟨childNode, type, here, typed, tracked, kind⟩ := given.paused waiting
  have read : ((entry.get "child_type").pyOr (((nodes.get? childId).getD .null).get "type")).strOrEmpty = trackedKind type := by
    rw [kind]
    simp [pyOr, truthy, tracked, strOrEmpty, pyStr]
  have still : Yields (Pure.pure entry : Session (Dict Json)) (Sourced env calls nodeId nodes childId) := Yields.pure given
  have unclocked : type ≠ .delay → (entry.get "delay").truthy = false := by
    rcases given.clock with none | ⟨node, there, delayed⟩ <;> simp_all
  unfold refreshParallelBranchStatus
  rw [read]
  apply Yields.next
  intro w
  apply Yields.ite
  · intro agent
    have own : type = .agent := by
      cases type <;> first | rfl | (revert agent; decide)
    subst own
    split
    · exact still
    rename_i row found
    apply Yields.next
    intro _
    apply Yields.next
    intro _
    apply Yields.pure
    exact withResult_sourced given here typed tracked kind _ (.taskRun _ row) fun good =>
      .taskRun found (taskBranchStatus_succeeded good)
  · intro _
    apply Yields.ite
    · intro subworkflow
      have own : type = .subworkflow := by
        cases type <;> first | rfl | (revert subworkflow; decide)
      subst own
      split
      · exact still
      rename_i row found
      apply Yields.next
      intro _
      apply Yields.next
      intro _
      apply Yields.pure
      exact withResult_sourced given here typed tracked kind _ (.childRun _ row.status) fun good =>
        .childRun found (runBranchStatus_succeeded good)
    · intro _
      apply Yields.ite
      · intro clocked
        have own : type = .delay := by
          by_contra other
          rcases clocked with text | clock
          · cases type <;> first | exact other rfl | (revert text; decide)
          · simp [unclocked other] at clock
        subst own
        apply Yields.next
        intro delay
        apply Yields.ite
        · intro _
          apply Yields.next
          intro moment
          apply Yields.ite
          · intro _
            apply Yields.next
            intro _
            apply Yields.pure
            exact withResult_sourced given here typed tracked kind _ (.elapsed _) fun _ => .elapsed
          · intro _
            apply Yields.pure
            have status : branchStatus (entry.set "status" (.str "paused")) = "paused" := by
              rw [branchStatus, get_set_self]
              rfl
            refine ⟨fun _ => ⟨childNode, .delay, here, typed, tracked, ?_⟩, fun succeeded => ?_, ?_⟩
            · simp_all [get_set_of_ne]
            · simp [status] at succeeded
            · simp_all
        · exact fun _ => still
      · exact fun _ => still

theorem outcomeBranchStatus_succeeded {status : BranchStatus} (good : status.text = "succeeded") : status = .succeeded := by
  cases status <;> first | rfl | (revert good; decide)

theorem started_entry {childNode : Json} {outcome : NodeOutcome} {w after : World}
    (here : nodes.get? childId = some childNode) (typed : nodeType childNode = some type) (tracked : trackedKind type ≠ "")
    (ran : (runBranch env calls run nodeId childId childNode type vars).exec w = (.ok outcome, after))
    (status : entry.get "status" = .str (outcomeBranchStatus outcome).text)
    (output : entry.get "output" = .obj outcome.output) (kind : entry.get "child_type" = .str (trackedKind type))
    (clock : entry.get "delay" = .null ∨ ∃ childNode, nodes.get? childId = some childNode ∧ nodeType childNode = some .delay) :
    Sourced env calls nodeId nodes childId entry := by
  have read : branchStatus entry = (outcomeBranchStatus outcome).text := by
    rw [branchStatus, status]
    cases outcomeBranchStatus outcome <;> rfl
  refine ⟨fun _ => ⟨childNode, type, here, typed, tracked, kind⟩, fun succeeded => ?_, clock⟩
  rw [read] at succeeded
  exact ⟨childNode, type, .executed run vars w outcome, here, typed, .executed ran (outcomeBranchStatus_succeeded succeeded), output⟩

theorem started_sourced (given : Sourced env calls nodeId nodes childId entry) :
    Yields (startedBranch env calls run nodeId childId (nodes.get? childId) entry vars)
      (Sourced env calls nodeId nodes childId) := by
  apply Yields.next
  intro _
  cases here : nodes.get? childId with
  | none => exact Yields.pure (failedEntry_sourced given _)
  | some childNode =>
    dsimp only
    unfold startBranch
    cases typed : nodeType childNode with
    | none => exact Yields.pure (failedEntry_sourced given _)
    | some type =>
      have executed : ∀ {program : Session NodeOutcome} {next : NodeOutcome → Session (Dict Json)},
          (∀ w outcome after, program.exec w = (.ok outcome, after) →
            Yields (next outcome) (Sourced env calls nodeId nodes childId)) →
          Yields (program >>= next) (Sourced env calls nodeId nodes childId) := by
        intro program next good
        refine ⟨fun w value after ran => ?_⟩
        rw [Prog.exec_bind] at ran
        cases first : program.exec w with
        | mk result middle =>
          rw [first] at ran
          cases result with
          | error error => cases ran
          | ok outcome => exact (good w outcome middle first).run _ _ _ ran
      cases type with
      | delay =>
        have clock : ∃ childNode, nodes.get? childId = some childNode ∧ nodeType childNode = some .delay :=
          ⟨childNode, here, typed⟩
        apply Yields.next
        intro config
        apply Yields.next
        intro seconds
        apply Yields.ite
        · intro _
          apply Yields.next
          intro _
          apply Yields.pure
          refine ⟨fun paused => absurd paused (by decide), fun _ => ?_, .inr clock⟩
          exact ⟨childNode, .delay, .elapsed _, here, typed, .elapsed, rfl⟩
        · intro _
          apply Yields.next
          intro w
          apply Yields.next
          intro _
          apply Yields.next
          intro _
          apply Yields.pure
          refine ⟨fun _ => ⟨childNode, .delay, here, typed, by decide, rfl⟩, fun succeeded => ?_, .inr clock⟩
          exact absurd succeeded (by simp [branchStatus, Dict.get, Dict.get?_cons, pyOr, truthy, strOrEmpty, pyStr])
      | tool | skill | condition | trigger =>
        apply executed
        intro w outcome after ran
        apply Yields.pure
        apply started_entry here typed (by decide) ran
        · rw [get_set_of_ne _ _ (by decide), withResult, get_set_of_ne _ _ (by decide), get_set_self]
        · rw [get_set_of_ne _ _ (by decide), withResult_output]
        · rw [get_set_self, nodeTypeText_tracked typed (by decide)]
        · rw [get_set_of_ne _ _ (by decide), withResult_other _ _ _ (by decide)]
          exact given.clock
      | router | parallel | approval | humanInput => exact Yields.pure (failedEntry_sourced given _)
      | _ =>
        apply executed
        intro w outcome after ran
        exact Yields.pure (started_entry here typed (by decide) ran rfl rfl rfl (.inl rfl))

theorem sourced_rule : BranchRule env calls nodeId nodes (Sourced env calls nodeId nodes) where
  pending := pendingEntry_sourced
  refreshed _ _ _ given waiting := refreshed_sourced given waiting
  started _ _ _ _ given _ := started_sourced given

end Sources

/-- The same node on an ordinary path, when it comes to the same result: executed on the same vars in
    the same world, or executed once its TaskRun or its child run has ended. -/
inductive Sequentially (env : Env) (calls : Calls) (childId : String) (childNode : Json) :
    BranchResult → NodeOutcome → Prop
  | executed {frame : Frame} {w after : World} {outcome answer : NodeOutcome}
      (ran : (executeNode env calls frame childId childNode).exec w = (.ok answer, after)) :
      Sequentially env calls childId childNode (.executed frame.run frame.vars w outcome) answer
  | taskRun {frame : Frame} {memo : Dict Json} {w after : World} {id : String} {row : TaskRun}
      {answer : NodeOutcome} (read : (frame.vars.get "_agent_runs").toDict = .ok memo)
      (known : memoEntry memo childId = some id) (found : w.db.taskRuns.get? id = some row)
      (ran : (executeNode env calls frame childId childNode).exec w = (.ok answer, after)) :
      Sequentially env calls childId childNode (.taskRun id row) answer
  | childRun {frame : Frame} {row : WorkflowRun} {memo : Dict Json} {w after : World} {id : String}
      {answer : NodeOutcome} (read : (frame.vars.get "_subworkflow_runs").toDict = .ok memo)
      (known : memoEntry memo childId = some id) (found : w.db.runs.get? id = some row)
      (ran : (executeNode env calls frame childId childNode).exec w = (.ok answer, after)) :
      Sequentially env calls childId childNode (.childRun id row.status) answer

def resultPayload (type : NodeType) (output : Json) : List Json :=
  match type with
  | .tool => [output.get "result"]
  | .skill => [output.get "skill_id", output.get "skill_version_id"]
  | .agent => [output.get "agent_output"]
  | .subworkflow => [output.get "child_run_id"]
  | _ => []

def BranchResult.awaitedTaskRun : BranchResult → Prop
  | .taskRun _ _ => True
  | _ => False

section Sequential

variable {env : Env} {calls : Calls} {childId : String} {childNode : Json}

variable {track : Track} {w after : World} {answer : NodeOutcome} {id : String} {row : TaskRun} {frame : Frame}
  {type : NodeType}

theorem collectTaskRun_output {run : WorkflowRun} {vars : Dict Json} (completed : row.status = .completed) :
    Yields (collectTaskRun env run childId track id row vars) fun outcome =>
      outcome.output.get "agent_output" = .obj row.outputPayloadJson := by
  apply Yields.next
  intro _
  apply Yields.ite
  · intro _
    apply Yields.next
    intro _
    apply Yields.next
    intro _
    apply Yields.ite <;> exact fun _ => Yields.pure rfl
  · intro running
    rw [completed] at running
    exact absurd (by decide) running

theorem executeNode_agent (typed : nodeType childNode = some .agent) :
    executeNode env calls frame childId childNode =
      executeAgentNode env frame.run childNode childId ⟨childId, none⟩ frame.vars := by
  rw [executeNode, typed]

theorem executeNode_subworkflow (typed : nodeType childNode = some .subworkflow) :
    executeNode env calls frame childId childNode =
      executeSubworkflowNode env calls frame.run childNode childId ⟨childId, none⟩ frame.vars := by
  rw [executeNode, typed]

theorem sequential_taskRun (sequential : Sequentially env calls childId childNode (.taskRun id row) answer)
    (typed : nodeType childNode = some .agent) (completed : row.status = .completed) :
    answer.output.get "agent_output" = .obj row.outputPayloadJson := by
  cases sequential with
  | taskRun read known found ran =>
    rw [executeNode_agent typed] at ran
    obtain ⟨config, -, ran⟩ := exec_ofExcept_split ran
    obtain ⟨memo, same, ran⟩ := exec_ofExcept_split ran
    rw [read] at same
    cases same
    rw [known] at ran
    obtain ⟨w, after, looked, collected⟩ := exec_bind_split ran
    cases looked
    rw [found] at collected
    exact (collectTaskRun_output completed).run _ _ _ collected

theorem childRunOutcome_output (id : String) (status : RunStatus) (vars : Dict Json) :
    (childRunOutcome id status vars).output = childRunOutput id status := by
  unfold childRunOutcome
  split
  · rfl
  · split <;> rfl

theorem sequential_childRun {status : RunStatus}
    (sequential : Sequentially env calls childId childNode (.childRun id status) answer)
    (typed : nodeType childNode = some .subworkflow) :
    answer.output = childRunOutput id status := by
  cases sequential with
  | childRun read known found ran =>
    rw [executeNode_subworkflow typed] at ran
    obtain ⟨config, -, ran⟩ := exec_ofExcept_split ran
    obtain ⟨memo, same, ran⟩ := exec_ofExcept_split ran
    rw [read] at same
    cases same
    rw [known] at ran
    obtain ⟨w, after, looked, collected⟩ := exec_bind_split ran
    cases looked
    rw [found] at collected
    obtain ⟨_, _, _, following⟩ := exec_bind_split collected
    obtain ⟨_, _, _, settled⟩ := exec_bind_split following
    cases settled
    exact childRunOutcome_output _ _ _

def Assigned (run : WorkflowRun) (config : Dict Json) : Prop :=
  (config.get "agent_id").truthy ∧ hasText run.projectId ∧ hasText run.taskId

theorem startAgentTaskRun_assigned {run : WorkflowRun} {config memo vars : Dict Json}
    {outcome : NodeOutcome} (ran : (startAgentTaskRun env run config childId track memo vars).exec w = (.ok outcome, after))
    (done : outcomeBranchStatus outcome = .succeeded) : ¬ Assigned run config := by
  have spec : Yields (startAgentTaskRun env run config childId track memo vars) fun outcome =>
      outcomeBranchStatus outcome = .succeeded → ¬ Assigned run config := by
    apply Yields.ite
    · intro _
      apply Yields.next
      intro w
      apply Yields.ite
      · exact fun _ => Yields.pure fun succeeded => absurd succeeded (by simp [outcomeBranchStatus, failed])
      intro _
      apply Yields.next
      intro given
      apply Yields.next
      intro taskRun
      apply Yields.next
      intro selected
      apply Yields.next
      intro checkpoint
      apply Yields.next
      intro _
      apply Yields.next
      intro _
      apply Yields.next
      intro _
      exact Yields.pure fun succeeded => absurd succeeded (by simp [outcomeBranchStatus, paused])
    · exact fun idle => Yields.pure fun _ => idle
  exact spec.run _ _ _ ran done

theorem startAgentTaskRun_handed {run : WorkflowRun} {config memo vars : Dict Json}
    {outcome : NodeOutcome} (ran : (startAgentTaskRun env run config childId track memo vars).exec w = (.ok outcome, after))
    (idle : ¬ Assigned run config) : outcome.output = agentHandoff run (config.get "agent_id") := by
  unfold startAgentTaskRun at ran
  rw [if_neg (show ¬ ((config.get "agent_id").truthy = true ∧ _ ∧ _) from idle)] at ran
  cases ran
  rfl

theorem collectTaskRun_succeeded {run : WorkflowRun} {vars : Dict Json} :
    Yields (collectTaskRun env run childId track id row vars) fun outcome =>
      outcomeBranchStatus outcome = .succeeded → row.status = .completed := by
  apply Yields.next
  intro _
  apply Yields.ite
  · intro _
    apply Yields.next
    intro _
    apply Yields.next
    intro _
    apply Yields.ite
    · exact fun _ => Yields.pure fun succeeded => absurd succeeded (by simp [outcomeBranchStatus, failed])
    · exact fun completed => Yields.pure fun _ => not_not.mp completed
  · intro _
    apply Yields.next
    intro _
    exact Yields.pure fun succeeded => absurd succeeded (by simp [outcomeBranchStatus, paused])

theorem agent_payload {run : WorkflowRun} {track other : Track} {vars : Dict Json} {w after later : World}
    {outcome answer : NodeOutcome}
    (first : (executeAgentNode env run childNode childId track vars).exec w = (.ok outcome, after))
    (done : outcomeBranchStatus outcome = .succeeded)
    (second : (executeAgentNode env run childNode childId other vars).exec w = (.ok answer, later)) :
    outcome.output.get "agent_output" = answer.output.get "agent_output" := by
  obtain ⟨config, configured, first⟩ := exec_ofExcept_split first
  obtain ⟨memo, kept, first⟩ := exec_ofExcept_split first
  obtain ⟨_, again, second⟩ := exec_ofExcept_split second
  rw [configured] at again
  cases again
  obtain ⟨_, again, second⟩ := exec_ofExcept_split second
  rw [kept] at again
  cases again
  have started : ∀ {memo vars : Dict Json} {w : World},
      (startAgentTaskRun env run config childId track memo vars).exec w = (.ok outcome, after) →
      (startAgentTaskRun env run config childId other memo vars).exec w = (.ok answer, later) →
      outcome.output.get "agent_output" = answer.output.get "agent_output" := by
    intro memo vars w one two
    have idle := startAgentTaskRun_assigned one done
    rw [startAgentTaskRun_handed one idle, startAgentTaskRun_handed two idle]
  cases known : memoEntry memo childId with
  | none => grind
  | some id =>
    rw [known] at first second
    obtain ⟨_, _, looked, first⟩ := exec_bind_split first
    cases looked
    obtain ⟨_, _, looked, second⟩ := exec_bind_split second
    cases looked
    cases found : w.db.taskRuns.get? id with
    | none => grind
    | some row =>
      rw [found] at first second
      have completed := collectTaskRun_succeeded.run _ _ _ first done
      rw [(collectTaskRun_output completed).run _ _ _ first, (collectTaskRun_output completed).run _ _ _ second]

theorem startChildRun_named {run : WorkflowRun} {config memo vars : Dict Json}
    {outcome : NodeOutcome} (ran : (startChildRun env calls run config childId track memo vars).exec w = (.ok outcome, after))
    (workflow : (config.get "workflow_id").truthy) :
    ∃ created middle, (createRunRecord env (childRequest run (config.get "workflow_id").pyStr vars)).exec w =
        (.ok created, middle) ∧ outcome.output.get "child_run_id" = .str created.1.id := by
  unfold startChildRun at ran
  rw [if_neg (not_not.mpr workflow)] at ran
  obtain ⟨created, middle, made, ran⟩ := exec_bind_split ran
  refine ⟨created, middle, made, ?_⟩
  obtain ⟨_, _, _, ran⟩ := exec_bind_split ran
  obtain ⟨_, _, _, ran⟩ := exec_bind_split ran
  obtain ⟨child, _, _, ran⟩ := exec_bind_split ran
  obtain ⟨_, _, _, ran⟩ := exec_bind_split ran
  cases ran
  rw [childRunOutcome_output]
  rfl

theorem startChildRun_workflow {run : WorkflowRun} {config memo vars : Dict Json}
    {outcome : NodeOutcome} (ran : (startChildRun env calls run config childId track memo vars).exec w = (.ok outcome, after))
    (done : outcomeBranchStatus outcome = .succeeded) : (config.get "workflow_id").truthy := by
  by_contra missing
  unfold startChildRun at ran
  rw [if_pos missing] at ran
  cases ran
  exact absurd done (by simp [outcomeBranchStatus, failed])

theorem subworkflow_payload {run : WorkflowRun} {track other : Track} {vars : Dict Json} {w after later : World}
    {outcome answer : NodeOutcome}
    (first : (executeSubworkflowNode env calls run childNode childId track vars).exec w = (.ok outcome, after))
    (done : outcomeBranchStatus outcome = .succeeded)
    (second : (executeSubworkflowNode env calls run childNode childId other vars).exec w = (.ok answer, later)) :
    outcome.output.get "child_run_id" = answer.output.get "child_run_id" := by
  obtain ⟨config, configured, first⟩ := exec_ofExcept_split first
  obtain ⟨memo, kept, first⟩ := exec_ofExcept_split first
  obtain ⟨_, again, second⟩ := exec_ofExcept_split second
  rw [configured] at again
  cases again
  obtain ⟨_, again, second⟩ := exec_ofExcept_split second
  rw [kept] at again
  cases again
  have started : ∀ {memo vars : Dict Json} {w : World},
      (startChildRun env calls run config childId track memo vars).exec w = (.ok outcome, after) →
      (startChildRun env calls run config childId other memo vars).exec w = (.ok answer, later) →
      outcome.output.get "child_run_id" = answer.output.get "child_run_id" := by
    intro memo vars w one two
    have workflow := startChildRun_workflow one done
    obtain ⟨created, _, made, named⟩ := startChildRun_named one workflow
    obtain ⟨other, _, again, called⟩ := startChildRun_named two workflow
    simp_all
  cases known : memoEntry memo childId with
  | none => grind
  | some id =>
    rw [known] at first second
    obtain ⟨_, _, looked, first⟩ := exec_bind_split first
    cases looked
    obtain ⟨_, _, looked, second⟩ := exec_bind_split second
    cases looked
    cases found : w.db.runs.get? id with
    | none => grind
    | some row =>
      rw [found] at first second
      obtain ⟨_, _, _, first⟩ := exec_bind_split first
      obtain ⟨_, _, _, first⟩ := exec_bind_split first
      obtain ⟨_, _, _, second⟩ := exec_bind_split second
      obtain ⟨_, _, _, second⟩ := exec_bind_split second
      simp_all

theorem executed_payload {nodeId : String} {w after later : World}
    {outcome answer : NodeOutcome} (typed : nodeType childNode = some type)
    (first : (runBranch env calls frame.run nodeId childId childNode type frame.vars).exec w = (.ok outcome, after))
    (done : outcomeBranchStatus outcome = .succeeded)
    (second : (executeNode env calls frame childId childNode).exec w = (.ok answer, later)) :
    resultPayload type (.obj outcome.output) = resultPayload type (.obj answer.output) := by
  cases type with
  | tool =>
    simp only [runBranch, executeSimpleNode, typed] at first
    simp only [executeNode, typed] at second
    simp_all
  | skill =>
    simp only [runBranch, executeSimpleNode, typed] at first
    simp only [executeNode, typed] at second
    obtain ⟨_, _, looked, first⟩ := exec_bind_split first
    cases looked
    obtain ⟨_, _, looked, second⟩ := exec_bind_split second
    rw [Prog.exec_ofExcept] at first second
    have given := (Prod.mk.inj first).1
    have taken := (Prod.mk.inj second).1
    obtain ⟨config, read, given⟩ := except_bind_ok given
    obtain ⟨same, again, taken⟩ := except_bind_ok taken
    cases resolved : resolveSkillVersion w.db config with
    | none =>
      rw [resolved] at given
      cases given
      exact absurd done (by simp [outcomeBranchStatus])
    | some version => simp_all
  | agent =>
    rw [executeNode_agent typed] at second
    have same := agent_payload first done second
    simp only [resultPayload, cons.injEq, and_true]
    exact same
  | subworkflow =>
    rw [executeNode_subworkflow typed] at second
    have same := subworkflow_payload first done second
    simp only [resultPayload, cons.injEq, and_true]
    exact same
  | _ => rfl

theorem FinishedAs.payload {nodeId : String} {result : BranchResult}
    (finished : FinishedAs env calls nodeId childId childNode type result) (typed : nodeType childNode = some type)
    (sequential : Sequentially env calls childId childNode result answer) :
    resultPayload type (.obj result.output) = resultPayload type (.obj answer.output) ↔ ¬ result.awaitedTaskRun := by
  cases finished with
  | @executed type run vars w after outcome ran done =>
    cases sequential with
    | executed second => exact ⟨fun _ awaited => awaited, fun _ => executed_payload typed ran done second⟩
  | @taskRun w id row found completed =>
    have handed := sequential_taskRun sequential typed completed
    constructor
    · intro same
      have read : answer.output.get "agent_output" = .null := (cons.inj same).1.symm
      simp [handed] at read
    · exact fun settled => absurd trivial settled
  | @childRun w id row found completed =>
    rw [sequential_childRun sequential typed]
    exact ⟨fun _ awaited => awaited, fun _ => rfl⟩
  | @elapsed output => cases sequential

end Sequential

/-- When a namespaced join succeeds, the output of each succeeded branch stands under its child, and it
    is what the child makes available on an ordinary path, except where the branch waited for a TaskRun:
    then the output of the agent is lost. -/
theorem parallel_results_delivered {env : Env} {calls : Calls} {node childNode : Json} {nodeId child : String}
    {nodes config state branches entry : Dict Json} {children : List Json} {type : NodeType} {outcome : NodeOutcome}
    (configured : nodeConfig node = .ok config) (namespaced : configuredMerge config = "namespaced")
    (listed : (config.get "children").toList = .ok children) (member : child ∈ children.map Json.pyStr)
    (executed : JoinExecuted env calls node nodeId nodes outcome) (passed : outcome.status = .succeeded)
    (stored : storedState outcome.vars nodeId = .ok state) (held : state.get "branches" = .obj branches)
    (found : branches.get child = .obj entry) (succeeded : branchStatus entry = "succeeded")
    (here : nodes.get? child = some childNode) (typed : nodeType childNode = some type) :
    ∃ result, FinishedAs env calls nodeId child childNode type result ∧
      ((outcome.vars.get "parallel_outputs").get nodeId).get child = .obj result.output ∧
      ∀ answer, Sequentially env calls child childNode result answer →
        (resultPayload type (.obj result.output) = resultPayload type (.obj answer.output) ↔ ¬ result.awaitedTaskRun) := by
  obtain ⟨vars, parallel, visited, ran, merge⟩ := sourced_rule.executed configured executed
  obtain ⟨last, kept, same, -⟩ := ran.stored
  rw [kept] at stored
  cases stored
  have equal : branches = visited := Json.obj.inj (held.symm.trans same)
  subst equal
  obtain ⟨value, there⟩ : ∃ value, branches.get? child = some value := by
    cases present : branches.get? child with
    | some value => exact ⟨value, rfl⟩
    | none => simp [Dict.get, present] at found
  obtain ⟨other, equal, sourced⟩ := ran.branchwise _ (Dict.mem_of_get? there)
  have own : other = entry := by simp_all [Dict.get, Option.getD_some, Json.obj.inj]
  rw [own] at sourced
  obtain ⟨childNode', type', result, known, kind, finished, output⟩ := sourced.succeeded succeeded
  rw [here] at known
  cases known
  rw [typed] at kind
  cases kind
  have inside : child ∈ parallel.children := by rwa [loaded_children listed ran.loaded]
  have status : (entry.get "status").strOrEmpty = "succeeded" := by
    unfold branchStatus at succeeded
    cases truth : (entry.get "status").truthy with
    | true => simpa [pyOr, truth] using succeeded
    | false => simp_all [pyOr]
  refine ⟨result, finished, ?_, fun answer sequential => finished.payload typed sequential⟩
  exact finalizeParallel_outputs ran.finished passed (merge namespaced) inside found status output

def mailNode : Json := plainNode "a" "tool" [("tool", .str "mail")]

def mailed : Except PyError NodeOutcome × World :=
  (executeParallelNode stillEnv idleCalls default (plainNode "join" "parallel" (joinConfig [.str "a"])) "join"
    [("a", mailNode)] []).exec {}

theorem mailed_delivered :
    ∃ outcome after, mailed = (.ok outcome, after) ∧
      ∃ result, FinishedAs stillEnv idleCalls "join" "a" mailNode .tool result ∧
        ((outcome.vars.get "parallel_outputs").get "join").get "a" = .obj result.output := by
  obtain ⟨outcome, after, state, branches, entry, ran, passed, stored, held, found, succeeded⟩ :
      ∃ outcome after, ∃ state branches entry : Dict Json, mailed = (.ok outcome, after) ∧ outcome.status = .succeeded ∧
        storedState outcome.vars "join" = .ok state ∧ state.get "branches" = .obj branches ∧
        branches.get "a" = .obj entry ∧ branchStatus entry = "succeeded" :=
    ⟨_, _, _, _, _, rfl, rfl, rfl, rfl, rfl, rfl⟩
  obtain ⟨result, finished, delivered, -⟩ := parallel_results_delivered (by rfl : nodeConfig (plainNode "join" "parallel"
    (joinConfig [.str "a"])) = .ok (joinConfig [.str "a"])) (by decide) rfl (by decide) (.first rfl ran) passed stored held
    found succeeded rfl rfl
  exact ⟨outcome, after, ran, result, finished, delivered⟩

def writerNode : Json := plainNode "a" "agent" [("agent_id", .str "writer")]

def gathering : WorkflowVersion :=
  published "gathering" [plainNode "join" "parallel" [("children", .arr [.str "a"])], writerNode] [] "join"

def writing : WorkflowVersion := published "writing" [writerNode] [] "a"

def writtenRow : TaskRun :=
  { id := "rr", status := .completed, outputPayloadJson := [("text", .str "done")], checkpointJson := [] }

def writtenLabels (version : WorkflowVersion) : List Label :=
  [.changed (.user "owner"), .start (startOf version.id []) "dev", .changed (.taskRun writtenRow),
    .taskRunTerminal "rr" (some .completed) true]

def writtenWorld (version : WorkflowVersion) : World :=
  World.after stillEnv (publishing version ++ writtenLabels version) {}

def completedVar (w : World) (key : String) : Option Json :=
  (w.db.runs.get? "r").bind fun run => if run.status = .completed then some (run.contextJson.vars.get key) else none

theorem branch_loses_agent_output :
    Run stillEnv .any (writtenWorld writing) ∧ Run stillEnv .any (writtenWorld gathering) ∧
      completedVar (writtenWorld writing) "agent_output_a" = some (.obj [("text", .str "done")]) ∧
      completedVar (writtenWorld gathering) "parallel_outputs" =
        some (.obj [("join", .obj [("a", .obj (taskRunOutput "rr" writtenRow))])]) ∧
      (Json.obj (taskRunOutput "rr" writtenRow)).get "agent_output" = .null := by
  have possible : ∀ version, Possible stillEnv .any (publishing version ++ writtenLabels version) {} :=
    fun version => publishing_possible trivial trivial
      ⟨trivial, trivial, trivial, trivial, trivial, trivial, trivial, trivial, trivial⟩
  exact ⟨Run.init.after (possible writing), Run.init.after (possible gathering), by decide +kernel, by decide +kernel,
    rfl⟩

end Troop.Workflow
