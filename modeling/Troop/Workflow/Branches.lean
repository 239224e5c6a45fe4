import Troop.Workflow.ChildRuns

namespace Troop.Workflow

variable {env : Env} {terms : Terms} {spot : Spot env terms} {fact : World → Visit → Prop}

open Spot

theorem executeSimpleNode_does (stable : Stable fact) {nodeId : String} {childNode : Json}
    (found : spot.frame.nodes.get? nodeId = some childNode) (parallel : nodeType spot.node = some .parallel) :
    spot.Does fact (executeSimpleNode env spot.frame.run childNode nodeId spot.frame.vars) (fun _ => fact) := by
  unfold executeSimpleNode
  split
  · rename_i type
    exact (executeToolNode_does stable ⟨found, type, .inr parallel⟩).after fun _ _ _ given => given.1
  · simp_all [Does.read, Does.ofExcept]
  · exact Does.ofExcept fun _ _ _ _ given => given
  · exact Does.ofExcept fun _ _ _ _ given => given
  · exact Does.pure fun _ _ given => given

def Holding (fact : World → Visit → Prop) (branches : Dict Json) (w : World) (visit : Visit) : Prop :=
  fact w visit ∧ visit.branches = branches

theorem Holding.stable (branches : Dict Json) (stable : Stable fact) : Stable (Holding fact branches) :=
  fun _ _ _ _ given same grown => ⟨stable _ _ _ _ given.1 same grown, same.trans given.2⟩

@[simp] theorem withResult_child (entry output : Dict Json) (status : BranchStatus) :
    (withResult entry status output).get "child_run_id" = entry.get "child_run_id" := by
  simp [withResult, Dict.get_set]

variable {childId : String} {branches stored entry : Dict Json} {calls : Calls} {budget : Nat} {visit : Visit}
  {outcome : NodeOutcome} {vars : Dict Json}

theorem refreshParallelBranchStatus_does (stable : Stable fact) {branches stored : Dict Json} (childNode : Option Json)
    (found : storedBranch branches childId = .ok stored) (waiting : branchStatus stored = "paused") :
    spot.Does (Holding fact branches)
      (refreshParallelBranchStatus env spot.frame.run spot.cursor childId stored childNode)
      (fun entry w visit => Holding fact branches w visit ∧
        entry.get "child_run_id" = stored.get "child_run_id") := by
  have keeps := Holding.stable branches stable
  have used : ∀ w visit, Holding fact branches w visit →
      Known spot.frame.vars visit childId (stored.get "child_run_id").strOrEmpty := by
    intro w visit given
    rw [← given.2] at found
    exact .inr (.inr ⟨stored, found, waiting, rfl⟩)
  refine Does.read fun w => Does.ite (fun _ => ?_) fun _ => Does.ite (fun _ => ?_) fun _ => Does.ite (fun _ => ?_) fun _ => ?_
  · split
    · exact Does.pure fun _ _ given => ⟨given, rfl⟩
    · refine Does.bind (Does.emit (fun w visit given => .childUsed _ _ (used w visit given))
        fun _ _ given => keeps.reported given) fun _ => ?_
      refine Does.bind (Does.onlyIf fun _ => upsertChildExecution_does keeps _) fun _ => ?_
      exact Does.pure fun _ _ given => ⟨given, withResult_child _ _ _⟩
  · split
    · exact Does.pure fun _ _ given => ⟨given, rfl⟩
    · refine Does.bind (Does.emit (fun w visit given => .childUsed _ _ (used w visit given))
        fun _ _ given => keeps.reported given) fun _ => ?_
      refine Does.bind (Does.onlyIf fun _ => upsertChildExecution_does keeps _) fun _ => ?_
      exact Does.pure fun _ _ given => ⟨given, withResult_child _ _ _⟩
  · refine Does.attempt fun delay _ => Does.ite (fun _ => Does.attempt fun moment _ => ?_) fun _ => ?_
    · refine Does.ite (fun _ => ?_) fun _ => ?_
      · refine Does.bind (upsertChildExecution_does keeps _) fun _ => ?_
        exact Does.pure fun _ _ given => ⟨given, withResult_child _ _ _⟩
      · exact Does.pure fun _ _ given => ⟨given, Dict.get_set_of_ne _ _ (by decide)⟩
    · exact Does.pure fun _ _ given => ⟨given, rfl⟩
  · exact Does.pure fun _ _ given => ⟨given, rfl⟩

theorem startDelayBranch_does (stable : Stable fact) (childId : String) (childNode : Json) :
    spot.Does fact (startDelayBranch env spot.frame.run spot.cursor childId childNode)
      (fun entry w visit => fact w visit ∧ entry.get "child_run_id" = .null) := by
  refine Does.attempt fun config _ => Does.attempt fun seconds _ => Does.ite (fun _ => ?_) fun _ => ?_
  · refine Does.bind (upsertChildExecution_does stable _) fun _ => ?_
    exact Does.pure fun _ _ given => ⟨given, by simp [Dict.get, Dict.get?_cons]⟩
  · refine Does.read fun w => Does.bind (upsertChildExecution_does stable _) fun _ => ?_
    refine Does.bind (Does.emit (fun _ _ _ => .delayScheduled _ _) fun _ _ given => stable.reported given) fun _ => ?_
    exact Does.pure fun _ _ given => ⟨given, by simp [Dict.get, Dict.get?_cons]⟩

theorem agentEffect_child {runId cursor childId : String}
    (effect : AgentEffect runId childId ⟨cursor, some childId⟩ vars visit.own outcome) :
    BranchChild runId cursor childId visit (branchEntry "task_run" "task_run_id" outcome) := by
  cases effect with
  | waiting id memo output read known used here => exact .inr (.inr ⟨id, here, .inr used⟩)
  | failedTask id memo output read known used here => exact .inr (.inr ⟨id, here, .inr used⟩)
  | merged id memo output payload read known used here => exact .inr (.inr ⟨id, here, .inr used⟩)
  | started id memo memo' base output read kept here reported => exact .inr (.inr ⟨id, here, .inl reported⟩)
  | refused memo memo' base output read kept here => exact .inl here
  | handedOff memo memo' base output read kept here => exact .inl here

theorem childRunOutcome_named (id : String) (status : RunStatus) (vars : Dict Json) :
    (childRunOutcome id status vars).output.get "child_run_id" = .str id := by
  unfold childRunOutcome
  split
  · exact childRunOutput_named id status
  · split <;> exact childRunOutput_named id status

theorem subworkflowEffect_child {runId cursor childId : String}
    (effect : SubworkflowEffect runId childId ⟨cursor, some childId⟩ vars visit.own outcome) :
    BranchChild runId cursor childId visit (branchEntry "workflow_run" "child_run_id" outcome) := by
  cases effect with
  | known id status memo read entry used => exact .inr (.inr ⟨id, childRunOutcome_named id status _, .inr used⟩)
  | started id status memo memo' base read kept reported =>
    exact .inr (.inr ⟨id, childRunOutcome_named id status _, .inl reported⟩)
  | refused memo memo' base output read kept here => exact .inl here

theorem branchChild_of_same {runId cursor childId : String} {entry : Dict Json}
    (stored : Dict Json) (found : storedBranch visit.branches childId = .ok stored)
    (same : entry.get "child_run_id" = stored.get "child_run_id") : BranchChild runId cursor childId visit entry :=
  .inr (.inl ⟨stored, found, same⟩)

theorem startedBranch_does (stable : Stable fact) (follows : Follows env terms calls budget)
    (nested : spot.budget = budget + 1) (parallel : nodeType spot.node = some .parallel)
    (found : storedBranch branches childId = .ok stored) (same : entry.get "child_run_id" = stored.get "child_run_id") :
    spot.Does (Holding fact branches)
      (startedBranch env calls spot.frame.run spot.cursor childId (spot.frame.nodes.get? childId) entry spot.frame.vars)
      (fun entry w visit => Holding fact branches w visit ∧
        Event.branchStarted spot.runId spot.cursor childId ∈ visit.own ∧
        BranchChild spot.runId spot.cursor childId visit entry) := by
  let started := Event.branchStarted spot.runId spot.cursor childId
  have keeps : Stable fun w visit => Holding fact branches w visit ∧ started ∈ visit.own :=
    (Holding.stable branches stable).and (.owned started)
  have replaced : ∀ {w visit} {other : Dict Json}, Holding fact branches w visit ∧ started ∈ visit.own →
      other.get "child_run_id" = entry.get "child_run_id" →
      Holding fact branches w visit ∧ started ∈ visit.own ∧ BranchChild spot.runId spot.cursor childId visit other := by
    intro w visit other given named
    refine ⟨given.1, given.2, branchChild_of_same stored ?_ (named.trans same)⟩
    rwa [given.1.2]
  refine Does.bind (Does.emit (Q := fun w visit => Holding fact branches w visit ∧ started ∈ visit.own)
    (fun _ _ _ => .branchStarted childId)
    fun _ _ given => ⟨(Holding.stable _ stable).reported given, List.mem_cons_self⟩) fun _ => ?_
  split
  · exact Does.pure fun _ _ given => replaced given (withResult_child _ _ _)
  rename_i childNode here
  unfold startBranch
  split
  · refine Does.bind (executeAgentNode_does keeps childNode rfl) fun outcome => ?_
    exact Does.pure fun _ _ given => ⟨given.1.1, given.1.2, agentEffect_child given.2⟩
  · rename_i type
    refine Does.bind (executeSubworkflowNode_does keeps follows nested rfl here type (.inr parallel)) fun outcome => ?_
    exact Does.pure fun _ _ given => ⟨given.1.1, given.1.2, subworkflowEffect_child given.2⟩
  · exact (startDelayBranch_does keeps childId childNode).after fun _ _ _ given =>
      ⟨given.1.1, given.1.2, .inl given.2⟩
  iterate 4
    refine Does.bind (executeSimpleNode_does keeps here parallel) fun outcome => ?_
    refine Does.pure fun _ _ given => replaced given ?_
    rw [Dict.get_set_of_ne _ _ (by decide), withResult_child]
  · exact Does.pure fun _ _ given => replaced given (withResult_child _ _ _)

theorem storedBranch_set (branches entry : Dict Json) (childId : String) :
    ∃ stored, storedBranch (branches.set childId (.obj entry)) childId = .ok stored ∧
      entry.get "child_run_id" = stored.get "child_run_id" := by
  unfold storedBranch
  rw [Dict.get_set_self]
  cases entry with
  | nil => exact ⟨_, rfl, rfl⟩
  | cons first rest => exact ⟨first :: rest, rfl, rfl⟩

theorem refreshedBranch_does (stable : Stable fact) {branches stored : Dict Json}
    (childNode : Option Json) (found : storedBranch branches childId = .ok stored) :
    spot.Does (Holding fact branches)
      (refreshedBranch env spot.frame.run spot.cursor childId stored childNode)
      (fun entry w visit => Holding fact branches w visit ∧ entry.get "child_run_id" = stored.get "child_run_id") := by
  refine Does.ite (fun waiting => refreshParallelBranchStatus_does stable childNode found waiting) fun _ => ?_
  exact Does.pure fun _ _ given => ⟨given, rfl⟩

def currentBranches (branches stored entry : Dict Json) (childId : String) : Dict Json :=
  if branchStatus stored = "paused" then branches.set childId (.obj entry) else branches

theorem currentBranches_found (found : storedBranch branches childId = .ok stored)
    (same : entry.get "child_run_id" = stored.get "child_run_id") :
    ∃ other, storedBranch (currentBranches branches stored entry childId) childId = .ok other ∧
      entry.get "child_run_id" = other.get "child_run_id" := by
  unfold currentBranches
  split
  · exact storedBranch_set branches entry childId
  · exact ⟨stored, found, same⟩

theorem Does.writeBack {α : Type} {program : Session α} {result : α → World → Visit → Prop} (lasting : Lasting fact)
    (found : storedBranch branches childId = .ok stored) (same : entry.get "child_run_id" = stored.get "child_run_id")
    (does : spot.Does (Holding fact (currentBranches branches stored entry childId)) program result) :
    spot.Does (Holding fact branches) program result := by
  by_cases waiting : branchStatus stored = "paused"
  · refine Does.branch (fun w visit given => ?_) does
    rw [← given.2] at found
    refine ⟨_, .refresh childId stored entry found waiting same, lasting _ _ _ _ given.1 fun _ member => member, ?_⟩
    simp [currentBranches, waiting, given.2]
  · rwa [currentBranches, if_neg waiting] at does

theorem visitBranch_does (lasting : Lasting fact)
    (follows : Follows env terms calls budget) (nested : spot.budget = budget + 1)
    (parallel : nodeType spot.node = some .parallel) (plan : JoinPlan) (branches : Dict Json) (childId : String) :
    spot.Does (Holding fact branches)
      (visitBranch env calls spot.frame.run spot.cursor spot.frame.nodes spot.frame.vars plan branches childId)
      (fun after => Holding fact after.1) := by
  have keeps := Holding.stable branches lasting.stable
  refine Does.attempt fun stored found => ?_
  refine Does.bind (Does.onlyIf fun kept => Does.emit (fun w visit given => .branchReused childId ?_)
    fun _ _ given => keeps.reported given) fun _ => ?_
  · rw [← given.2] at found
    exact .inl ⟨stored, found, kept⟩
  refine Does.bind (refreshedBranch_does lasting.stable _ found) fun entry => ?_
  refine Does.knowing fun same => Does.writeBack lasting found same ?_
  obtain ⟨other, current, named⟩ := currentBranches_found found same
  refine Does.ite (fun _ => Does.attempt fun early _ => Does.pure fun _ _ given => given) fun _ =>
    Does.ite (fun _ => Does.pure fun _ _ given => given) fun _ => ?_
  refine Does.bind (startedBranch_does lasting.stable follows nested parallel current named) fun started => ?_
  refine Does.branch
    (P := Holding fact ((currentBranches branches stored entry childId).set childId (.obj started)))
    (fun w visit given => ⟨_, .settle childId started given.2.1 given.2.2, ?_⟩)
    (Does.attempt fun early _ => Does.pure fun _ _ given => given)
  refine ⟨lasting _ _ _ _ given.1.1 fun _ member => member, ?_⟩
  simp only [given.1.2]

theorem visitBranches_does (lasting : Lasting fact)
    (follows : Follows env terms calls budget) (nested : spot.budget = budget + 1)
    (parallel : nodeType spot.node = some .parallel) (plan : JoinPlan) (children : List String) :
    ∀ branches, spot.Does (Holding fact branches)
      (visitBranches env calls spot.frame.run spot.cursor spot.frame.nodes spot.frame.vars plan children branches)
      (fun after => Holding fact after) := by
  induction children with
  | nil => exact fun branches => Does.pure fun _ _ given => given
  | cons childId rest ih =>
    intro branches
    refine Does.bind (visitBranch_does lasting follows nested parallel plan branches childId) fun after => ?_
    exact Does.ite (fun _ => Does.pure fun _ _ given => given) fun _ => ih after.1

theorem reportFailed_does (stable : Stable fact) {branches : Dict Json} (children : List String)
    (failed : ∀ child ∈ children, ∃ entry : Json, (child, entry) ∈ branches ∧ (entry.get "status").strOrEmpty = "failed") :
    spot.Does (Holding fact branches)
      (children.forM fun child => emit (.branchReused spot.frame.run.id spot.cursor child))
      (fun _ => Holding fact branches) := by
  refine Does.forEach fun child member => ?_
  refine Does.emit (fun w visit given => .branchReused child ?_) fun _ _ given => (Holding.stable _ stable).reported given
  obtain ⟨entry, stored, status⟩ := failed child member
  rw [← given.2] at stored
  exact .inr ⟨entry, stored, status⟩

theorem failedBranches_failed (branches : Dict Json) :
    ∀ child ∈ failedBranches branches,
      ∃ entry : Json, (child, entry) ∈ branches ∧ (entry.get "status").strOrEmpty = "failed" := by
  intro child member
  obtain ⟨entry, kept, rfl⟩ := List.mem_map.mp member
  rw [List.mem_filter] at kept
  exact ⟨entry.2, kept.1, by simpa using kept.2⟩

theorem executeParallelNode_does (lasting : Lasting fact) (follows : Follows env terms calls budget)
    (nested : spot.budget = budget + 1) (parallel : nodeType spot.node = some .parallel) :
    spot.Does fact
      (executeParallelNode env calls spot.frame.run spot.node spot.cursor spot.frame.nodes spot.frame.vars)
      (fun outcome w visit => fact w visit ∧
        ParallelEffect spot.node spot.cursor spot.frame.vars visit.branches outcome) := by
  refine Does.attempt fun config configured => Does.attempt fun state loaded => ?_
  have finalized : ∀ branches, spot.Does (Holding fact branches)
      (Prog.ofExcept (finalizeParallel state config spot.cursor branches spot.frame.vars))
      (fun outcome w visit => fact w visit ∧
        ParallelEffect spot.node spot.cursor spot.frame.vars visit.branches outcome) := by
    intro branches
    refine Does.ofExcept fun outcome ran w visit given => ⟨given.1, config, state, configured, loaded, ?_⟩
    rwa [given.2]
  refine Does.branch (P := Holding fact state.branches) (fun w visit given =>
    ⟨{ visit with branches := state.branches }, .load config state parallel configured loaded, ?_, rfl⟩) ?_
  · exact lasting w w visit _ given fun _ member => member
  refine Does.ite (fun _ => ?_) fun _ => ?_
  · refine Does.bind (reportFailed_does lasting.stable _ (failedBranches_failed _)) fun _ => finalized _
  · exact Does.bind (visitBranches_does lasting follows nested parallel _ _ _) fun branches => finalized branches

theorem executeNode_does (follows : Follows env terms calls budget) (nested : spot.budget = budget + 1) :
    spot.Does (fun _ _ => True) (executeNode env calls spot.frame spot.cursor spot.node)
      (fun outcome _ visit => NodeEffect spot.frame spot.cursor spot.node visit outcome) := by
  have lasting : Lasting fun (_ : World) (_ : Visit) => True := fun _ _ _ _ _ _ => trivial
  have own : ∀ {type}, nodeType spot.node = some type → type = .tool → ToolNode spot spot.cursor spot.node :=
    fun is same => ⟨spot.here.found, same ▸ is, .inl rfl⟩
  unfold executeNode NodeEffect
  cases type : nodeType spot.node with
  | none => exact Does.pure fun _ _ _ => rfl
  | some kind =>
    cases kind with
    | approval => exact (executeApprovalNode_does lasting.stable _).after fun _ _ _ given => given.2
    | humanInput => exact Does.pure fun _ _ _ => rfl
    | delay => exact (executeDelayNode_does lasting.stable _).after fun _ _ _ given => given.2
    | parallel => exact (executeParallelNode_does lasting follows nested type).after fun _ _ _ given => given.2
    | tool => exact (executeToolNode_does lasting.stable (own type rfl)).after fun _ _ _ given => given.2
    | skill => grind [Does.read, Does.ofExcept]
    | agent => exact (executeAgentNode_does lasting.stable _ rfl).after fun _ _ _ given => given.2
    | subworkflow =>
      exact (executeSubworkflowNode_does lasting.stable follows nested rfl spot.here.found type (.inl rfl)).after
        fun _ _ _ given => given.2
    | _ => exact Does.ofExcept fun _ ran _ _ _ => ran

end Troop.Workflow
