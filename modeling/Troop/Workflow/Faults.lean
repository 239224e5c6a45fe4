import Troop.Workflow.Configured

namespace Troop.Workflow

open Except (ok)
open Yields (bind next)

def ConfigurationMessage (text : String) : Prop :=
  text = "tool node missing config.tool or config.tool_slug" ∨
    text = "subworkflow node missing config.workflow_id" ∨ text = "child node not found" ∨
    ∃ type, text = "child type `" ++ type ++ "` is not supported in parallel"

def Misconfigured (output : Json) : Prop := ∃ text, output.get "error" = .str text ∧ ConfigurationMessage text

theorem not_misconfigured {output : Dict Json} (silent : output.get "error" = .null) : ¬ Misconfigured (.obj output) := by
  rintro ⟨text, told, _⟩
  exact absurd (silent.symm.trans told) (by simp)

def Faultless (program : Session NodeOutcome) : Prop :=
  Yields program fun outcome => ¬ Misconfigured (.obj outcome.output)

variable {env : Env} {calls : Calls} {run : WorkflowRun} {node : Json} {nodeId : String} {vars : Dict Json}

variable {outcome : NodeOutcome} {track : Track} {childId : String} {type : NodeType} {graph : Graph}
  {config memo : Dict Json} {entry : Dict Json}

theorem Faultless.pure (silent : Dict.get outcome.output "error" = .null) :
    Faultless (Pure.pure outcome) := Yields.pure (not_misconfigured silent)

theorem faultless_ofExcept {result : Except PyError NodeOutcome}
    (silent : ∀ outcome, result = .ok outcome → Dict.get outcome.output "error" = .null) :
    Faultless (Prog.ofExcept result) := Yields.ofExcept fun outcome same => not_misconfigured (silent outcome same)

theorem executeApprovalNode_faultless : Faultless (executeApprovalNode env run node nodeId vars) := by
  apply Yields.ite
  · intro _
    apply next
    intro consumed
    apply Yields.ite
    · exact fun _ => Faultless.pure rfl
    · intro _
      apply Yields.ite <;> exact fun _ => Faultless.pure rfl
  · intro _
    apply Yields.ite
    · exact fun _ => Faultless.pure rfl
    · intro _
      apply next
      exact fun id => Faultless.pure rfl

theorem executeHumanInputNode_silent : Dict.get (executeHumanInputNode vars).output "error" = .null := by
  unfold executeHumanInputNode
  split
  · split <;> rfl
  · rfl

theorem executeConditionNode_silent (executed : executeConditionNode node vars = .ok outcome) :
    Dict.get outcome.output "error" = .null := by
  obtain ⟨config, _, executed⟩ := except_bind_ok executed
  have told : ∀ result : Except PyError Bool, (result >>= fun result => pure (succeeded [("branch", .bool result),
      ("condition", ((conditionFromConfig config).map Json.obj).getD .null)]
        (vars.set "_last_condition" (.bool result)))) = .ok outcome → Dict.get outcome.output "error" = .null := by
    intro result ended
    obtain ⟨value, _, ended⟩ := except_bind_ok ended
    have same := ok.inj ended
    subst same
    rfl
  dsimp only at executed
  split at executed
  · split at executed <;> exact told _ executed
  · exact told _ executed

theorem executeDelayNode_faultless : Faultless (executeDelayNode env run node nodeId vars) := by
  apply next
  intro config
  apply next
  intro delayState
  apply next
  intro w
  apply Yields.ite
  · intro _
    apply next
    intro moment
    apply Yields.ite <;> exact fun _ => Faultless.pure rfl
  · intro _
    apply next
    intro seconds
    apply Yields.ite
    · intro _
      apply next
      exact fun _ => Faultless.pure rfl
    · exact fun _ => Faultless.pure rfl

theorem executeRouterNode_silent {edges : List Json}
    (executed : executeRouterNode node nodeId edges vars = .ok outcome) : Dict.get outcome.output "error" = .null := by
  obtain ⟨config, _, executed⟩ := except_bind_ok executed
  obtain ⟨rules, _, executed⟩ := except_bind_ok executed
  obtain ⟨selected, _, executed⟩ := except_bind_ok executed
  have same := ok.inj executed
  subst same
  rfl

theorem executeTriggerNode_silent (executed : executeTriggerNode node nodeId vars = .ok outcome) :
    Dict.get outcome.output "error" = .null := by
  obtain ⟨config, _, executed⟩ := except_bind_ok executed
  obtain ⟨extra, _, executed⟩ := except_bind_ok executed
  have same := ok.inj executed
  subst same
  rfl

theorem ne_of_head {left right : String} (apart : left.toList.head? ≠ right.toList.head?) : left ≠ right :=
  fun same => apart (congrArg (fun text => text.toList.head?) same)

theorem childType_head (type rest : String) : ("child type `" ++ type ++ rest).toList.head? = some 'c' := by
  simp [String.toList_append]

theorem not_configurationMessage {text : String} (tool : text.toList.head? ≠ some 't')
    (subworkflow : text.toList.head? ≠ some 's') (child : text.toList.head? ≠ some 'c') :
    ¬ ConfigurationMessage text := by
  rintro (rfl | rfl | rfl | ⟨type, rfl⟩)
  · exact tool rfl
  · exact subworkflow rfl
  · exact child rfl
  · exact child (childType_head type _)

theorem skillMissing_unconfigured : ¬ Misconfigured (.obj [("error", .str "skill version not found")]) := by
  rintro ⟨text, told, message⟩
  have same : text = "skill version not found" := (Json.str.inj told).symm
  subst same
  rcases message with same | same | same | ⟨type, same⟩
  · exact absurd same (by decide)
  · exact absurd same (by decide)
  · exact absurd same (by decide)
  · exact ne_of_head (by rw [childType_head]; decide) same

theorem executeSkillNode_faultless {db : Db} {missing : Option RunStatus} :
    Faultless (Prog.ofExcept (executeSkillNode db node vars missing)) := by
  apply Yields.ofExcept
  intro outcome executed
  obtain ⟨config, _, executed⟩ := except_bind_ok executed
  split at executed
  · have same := ok.inj executed
    subst same
    exact skillMissing_unconfigured
  · have same := ok.inj executed
    subst same
    exact not_misconfigured rfl

theorem dispatchTool_faultless {toolSlug : String} {params context : Dict Json} (named : toolSlug ≠ "") :
    Faultless (dispatchTool env run nodeId toolSlug params context vars) := by
  apply Yields.ite
  · exact fun empty => absurd empty named
  intro _
  apply Yields.ite
  · exact fun _ => Faultless.pure rfl
  intro _
  apply next
  intro result
  apply Yields.ite
  · intro _
    apply next
    exact fun id => Faultless.pure rfl
  · intro _
    apply Yields.ite <;> exact fun _ => Faultless.pure rfl

theorem executeToolNode_faultless (fresh : pendingFor vars nodeId = none)
    (referenced : ∀ config, nodeConfig node = .ok config → configuredTool config ≠ "") :
    Faultless (executeToolNode env run node nodeId vars) := by
  apply bind (Yields.ofExcept fun config read => referenced config read)
  intro config named
  rw [fresh]
  apply next
  intro params
  exact dispatchTool_faultless named

theorem executeSimpleNode_faultless (typed : nodeType node = some type)
    (simple : type ∈ [NodeType.tool, .skill, .condition, .trigger]) (fresh : pendingFor vars nodeId = none)
    (referenced : ∀ config, nodeConfig node = .ok config → Referenced (nodeType node) config) :
    Faultless (executeSimpleNode env run node nodeId vars) := by
  unfold executeSimpleNode
  rw [typed]
  rw [typed] at referenced
  simp only [List.mem_cons, List.not_mem_nil, or_false] at simple
  rcases simple with rfl | rfl | rfl | rfl
  · exact executeToolNode_faultless fresh referenced
  · apply next
    exact fun w => executeSkillNode_faultless
  · exact faultless_ofExcept fun outcome => executeConditionNode_silent
  · exact faultless_ofExcept fun outcome => executeTriggerNode_silent

theorem ownerMissing_unconfigured :
    ¬ Misconfigured (.obj [("error", .str "workflow run owner user not found for agent TaskRun")]) := by
  rintro ⟨text, told, message⟩
  have same : text = "workflow run owner user not found for agent TaskRun" := (Json.str.inj told).symm
  subst same
  exact not_configurationMessage (by decide) (by decide) (by decide) message

theorem agentHandoff_silent (agentId : Json) : Dict.get (agentHandoff run agentId) "error" = .null := by
  unfold agentHandoff
  split <;> rfl

theorem collectTaskRun_faultless {id : String} {taskRun : TaskRun} :
    Faultless (collectTaskRun env run nodeId track id taskRun vars) := by
  apply next
  intro _
  apply Yields.ite
  · intro _
    apply next
    intro _
    apply next
    intro _
    apply Yields.ite <;> exact fun _ => Faultless.pure rfl
  · intro _
    apply next
    exact fun _ => Faultless.pure rfl

theorem startAgentTaskRun_faultless :
    Faultless (startAgentTaskRun env run config nodeId track memo vars) := by
  apply Yields.ite
  · intro _
    apply next
    intro w
    apply Yields.ite
    · exact fun _ => Yields.pure ownerMissing_unconfigured
    intro _
    apply next
    intro given
    apply next
    intro taskRun
    apply next
    intro selected
    apply next
    intro checkpoint
    apply next
    intro _
    apply next
    intro _
    apply next
    exact fun _ => Faultless.pure rfl
  · exact fun _ => Faultless.pure (agentHandoff_silent _)

theorem executeAgentNode_faultless : Faultless (executeAgentNode env run node nodeId track vars) := by
  apply next
  intro config
  apply next
  intro memo
  split
  · apply next
    intro w
    split
    · exact collectTaskRun_faultless
    · exact startAgentTaskRun_faultless
  · exact startAgentTaskRun_faultless

theorem childRunOutcome_silent (id : String) (status : RunStatus) :
    Dict.get (childRunOutcome id status vars).output "error" = .null := by
  unfold childRunOutcome
  split
  · rfl
  · split <;> rfl

theorem startChildRun_faultless (referenced : (config.get "workflow_id").truthy = true) :
    Faultless (startChildRun env calls run config nodeId track memo vars) := by
  apply Yields.ite
  · exact fun missing => absurd referenced missing
  intro _
  apply next
  rintro ⟨created, version⟩
  apply next
  intro _
  apply next
  intro _
  apply next
  intro child
  apply next
  exact fun _ => Faultless.pure (childRunOutcome_silent _ _)

theorem executeSubworkflowNode_faultless
    (referenced : ∀ config, nodeConfig node = .ok config → (config.get "workflow_id").truthy = true) :
    Faultless (executeSubworkflowNode env calls run node nodeId track vars) := by
  apply bind (Yields.ofExcept fun config read => referenced config read)
  intro config named
  apply next
  intro memo
  split
  · apply next
    intro w
    split
    · apply next
      intro _
      apply next
      exact fun _ => Faultless.pure (childRunOutcome_silent _ _)
    · exact startChildRun_faultless named
  · exact startChildRun_faultless named

theorem finalizeParallel_silent {parallel : ParallelState} {config branches : Dict Json}
    (finished : finalizeParallel parallel config nodeId branches vars = .ok outcome) :
    Dict.get outcome.output "error" = .null := by
  obtain ⟨joined, _, finished⟩ := except_bind_ok finished
  split at finished
  · obtain ⟨merged, _, finished⟩ := except_bind_ok finished
    have same := ok.inj finished
    subst same
    rfl
  · have same := ok.inj finished
    subst same
    rfl
  · have same := ok.inj finished
    subst same
    rfl

theorem executeParallelNode_faultless {nodes : Dict Json} :
    Faultless (executeParallelNode env calls run node nodeId nodes vars) := by
  apply next
  intro config
  apply next
  intro parallel
  apply Yields.ite
  · intro _
    apply next
    exact fun _ => faultless_ofExcept fun outcome => finalizeParallel_silent
  · intro _
    apply next
    exact fun branches => faultless_ofExcept fun outcome => finalizeParallel_silent

theorem executeNode_faultless {frame : Frame} (ready : Ready graph node)
    (fresh : pendingFor frame.vars nodeId = none) : Faultless (executeNode env calls frame nodeId node) := by
  unfold executeNode
  have referenced := ready.referenced
  have configured := ready.configured
  cases type : nodeType node with
  | none => exact Faultless.pure rfl
  | some kind =>
    rw [type] at referenced configured
    cases kind with
    | approval => exact executeApprovalNode_faultless
    | humanInput => exact Faultless.pure executeHumanInputNode_silent
    | condition => exact faultless_ofExcept fun outcome => executeConditionNode_silent
    | delay => exact executeDelayNode_faultless
    | parallel => exact executeParallelNode_faultless
    | router => exact faultless_ofExcept fun outcome => executeRouterNode_silent
    | trigger => exact faultless_ofExcept fun outcome => executeTriggerNode_silent
    | tool => exact executeToolNode_faultless fresh referenced
    | skill =>
      apply next
      exact fun w => executeSkillNode_faultless
    | agent => exact executeAgentNode_faultless
    | subworkflow => exact executeSubworkflowNode_faultless fun config read => (configured config read).2

def BranchFaultless (program : Session (Dict Json)) : Prop := Yields program fun entry => ¬ Misconfigured (entry.get "output")

theorem startDelayBranch_faultless : BranchFaultless (startDelayBranch env run nodeId childId node) := by
  apply next
  intro config
  apply next
  intro seconds
  apply Yields.ite
  · intro _
    apply next
    exact fun _ => Yields.pure (not_misconfigured rfl)
  · intro _
    apply next
    intro w
    apply next
    intro _
    apply next
    exact fun _ => Yields.pure (not_misconfigured rfl)

theorem startBranch_faultless (ready : Ready graph node) (typed : nodeType node = some type)
    (supported : type ∈ parallelTypes) (fresh : pendingFor vars childId = none) :
    BranchFaultless (startBranch env calls run nodeId childId node entry vars) := by
  have configured := ready.configured
  rw [typed] at configured
  have simple : type ∈ [NodeType.tool, .skill, .condition, .trigger] → BranchFaultless (do
      let outcome ← executeSimpleNode env run node childId vars
      return (withResult entry (outcomeBranchStatus outcome) outcome.output).set "child_type"
        (.str (nodeTypeText node))) := by
    intro simple
    apply bind (executeSimpleNode_faultless typed simple fresh ready.referenced)
    intro outcome faultless
    apply Yields.pure
    rw [Dict.get_set_of_ne _ _ (by decide), withResult_output]
    exact faultless
  unfold startBranch
  rw [typed]
  cases type with
  | agent => exact bind executeAgentNode_faultless fun outcome faultless => Yields.pure faultless
  | subworkflow =>
    refine bind ?_ fun outcome faultless => Yields.pure faultless
    exact executeSubworkflowNode_faultless fun config read => (configured config read).2
  | delay => exact startDelayBranch_faultless
  | tool | skill | condition | trigger => exact simple (by decide)
  | router | parallel | approval | humanInput => exact absurd supported (by decide)

theorem startedBranch_faultless {childNode : Json} (ready : Ready graph childNode) (typed : nodeType childNode = some type)
    (supported : type ∈ parallelTypes) (fresh : pendingFor vars childId = none) :
    BranchFaultless (startedBranch env calls run nodeId childId (some childNode) entry vars) := by
  apply next
  exact fun _ => startBranch_faultless ready typed supported fresh

end Troop.Workflow
