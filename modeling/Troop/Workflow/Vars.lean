import Troop.Workflow.Traces

namespace Troop.Workflow

open List

def writtenKeys (nodeId : String) : Option NodeType → List String
  | some .approval => ["_consumed_approval_ids", "pending_approval_request_id"]
  | some .condition => ["_last_condition"]
  | some .delay => ["_delay_resume"]
  | some .parallel => ["parallel_branches", "parallel_outputs"]
  | some .router => ["_router_target"]
  | some .trigger => ["trigger_" ++ nodeId]
  | some .tool => ["pending_tool", "pending_approval_request_id", "tool_result_" ++ nodeId]
  | some .skill => ["skill_payload"]
  | some .agent => ["_agent_runs", "agent_output_" ++ nodeId]
  | some .subworkflow => ["_subworkflow_runs"]
  | some .humanInput | none => []

def Inherits (own : List Event) (vars after : Dict Json) (key : String) : Prop :=
  after.get key = vars.get key ∨ after.get key = .null ∨
    ∃ run node id merged, Event.agentMerged run node id merged ∈ own ∧ after.get key = Dict.get merged key

section Keys

variable {own : List Event} {vars base : Dict Json} {key : String}

theorem Inherits.refl (own : List Event) (vars : Dict Json) (key : String) : Inherits own vars vars key := .inl rfl

theorem Inherits.set {other : String} {value : Json} (inherits : Inherits own vars base key) (apart : other ≠ key) :
    Inherits own vars (base.set other value) key := by
  simpa only [Inherits, Dict.get_set_of_ne base value apart] using inherits

theorem Inherits.pop {other : String} (inherits : Inherits own vars base key) :
    Inherits own vars (base.pop other) key := by
  by_cases same : other = key
  · exact .inr (.inl (by rw [same, Dict.get_pop_self]))
  · simpa only [Inherits, Dict.get_pop_of_ne base same] using inherits

theorem Inherits.update {run node id : String} {merged : Dict Json} (inherits : Inherits own vars base key)
    (reported : Event.agentMerged run node id merged ∈ own) : Inherits own vars (base.update merged) key := by
  rcases Dict.get_update_cases base merged key with new | old
  · exact .inr (.inr ⟨run, node, id, merged, reported, new⟩)
  · simpa only [Inherits, old] using inherits

end Keys

theorem applyParallelMergePolicy_vars {vars branches config merged : Dict Json} {nodeId policy : String}
    {children : List String}
    (applied : applyParallelMergePolicy vars nodeId branches children policy config = .ok merged) :
    ∃ outputs, merged = vars.set "parallel_outputs" outputs := by
  unfold applyParallelMergePolicy at applied
  cases outputs : succeededOutputs branches children with
  | error error => simp [outputs, bind, Except.bind] at applied
  | ok outputs' =>
    cases all : (vars.get "parallel_outputs").toDict with
    | error error => simp [outputs, all, bind, Except.bind] at applied
    | ok all' =>
      cases value : mergedOutputs (normalizePolicy policy "namespaced") config branches outputs' with
      | error error => simp [outputs, all, value, bind, Except.bind] at applied
      | ok value' =>
        simp only [outputs, all, value, bind, Except.bind, pure, Except.pure] at applied
        cases applied
        exact ⟨_, rfl⟩

theorem finalizeParallel_vars {parallel : ParallelState} {config branches vars : Dict Json} {nodeId : String}
    {outcome : NodeOutcome} (finalized : finalizeParallel parallel config nodeId branches vars = .ok outcome) :
    ∃ stored, stored = vars.set "parallel_branches" (.obj (parallel.all.set nodeId (.obj
        ((parallel.state.set "branches" (.obj branches)).set "merge_policy" (.str parallel.mergePolicy))))) ∧
      (outcome.vars = stored ∨ ∃ outputs, outcome.vars = stored.set "parallel_outputs" outputs) := by
  refine ⟨_, rfl, ?_⟩
  obtain ⟨joined, _, finalized⟩ := except_bind_ok finalized
  split at finalized
  · simp only [bind, Except.bind] at finalized
    split at finalized
    · cases finalized
    · rename_i applied
      obtain ⟨outputs, rfl⟩ := applyParallelMergePolicy_vars applied
      cases finalized
      exact .inr ⟨outputs, rfl⟩
  · cases finalized
    exact .inl rfl
  · cases finalized
    exact .inl rfl

variable {node : Json} {frame : Frame} {visit : Visit} {approval : ApprovalRequest} {id : String}

theorem routerOutcome_vars {nodeId : String} {edges : List Json} {vars : Dict Json}
    {outcome : NodeOutcome} (executed : executeRouterNode node nodeId edges vars = .ok outcome) :
    ∃ selected output, outcome =
      succeeded output (if selected = "" then vars else vars.set "_router_target" (.str selected)) := by
  unfold executeRouterNode at executed
  simp only [bind, Except.bind] at executed
  split at executed
  · cases executed
  split at executed
  · cases executed
  split at executed
  · cases executed
  · rename_i chosen _
    cases executed
    exact ⟨chosen.1, _, rfl⟩

theorem conditionOutcome_vars {vars : Dict Json} {outcome : NodeOutcome}
    (executed : executeConditionNode node vars = .ok outcome) :
    ∃ result output, outcome = succeeded output (vars.set "_last_condition" (.bool result)) := by
  unfold executeConditionNode at executed
  cases read : nodeConfig node with
  | error error => simp [read, bind, Except.bind] at executed
  | ok config =>
    simp only [read, bind, Except.bind] at executed
    split at executed
    · split at executed
      · cases executed
        exact ⟨_, _, rfl⟩
      · split at executed
        · cases executed
        · cases executed
          exact ⟨_, _, rfl⟩
    · cases executed
      exact ⟨_, _, rfl⟩

theorem triggerOutcome_vars {nodeId : String} {vars : Dict Json} {outcome : NodeOutcome}
    (executed : executeTriggerNode node nodeId vars = .ok outcome) :
    ∃ metadata, outcome = succeeded metadata (vars.set ("trigger_" ++ nodeId) (.obj metadata)) := by
  unfold executeTriggerNode at executed
  simp only [bind, Except.bind] at executed
  split at executed
  · cases executed
  · split at executed
    · cases executed
    · cases executed
      exact ⟨_, rfl⟩

theorem skillOutcome_vars {db : Db} {vars : Dict Json} {missing : Option RunStatus}
    {outcome : NodeOutcome} (executed : executeSkillNode db node vars missing = .ok outcome) :
    (∃ output, outcome = ⟨.failed, output, missing, vars⟩) ∨
      ∃ output payload, outcome = succeeded output (vars.set "skill_payload" payload) := by
  unfold executeSkillNode at executed
  simp only [bind, Except.bind] at executed
  split at executed
  · cases executed
  split at executed
  · cases executed
    exact .inl ⟨_, rfl⟩
  · cases executed
    exact .inr ⟨_, _, rfl⟩

theorem humanInputOutcome_vars (vars : Dict Json) :
    (executeHumanInputNode vars = paused [] vars .waitingInput) ∨ ∃ output, executeHumanInputNode vars =
      succeeded output (((vars.pop "human_input").pop "human_input_by").pop "approval_granted") := by
  unfold executeHumanInputNode
  split
  · split
    · exact .inl rfl
    · exact .inr ⟨_, rfl⟩
  · exact .inl rfl

theorem childRunOutcome_vars (id : String) (status : RunStatus) (vars : Dict Json) :
    (childRunOutcome id status vars).vars = vars := by
  unfold childRunOutcome
  split
  · rfl
  · split <;> rfl

section Effects

variable {own : List Event} {vars : Dict Json} {key nodeId : String} {outcome : NodeOutcome}

theorem MemoBase.inherits {memoKey : String} {memo memo' base : Dict Json}
    (kept : MemoBase memoKey nodeId vars memo memo' base) (apart : memoKey ≠ key) : Inherits own vars base key := by
  rcases kept with ⟨_, rfl⟩ | ⟨_, rfl⟩
  · exact .refl ..
  · exact (Inherits.refl ..).set apart

theorem ApprovalEffect.inherits (effect : ApprovalEffect nodeId vars outcome)
    (apart : key ∉ writtenKeys nodeId (some .approval)) : Inherits own vars outcome.vars key := by
  simp only [writtenKeys, mem_cons, not_mem_nil, or_false, not_or] at apart
  cases effect with
  | granted approvalId consumed output grant request =>
    exact ((((Inherits.refl own vars key).set (Ne.symm apart.1)).pop.pop).pop).pop
  | requested id => exact (Inherits.refl ..).set (Ne.symm apart.2)
  | _ => exact .refl ..

theorem DelayEffect.inherits (effect : DelayEffect vars outcome)
    (apart : key ∉ writtenKeys nodeId (some .delay)) : Inherits own vars outcome.vars key := by
  simp only [writtenKeys, mem_cons, not_mem_nil, or_false] at apart
  cases effect with
  | elapsed output => exact (Inherits.refl ..).pop
  | scheduled output state => exact (Inherits.refl ..).set (Ne.symm apart)
  | _ => exact .refl ..

theorem droppedCall_inherits {base : Dict Json} (kept : base = vars ∨ base = droppedCall vars) :
    Inherits own vars base key := by
  rcases kept with rfl | rfl
  · exact .refl ..
  · exact (Inherits.refl ..).pop.pop

theorem ToolBase.inherits {base : Dict Json} (dropped : ToolBase nodeId vars base) : Inherits own vars base key :=
  droppedCall_inherits (dropped.imp And.right id)

theorem ToolEffect.inherits {node : Json} (effect : ToolEffect node nodeId vars outcome)
    (apart : key ∉ writtenKeys nodeId (some .tool)) : Inherits own vars outcome.vars key := by
  simp only [writtenKeys, mem_cons, not_mem_nil, or_false, not_or] at apart
  cases effect with
  | failed output base dropped => exact dropped.inherits
  | result output base answer dropped => exact dropped.inherits.set (Ne.symm apart.2.2)
  | parked output after parked =>
    have same := parked.elsewhere key apart.1 apart.2.1
    have inherits : Inherits own vars parked.base key := droppedCall_inherits parked.kept
    rwa [Inherits, ← same] at inherits

variable {runId : String} {track : Track}

theorem AgentEffect.inherits (effect : AgentEffect runId nodeId track vars own outcome)
    (apart : key ∉ writtenKeys nodeId (some .agent)) : Inherits own vars outcome.vars key := by
  simp only [writtenKeys, mem_cons, not_mem_nil, or_false, not_or] at apart
  have other := Ne.symm apart.1
  cases effect with
  | waiting | failedTask => exact .refl ..
  | merged id memo output payload read known used named reported =>
    exact ((Inherits.refl ..).set (Ne.symm apart.2)).update reported
  | started id memo memo' base output read kept named reported => exact (kept.inherits other).set other
  | refused memo memo' base output read kept unnamed => exact kept.inherits other
  | handedOff memo memo' base output read kept unnamed => exact kept.inherits other

theorem SubworkflowEffect.inherits {source : List Event}
    (effect : SubworkflowEffect runId nodeId track vars source outcome)
    (apart : key ∉ writtenKeys nodeId (some .subworkflow)) : Inherits own vars outcome.vars key := by
  simp only [writtenKeys, mem_cons, not_mem_nil, or_false] at apart
  have other := Ne.symm apart
  cases effect with
  | known id status memo read entry used =>
    rw [childRunOutcome_vars]
    exact .refl ..
  | started id status memo memo' base read kept reported =>
    rw [childRunOutcome_vars]
    exact (kept.inherits other).set other
  | refused memo memo' base output read kept unnamed => exact kept.inherits other

end Effects

theorem NodeEffect.inheritsFrom {cursor key : String} {outcome : NodeOutcome} {own : List Event}
    (effect : NodeEffect frame cursor node visit outcome) (agent : nodeType node = some .agent → own = visit.own)
    (apart : key ∉ writtenKeys cursor (nodeType node)) : Inherits own frame.vars outcome.vars key := by
  unfold NodeEffect at effect
  split at effect <;> rename_i type <;> rw [type] at apart
  · exact effect.inherits apart
  · subst effect
    rcases humanInputOutcome_vars frame.vars with same | ⟨output, same⟩ <;> rw [same]
    · exact .refl ..
    · exact (Inherits.refl ..).pop.pop.pop
  · obtain ⟨result, output, rfl⟩ := conditionOutcome_vars effect
    exact (Inherits.refl ..).set (by simpa [writtenKeys, eq_comm] using apart)
  · exact effect.inherits apart
  · obtain ⟨config, parallel, _, _, finalized⟩ := effect
    simp only [writtenKeys, mem_cons, not_mem_nil, or_false, not_or] at apart
    obtain ⟨stored, rfl, same | ⟨outputs, same⟩⟩ := finalizeParallel_vars finalized <;> rw [same]
    · exact (Inherits.refl ..).set (Ne.symm apart.1)
    · exact ((Inherits.refl ..).set (Ne.symm apart.1)).set (Ne.symm apart.2)
  · obtain ⟨selected, output, rfl⟩ := routerOutcome_vars effect
    split
    · exact .refl ..
    · exact (Inherits.refl ..).set (by simpa [writtenKeys, eq_comm] using apart)
  · obtain ⟨metadata, rfl⟩ := triggerOutcome_vars effect
    exact (Inherits.refl ..).set (by simpa [writtenKeys, eq_comm] using apart)
  · exact effect.inherits apart
  · obtain ⟨db, executed⟩ := effect
    rcases skillOutcome_vars executed with ⟨output, rfl⟩ | ⟨output, payload, rfl⟩
    · exact .refl ..
    · exact (Inherits.refl ..).set (by simpa [writtenKeys, eq_comm] using apart)
  · rw [agent type]
    exact effect.inherits apart
  · exact effect.inherits apart
  · subst effect
    exact .refl ..

theorem NodeEffect.inherits {cursor key : String}
    {outcome : NodeOutcome} (effect : NodeEffect frame cursor node visit outcome)
    (apart : key ∉ writtenKeys cursor (nodeType node)) : Inherits visit.own frame.vars outcome.vars key :=
  effect.inheritsFrom (fun _ => rfl) apart

theorem NodeEffect.goes {cursor : String} {outcome : NodeOutcome} (effect : NodeEffect frame cursor node visit outcome)
    (goes : outcome.pause = none) (passed : outcome.status ≠ .failed) : outcome.status = .succeeded := by
  unfold NodeEffect at effect
  split at effect
  · cases effect <;> first | rfl | cases goes
  · subst effect
    rcases humanInputOutcome_vars frame.vars with same | ⟨output, same⟩ <;> rw [same] at goes ⊢
    · cases goes
    · rfl
  · obtain ⟨result, output, rfl⟩ := conditionOutcome_vars effect
    rfl
  · cases effect <;> first | rfl | cases goes
  · obtain ⟨config, parallel, _, _, finalized⟩ := effect
    obtain ⟨joined, _, finalized⟩ := except_bind_ok finalized
    split at finalized
    · simp only [bind, Except.bind] at finalized
      split at finalized
      · cases finalized
      · cases finalized
        rfl
    all_goals
      cases finalized
      cases goes
  · obtain ⟨selected, output, rfl⟩ := routerOutcome_vars effect
    rfl
  · obtain ⟨metadata, rfl⟩ := triggerOutcome_vars effect
    rfl
  · cases effect <;> first | rfl | cases goes
  · obtain ⟨db, executed⟩ := effect
    rcases skillOutcome_vars executed with ⟨output, rfl⟩ | ⟨output, payload, rfl⟩
    · exact absurd rfl passed
    · rfl
  · cases effect <;> first | rfl | cases goes
  · cases effect with
    | known id status | started id status =>
      unfold childRunOutcome at goes ⊢
      split at goes
      · rw [if_pos ‹_›]
        rfl
      · split at goes <;> cases goes
    | refused => cases goes
  · subst effect
    rfl

@[simp] theorem follow_run (frame : Frame) (cursor : String) (vars : Dict Json) :
    (frame.follow cursor vars).run = frame.run := rfl

@[simp] theorem follow_version (frame : Frame) (cursor : String) (vars : Dict Json) :
    (frame.follow cursor vars).version = frame.version := rfl

@[simp] theorem follow_arrival (frame : Frame) (cursor : String) (vars : Dict Json) :
    (frame.follow cursor vars).arrival = .followed cursor := rfl

theorem follow_vars (frame : Frame) (cursor : String) (vars : Dict Json) :
    (frame.follow cursor vars).vars = vars.pop "_router_target" := by
  simp only [Frame.follow, nextNode]
  split <;> rfl

def resumeKeys : List String :=
  ["approval_granted", "approval_request_id", "approval_node_id", "approved_by", "pending_tool", "human_input",
    "human_input_by"]

theorem grantedVars_false {nodeId actor : Option String}
    {vars after : Dict Json} (granted : grantedVars id approval nodeId actor false vars = .ok after) :
    ∃ approver, after = (((vars.set "approval_granted" (.bool true)).set "approval_request_id" (.str id)).set
      "approval_node_id" (.ofOption nodeId)).set "approved_by" approver := by
  simp only [grantedVars, Bool.false_eq_true, if_false, pure, Except.pure, Except.ok.injEq] at granted
  exact ⟨_, granted.symm⟩

theorem grantedVars_true {nodeId actor : Option String}
    {vars after : Dict Json} (granted : grantedVars id approval nodeId actor true vars = .ok after) :
    ∃ pending approver, (vars.get "pending_tool").toDict = .ok pending ∧
      after = vars.set "pending_tool" (.obj (((pending.set "approval_request_id" (.str id)).set "approval_consumed"
        (.bool true)).set "approved_by" approver)) := by
  simp only [grantedVars, if_true, bind, Except.bind, pure, Except.pure] at granted
  split at granted
  · cases granted
  · grind

theorem Granted.get {last : Event → Prop} {run : WorkflowRun} {vars : Dict Json} {key : String}
    (granted : Granted last run node vars) (apart : key ∉ resumeKeys) :
    vars.get key = run.contextJson.vars.get key := by
  simp only [resumeKeys, mem_cons, not_mem_nil, or_false, not_or] at apart
  obtain ⟨grant, request, gate, approver, pending, human, by_⟩ := apart
  cases granted with
  | approval id approval actor vars type consumed granted =>
    obtain ⟨value, rfl⟩ := grantedVars_false granted
    simp only [Dict.get_set, Ne.symm grant, Ne.symm request, Ne.symm gate, Ne.symm approver, if_false]
  | pendingTool id approval call actor vars type parked read consumed granted =>
    obtain ⟨call', value, _, rfl⟩ := grantedVars_true granted
    simp only [Dict.get_set, Ne.symm pending, if_false]
  | humanInput payload actor type => simp only [Dict.get_set, Ne.symm human, Ne.symm by_, if_false]
  | unchanged noGate noCall => rfl

variable (rejection : Rejection)

theorem rejectedVars_get (vars : Dict Json) {key : String} (apart : key ≠ "approval_rejection") :
    (rejectedVars rejection vars).get key = vars.get key ∨ (rejectedVars rejection vars).get key = .null := by
  have noted : Inherits [] vars (rejectedVars rejection vars) key :=
    ((Inherits.refl [] vars key).set (Ne.symm apart)).pop.pop.pop.pop
  rcases noted with same | null | ⟨_, _, _, _, member, _⟩
  · exact .inl same
  · exact .inr null
  · cases member

theorem rejectedVars_falsy {vars : Dict Json} {key : String} (apart : key ≠ "approval_rejection")
    (unset : (vars.get key).truthy = false) : ((rejectedVars rejection vars).get key).truthy = false := by
  rcases rejectedVars_get rejection vars apart with same | null
  · rw [same, unset]
  · rw [null]
    rfl

@[simp] theorem requestChanges_vars (vars : Dict Json) (run : WorkflowRun) :
    (rejectedRow .requestChanges rejection vars run).contextJson.vars = vars.set "request_changes" rejection.json := rfl

theorem ChildInput.get {nodeId : String} {vars input : Dict Json} {key : String} (given : ChildInput nodeId vars input)
    (apart : key ≠ "_subworkflow_runs") : input.get key = vars.get key := by
  obtain ⟨memo, memo', _, ⟨_, rfl⟩ | ⟨_, rfl⟩⟩ := given
  · rfl
  · exact Dict.get_set_of_ne vars _ (Ne.symm apart)

end Troop.Workflow
