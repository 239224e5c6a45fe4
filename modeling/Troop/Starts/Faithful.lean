import Troop.Starts.Nodes
import Troop.Workflow.System

namespace Troop.Starts

open Workflow (WorkflowRun Track)
open List
open Except (ok)
open Dict (get?_update get_nil get_pop_of_ne get_set_of_ne get_set_self)

def Carries (part whole : Dict Json) : Prop :=
  ∀ key value, part.get? key = some value → whole.get? key = some value

variable {key : String} {members : Dict Json} {value : Json}

theorem pairs_mem {items : List Json} (read : Json.toDict.pairs items = .ok members) (member : (key, value) ∈ members) : Json.arr [.str key, value] ∈ items := by
  induction items generalizing members with
  | nil =>
    cases read
    cases member
  | cons item rest ih =>
    unfold Json.toDict.pairs at read
    split at read
    · simp_all
    · rename_i name content tail same
      cases same
      cases rest' : Json.toDict.pairs rest with
      | error error =>
        rw [rest'] at read
        cases read
      | ok found =>
        rw [rest'] at read
        have same : (name, content) :: found = members := ok.inj read
        rw [← same] at member
        rcases mem_cons.mp member with here | later
        · simp_all
        · exact mem_cons_of_mem _ (ih rest' later)
    · cases read

theorem toDict_smaller (read : value.toDict = .ok members) {item : Json} (member : (key, item) ∈ members) : sizeOf item < sizeOf value := by
  unfold Json.toDict at read
  split at read
  · have same := ok.inj read
    subst same
    have inside := sizeOf_lt_of_mem member
    simp only [Prod.mk.sizeOf_spec, Json.obj.sizeOf_spec] at inside ⊢
    omega
  · have inside := sizeOf_lt_of_mem (pairs_mem read member)
    simp only [Json.arr.sizeOf_spec, cons.sizeOf_spec, nil.sizeOf_spec] at inside ⊢
    omega
  · split at read
    · cases read
    · simp_all

theorem storedInput_eq {payload explanation stored : Dict Json} (ran : storedInput payload explanation = .ok stored) :
    ∃ nested value, (payload.get "input_payload").toDict = .ok nested ∧
      stored = nested.set "orchestration_meta" value := by
  obtain ⟨nested, read, rest⟩ := except_bind_ok ran
  refine ⟨nested, ?_⟩
  split at rest <;> exact ⟨_, read, (ok.inj rest).symm⟩

theorem starterPayload_get (worker orchestrator : Json) (runMode : String) (inputPayload : Dict Json)
    (apart : key ∉ ["worker_agent_id", "orchestrator_agent_id", "run_mode", "allow_degraded_snapshot"]) :
    (starterPayload worker orchestrator runMode inputPayload).get key = inputPayload.get key := by
  simp only [mem_cons, not_mem_nil, or_false, not_or] at apart
  obtain ⟨notWorker, notOrchestrator, notMode, notDegraded⟩ := apart
  unfold starterPayload
  rw [get_set_of_ne _ _ (Ne.symm notDegraded), get_set_of_ne _ _ (Ne.symm notMode)]
  have first : (if worker ≠ Json.null then inputPayload.set "worker_agent_id" worker else inputPayload).get key =
      inputPayload.get key := by
    split
    · exact get_set_of_ne _ _ (Ne.symm notWorker)
    · rfl
  split
  · rwa [get_set_of_ne _ _ (Ne.symm notOrchestrator)]
  · exact first

theorem nodeInput_get (run : WorkflowRun) (track : Track) (vars given : Dict Json)
    (apart : key ∉ ["workflow_run_id", "workflow_node_id", "workflow_context", "workflow_branch_key"]) :
    (nodeInput run track vars given).get key = given.get key := by
  simp only [mem_cons, not_mem_nil, or_false, not_or] at apart
  obtain ⟨notRun, notNode, notContext, notBranch⟩ := apart
  have named : (namedInput run track vars given).get key = given.get key := by
    unfold namedInput
    rw [Dict.get_update]
    simp [Dict.get?, Ne.symm notRun, Ne.symm notNode, Ne.symm notContext, Dict.get]
  unfold nodeInput
  split
  · rwa [get_set_of_ne _ _ (Ne.symm notBranch)]
  · exact named

structure Started (services : Services) (db : Db) (project : OrchestratorProject) (task : OrchestratorTask)
    (payload : Dict Json) (picked : Selected) (run : TaskRun) : Prop where
  selected : selectAgents services db project task payload = .ok picked
  pinned : checkPinned services db task picked = .ok ()
  worker : agentKey db picked.worker = .ok run.workerAgentId
  orchestrator : agentKey db picked.orchestrator = .ok run.orchestratorAgentId
  reviewer : agentKey db picked.reviewer = .ok run.reviewerAgentId
  provider : providerKey db ((payload.get "provider_config_id").pyOr (project.execution.get "provider_config_id")) =
    .ok run.providerConfigId
  model : column ((payload.get "model_name").pyOr (project.execution.get "model_name")) = .ok run.modelName
  mode : runModeColumn (payloadRunMode payload) = .ok run.runMode
  input : ∃ explanation, storedInput payload explanation = .ok run.inputPayloadJson

section Start

variable {services : Services} {db : Db} {project : OrchestratorProject} {task : OrchestratorTask}

variable {left right : Json} {track : Track} {first second : Option String} {exists? : String → Bool}
  {payload : Dict Json} {started : TaskRun}

theorem startTaskRun_started {run : TaskRun} (ran : startTaskRun services db project task payload = .ok run) :
    ∃ picked, Started services db project task payload picked run := by
  obtain ⟨picked, selected, ran⟩ := except_bind_ok ran
  obtain ⟨_, pinned, ran⟩ := except_bind_ok ran
  obtain ⟨_, _, ran⟩ := except_bind_ok ran
  obtain ⟨_, _, ran⟩ := except_bind_ok ran
  obtain ⟨modelName, model, ran⟩ := except_bind_ok ran
  obtain ⟨stored, input, ran⟩ := except_bind_ok ran
  obtain ⟨worker, workerKey, ran⟩ := except_bind_ok ran
  obtain ⟨orchestrator, orchestratorKey, ran⟩ := except_bind_ok ran
  obtain ⟨reviewer, reviewerKey, ran⟩ := except_bind_ok ran
  obtain ⟨provider, providerRow, ran⟩ := except_bind_ok ran
  obtain ⟨mode, modeRow, ran⟩ := except_bind_ok ran
  obtain ⟨_, _, ran⟩ := except_bind_ok ran
  obtain ⟨_, _, ran⟩ := except_bind_ok ran
  have same := ok.inj ran
  subst same
  exact ⟨picked, selected, pinned, workerKey, orchestratorKey, reviewerKey, providerRow, model, modeRow, _, input⟩

/-- The run never stores the input it was configured with: what is stored is what that input has under its own
    `input_payload`, so a run that stored all of the input would store a value inside itself. -/
theorem started_input_lost {run : WorkflowRun} {config vars given : Dict Json}
    (configured : configuredInput config = .ok given)
    (ran : startNodeRun services db project task run track config vars = .ok started) :
    ¬ Carries (namedInput run track vars given) started.inputPayloadJson := by
  intro carries
  obtain ⟨read, again, ran⟩ := except_bind_ok ran
  rw [configured] at again
  cases again
  obtain ⟨picked, started'⟩ := startTaskRun_started ran
  obtain ⟨explanation, stored⟩ := started'.input
  obtain ⟨nested, value, nestedRead, same⟩ := storedInput_eq stored
  rw [starterPayload_get _ _ _ _ (by decide), nodeInput_get _ _ _ _ (by decide)] at nestedRead
  have runId : (namedInput run track vars given).get? "workflow_run_id" = some (.str run.id) := by
    unfold namedInput
    rw [get?_update]
    rfl
  have keeps := carries _ _ runId
  rw [same, Dict.get?_set_of_ne _ _ (by decide)] at keeps
  cases found : given.get? "input_payload" with
  | none =>
    rw [Dict.get, found] at nestedRead
    cases nestedRead
    cases keeps
  | some payload =>
    rw [Dict.get, found] at nestedRead
    have named : (namedInput run track vars given).get? "input_payload" = some payload := by
      unfold namedInput
      rw [get?_update, found]
      rfl
    have inside := carries _ _ named
    rw [same, Dict.get?_set_of_ne _ _ (by decide)] at inside
    have smaller := toDict_smaller nestedRead (Dict.mem_of_get? inside)
    exact Nat.lt_irrefl _ smaller

def debateWorker (services : Services) (db : Db) (task : OrchestratorTask) (orchestrator : Json) (named : String) :
    String :=
  match selectDebatePair services db task orchestrator with
  | [] => named
  | first :: _ => first.id

def namedOrchestrator (project : OrchestratorProject) (payload : Dict Json) : Json :=
  (payload.get "orchestrator_agent_id").pyOr (project.execution.get "manager_agent_id")

theorem selectAgents_worker {picked : Selected} {id : String} (named : payload.get "worker_agent_id" = .str id)
    (selected : selectAgents services db project task payload = .ok picked) :
    picked.worker = .str (if payloadRunMode payload = .str "debate" then
      debateWorker services db task (namedOrchestrator project payload) id else id) := by
  obtain ⟨reviewer, _, rest⟩ := except_bind_ok selected
  have same := (ok.inj rest).symm
  have explicit : namedWorker project.execution payload task = (.str id, some .payload) := by
    unfold namedWorker
    simp_all
  rw [explicit] at same
  have notNull : ¬ (runsAnAgent (payloadRunMode payload) ∧ Json.str id = .null) := by simp_all
  by_cases debate : payloadRunMode payload = .str "debate"
  · rw [debate] at same notNull
    simp only [withWorker, if_neg notNull, withManager] at same
    simp only [withDebatePair, if_true] at same
    rw [same]
    unfold debateWorker namedOrchestrator
    split <;> simp_all
  · simp only [withWorker, if_neg notNull] at same
    rw [same]
    simp only [withDebatePair, if_neg debate, withManager]
    split <;> rfl

theorem starterPayload_worker (id : String) (orchestrator : Json) (runMode : String) (inputPayload : Dict Json) :
    (starterPayload (.str id) orchestrator runMode inputPayload).get "worker_agent_id" = .str id := by
  have notNull : Json.str id ≠ .null := by nofun
  unfold starterPayload
  rw [get_set_of_ne _ _ (by decide), get_set_of_ne _ _ (by decide), if_pos notNull]
  split
  · rw [get_set_of_ne _ _ (by decide), get_set_self]
  · rw [get_set_self]

theorem starterPayload_orchestrator (id : String) (orchestrator : Json) (runMode : String) (inputPayload : Dict Json) :
    (starterPayload (.str id) orchestrator runMode inputPayload).get "orchestrator_agent_id" =
      if orchestrator ≠ .null then orchestrator else inputPayload.get "orchestrator_agent_id" := by
  have notNull : Json.str id ≠ .null := by nofun
  unfold starterPayload
  rw [get_set_of_ne _ _ (by decide), get_set_of_ne _ _ (by decide), if_pos notNull]
  by_cases named : orchestrator ≠ .null
  · rw [if_pos named, if_pos named, get_set_self]
  · rw [if_neg named, if_neg named, get_set_of_ne _ _ (by decide)]

theorem starterPayload_mode (worker orchestrator : Json) (runMode : String) (inputPayload : Dict Json) :
    payloadRunMode (starterPayload worker orchestrator runMode inputPayload) = .str runMode := by
  unfold payloadRunMode starterPayload
  rw [Dict.get?_set_of_ne _ _ (by decide), Dict.get?_set_self]
  rfl

def nodeOrchestrator (project : OrchestratorProject) (config given : Dict Json) : Json :=
  (if config.get "orchestrator_agent_id" ≠ .null then config.get "orchestrator_agent_id"
    else given.get "orchestrator_agent_id").pyOr (project.execution.get "manager_agent_id")

def nodeWorker (services : Services) (db : Db) (project : OrchestratorProject) (task : OrchestratorTask)
    (config given : Dict Json) : String :=
  let named := (config.get "agent_id").pyStr
  if nodeRunMode config = "debate" then debateWorker services db task (nodeOrchestrator project config given) named
  else named

structure NodeStarted (services : Services) (db : Db) (project : OrchestratorProject) (task : OrchestratorTask)
    (config given : Dict Json) (run : TaskRun) : Prop where
  worker : agentKey db (.str (nodeWorker services db project task config given)) = .ok run.workerAgentId
  mode : run.runMode = nodeRunMode config
  provider : providerKey db ((given.get "provider_config_id").pyOr (project.execution.get "provider_config_id")) =
    .ok run.providerConfigId
  model : column ((given.get "model_name").pyOr (project.execution.get "model_name")) = .ok run.modelName

theorem startNodeRun_started {run : WorkflowRun} {config vars given : Dict Json}
    (configured : configuredInput config = .ok given)
    (ran : startNodeRun services db project task run track config vars = .ok started) :
    NodeStarted services db project task config given started := by
  obtain ⟨read, again, ran⟩ := except_bind_ok ran
  rw [configured] at again
  cases again
  obtain ⟨picked, made⟩ := startTaskRun_started ran
  have worker := selectAgents_worker (starterPayload_worker _ _ _ _) made.selected
  have agentRow := made.worker
  have modeRow := made.mode
  have providerRow := made.provider
  have model := made.model
  rw [starterPayload_mode, namedOrchestrator, starterPayload_orchestrator, nodeInput_get _ _ _ _ (by decide)] at worker
  rw [starterPayload_mode] at modeRow
  rw [starterPayload_get _ _ _ _ (by decide), nodeInput_get _ _ _ _ (by decide)] at providerRow model
  refine ⟨?_, (ok.inj modeRow).symm, providerRow, model⟩
  unfold nodeWorker nodeOrchestrator
  by_cases debate : nodeRunMode config = "debate" <;> simp_all

theorem column_inj {value : Option String} (first : column left = .ok value)
    (second : column right = .ok value) : left = right := by
  unfold column at first second
  split at first <;> split at second <;> cases first <;> cases second <;> rfl

theorem foreignKey_column {value : Json} {id : Option String}
    (ran : foreignKey exists? value = .ok id) : column value = .ok id ∧ id.all exists? = true := by
  obtain ⟨read, same, rest⟩ := except_bind_ok ran
  split at rest
  · rename_i present
    cases rest
    exact ⟨same, present⟩
  · cases rest

theorem foreignKey_eq_iff (read : foreignKey exists? left = .ok first) (readToo : foreignKey exists? right = .ok second) :
    first = second ↔ left = right := by
  constructor
  · intro same
    subst same
    exact column_inj (foreignKey_column read).1 (foreignKey_column readToo).1
  · grind

theorem column_eq_iff
    (read : column left = .ok first) (readToo : column right = .ok second) : first = second ↔ left = right := by
  constructor
  · intro same
    subst same
    exact column_inj read readToo
  · grind

theorem pyOr_eq_right_iff (left right : Json) : left.pyOr right = right ↔ (left.truthy = true → left = right) := by
  unfold Json.pyOr
  by_cases given : left.truthy = true <;> simp_all

def bare (config : Dict Json) : Dict Json := (config.pop "input").pop "input_payload"

theorem bare_get (config : Dict Json) {key : String} (apart : key ≠ "input" ∧ key ≠ "input_payload") :
    (bare config).get key = config.get key := by
  unfold bare
  rw [get_pop_of_ne _ (Ne.symm apart.2), get_pop_of_ne _ (Ne.symm apart.1)]

theorem configuredInput_bare (config : Dict Json) : configuredInput (bare config) = .ok [] := by
  unfold configuredInput bare
  rw [Dict.get_pop_self, get_pop_of_ne _ (by decide), Dict.get_pop_self]
  rfl

structure SameCall (run plain : TaskRun) : Prop where
  worker : run.workerAgentId = plain.workerAgentId
  mode : run.runMode = plain.runMode
  provider : run.providerConfigId = plain.providerConfigId
  model : run.modelName = plain.modelName

/-- The input names no provider and no model but the project's, and, where the node debates without an orchestrator of
    its own, none that changes the first of the pair. -/
structure Unsteered (services : Services) (db : Db) (project : OrchestratorProject) (task : OrchestratorTask)
    (config given : Dict Json) : Prop where
  provider : (given.get "provider_config_id").truthy = true →
    given.get "provider_config_id" = project.execution.get "provider_config_id"
  model : (given.get "model_name").truthy = true → given.get "model_name" = project.execution.get "model_name"
  debater : nodeRunMode config = "debate" → config.get "orchestrator_agent_id" = .null →
    (given.get "orchestrator_agent_id").truthy = true →
      debateWorker services db task (given.get "orchestrator_agent_id") (config.get "agent_id").pyStr =
        debateWorker services db task (project.execution.get "manager_agent_id") (config.get "agent_id").pyStr

theorem nodeWorker_eq_iff (config given : Dict Json) :
    nodeWorker services db project task config given = nodeWorker services db project task (bare config) [] ↔
      (nodeRunMode config = "debate" → config.get "orchestrator_agent_id" = .null →
        (given.get "orchestrator_agent_id").truthy = true →
          debateWorker services db task (given.get "orchestrator_agent_id") (config.get "agent_id").pyStr =
            debateWorker services db task (project.execution.get "manager_agent_id") (config.get "agent_id").pyStr) := by
  have mode : nodeRunMode (bare config) = nodeRunMode config := by
    unfold nodeRunMode
    rw [bare_get config (by decide)]
  unfold nodeWorker
  rw [mode, bare_get config (by decide)]
  by_cases debate : nodeRunMode config = "debate"
  · rw [if_pos debate, if_pos debate]
    unfold nodeOrchestrator
    rw [bare_get config (by decide), get_nil]
    by_cases named : config.get "orchestrator_agent_id" = .null
    · rw [if_neg (not_not_intro named), if_neg (not_not_intro named)]
      by_cases given' : (given.get "orchestrator_agent_id").truthy = true
      · have taken : (given.get "orchestrator_agent_id").pyOr (project.execution.get "manager_agent_id") =
            given.get "orchestrator_agent_id" := if_pos given'
        rw [taken]
        exact ⟨fun same _ _ _ => same, fun same => same debate named given'⟩
      · have left : (given.get "orchestrator_agent_id").pyOr (project.execution.get "manager_agent_id") =
            project.execution.get "manager_agent_id" := if_neg given'
        rw [left]
        exact ⟨fun _ _ _ truth => absurd truth given', fun _ => rfl⟩
    · simp_all
  · simp_all

theorem sameCall_iff {run : WorkflowRun} {config vars given : Dict Json} {started plain : TaskRun}
    (configured : configuredInput config = .ok given)
    (ran : startNodeRun services db project task run track config vars = .ok started)
    (ranBare : startNodeRun services db project task run track (bare config) vars = .ok plain) :
    SameCall started plain ↔ Unsteered services db project task config given := by
  have full := startNodeRun_started configured ran
  have empty := startNodeRun_started (configuredInput_bare config) ranBare
  have worker := foreignKey_eq_iff full.worker empty.worker
  have provider := foreignKey_eq_iff full.provider empty.provider
  have model := column_eq_iff full.model empty.model
  have plainly : ∀ right : Json, Json.null.pyOr right = right := fun _ => rfl
  rw [Json.str.injEq, nodeWorker_eq_iff] at worker
  rw [get_nil, plainly, pyOr_eq_right_iff] at provider model
  have mode : started.runMode = plain.runMode := by
    rw [full.mode, empty.mode]
    unfold nodeRunMode
    rw [bare_get config (by decide)]
  constructor
  · intro same
    exact ⟨provider.mp same.provider, model.mp same.model, worker.mp same.worker⟩
  · intro free
    exact ⟨worker.mpr free.debater, mode, provider.mpr free.provider, model.mpr free.model⟩

end Start

section Merge

variable {env : Workflow.Env} {run : WorkflowRun} {nodeId : String} {vars : Dict Json}

def mergedVars (nodeId : String) (payload vars : Dict Json) : Dict Json :=
  (vars.set ("agent_output_" ++ nodeId) (.obj payload)).update (Workflow.agentUpdate payload)

variable {taskRun : Workflow.TaskRun} {track : Track} {id : String}

theorem collectTaskRun_merges (ended : taskRun.status = .completed) :
    Yields (Workflow.collectTaskRun env run nodeId track id taskRun vars) fun outcome =>
      outcome.vars = mergedVars nodeId taskRun.outputPayloadJson vars := by
  apply Yields.next
  intro _
  apply Yields.ite
  · intro _
    apply Yields.next
    intro _
    apply Yields.next
    intro _
    apply Yields.ite
    · simp_all
    · intro _
      exact Yields.pure rfl
  · intro live
    rw [ended] at live
    exact absurd rfl live

theorem executeAgentNode_merges {node : Json} {memo : Dict Json} {world after : Workflow.World} {outcome : Workflow.NodeOutcome}
    (memoRead : (vars.get "_agent_runs").toDict = .ok memo) (known : Workflow.memoEntry memo nodeId = some id)
    (row : world.db.taskRuns.get? id = some taskRun) (ended : taskRun.status = .completed)
    (ran : (Workflow.executeAgentNode env run node nodeId track vars).exec world = (.ok outcome, after)) :
    outcome.vars = mergedVars nodeId taskRun.outputPayloadJson vars := by
  unfold Workflow.executeAgentNode at ran
  cases configRead : Workflow.nodeConfig node with
  | error error => simp [configRead, Prog.exec_bind_error (Prog.exec_ofExcept _ _)] at ran
  | ok config =>
    rw [configRead, Prog.exec_bind_ok (Prog.exec_ofExcept _ _), memoRead,
      Prog.exec_bind_ok (Prog.exec_ofExcept _ _), known] at ran
    rw [Prog.exec_bind_ok (Prog.exec_get _)] at ran
    rw [row] at ran
    exact (collectTaskRun_merges ended).run _ _ _ ran

/-- A field that the merge leaves readable: the output itself has it, or the vars have it and the output does not hide it. -/
def FieldKept (nodeId : String) (payload vars : Dict Json) (key : String) (value : Json) : Prop :=
  payload.get? key = some value ∨
    payload.get? key = none ∧ (vars.set ("agent_output_" ++ nodeId) (.obj payload)).get? key = some value

theorem mergedVars_carries_iff {payload fields : Dict Json} (unstructured : payload.get "structured_output" = .null) :
    Carries fields (mergedVars nodeId payload vars) ↔
      ∀ key value, fields.get? key = some value → FieldKept nodeId payload vars key value := by
  have update : Workflow.agentUpdate payload = payload := by
    unfold Workflow.agentUpdate
    rw [unstructured]
    rfl
  unfold Carries mergedVars FieldKept
  rw [update]
  constructor
  · intro carried key value field
    have read := carried key value field
    rw [get?_update] at read
    cases own : payload.get? key with
    | _ => simp_all
  · intro kept key value field
    rw [get?_update]
    rcases kept key value field with own | ⟨hidden, other⟩
    · simp_all
    · rwa [hidden]

end Merge

/-- An agent node never stores the input it was given; the input steers the run unless it names nothing that the start
    reads; and the vars afterwards hold the fields of the structured output only where they held them anyway. -/
theorem agent_node_call_iff (services : Services) (db : Db) (project : OrchestratorProject)
    (task : OrchestratorTask) :
    (∀ run track config vars given started, configuredInput config = .ok given →
      startNodeRun services db project task run track config vars = .ok started →
        ¬ Carries (namedInput run track vars given) started.inputPayloadJson) ∧
    (∀ run track config vars given started plain, configuredInput config = .ok given →
      startNodeRun services db project task run track config vars = .ok started →
      startNodeRun services db project task run track (bare config) vars = .ok plain →
        (SameCall started plain ↔ Unsteered services db project task config given)) ∧
    (∀ env run node nodeId track vars memo id taskRun world after outcome result mode (fields : Dict Json),
      (vars.get "_agent_runs").toDict = .ok memo → Workflow.memoEntry memo nodeId = some id →
      world.db.taskRuns.get? id = some taskRun → taskRun.status = .completed →
      taskRun.outputPayloadJson = outputPayload result mode → result.outputJson = .obj fields →
      (Workflow.executeAgentNode env run node nodeId track vars).exec world = (.ok outcome, after) →
        (Carries fields outcome.vars ↔
          ∀ key value, fields.get? key = some value → FieldKept nodeId (outputPayload result mode) vars key value)) := by
  refine ⟨?_, ?_, ?_⟩
  · intro run track config vars given started configured ran
    exact started_input_lost configured ran
  · intro run track config vars given started plain configured ran ranBare
    exact sameCall_iff configured ran ranBare
  · intro env run node nodeId track vars memo id taskRun world after outcome result mode fields memoRead known row ended
      payload _ ran
    rw [executeAgentNode_merges memoRead known row ended ran, payload]
    exact mergedVars_carries_iff (outputPayload_unstructured result mode)

def openServices : Services where
  agentEligibleForTaskByFilters _ _ := true
  repoPool _ := []
  rankedBefore _ _ := true
  pairAllowed _ _ := true
  admits _ _ := .ok ()
  selectionMeta _ _ _ _ := [("model_source", .str "payload")]
  freezes _ _ := .ok ()
  transitions := .ok ()

def plainAgent (id ownerId : String) : AgentProfile :=
  { id, ownerId, isActive := true, allowedTools := [], providerConfigId := none, projectId := none,
    modelPolicyJson := [], retryLimit := 0 }

def oneAgentDb : Db := { agents := [plainAgent "agent" "owner"], memberships := [], providers := [] }

def plainProject : OrchestratorProject := { id := "project", ownerId := "owner", execution := [] }

def plainTask : OrchestratorTask :=
  { id := "task", assignedAgentId := none, reviewerAgentId := none, metadataJson := [], requiredTools := [] }

def nodeRun : WorkflowRun := { (default : WorkflowRun) with id := "workflow" }

def writerInput : Dict Json := [("topic", .str "release notes"), ("model_name", .str "other-model")]

def writerConfig : Dict Json := [("agent_id", .str "agent"), ("input", .obj writerInput)]

def writerTrack : Track := ⟨"writer", none⟩

def writerRun (modelName : Option String) : TaskRun :=
  { projectId := "project", taskId := some "task", workerAgentId := some "agent", orchestratorAgentId := none,
    reviewerAgentId := none, providerConfigId := none, runMode := "single_agent", modelName,
    inputPayloadJson := [("orchestration_meta", .obj [("model_source", .str "payload")])] }

def writtenAnswer : Dict Json := [("title", .str "Release notes")]

def writerResult : PromptResult := { outputText := "done", outputJson := .obj writtenAnswer }

def writerOutput : Dict Json := outputPayload writerResult (.singleAgent (.obj []) (.arr []))

def writerVars : Dict Json := [("_agent_runs", .obj [("writer", .str "run")])]

def writtenRow : Workflow.TaskRun :=
  { id := "run", status := .completed, outputPayloadJson := writerOutput, checkpointJson := [] }

def writtenWorld : Workflow.World := { db := { taskRuns := [("run", writtenRow)] } }

def writerNode : Json := .obj [("id", .str "writer"), ("type", .str "agent"), ("config", .obj writerConfig)]

theorem input_lost_and_obeyed :
    (∃ started plain,
      startNodeRun openServices oneAgentDb plainProject plainTask nodeRun writerTrack writerConfig [] = .ok started ∧
      startNodeRun openServices oneAgentDb plainProject plainTask nodeRun writerTrack (bare writerConfig) [] =
        .ok plain ∧
      ¬ Carries (namedInput nodeRun writerTrack [] writerInput) started.inputPayloadJson ∧
      ¬ SameCall started plain) ∧
    ∃ outcome after,
      (Workflow.executeAgentNode Workflow.stillEnv nodeRun writerNode "writer" writerTrack writerVars).exec
        writtenWorld = (.ok outcome, after) ∧ ¬ Carries writtenAnswer outcome.vars := by
  constructor
  · refine ⟨writerRun (some "other-model"), writerRun none, rfl, rfl, ?_, ?_⟩
    · intro carries
      have topic := carries "topic" (.str "release notes") rfl
      cases topic
    · intro same
      cases same.model
  · refine ⟨_, _, rfl, ?_⟩
    intro carries
    have title := carries "title" (.str "Release notes") rfl
    revert title
    decide

theorem writer_called :
    ¬ Carries (namedInput nodeRun writerTrack [] writerInput) (writerRun (some "other-model")).inputPayloadJson ∧
    (SameCall (writerRun (some "other-model")) (writerRun none) ↔
      Unsteered openServices oneAgentDb plainProject plainTask writerConfig writerInput) ∧
    ∃ outcome after,
      (Workflow.executeAgentNode Workflow.stillEnv nodeRun writerNode "writer" writerTrack writerVars).exec
        writtenWorld = (.ok outcome, after) ∧
      (Carries writtenAnswer outcome.vars ↔
        ∀ key value, writtenAnswer.get? key = some value → FieldKept "writer" writerOutput writerVars key value) := by
  have laws := agent_node_call_iff openServices oneAgentDb plainProject plainTask
  refine ⟨?_, ?_, _, _, rfl, ?_⟩
  · exact laws.1 nodeRun writerTrack writerConfig [] writerInput _ rfl rfl
  · exact laws.2.1 nodeRun writerTrack writerConfig [] writerInput _ _ rfl rfl rfl
  · exact laws.2.2 Workflow.stillEnv nodeRun writerNode "writer" writerTrack writerVars [("writer", .str "run")] "run"
      writtenRow writtenWorld _ _ writerResult (.singleAgent (.obj []) (.arr [])) writtenAnswer rfl rfl rfl rfl rfl rfl
      rfl

end Troop.Starts
