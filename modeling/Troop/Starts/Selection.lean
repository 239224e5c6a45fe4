import Troop.Python.Json

namespace Troop.Starts

structure AgentProfile where
  id : String
  ownerId : String
  isActive : Bool
  allowedTools : List String
  providerConfigId : Option String
  projectId : Option String
  modelPolicyJson : Dict Json
  retryLimit : Int
deriving DecidableEq

structure ProjectAgentMembership where
  agentId : String
  role : String
  isDefaultManager : Bool
deriving DecidableEq

structure ProviderConfig where
  id : String
  ownerId : String
  projectId : Option String
  providerType : String
  defaultModel : String
  fallbackModel : Option String
  isDefault : Bool
  isEnabled : Bool
  isHealthy : Bool
deriving DecidableEq

/-- `execution` is what `_project_execution_settings` returns. -/
structure OrchestratorProject where
  id : String
  ownerId : String
  execution : Dict Json

structure OrchestratorTask where
  id : String
  assignedAgentId : Option String
  reviewerAgentId : Option String
  metadataJson : Dict Json
  /-- `_extract_required_tools` -/
  requiredTools : List String

structure TaskRun where
  projectId : String
  taskId : Option String
  workerAgentId : Option String
  orchestratorAgentId : Option String
  reviewerAgentId : Option String
  providerConfigId : Option String
  runMode : String
  modelName : Option String
  inputPayloadJson : Dict Json
deriving DecidableEq

/-- The tables; the memberships are the project's, oldest first, and the providers are in the order of
    `list_providers`. -/
structure Db where
  agents : List AgentProfile
  memberships : List ProjectAgentMembership
  providers : List ProviderConfig

inductive WorkerSource where
  | payload | pinned | task | auto | debatePair
deriving DecidableEq

/-- What the start of a run asks other code: the filters of agents, the order of their scores, which pairs may debate,
    and the checks that only refuse (dependencies, budgets, the rate limit, the frozen skills, the task's move). -/
structure Services where
  agentEligibleForTaskByFilters : AgentProfile → OrchestratorTask → Bool
  repoPool : OrchestratorTask → List String
  rankedBefore : AgentProfile → AgentProfile → Bool
  pairAllowed : AgentProfile → AgentProfile → Bool
  admits : Json → Json → Except PyError Unit
  selectionMeta : Dict Json → Json → Json → Option WorkerSource → Dict Json
  freezes : Json → Bool → Except PyError Unit
  transitions : Except PyError Unit

def Db.agent (db : Db) (id : String) : Option AgentProfile := db.agents.find? (·.id == id)

def Db.provider (db : Db) (id : String) : Option ProviderConfig := db.providers.find? (·.id == id)

def loadAgentForRun (db : Db) : Json → Option AgentProfile
  | .str id => if id = "" then none else db.agent id
  | _ => none

section Select

variable (services : Services) (db : Db) (project : OrchestratorProject) (task : OrchestratorTask)

def candidateWorkers : List AgentProfile :=
  (db.memberships.filterMap fun membership => db.agent membership.agentId).filter fun agent =>
    agent.isActive && (services.repoPool task = [] || agent.id ∈ services.repoPool task)

/-- The candidates of `_select_best_agent_for_task` and `_select_debate_pair`. -/
def eligibleWorkers (excluded : Json) : List AgentProfile :=
  (candidateWorkers services db task).filter fun agent =>
    excluded ≠ .str agent.id && services.agentEligibleForTaskByFilters agent task

def rankWorkerCandidates (candidates : List AgentProfile) : List AgentProfile :=
  candidates.mergeSort services.rankedBefore

def requiredToolsSatisfied (agent : AgentProfile) : Bool := task.requiredTools.all (· ∈ agent.allowedTools)

def selectBestAgentForTask (excluded : Json) : Option AgentProfile :=
  (rankWorkerCandidates services (eligibleWorkers services db task excluded)).find? (requiredToolsSatisfied task)

def debatePartners (ranked : List AgentProfile) : List AgentProfile :=
  match ranked with
  | first :: second :: others =>
    match (second :: others).find? fun agent => agent.id ≠ first.id && services.pairAllowed first agent with
    | some partner => [first, partner]
    | none => [first]
  | _ => []

def selectDebatePair (excluded : Json) : List AgentProfile :=
  match eligibleWorkers services db task excluded with
  | [] => []
  | [_] => []
  | [left, right] => if services.pairAllowed left right then [left, right] else []
  | candidates =>
    let ranked := rankWorkerCandidates services candidates
    let capable := ranked.filter (requiredToolsSatisfied task)
    debatePartners services (if capable = [] then ranked else capable)

def configuredManager : Option AgentProfile :=
  let managerId := project.execution.get "manager_agent_id"
  if managerId.truthy then (loadAgentForRun db (.str managerId.pyStr)).filter (·.isActive) else none

def projectDefaultManager : Option AgentProfile :=
  (configuredManager db project).or
    ((db.memberships.find? fun membership => membership.isDefaultManager || membership.role ∈ ["manager", "team_lead"]).bind
      fun membership => loadAgentForRun db (.str membership.agentId))

def agentIdOf (agent : Option AgentProfile) : Json := .ofOption (agent.map (·.id))

end Select

/-- `value[0] if value else None` -/
def firstOf (value : Json) : Except PyError Json :=
  if value.truthy then
    match value with
    | .arr (first :: _) => .ok first
    | .str text => .ok (.str (String.ofList (text.toList.take 1)))
    | _ => .error (.typeError "object is not subscriptable")
  else .ok .null

structure Selected where
  worker : Json
  orchestrator : Json
  reviewer : Json
  source : Option WorkerSource

def selectReviewer (settings payload : Dict Json) (task : OrchestratorTask) : Except PyError Json :=
  let reviewer := (payload.get "reviewer_agent_id").pyOr (.ofOption task.reviewerAgentId)
  if reviewer = .null then firstOf (settings.get "reviewer_agent_ids") else .ok reviewer

def pinnedWorker (settings payload : Dict Json) (task : OrchestratorTask) : Json :=
  ((payload.get "pinned_worker_agent_id").pyOr (task.metadataJson.get "pinned_worker_agent_id")).pyOr
    (settings.get "pinned_worker_agent_id")

def namedWorker (settings payload : Dict Json) (task : OrchestratorTask) : Json × Option WorkerSource :=
  if payload.get "worker_agent_id" ≠ .null then (payload.get "worker_agent_id", some .payload)
  else if (pinnedWorker settings payload task).truthy then
    (.str (pinnedWorker settings payload task).pyStr, some .pinned)
  else if (Json.ofOption task.assignedAgentId).truthy then (.ofOption task.assignedAgentId, some .task)
  else (.null, none)

def runsAnAgent (runMode : Json) : Bool :=
  runMode ∈ [Json.str "single_agent", .str "manager_worker", .str "debate"]

section Start

variable (services : Services) (db : Db) (project : OrchestratorProject) (task : OrchestratorTask)

def withWorker (runMode : Json) (picked : Selected) : Selected :=
  if runsAnAgent runMode ∧ picked.worker = .null then
    match selectBestAgentForTask services db task picked.orchestrator with
    | some agent => { picked with worker := .str agent.id, source := some .auto }
    | none => picked
  else picked

def withManager (runMode : Json) (picked : Selected) : Selected :=
  if runMode = .str "manager_worker" ∧ picked.orchestrator = .null then
    { picked with orchestrator := agentIdOf (projectDefaultManager db project) }
  else picked

def withDebatePair (runMode : Json) (picked : Selected) : Selected :=
  if runMode = .str "debate" then
    match selectDebatePair services db task picked.orchestrator with
    | [] => picked
    | [first] => { picked with worker := .str first.id, source := some .debatePair }
    | first :: second :: _ =>
      { picked with worker := .str first.id, reviewer := .str second.id, source := some .debatePair }
  else picked

def checkPinned (picked : Selected) : Except PyError Unit :=
  if picked.worker.truthy ∧ picked.source = some .pinned then
    if picked.worker ∉ db.memberships.map (fun membership => Json.str membership.agentId) then
      .error (.raised "pinned_worker_agent_id is not a member of this project.")
    else
      match (loadAgentForRun db picked.worker).filter (·.isActive) with
      | none => .error (.raised "Pinned worker agent is missing or inactive.")
      | some agent =>
        if services.agentEligibleForTaskByFilters agent task then .ok ()
        else .error (.raised "Pinned worker agent task_filters do not match this task.")
  else .ok ()

def checkRequiredTools (runMode : Json) (picked : Selected) : Except PyError Unit :=
  if runsAnAgent runMode ∧ picked.worker.truthy ∧ task.requiredTools ≠ [] ∧
      (loadAgentForRun db picked.worker).all (fun agent => !requiredToolsSatisfied task agent) then
    .error (.raised "Worker agent allowed_tools must include every task required_tools entry")
  else .ok ()

def column : Json → Except PyError (Option String)
  | .null => .ok none
  | .str text => .ok (some text)
  | _ => .error (.typeError "expected str")

def foreignKey (exists? : String → Bool) (value : Json) : Except PyError (Option String) := do
  let id ← column value
  if id.all exists? then return id else throw (.raised "IntegrityError")

def agentKey (value : Json) : Except PyError (Option String) := foreignKey (fun id => (db.agent id).isSome) value

def providerKey (value : Json) : Except PyError (Option String) :=
  foreignKey (fun id => (db.provider id).isSome) value

def runModeColumn (value : Json) : Except PyError String := do
  match ← column value with
  | some mode => return mode
  | none => throw (.raised "IntegrityError")

/-- The stored input: what the payload has under `input_payload`, with the selection's explanation. -/
def storedInput (payload explanation : Dict Json) : Except PyError (Dict Json) := do
  let given ← (payload.get "input_payload").toDict
  match given.get "orchestration_meta" with
  | .obj previous => return given.set "orchestration_meta" (.obj (Dict.update previous explanation))
  | _ => return given.set "orchestration_meta" (.obj explanation)

def payloadRunMode (payload : Dict Json) : Json := (payload.get? "run_mode").getD (.str "single_agent")

def selectAgents (payload : Dict Json) : Except PyError Selected := do
  let settings := project.execution
  let reviewer ← selectReviewer settings payload task
  let runMode := payloadRunMode payload
  let picked : Selected :=
    { worker := (namedWorker settings payload task).1, source := (namedWorker settings payload task).2, reviewer
      orchestrator := (payload.get "orchestrator_agent_id").pyOr (settings.get "manager_agent_id") }
  return withDebatePair services db task runMode
    (withManager db project runMode (withWorker services db task runMode picked))

def startTaskRun (payload : Dict Json) : Except PyError TaskRun := do
  let settings := project.execution
  let runMode := payloadRunMode payload
  let picked ← selectAgents services db project task payload
  checkPinned services db task picked
  checkRequiredTools db task runMode picked
  services.admits picked.worker picked.orchestrator
  let modelName ← column ((payload.get "model_name").pyOr (settings.get "model_name"))
  let inputPayloadJson ← storedInput payload
    (services.selectionMeta payload picked.worker picked.orchestrator picked.source)
  let run : TaskRun :=
    { projectId := project.id, taskId := some task.id, modelName, inputPayloadJson
      workerAgentId := ← agentKey db picked.worker
      orchestratorAgentId := ← agentKey db picked.orchestrator
      reviewerAgentId := ← agentKey db picked.reviewer
      providerConfigId := ← providerKey db
        ((payload.get "provider_config_id").pyOr (settings.get "provider_config_id"))
      runMode := ← runModeColumn runMode }
  services.freezes (picked.worker.pyOr picked.orchestrator) (payload.get "allow_degraded_snapshot").truthy
  services.transitions
  return run

/-- `TaskRunStarter.start`: the input payload itself becomes the payload of the start. -/
def starterPayload (workerAgentId orchestratorAgentId : Json) (runMode : String) (inputPayload : Dict Json) :
    Dict Json :=
  let withWorker := if workerAgentId ≠ .null then inputPayload.set "worker_agent_id" workerAgentId else inputPayload
  let withOrchestrator :=
    if orchestratorAgentId ≠ .null then withWorker.set "orchestrator_agent_id" orchestratorAgentId else withWorker
  (withOrchestrator.set "run_mode" (.str runMode)).set "allow_degraded_snapshot" (.bool false)

def taskRunStarterStart (workerAgentId orchestratorAgentId : Json) (runMode : String) (inputPayload : Dict Json) :
    Except PyError TaskRun :=
  startTaskRun services db project task (starterPayload workerAgentId orchestratorAgentId runMode inputPayload)

end Start

end Troop.Starts
