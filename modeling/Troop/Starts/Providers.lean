import Troop.Starts.Routing

namespace Troop.Starts

/-- What the choice of a default provider asks other code: the best rank of a provider's capabilities, if one will do,
    and whether the router raises. -/
structure ModelRouter where
  rank : ProviderConfig → Option Nat
  raises : Bool

section Resolve

variable (router : ModelRouter) (db : Db) (project : OrchestratorProject)

def bestRanked : List ProviderConfig → Option ProviderConfig
  | [] => none
  | provider :: rest =>
    match router.rank provider, bestRanked rest with
    | none, best => best
    | some _, none => some provider
    | some rank, some best => if (router.rank best).any (rank < ·) then some best else some provider

def resolveProviderAndModel (providers : List ProviderConfig) : Option ProviderConfig :=
  let active := providers.filter (·.isEnabled)
  (bestRanked router active).or
    ((active.find? fun item => item.isDefault && item.defaultModel ≠ "").or active.head?)

def localProviderForProject : Option ProviderConfig :=
  (listProviders db project.ownerId (some project.id)).find? fun item => item.isEnabled && isLocal item

def offlineLocalOnly : Bool := (project.execution.get "offline_local_only_mode").truthy

def scopeIds (agent : Option AgentProfile) : List (Option String) :=
  match agent.bind (·.projectId) with
  | some id => if id ≠ "" ∧ id ≠ project.id then [some project.id, some id, none] else [some project.id, none]
  | none => [some project.id, none]

def scopedDefault : List (Option String) → Option ProviderConfig
  | [] => if offlineLocalOnly project then localProviderForProject db project else none
  | scope :: rest =>
    let providers := listProviders db project.ownerId scope
    match (providers.find? (·.isDefault)).or (providers.find? (·.isEnabled)) with
    | none => scopedDefault rest
    | some default =>
      if offlineLocalOnly project ∧ ¬ isLocal default then
        match localProviderForProject db project with
        | some picked => some picked
        | none => scopedDefault rest
      else some default

def defaultProvider (agent : Option AgentProfile) : Option ProviderConfig :=
  let routed := if router.raises then none
    else resolveProviderAndModel router (listProviders db project.ownerId (some project.id))
  match routed with
  | some provider =>
    if offlineLocalOnly project ∧ ¬ isLocal provider then (localProviderForProject db project).or (some provider)
    else some provider
  | none => scopedDefault db project (scopeIds project agent)

def providerOf (id : Json) : Option ProviderConfig :=
  match id with
  | .str text => if text = "" then none else db.provider text
  | _ => none

def namedProvider (run : TaskRun) (agent : Option AgentProfile) : Option ProviderConfig :=
  ((providerOf db (.ofOption run.providerConfigId)).or (providerOf db (project.execution.get "provider_config_id"))).or
    (providerOf db (.ofOption (agent.bind (·.providerConfigId))))

def resolveProviderForRun (run : TaskRun) (agent : Option AgentProfile) : Option ProviderConfig :=
  match namedProvider db project run agent with
  | some provider =>
    if offlineLocalOnly project ∧ ¬ isLocal provider then localProviderForProject db project else some provider
  | none => defaultProvider router db project agent

end Resolve

/-- `OrchestrationToolbox._invoke_specialist`: the child run that it creates for the model's arguments. -/
def invokeSpecialist (db : Db) (parentId : String) (parent : TaskRun) (isChild : Bool) (specialistChildren : Nat)
    (arguments : Dict Json) : Except PyError TaskRun := do
  refuseIf isChild "Specialist depth limit exceeded (max 1)"
  let specialistAgentId := Text.strip (arguments.get "specialist_agent_id").strOrEmpty
  let prompt := Text.strip ((arguments.get "prompt").pyOr (arguments.get "task")).strOrEmpty
  refuseIf (specialistAgentId = "" ∨ prompt = "") "specialist_agent_id and prompt are required"
  let maxInvocations ← ((parent.inputPayloadJson.get "max_specialist_invocations").pyOr (.num 3)).toInt
  refuseIf (maxInvocations ≤ specialistChildren) "Max specialist invocations reached for this run"
  let workerAgentId ← agentKey db (.str specialistAgentId)
  return { parent with
    workerAgentId
    reviewerAgentId := none
    runMode := "single_agent"
    inputPayloadJson := [("specialist_invocation", .bool true), ("specialist_prompt", .str prompt),
      ("parent_run_id", .str parentId), ("orchestration_meta",
        .obj [("parent_run_id", .str parentId), ("specialist_agent_id", .str specialistAgentId)])] }

end Troop.Starts
