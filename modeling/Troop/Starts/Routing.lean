import Troop.Python.Text
import Troop.Starts.Selection

namespace Troop.Starts

/-- `settings` of the application. -/
structure Limits where
  providerFailover : Bool
  failoverMax : Int
  attemptBudget : Int
  openaiDefaultModel : String

/-- What a call asks other code: the fields that routing rules look at, the models that a provider is known to have
    beside its own two, and the approval of expensive models. -/
structure Oracles where
  policyFieldValue : String → Json
  knownModel : ProviderConfig → String → Bool
  costGate : ProviderConfig → Json → Except PyError Unit

structure ModelPolicy where
  enforceProjectModelPolicy : Bool
  offlineLocalOnlyMode : Bool
  allowedProviderTypes : List String
  allowedModelSlugs : List String

def strippedItems (value : Json) : Except PyError (List String) := do
  return ((← value.toList).map fun item => Text.strip item.pyStr).filter (· ≠ "")

def normalizeExecutionModelPolicy (execution : Dict Json) : Except PyError ModelPolicy := do
  let types ← strippedItems (execution.get "allowed_provider_types")
  let allowedModelSlugs ← strippedItems (execution.get "allowed_model_slugs")
  return {
    enforceProjectModelPolicy := (execution.get "enforce_project_model_policy").truthy
    offlineLocalOnlyMode := (execution.get "offline_local_only_mode").truthy
    allowedProviderTypes := types.map Text.lower
    allowedModelSlugs }

def routingRule (field operator : String) (value : Json) (routeTo : String) : Json :=
  .obj [("field", .str field), ("operator", .str operator), ("value", value), ("route_to", .str routeTo)]

def globalPolicyRouting (limits : Limits) : Dict Json :=
  [("cheap_model_slug", .str (if limits.openaiDefaultModel = "" then "gpt-4.1-mini" else limits.openaiDefaultModel)),
    ("strong_model_slug", .str "gpt-4.1"), ("local_model_slug", .str "llama3.2"),
    ("rules", .arr [routingRule "task.labels" "contains" (.str "triage") "cheap_model_slug",
      routingRule "task.task_type" "equals" (.str "architecture") "strong_model_slug",
      routingRule "project.is_sensitive" "equals" (.bool true) "local_model_slug"])]

def normalizePolicyRouting (limits : Limits) (value : Json) : Except PyError (Dict Json) := do
  let incoming ← value.toDict
  let slugs := incoming.filter fun entry => entry.1 ∈ ["cheap_model_slug", "strong_model_slug", "local_model_slug"]
  let raw := Dict.update (globalPolicyRouting limits) slugs
  match incoming.get "rules" with
  | .arr rules => return raw.set "rules" (.arr rules)
  | _ => return raw

def matchesPolicyRule (actual : Json) (operator : String) (expected : Json) : Bool :=
  if operator = "equals" then actual.pyEq expected
  else if operator = "contains" then
    match actual with
    | .arr items => items.any fun item => item.pyEq expected
    | .str text => text.toList.tails.any fun rest => expected.pyStr.toList.isPrefixOf rest
    | _ => false
  else false

def listProviders (db : Db) (ownerId : String) (projectId : Option String) : List ProviderConfig :=
  db.providers.filter fun provider =>
    provider.ownerId = ownerId ∧ (provider.projectId = none ∨ projectId ≠ none ∧ provider.projectId = projectId)

section Route

variable (limits : Limits) (oracles : Oracles) (db : Db) (project : OrchestratorProject)

/-- `_policy_routed_target`: the provider and the model of the first rule that matches. -/
def policyRoutedTarget (provider : Option ProviderConfig) : Except PyError (Option ProviderConfig × Json) := do
  let policy ← normalizePolicyRouting limits (project.execution.get "policy_routing")
  let rules ← (policy.get "rules").toList
  match rules.find? fun rule =>
      matchesPolicyRule (oracles.policyFieldValue (rule.get "field").strOrEmpty)
        ((rule.get "operator").pyOr (.str "equals")).pyStr (rule.get "value") with
  | none => return (provider, .null)
  | some rule =>
    let routeKey := (rule.get "route_to").strOrEmpty
    if routeKey = "local_model_slug" then
      let ollama := (listProviders db project.ownerId (some project.id)).find? fun item =>
        item.providerType == "ollama" && item.isEnabled
      return (ollama.or provider, policy.get routeKey)
    else return (provider, policy.get routeKey)

def agentPolicy (agent : Option AgentProfile) : Dict Json := (agent.map (·.modelPolicyJson)).getD []

def targetModel (run : TaskRun) (policy : Dict Json) (target : Option ProviderConfig) (policyModel : Json) : Json :=
  let named := (Json.ofOption run.modelName).pyOr policyModel
  let fromProject := ((run.inputPayloadJson.get "orchestration_meta").get "model_source").pyEq (.str "project_execution")
  let chosen := if (policy.get "model").truthy ∧ (¬ named.truthy ∨ fromProject) then .str (policy.get "model").pyStr
    else named
  if chosen.truthy then chosen
  else (policy.get "model").pyOr (.ofOption (target.map (·.defaultModel)))

def fallbackModel (run : TaskRun) (policy : Dict Json) (target : Option ProviderConfig) : Json :=
  ((policy.get "fallback_model").pyOr (run.inputPayloadJson.get "fallback_model")).pyOr
    (.ofOption (target.bind (·.fallbackModel)))

def distinctModels (first second : Json) : List Json :=
  ([first, second].filter Json.truthy).dedup

def buildModelCandidates (target fallback : Json) (offline : Bool) : List Json :=
  let named := distinctModels target fallback
  let candidates := if named = [] then [.null] else named
  let candidates := if offline ∧ ¬ target.truthy then [(globalPolicyRouting limits).get "local_model_slug", .null]
    else candidates
  if limits.providerFailover then candidates else candidates.take 1

def unhashable : Json → Bool
  | .arr _ | .obj _ => true
  | _ => false

def filterModelCandidatesByPolicy (policy : ModelPolicy) (candidates : List Json) : Except PyError (List Json) :=
  if policy.enforceProjectModelPolicy ∧ policy.allowedModelSlugs ≠ [] then
    if candidates.any unhashable then .error (.typeError "unhashable type")
    else .ok (candidates.filter fun model => model = .null ∨ model ∈ policy.allowedModelSlugs.map Json.str)
  else .ok candidates

/-- The loop of `build_provider_failover_chain`. -/
def extendChain (cap : Nat) (seen : List String) (chain : List (Option ProviderConfig)) :
    List ProviderConfig → List (Option ProviderConfig)
  | [] => chain
  | provider :: rest =>
    if cap ≤ chain.length then chain
    else if provider.isEnabled ∧ provider.id ∉ seen then
      extendChain cap (provider.id :: seen) (chain ++ [some provider]) rest
    else extendChain cap seen chain rest

def buildProviderFailoverChain (target : Option ProviderConfig) (providers : List ProviderConfig) :
    List (Option ProviderConfig) :=
  match target with
  | none => [none]
  | some provider =>
    if limits.providerFailover then
      extendChain (max 1 limits.failoverMax).toNat [provider.id] [some provider] providers
    else [some provider]

def isLocal (provider : ProviderConfig) : Bool := provider.providerType ∈ ["ollama", "local"]

def filterProviderChainOfflineLocal (policy : ModelPolicy) (chain : List (Option ProviderConfig)) :
    List (Option ProviderConfig) :=
  if policy.offlineLocalOnlyMode then
    let filtered := chain.filter fun provider => provider.all isLocal
    if filtered = [] then [none] else filtered
  else chain

def filterProviderChainByPolicy (policy : ModelPolicy) (chain : List (Option ProviderConfig)) :
    List (Option ProviderConfig) :=
  if policy.enforceProjectModelPolicy ∧ policy.allowedProviderTypes ≠ [] then
    chain.filter fun provider => provider.all fun item => Text.lower item.providerType ∈ policy.allowedProviderTypes
  else chain

/-- `RetryPolicy.from_agent_policy` -/
def maxRetries (policy : Dict Json) (agentLimit : Int) : Nat :=
  let raw := ((policy.get "retry_count").pyOr (policy.get "retry_limit")).pyOr (.num agentLimit)
  let retries := match raw.toInt with
    | .ok value => value
    | .error _ => agentLimit
  (max 0 (min 3 retries)).toNat

/-- What the failover loop works on: the providers in order, the models for the first, and the retries. -/
structure Route where
  chain : List (Option ProviderConfig)
  candidates : List Json
  retries : Nat

def costGateOf (target : Option ProviderConfig) (candidates : List Json) : Except PyError Unit :=
  match target, candidates with
  | some provider, first :: _ => if first.truthy then oracles.costGate provider first else .ok ()
  | _, _ => .ok ()

def refuseIf (condition : Prop) [Decidable condition] (detail : String) : Except PyError Unit :=
  if condition then .error (.raised detail) else .ok ()

def routedTarget (run : TaskRun) (provider : Option ProviderConfig) : Except PyError (Option ProviderConfig × Json) :=
  if (Json.ofOption run.modelName).truthy then .ok (provider, .null)
  else policyRoutedTarget limits oracles db project provider

/-- `_execute_with_routing` up to the failover loop. -/
def prepareRoute (run : TaskRun) (provider : Option ProviderConfig) (agent : Option AgentProfile) :
    Except PyError Route := do
  let policy ← normalizeExecutionModelPolicy project.execution
  let routed ← routedTarget limits oracles db project run provider
  let target := routed.1
  let built := buildModelCandidates limits (targetModel run (agentPolicy agent) target routed.2)
    (fallbackModel run (agentPolicy agent) target) policy.offlineLocalOnlyMode
  let candidates ← filterModelCandidatesByPolicy policy built
  refuseIf (policy.enforceProjectModelPolicy ∧ policy.allowedModelSlugs ≠ [] ∧ candidates = [])
    "No candidate model is allowed by execution.allowed_model_slugs."
  costGateOf oracles target candidates
  let built := buildProviderFailoverChain limits target (listProviders db project.ownerId (some project.id))
  let chain := filterProviderChainByPolicy policy (filterProviderChainOfflineLocal policy built)
  refuseIf (policy.enforceProjectModelPolicy ∧ policy.allowedProviderTypes ≠ [] ∧ chain = [])
    "No provider satisfies execution.allowed_provider_types policy."
  return { chain, candidates, retries := maxRetries (agentPolicy agent) ((agent.map (·.retryLimit)).getD 0) }

def failoverCandidates (run : TaskRun) (policy : Dict Json) (provider : Option ProviderConfig) : List Json :=
  let first := ((Json.ofOption run.modelName).pyOr (policy.get "model")).pyOr (.ofOption (provider.map (·.defaultModel)))
  let named := distinctModels first (fallbackModel run policy provider)
  let candidates := if named = [] then [.null] else named
  if limits.providerFailover then candidates else candidates.take 1

def offers (run : TaskRun) (policy : Dict Json) (route : Route) : List (Option ProviderConfig × List Json) :=
  match route.chain with
  | [] => []
  | first :: others =>
    (first, if route.candidates = [] then [.null] else route.candidates) ::
      others.map fun provider => (provider, failoverCandidates limits run policy provider)

def providerModelExists (provider : ProviderConfig) (model : Json) : Bool :=
  !model.truthy || model = .str provider.defaultModel || model = .ofOption provider.fallbackModel ||
    Text.lower (Text.strip provider.providerType) ∈ ["ollama", "local"] || oracles.knownModel provider model.pyStr

/-- Candidates that `_attempt_llm` passes over: models that the provider lacks, and the first of an unhealthy one. -/
def passesOver (provider : Option ProviderConfig) (models : List Json) (index : Nat) (model : Json) : Bool :=
  provider.any fun item =>
    !providerModelExists oracles item model || (index = 0 && !item.isHealthy && 1 < models.length)

structure Attempt where
  provider : Option ProviderConfig
  model : Json
deriving DecidableEq

inductive Tried where
  | answered | failed | exhausted
deriving DecidableEq

end Route

section Loops

variable (oracles : Oracles) (fails : Nat → Bool) (budget : Nat)

/-- The attempts with one candidate; `fails` says of each call, by its number, whether it raises. -/
def tryModel (attempt : Attempt) : Nat → List Attempt → Tried × List Attempt
  | 0, made => (.failed, made)
  | left + 1, made =>
    if budget ≤ made.length then (.exhausted, made)
    else if fails made.length then tryModel attempt left (made ++ [attempt])
    else (.answered, made ++ [attempt])

/-- `_attempt_llm` from the candidate with this index on. -/
def attemptLlm (provider : Option ProviderConfig) (models : List Json) (retries : Nat) :
    Nat → List Json → List Attempt → Bool × List Attempt
  | _, [], made => (false, made)
  | index, model :: rest, made =>
    if passesOver oracles provider models index model then attemptLlm provider models retries (index + 1) rest made
    else
      match tryModel fails budget ⟨provider, model⟩ (retries + 1) made with
      | (.answered, made) => (true, made)
      | (.exhausted, made) => (false, made)
      | (.failed, made) => attemptLlm provider models retries (index + 1) rest made

def tryProviders (retries : Nat) : List (Option ProviderConfig × List Json) → List Attempt → Bool × List Attempt
  | [], made => (false, made)
  | (provider, models) :: rest, made =>
    match attemptLlm oracles fails budget provider models retries 0 models made with
    | (true, made) => (true, made)
    | (false, made) => tryProviders retries rest made

end Loops

def attemptBudget (limits : Limits) : Nat := (max 1 limits.attemptBudget).toNat

/-- `_execute_with_routing`: the calls of `execute_prompt` that it makes, or what it raises before any. -/
def executeWithRouting (limits : Limits) (oracles : Oracles) (db : Db) (project : OrchestratorProject)
    (fails : Nat → Bool) (run : TaskRun) (provider : Option ProviderConfig) (agent : Option AgentProfile) :
    Except PyError (List Attempt) := do
  let route ← prepareRoute limits oracles db project run provider agent
  return (tryProviders oracles fails (attemptBudget limits) route.retries
    (offers limits run (agentPolicy agent) route) []).2

/-- The model that `execute_prompt` sends. -/
def Attempt.effectiveModel (attempt : Attempt) : Json :=
  match attempt.provider with
  | none => attempt.model.pyOr (.str "local-heuristic")
  | some provider =>
    if provider.providerType = "local" then attempt.model.pyOr (.str "local-heuristic")
    else attempt.model.pyOr (.str provider.defaultModel)

def Attempt.providerType (attempt : Attempt) : String := (attempt.provider.map (·.providerType)).getD "local"

end Troop.Starts
