import Mathlib.Data.Rat.Defs
import Troop.Projects.Updates
import Troop.Starts.ModelPolicy

namespace Troop.Starts

structure ModelCapability where
  modelSlug : String
  providerId : Option String
  providerType : String
  costPer1kInput : ℚ
  costPer1kOutput : ℚ
deriving DecidableEq

structure CostMetadata where
  costPer1kInput : Option ℚ
  costPer1kOutput : Option ℚ

structure Prices where
  /-- `execution.expensive_model_cost_per_1k_usd` -/
  expensiveModelCost : Option ℚ
  metadata : ProviderConfig → Option CostMetadata
  /-- `list_model_capabilities` -/
  catalogue : List ModelCapability

def openaiFamilyProviderTypes : List String := ["openai", "openai_compatible", "qwen"]

def providerTypeAliases (providerType : String) : List String :=
  if providerType = "" then []
  else if providerType ∈ openaiFamilyProviderTypes then openaiFamilyProviderTypes
  else [providerType]

/-- `int(value)`, towards zero -/
def truncated (value : ℚ) : Int := value.num.tdiv value.den

def capabilityFor (capabilities : List ModelCapability) (provider : Option ProviderConfig) (modelName : Json) :
    Option ModelCapability :=
  if modelName.truthy then
    capabilities.find? fun item => Json.str item.modelSlug = modelName ∧
      provider.all fun found => item.providerId = some found.id ∨ item.providerType ∈ providerTypeAliases found.providerType
  else none

def estimateCostMicros (prices : Prices) (capabilities : List ModelCapability) (provider : Option ProviderConfig)
    (inputTokens outputTokens : Int) (modelName : Json) : Int :=
  if provider.any fun found => Text.lower (Text.strip found.providerType) ∈ ["ollama", "local"] then 0
  else
    let costs : ℚ × ℚ := match capabilityFor capabilities provider modelName, provider.bind prices.metadata with
      | some capability, _ => (capability.costPer1kInput, capability.costPer1kOutput)
      | none, some metadata => (metadata.costPer1kInput.getD 1, metadata.costPer1kOutput.getD 2)
      | none, none => (1, 2)
    truncated ((inputTokens / 1000 * costs.1 + outputTokens / 1000 * costs.2) * 1000000)

def estimateFor1k (prices : Prices) (capabilities : List ModelCapability) (provider : ProviderConfig) (modelName : Json) : ℚ :=
  estimateCostMicros prices capabilities (some provider) 1000 1000 modelName / 1000000

/-- `float(execution_settings.get("expensive_model_cost_per_1k_usd") or 0.01)` -/
def Prices.expensiveThreshold (prices : Prices) : ℚ :=
  match prices.expensiveModelCost with
  | none => 1 / 100
  | some cost => if cost = 0 then 1 / 100 else cost

/-- A row of `approval_requests` of the run, with what its payload says. -/
structure ActionApproval where
  approvalType : String
  status : String
  modelName : Json
  estimatedCostPer1kUsd : ℚ
  thresholdPer1kUsd : ℚ
  purpose : String
  /-- `_consumed_at` is set -/
  consumed : Bool
deriving DecidableEq

def ActionApproval.Grants (approval : ActionApproval) (model : Json) : Prop :=
  approval.approvalType = "expensive_model_use" ∧ approval.status = "approved" ∧ approval.modelName = model

instance (approval : ActionApproval) (model : Json) : Decidable (approval.Grants model) :=
  inferInstanceAs (Decidable (_ ∧ _ ∧ _))

/-- A call of `_execute_with_routing` for a run, with what it finds. -/
structure RoutedCall where
  run : TaskRun
  provider : Option ProviderConfig
  agent : Option AgentProfile
  purpose : String
  oracles : Oracles
  db : Db
  /-- `_cached_model_capabilities`, where nothing is cached empty -/
  cached : List ModelCapability
  /-- what people and other code made of the run's approvals since its last call -/
  decisions : List ActionApproval → List ActionApproval

inductive RunEvent where
  | consumed (approval : ActionApproval)
  | prompted (attempt : Attempt)
deriving DecidableEq

section Gate

variable (limits : Limits) (prices : Prices) (project : OrchestratorProject) (call : RoutedCall)

def firstOffer : Except PyError (Option ProviderConfig × List Json) := do
  let policy ← normalizeExecutionModelPolicy project.execution
  let routed ← routedTarget limits call.oracles call.db project call.run call.provider
  let target := routed.1
  let built := buildModelCandidates limits (targetModel call.run (agentPolicy call.agent) target routed.2)
    (fallbackModel call.run (agentPolicy call.agent) target) policy.offlineLocalOnlyMode
  let candidates ← filterModelCandidatesByPolicy policy built
  return (target, candidates)

def gateAsks (provider : ProviderConfig) (model : Json) : Bool :=
  Projects.actionRequiresApproval project.execution "use_expensive_model" && model.truthy &&
    decide (prices.expensiveThreshold ≤ estimateFor1k prices call.cached provider model)

def asked : Option (ProviderConfig × Json) :=
  match firstOffer limits project call with
  | .ok (some provider, first :: _) => if gateAsks prices project call provider first then some (provider, first) else none
  | _ => none

/-- `_consume_hitl_grant` takes the row. -/
def isGrant (model : Json) (approval : ActionApproval) : Bool := decide (approval.Grants model) && !approval.consumed

def expensiveGate (approvals : List ActionApproval) (provider : ProviderConfig) (model : Json) : Except PyError Unit :=
  if gateAsks prices project call provider model then
    match approvals.find? (isGrant model) with
    | some _ => .ok ()
    | none => .error (.raised ("Model '" ++ model.pyStr ++ "' exceeds expensive-model threshold and requires approval"))
  else .ok ()

def consumedBy (approvals : List ActionApproval) : Option ActionApproval :=
  (asked limits prices project call).bind fun found => approvals.find? (isGrant found.2)

def consumeFirst (model : Json) : List ActionApproval → List ActionApproval
  | [] => []
  | approval :: rest =>
    if isGrant model approval then { approval with consumed := true } :: rest else approval :: consumeFirst model rest

def approvalsAfter (approvals : List ActionApproval) : List ActionApproval :=
  match asked limits prices project call with
  | none => approvals
  | some (provider, model) =>
    match approvals.find? (isGrant model) with
    | some _ => consumeFirst model approvals
    | none => approvals ++
      [{ approvalType := "expensive_model_use", status := "pending", modelName := model
         estimatedCostPer1kUsd := estimateFor1k prices call.cached provider model
         thresholdPer1kUsd := prices.expensiveThreshold, purpose := call.purpose, consumed := false }]

/-- What `_execute_with_routing` asks, with the gate of this call. -/
def gatedOracles (approvals : List ActionApproval) : Oracles :=
  { call.oracles with costGate := expensiveGate prices project call approvals }

def callEvents (approvals : List ActionApproval) (fails : Nat → Bool) : List RunEvent :=
  (consumedBy limits prices project call approvals).toList.map .consumed ++
    match executeWithRouting limits (gatedOracles prices project call approvals) call.db project fails call.run call.provider
      call.agent with
    | .ok attempts => attempts.map .prompted
    | .error _ => []

end Gate

/-- A run, call by call; `fails` says of each call which of its prompts raise. -/
def runEvents (limits : Limits) (prices : Prices) (project : OrchestratorProject) :
    List RoutedCall → List ActionApproval → (Nat → Nat → Bool) → List RunEvent
  | [], _, _ => []
  | call :: rest, approvals, fails =>
    let now := call.decisions approvals
    callEvents limits prices project call now (fails 0) ++
      runEvents limits prices project rest (approvalsAfter limits prices project call now) fun index => fails (index + 1)

end Troop.Starts
