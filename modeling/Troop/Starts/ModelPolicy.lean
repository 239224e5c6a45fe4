import Troop.Session.Logic
import Troop.Starts.Routing
import Troop.Systems.Attempts

namespace Troop.Starts

open Systems (attemptAll)
open List
open Except (ok)

section Plan

variable (oracles : Oracles) (retries : Nat)

def attemptsFrom (provider : Option ProviderConfig) (models : List Json) : Nat → List Json → List Attempt
  | _, [] => []
  | index, model :: rest =>
    (if passesOver oracles provider models index model then [] else List.replicate (retries + 1) ⟨provider, model⟩) ++
      attemptsFrom provider models (index + 1) rest

def plannedFor (offer : Option ProviderConfig × List Json) : List Attempt :=
  attemptsFrom oracles retries offer.1 offer.2 0 offer.2

end Plan

section Flat

variable {oracles : Oracles} {fails : Nat → Bool} {budget : Nat}

theorem tryModel_cons (attempt : Attempt) (left : Nat) (made : List Attempt) :
    tryModel fails budget attempt (left + 1) made =
      if budget ≤ made.length then (.exhausted, made)
      else if fails made.length then tryModel fails budget attempt left (made ++ [attempt])
      else (.answered, made ++ [attempt]) := rfl

theorem tryModel_flat (attempt : Attempt) (left : Nat) (made : List Attempt) :
    ∃ ended, tryModel fails budget attempt left made =
        (ended, (attemptAll fails budget (List.replicate left attempt) made).2) ∧
      (ended = .answered ↔ (attemptAll fails budget (List.replicate left attempt) made).1 = true) ∧
      (ended = .exhausted → budget ≤ (attemptAll fails budget (List.replicate left attempt) made).2.length) := by
  induction left generalizing made with
  | zero => exact ⟨.failed, rfl, by simp [attemptAll], by simp⟩
  | succ left ih =>
    rw [tryModel_cons, replicate_succ, Systems.attemptAll_cons]
    by_cases used : budget ≤ made.length
    · simp_all
    · rw [if_neg used, if_neg used]
      by_cases failed : fails made.length = true <;> simp_all

theorem attemptLlm_flat (provider : Option ProviderConfig) (models : List Json) (retries : Nat) (rest : List Json) :
    ∀ (index : Nat) (made : List Attempt),
      attemptLlm oracles fails budget provider models retries index rest made =
        attemptAll fails budget (attemptsFrom oracles retries provider models index rest) made := by
  induction rest with
  | nil => exact fun _ _ => rfl
  | cons model rest ih =>
    intro index made
    unfold attemptLlm attemptsFrom
    by_cases passed : passesOver oracles provider models index model = true
    · simp_all
    rw [if_neg passed, if_neg passed, Systems.attemptAll_append]
    obtain ⟨ended, same, answered, exhausted⟩ :=
      @tryModel_flat fails budget ⟨provider, model⟩ (retries + 1) made
    cases ended with
    | answered => grind
    | exhausted => simp_all [replicate, Systems.attemptAll_used]
    | failed => simp_all

theorem tryProviders_flat (retries : Nat) (offered : List (Option ProviderConfig × List Json)) :
    ∀ made : List Attempt, tryProviders oracles fails budget retries offered made =
      attemptAll fails budget (offered.flatMap (plannedFor oracles retries)) made := by
  induction offered with
  | nil => exact fun _ => rfl
  | cons offer rest ih =>
    intro made
    obtain ⟨provider, models⟩ := offer
    rw [flatMap_cons, Systems.attemptAll_append]
    unfold tryProviders plannedFor
    rw [attemptLlm_flat]
    cases ran : attemptAll fails budget (attemptsFrom oracles retries provider models 0 models) made with
    | mk success after =>
      cases success with
      | true => rfl
      | false => exact ih after

end Flat

theorem mem_attemptsFrom {oracles : Oracles} {retries : Nat} {provider : Option ProviderConfig} {models : List Json}
    {attempt : Attempt} {rest : List Json} : ∀ {index : Nat},
      attempt ∈ attemptsFrom oracles retries provider models index rest →
        attempt.provider = provider ∧ attempt.model ∈ rest := by
  induction rest with
  | nil =>
    intro index member
    cases member
  | cons model rest ih =>
    intro index member
    rcases mem_append.mp member with here | later
    · split at here
      · cases here
      · simp_all
    · grind

structure Attempt.Bound (policy : ModelPolicy) (attempt : Attempt) : Prop where
  model : policy.enforceProjectModelPolicy = true → policy.allowedModelSlugs ≠ [] →
    attempt.effectiveModel ∈ policy.allowedModelSlugs.map Json.str
  type : policy.enforceProjectModelPolicy = true → policy.allowedProviderTypes ≠ [] →
    Text.lower attempt.providerType ∈ policy.allowedProviderTypes
  offline : policy.offlineLocalOnlyMode = true → attempt.providerType ∈ ["ollama", "local"]

section Chain

variable {limits : Limits} {policy : ModelPolicy}

variable {providers : List ProviderConfig} {target : Option ProviderConfig}

theorem extendChain_some {cap : Nat} : ∀ {seen : List String}
    {chain : List (Option ProviderConfig)}, none ∉ chain → none ∉ extendChain cap seen chain providers := by
  induction providers with
  | nil => exact fun present => present
  | cons provider rest ih =>
    intro seen chain present
    unfold extendChain
    split
    · exact present
    split
    · apply ih
      intro member
      rcases mem_append.mp member with old | new
      · exact present old
      · cases mem_singleton.mp new
    · exact ih present

theorem chain_heuristic
    (heuristic : none ∈ filterProviderChainByPolicy policy
      (filterProviderChainOfflineLocal policy (buildProviderFailoverChain limits target providers))) :
    filterProviderChainByPolicy policy
      (filterProviderChainOfflineLocal policy (buildProviderFailoverChain limits target providers)) = [none] := by
  have before : none ∈ filterProviderChainOfflineLocal policy (buildProviderFailoverChain limits target providers) := by
    unfold filterProviderChainByPolicy at heuristic
    split at heuristic
    · exact mem_of_mem_filter heuristic
    · exact heuristic
  have alone : filterProviderChainOfflineLocal policy (buildProviderFailoverChain limits target providers) = [none] := by
    cases target with
    | none =>
      unfold filterProviderChainOfflineLocal buildProviderFailoverChain
      split <;> rfl
    | some provider =>
      have present : none ∉ buildProviderFailoverChain limits (some provider) providers := by
        unfold buildProviderFailoverChain
        dsimp only
        split
        · apply extendChain_some
          simp_all
        · simp_all
      unfold filterProviderChainOfflineLocal at before ⊢
      split at before
      · dsimp only at before ⊢
        split at before
        · simp_all
        · exact absurd (mem_of_mem_filter before) present
      · exact absurd before present
  rw [alone]
  unfold filterProviderChainByPolicy
  split <;> rfl

theorem chain_local
    (offline : policy.offlineLocalOnlyMode = true) {provider : Option ProviderConfig}
    (member : provider ∈ filterProviderChainByPolicy policy
      (filterProviderChainOfflineLocal policy (buildProviderFailoverChain limits target providers))) :
    provider.all isLocal = true := by
  have before : provider ∈ filterProviderChainOfflineLocal policy
      (buildProviderFailoverChain limits target providers) := by
    unfold filterProviderChainByPolicy at member
    split at member
    · exact mem_of_mem_filter member
    · exact member
  unfold filterProviderChainOfflineLocal at before
  rw [if_pos offline] at before
  dsimp only at before
  split at before
  · simp_all
  · exact (mem_filter.mp before).2

theorem chain_typed {chain : List (Option ProviderConfig)} (enforced : policy.enforceProjectModelPolicy = true)
    (listed : policy.allowedProviderTypes ≠ []) {provider : ProviderConfig}
    (member : some provider ∈ filterProviderChainByPolicy policy chain) :
    Text.lower provider.providerType ∈ policy.allowedProviderTypes := by
  unfold filterProviderChainByPolicy at member
  rw [if_pos ⟨enforced, listed⟩] at member
  have passes := (mem_filter.mp member).2
  simpa using passes

end Chain

structure Routed (limits : Limits) (oracles : Oracles) (db : Db) (project : OrchestratorProject) (run : TaskRun)
    (provider : Option ProviderConfig) (policy : ModelPolicy) (route : Route) : Prop where
  settled : normalizeExecutionModelPolicy project.execution = .ok policy
  chain : ∃ routed, routedTarget limits oracles db project run provider = .ok routed ∧
    route.chain = filterProviderChainByPolicy policy (filterProviderChainOfflineLocal policy
      (buildProviderFailoverChain limits routed.1 (listProviders db project.ownerId (some project.id))))
  allowed : policy.enforceProjectModelPolicy = true → policy.allowedModelSlugs ≠ [] →
    route.candidates ≠ [] ∧ ∀ model ∈ route.candidates, model = .null ∨ model ∈ policy.allowedModelSlugs.map Json.str

theorem refuseIf_ok {condition : Prop} [Decidable condition] {detail : String}
    (passed : refuseIf condition detail = .ok ()) : ¬ condition := by
  intro holds
  unfold refuseIf at passed
  simp [if_pos holds] at passed

theorem filterModelCandidates_allowed {policy : ModelPolicy} {candidates allowed : List Json}
    (enforced : policy.enforceProjectModelPolicy = true) (listed : policy.allowedModelSlugs ≠ [])
    (filtered : filterModelCandidatesByPolicy policy candidates = .ok allowed) :
    ∀ model ∈ allowed, model = .null ∨ model ∈ policy.allowedModelSlugs.map Json.str := by
  unfold filterModelCandidatesByPolicy at filtered
  rw [if_pos ⟨enforced, listed⟩] at filtered
  split at filtered
  · cases filtered
  · grind

section Policy

variable {limits : Limits} {oracles : Oracles} {db : Db} {project : OrchestratorProject} {run : TaskRun}
  {provider : Option ProviderConfig} {agent : Option AgentProfile}

variable {route : Route} {attempt : Attempt}

theorem prepareRoute_routed (prepared : prepareRoute limits oracles db project run provider agent = .ok route) :
    ∃ policy, Routed limits oracles db project run provider policy route := by
  obtain ⟨policy, settled, prepared⟩ := except_bind_ok prepared
  obtain ⟨routed, target, prepared⟩ := except_bind_ok prepared
  obtain ⟨candidates, filtered, prepared⟩ := except_bind_ok prepared
  obtain ⟨_, someModel, prepared⟩ := except_bind_ok prepared
  obtain ⟨_, _, prepared⟩ := except_bind_ok prepared
  obtain ⟨_, _, prepared⟩ := except_bind_ok prepared
  have same := ok.inj prepared
  subst same
  refine ⟨policy, settled, ⟨routed, target, rfl⟩, ?_⟩
  intro enforced listed
  refine ⟨?_, filterModelCandidates_allowed enforced listed filtered⟩
  intro empty
  exact refuseIf_ok someModel ⟨enforced, listed, empty⟩

def firstPlan (oracles : Oracles) (route : Route) : List Attempt :=
  (route.chain.take 1).flatMap fun provider =>
    plannedFor oracles route.retries (provider, if route.candidates = [] then [.null] else route.candidates)

def failoverPlan (limits : Limits) (oracles : Oracles) (run : TaskRun) (agent : Option AgentProfile) (route : Route) :
    List Attempt :=
  (route.chain.drop 1).flatMap fun provider =>
    plannedFor oracles route.retries (provider, failoverCandidates limits run (agentPolicy agent) provider)

theorem planned_eq (route : Route) :
    (offers limits run (agentPolicy agent) route).flatMap (plannedFor oracles route.retries) =
      firstPlan oracles route ++ failoverPlan limits oracles run agent route := by
  unfold offers firstPlan failoverPlan
  cases route.chain with
  | nil => rfl
  | cons first others =>
    rw [flatMap_cons, take_succ_cons, take_zero, flatMap_cons, flatMap_nil, append_nil,
      drop_succ_cons, drop_zero, flatMap_map]

theorem executeWithRouting_flat (fails : Nat → Bool)
    (prepared : prepareRoute limits oracles db project run provider agent = .ok route) :
    executeWithRouting limits oracles db project fails run provider agent =
      .ok (attemptAll fails (attemptBudget limits)
        (firstPlan oracles route ++ failoverPlan limits oracles run agent route) []).2 := by
  unfold executeWithRouting
  rw [prepared]
  change ok _ = _
  rw [tryProviders_flat, planned_eq]

/-- When the route binds its calls to the policy: within the budget of attempts, the first provider is asked for its
    default model, and a failover provider for any, only where that is an allowed one; and where the local heuristic
    is all there is, it is of an allowed type. -/
structure Admissible (limits : Limits) (oracles : Oracles) (run : TaskRun) (agent : Option AgentProfile)
    (policy : ModelPolicy) (route : Route) : Prop where
  default : policy.enforceProjectModelPolicy = true → policy.allowedModelSlugs ≠ [] →
    ∀ attempt ∈ (firstPlan oracles route).take (attemptBudget limits), attempt.model = .null →
      attempt.effectiveModel ∈ policy.allowedModelSlugs.map Json.str
  failover : policy.enforceProjectModelPolicy = true → policy.allowedModelSlugs ≠ [] →
    ∀ attempt ∈ (failoverPlan limits oracles run agent route).take
      (attemptBudget limits - (firstPlan oracles route).length),
      attempt.effectiveModel ∈ policy.allowedModelSlugs.map Json.str
  heuristic : policy.enforceProjectModelPolicy = true → policy.allowedProviderTypes ≠ [] →
    none ∈ route.chain → "local" ∈ policy.allowedProviderTypes

theorem attempt_provider (planned : attempt ∈ firstPlan oracles route ++ failoverPlan limits oracles run agent route) :
    attempt.provider ∈ route.chain := by
  rcases mem_append.mp planned with first | later
  · obtain ⟨item, listed, mine⟩ := mem_flatMap.mp first
    rw [(mem_attemptsFrom mine).1]
    exact mem_of_mem_take listed
  · obtain ⟨item, listed, mine⟩ := mem_flatMap.mp later
    rw [(mem_attemptsFrom mine).1]
    exact mem_of_mem_drop listed

theorem firstPlan_model {policy : ModelPolicy} (routed : Routed limits oracles db project run provider policy route)
    (enforced : policy.enforceProjectModelPolicy = true) (listed : policy.allowedModelSlugs ≠ [])
    (planned : attempt ∈ firstPlan oracles route) :
    attempt.model = .null ∨ attempt.model ∈ policy.allowedModelSlugs.map Json.str := by
  obtain ⟨item, _, mine⟩ := mem_flatMap.mp planned
  have model := (mem_attemptsFrom mine).2
  obtain ⟨some', allowed⟩ := routed.allowed enforced listed
  rw [if_neg some'] at model
  exact allowed _ model

theorem effectiveModel_named (named : attempt.model.truthy = true) :
    attempt.effectiveModel = attempt.model := by
  unfold Attempt.effectiveModel Json.pyOr
  split
  · rw [if_pos named]
  · rw [if_pos named, if_pos named, ite_self]

theorem allowedSlug_truthy {policy : ModelPolicy} (settled : normalizeExecutionModelPolicy project.execution = .ok policy)
    {model : Json} (allowed : model ∈ policy.allowedModelSlugs.map Json.str) : model.truthy = true := by
  obtain ⟨types, _, settled⟩ := except_bind_ok settled
  obtain ⟨slugs, read, settled⟩ := except_bind_ok settled
  have same := ok.inj settled
  subst same
  obtain ⟨items, _, kept⟩ := except_bind_ok read
  have same := ok.inj kept
  subst same
  obtain ⟨slug, member, rfl⟩ := mem_map.mp allowed
  have filled := (mem_filter.mp member).2
  simpa [Json.truthy] using filled

theorem heuristic_attempted (alone : route.chain = [none]) :
    ∃ attempt ∈ (firstPlan oracles route ++ failoverPlan limits oracles run agent route).take (attemptBudget limits),
      attempt.provider = none := by
  have budget : 0 < attemptBudget limits := by
    unfold attemptBudget
    omega
  have starts : ∃ attempt rest, firstPlan oracles route = attempt :: rest := by
    unfold firstPlan
    rw [alone]
    have offered : ∃ model rest, (if route.candidates = [] then [.null] else route.candidates) = model :: rest := by
      split
      · exact ⟨_, _, rfl⟩
      · simp_all [exists_cons_of_ne_nil]
    obtain ⟨model, rest, same⟩ := offered
    rw [same]
    exact ⟨_, _, rfl⟩
  obtain ⟨attempt, rest, same⟩ := starts
  refine ⟨attempt, ?_, ?_⟩
  · rw [same, cons_append, ← Nat.succ_pred_eq_of_pos budget, take_succ_cons]
    exact mem_cons_self
  · have planned : attempt ∈ firstPlan oracles route ++ failoverPlan limits oracles run agent route := by
      rw [same]
      exact mem_cons_self
    have chained := attempt_provider planned
    rw [alone] at chained
    exact mem_singleton.mp chained

theorem planned_bound_iff {policy : ModelPolicy} (routed : Routed limits oracles db project run provider policy route) :
    (∀ attempt ∈ (firstPlan oracles route ++ failoverPlan limits oracles run agent route).take (attemptBudget limits),
      attempt.Bound policy) ↔ Admissible limits oracles run agent policy route := by
  obtain ⟨target, _, chain⟩ := routed.chain
  constructor
  · intro bound
    rw [take_append] at bound
    refine ⟨?_, ?_, ?_⟩
    · intro enforced listed attempt planned _
      exact (bound attempt (mem_append_left _ planned)).model enforced listed
    · intro enforced listed attempt planned
      exact (bound attempt (mem_append_right _ planned)).model enforced listed
    · intro enforced listed heuristic
      rw [chain] at heuristic
      have alone := chain_heuristic heuristic
      rw [← chain] at alone
      obtain ⟨attempt, planned, noProvider⟩ := @heuristic_attempted limits oracles run agent route alone
      rw [take_append] at planned
      have typed := (bound attempt planned).type enforced listed
      unfold Attempt.providerType at typed
      rwa [noProvider] at typed
  · intro admissible attempt planned
    have chained := attempt_provider (mem_of_mem_take planned)
    refine ⟨?_, ?_, ?_⟩
    · intro enforced listed
      rw [take_append] at planned
      rcases mem_append.mp planned with first | later
      · rcases firstPlan_model routed enforced listed (mem_of_mem_take first) with unnamed | allowed
        · exact admissible.default enforced listed attempt first unnamed
        · rwa [effectiveModel_named (allowedSlug_truthy routed.settled allowed)]
      · exact admissible.failover enforced listed attempt later
    · intro enforced listed
      unfold Attempt.providerType
      cases own : attempt.provider with
      | none =>
        rw [own] at chained
        exact admissible.heuristic enforced listed chained
      | some item =>
        rw [own, chain] at chained
        exact chain_typed enforced listed chained
    · intro offline
      rw [chain] at chained
      have isLocal' := chain_local offline chained
      unfold Attempt.providerType
      cases own : attempt.provider with
      | none => decide
      | some item =>
        rw [own] at isLocal'
        simpa [isLocal] using isLocal'

end Policy

/-- Every call keeps to the project's model policy, whatever fails, exactly when the route is admissible: the named
    models of the first provider and the offline mode need nothing more. -/
theorem calls_bound_iff (limits : Limits) (oracles : Oracles) (db : Db) (project : OrchestratorProject) (run : TaskRun)
    (provider : Option ProviderConfig) (agent : Option AgentProfile) (policy : ModelPolicy)
    (settled : normalizeExecutionModelPolicy project.execution = .ok policy) :
    (∀ fails calls, executeWithRouting limits oracles db project fails run provider agent = .ok calls →
      ∀ attempt ∈ calls, attempt.Bound policy) ↔
      ∀ route, prepareRoute limits oracles db project run provider agent = .ok route →
        Admissible limits oracles run agent policy route := by
  constructor
  · intro bound route prepared
    obtain ⟨policy', routed⟩ := prepareRoute_routed prepared
    have same : policy' = policy := ok.inj (routed.settled.symm.trans settled)
    subst same
    apply (planned_bound_iff routed).mp
    have made : ∀ fails : Nat → Bool, ∀ attempt ∈ (attemptAll fails (attemptBudget limits)
        (firstPlan oracles route ++ failoverPlan limits oracles run agent route) []).2, attempt.Bound policy' := by
      intro fails
      exact bound fails _ (executeWithRouting_flat fails prepared)
    exact (Systems.attemptAll_forall_iff _).mp made
  · intro admissible fails calls ran attempt member
    unfold executeWithRouting at ran
    obtain ⟨route, prepared, _⟩ := except_bind_ok ran
    obtain ⟨policy', routed⟩ := prepareRoute_routed prepared
    have same : policy' = policy := ok.inj (routed.settled.symm.trans settled)
    subst same
    have planned := (planned_bound_iff routed).mpr (admissible route prepared)
    have made := executeWithRouting_flat fails prepared
    unfold executeWithRouting at made
    rw [made] at ran
    cases ran
    exact (Systems.attemptAll_forall_iff _).mpr planned fails attempt member

def defaultLimits : Limits :=
  { providerFailover := true, failoverMax := 2, attemptBudget := 3, openaiDefaultModel := "" }

def quietOracles : Oracles where
  policyFieldValue _ := .null
  knownModel _ _ := false
  costGate _ _ := .ok ()

def openaiProvider (id : String) (fallbackModel : Option String) : ProviderConfig :=
  { id, ownerId := "owner", projectId := none, providerType := "openai", defaultModel := "gpt-small", fallbackModel,
    isDefault := false, isEnabled := true, isHealthy := true }

def failoverDb : Db :=
  { agents := [], memberships := [], providers := [openaiProvider "first" none, openaiProvider "second" (some "gpt-large")] }

def strictProject : OrchestratorProject :=
  { id := "project", ownerId := "owner"
    execution := [("enforce_project_model_policy", .bool true), ("allowed_model_slugs", .arr [.str "gpt-small"])] }

def strictPolicy : ModelPolicy :=
  { enforceProjectModelPolicy := true, offlineLocalOnlyMode := false, allowedProviderTypes := []
    allowedModelSlugs := ["gpt-small"] }

def smallRun : TaskRun :=
  { projectId := "project", taskId := none, workerAgentId := none, orchestratorAgentId := none, reviewerAgentId := none,
    providerConfigId := none, runMode := "single_agent", modelName := some "gpt-small", inputPayloadJson := [] }

def failoverCalls : List Attempt :=
  [⟨some (openaiProvider "first" none), .str "gpt-small"⟩,
    ⟨some (openaiProvider "second" (some "gpt-large")), .str "gpt-small"⟩,
    ⟨some (openaiProvider "second" (some "gpt-large")), .str "gpt-large"⟩]

theorem failover_unbound :
    normalizeExecutionModelPolicy strictProject.execution = .ok strictPolicy ∧
    executeWithRouting defaultLimits quietOracles failoverDb strictProject (fun call => decide (call < 2)) smallRun
      (some (openaiProvider "first" none)) none = .ok failoverCalls ∧
    ¬ ∀ attempt ∈ failoverCalls, attempt.Bound strictPolicy := by
  refine ⟨rfl, rfl, ?_⟩
  intro bound
  have last := bound ⟨some (openaiProvider "second" (some "gpt-large")), .str "gpt-large"⟩ (by decide)
  have allowed := last.model rfl (by decide)
  revert allowed
  decide

theorem failover_bound_iff :
    (∀ fails calls, executeWithRouting defaultLimits quietOracles failoverDb strictProject fails smallRun
        (some (openaiProvider "first" none)) none = .ok calls → ∀ attempt ∈ calls, attempt.Bound strictPolicy) ↔
      ∀ route, prepareRoute defaultLimits quietOracles failoverDb strictProject smallRun
          (some (openaiProvider "first" none)) none = .ok route →
        Admissible defaultLimits quietOracles smallRun none strictPolicy route :=
  calls_bound_iff defaultLimits quietOracles failoverDb strictProject smallRun (some (openaiProvider "first" none)) none
    strictPolicy rfl

end Troop.Starts
