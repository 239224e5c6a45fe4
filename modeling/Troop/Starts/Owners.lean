import Troop.Starts.Faithful
import Troop.Starts.ModelPolicy
import Troop.Starts.Providers

namespace Troop.Starts

open List

theorem listProviders_owner {db : Db} {owner : String} {scope : Option String} {provider : ProviderConfig}
    (listed : provider ∈ listProviders db owner scope) : provider.ownerId = owner := by
  have passes := (mem_filter.mp listed).2
  simp only [decide_eq_true_eq] at passes
  exact passes.1

section Resolve

variable {router : ModelRouter} {db : Db} {project : OrchestratorProject} {agent : Option AgentProfile}
  {provider : ProviderConfig}

variable {providers : List ProviderConfig}

theorem bestRanked_mem (best : bestRanked router providers = some provider) :
    provider ∈ providers := by
  induction providers with
  | nil => cases best
  | cons first rest ih =>
    unfold bestRanked at best
    split at best
    · exact mem_cons_of_mem _ (ih best)
    · simp_all
    · split at best <;> simp_all

theorem resolveProviderAndModel_mem
    (routed : resolveProviderAndModel router providers = some provider) : provider ∈ providers := by
  apply mem_of_mem_filter
  rcases Option.or_eq_some_iff.mp routed with best | ⟨_, rest⟩
  · exact bestRanked_mem best
  · rcases Option.or_eq_some_iff.mp rest with found | ⟨_, first⟩
    · exact mem_of_find?_eq_some found
    · exact mem_of_head? first

theorem localProvider_owner (found : localProviderForProject db project = some provider) :
    provider.ownerId = project.ownerId := listProviders_owner (mem_of_find?_eq_some found)

theorem scopedDefault_owner {scopes : List (Option String)}
    (found : scopedDefault db project scopes = some provider) : provider.ownerId = project.ownerId := by
  induction scopes with
  | nil =>
    unfold scopedDefault at found
    split at found
    · exact localProvider_owner found
    · cases found
  | cons scope rest ih =>
    unfold scopedDefault at found
    dsimp only at found
    split at found
    · exact ih found
    rename_i default picked
    have owned : default.ownerId = project.ownerId := by
      rcases Option.or_eq_some_iff.mp picked with isDefault | ⟨_, isEnabled⟩
      · exact listProviders_owner (mem_of_find?_eq_some isDefault)
      · exact listProviders_owner (mem_of_find?_eq_some isEnabled)
    split at found
    · split at found
      · rename_i near
        cases found
        exact localProvider_owner near
      · exact ih found
    · simp_all

theorem defaultProvider_owner (found : defaultProvider router db project agent = some provider) :
    provider.ownerId = project.ownerId := by
  unfold defaultProvider at found
  dsimp only at found
  split at found
  · rename_i item routed
    have owned : item.ownerId = project.ownerId := by
      split at routed
      · cases routed
      · exact listProviders_owner (resolveProviderAndModel_mem routed)
    split at found
    · rcases Option.or_eq_some_iff.mp found with near | ⟨_, same⟩
      · exact localProvider_owner near
      · simp_all
    · simp_all
  · exact scopedDefault_owner found

theorem resolveProvider_owner {run : TaskRun}
    (resolved : resolveProviderForRun router db project run agent = some provider) :
    provider.ownerId = project.ownerId ∨ namedProvider db project run agent = some provider := by
  unfold resolveProviderForRun at resolved
  split at resolved
  · split at resolved
    · exact .inl (localProvider_owner resolved)
    · simp_all
  · exact .inl (defaultProvider_owner resolved)

end Resolve

section Calls

variable {limits : Limits} {oracles : Oracles} {router : ModelRouter} {db : Db} {project : OrchestratorProject}
  {run : TaskRun} {agent : Option AgentProfile} {provider : ProviderConfig}

variable {providers : List ProviderConfig} {given : Option ProviderConfig} {policy : ModelPolicy}

theorem extendChain_mem {cap : Nat} : ∀ {seen : List String}
    {chain : List (Option ProviderConfig)}, some provider ∈ extendChain cap seen chain providers →
      some provider ∈ chain ∨ provider ∈ providers := by
  induction providers with
  | nil => exact fun member => .inl member
  | cons first rest ih =>
    intro seen chain member
    unfold extendChain at member
    split at member
    · exact .inl member
    split at member
    · rcases ih member with old | later
      · rcases mem_append.mp old with old | new
        · exact .inl old
        · simp_all
      · exact .inr (mem_cons_of_mem _ later)
    · rcases ih member with old | later
      · exact .inl old
      · exact .inr (mem_cons_of_mem _ later)

theorem failoverChain_mem {target : Option ProviderConfig}
    (member : some provider ∈ buildProviderFailoverChain limits target providers) :
    target = some provider ∨ provider ∈ providers := by
  unfold buildProviderFailoverChain at member
  split at member
  · cases mem_singleton.mp member
  split at member
  · rcases extendChain_mem member with first | listed
    · exact .inl (mem_singleton.mp first).symm
    · exact .inr listed
  · exact .inl (mem_singleton.mp member).symm

theorem filteredChain_mem {chain : List (Option ProviderConfig)}
    (member : some provider ∈ filterProviderChainByPolicy policy (filterProviderChainOfflineLocal policy chain)) :
    some provider ∈ chain := by
  have offline : some provider ∈ filterProviderChainOfflineLocal policy chain := by
    unfold filterProviderChainByPolicy at member
    split at member
    · exact mem_of_mem_filter member
    · exact member
  unfold filterProviderChainOfflineLocal at offline
  split at offline
  · dsimp only at offline
    split at offline
    · cases mem_singleton.mp offline
    · exact mem_of_mem_filter offline
  · exact offline

theorem routedTarget_owner {routed : Option ProviderConfig × Json}
    (ran : routedTarget limits oracles db project run given = .ok routed) (target : routed.1 = some provider) :
    provider.ownerId = project.ownerId ∨ given = some provider := by
  unfold routedTarget at ran
  split at ran
  · grind
  obtain ⟨policy, _, ran⟩ := except_bind_ok ran
  obtain ⟨rules, _, ran⟩ := except_bind_ok ran
  split at ran
  · cases ran
    exact .inr target
  · dsimp only at ran
    split at ran
    · cases ran
      rcases Option.or_eq_some_iff.mp target with ollama | ⟨_, same⟩
      · exact .inl (listProviders_owner (mem_of_find?_eq_some ollama))
      · exact .inr same
    · cases ran
      exact .inr target

theorem route_owner {route : Route}
    (routed : Routed limits oracles db project run given policy route) (member : some provider ∈ route.chain) :
    provider.ownerId = project.ownerId ∨ given = some provider := by
  obtain ⟨target, asked, chain⟩ := routed.chain
  rw [chain] at member
  rcases failoverChain_mem (filteredChain_mem member) with first | listed
  · exact routedTarget_owner asked first
  · exact .inl (listProviders_owner listed)

def plannedAttempts (limits : Limits) (oracles : Oracles) (run : TaskRun) (agent : Option AgentProfile) (route : Route) :
    List Attempt :=
  (firstPlan oracles route ++ failoverPlan limits oracles run agent route).take (attemptBudget limits)

def Tries (limits : Limits) (oracles : Oracles) (router : ModelRouter) (db : Db) (project : OrchestratorProject)
    (run : TaskRun) (agent : Option AgentProfile) (provider : ProviderConfig) : Prop :=
  ∃ route, prepareRoute limits oracles db project run (resolveProviderForRun router db project run agent) agent =
    .ok route ∧ ∃ attempt ∈ plannedAttempts limits oracles run agent route, attempt.provider = some provider

def CallsOwned (limits : Limits) (oracles : Oracles) (router : ModelRouter) (db : Db) (project : OrchestratorProject)
    (run : TaskRun) (agent : Option AgentProfile) : Prop :=
  ∀ fails calls, executeWithRouting limits oracles db project fails run
      (resolveProviderForRun router db project run agent) agent = .ok calls →
    ∀ attempt ∈ calls, ∀ provider, attempt.provider = some provider → provider.ownerId = project.ownerId

theorem callsOwned_iff (limits : Limits) (oracles : Oracles) (router : ModelRouter) (db : Db)
    (project : OrchestratorProject) (run : TaskRun) (agent : Option AgentProfile) :
    CallsOwned limits oracles router db project run agent ↔
      ∀ provider, namedProvider db project run agent = some provider →
        Tries limits oracles router db project run agent provider → provider.ownerId = project.ownerId := by
  constructor
  · intro owned provider _ tries
    obtain ⟨route, prepared, attempt, planned, same⟩ := tries
    have made : ∀ fails : Nat → Bool, ∀ attempt ∈ (Systems.attemptAll fails (attemptBudget limits)
        (firstPlan oracles route ++ failoverPlan limits oracles run agent route) []).2,
        ∀ provider, attempt.provider = some provider → provider.ownerId = project.ownerId := by
      intro fails
      exact owned fails _ (executeWithRouting_flat fails prepared)
    exact (Systems.attemptAll_forall_iff _).mp made attempt planned provider same
  · intro named fails calls ran attempt member provider same
    have ran' := ran
    obtain ⟨route, prepared, _⟩ := except_bind_ok ran'
    rw [executeWithRouting_flat fails prepared] at ran
    cases ran
    have planned : attempt ∈ plannedAttempts limits oracles run agent route := by
      have start := @Systems.attemptAll_begins _ fails (attemptBudget limits)
        (firstPlan oracles route ++ failoverPlan limits oracles run agent route) []
      exact start.subset member
    have chained := attempt_provider (mem_of_mem_take planned)
    rw [same] at chained
    obtain ⟨policy, routed⟩ := prepareRoute_routed prepared
    rcases route_owner routed chained with owned | resolved
    · exact owned
    · rcases resolveProvider_owner resolved with owned | asked
      · exact owned
      · exact named provider asked ⟨route, prepared, attempt, planned, same⟩

end Calls

def OwnAgent (db : Db) (owner : String) (value : Json) : Prop :=
  ∀ id agent, value = .str id → db.agent id = some agent → agent.ownerId = owner

structure OwnAgents (db : Db) (owner : String) (run : TaskRun) : Prop where
  worker : OwnAgent db owner (.ofOption run.workerAgentId)
  orchestrator : OwnAgent db owner (.ofOption run.orchestratorAgentId)
  reviewer : OwnAgent db owner (.ofOption run.reviewerAgentId)

section Agents

variable {services : Services} {db : Db} {project : OrchestratorProject} {task : OrchestratorTask} {owner : String}

variable {payload : Dict Json} {picked : Selected} {excluded : Json} {reviewer : Json} {value : Json}

theorem agentKey_value {id : Option String} (row : agentKey db value = .ok id) :
    value = .ofOption id := by
  have read := (foreignKey_column row).1
  unfold column at read
  split at read
  · cases read
    rfl
  · cases read
    rfl
  · cases read

theorem ownAgent_null : OwnAgent db owner .null := by
  intro id agent same
  cases same

theorem ownAgent_row {agent : AgentProfile} (row : db.agent agent.id = some agent) :
    OwnAgent db owner (.str agent.id) ↔ agent.ownerId = owner := by
  constructor
  · intro own
    exact own agent.id agent rfl row
  · intro own id other same found
    simp_all

theorem agent_row {id : String} {agent : AgentProfile} (found : db.agent id = some agent) :
    db.agent agent.id = some agent := by
  have same := find?_some found
  simp_all

theorem eligibleWorkers_row {agent : AgentProfile}
    (member : agent ∈ eligibleWorkers services db task excluded) : db.agent agent.id = some agent := by
  have candidate := mem_of_mem_filter (mem_of_mem_filter member)
  obtain ⟨membership, _, found⟩ := mem_filterMap.mp candidate
  exact agent_row found

theorem rankWorkerCandidates_mem {agent : AgentProfile} {candidates : List AgentProfile}
    (member : agent ∈ rankWorkerCandidates services candidates) : agent ∈ candidates :=
  (mergeSort_perm candidates services.rankedBefore).mem_iff.mp member

theorem selectBestAgent_row {agent : AgentProfile}
    (picked : selectBestAgentForTask services db task excluded = some agent) : db.agent agent.id = some agent :=
  eligibleWorkers_row (rankWorkerCandidates_mem (mem_of_find?_eq_some picked))

theorem debatePartners_mem {ranked : List AgentProfile} {agent : AgentProfile}
    (member : agent ∈ debatePartners services ranked) : agent ∈ ranked := by
  unfold debatePartners at member
  split at member
  · split at member
    · rcases mem_cons.mp member with same | later
      · simp_all
      · grind
    · simp_all
  · cases member

theorem selectDebatePair_row {agent : AgentProfile}
    (member : agent ∈ selectDebatePair services db task excluded) : db.agent agent.id = some agent := by
  apply @eligibleWorkers_row services db task excluded
  unfold selectDebatePair at member
  split at member
  · cases member
  · cases member
  · rename_i same
    split at member
    · rwa [same]
    · cases member
  · have ranked := debatePartners_mem member
    split at ranked
    · exact rankWorkerCandidates_mem ranked
    · exact rankWorkerCandidates_mem (mem_of_mem_filter ranked)

theorem loadAgent_row {agent : AgentProfile} (loaded : loadAgentForRun db value = some agent) :
    db.agent agent.id = some agent := by
  unfold loadAgentForRun at loaded
  split at loaded
  · split at loaded
    · cases loaded
    · exact agent_row loaded
  · cases loaded

theorem projectDefaultManager_row {agent : AgentProfile} (manager : projectDefaultManager db project = some agent) :
    db.agent agent.id = some agent := by
  rcases Option.or_eq_some_iff.mp manager with configured | ⟨_, member⟩
  · unfold configuredManager at configured
    dsimp only at configured
    split at configured
    · exact loadAgent_row (Option.filter_eq_some_iff.mp configured).1
    · cases configured
  · obtain ⟨membership, _, loaded⟩ := Option.bind_eq_some_iff.mp member
    exact loadAgent_row loaded

def debatePair (services : Services) (db : Db) (project : OrchestratorProject) (task : OrchestratorTask)
    (payload : Dict Json) : List AgentProfile :=
  if payloadRunMode payload = .str "debate" then
    selectDebatePair services db task (namedOrchestrator project payload)
  else []

/-- Where the agents of a start come from: the payload, the settings or the task names them, and the members of the
    project make up for those that are not named. -/
structure OwnSources (services : Services) (db : Db) (project : OrchestratorProject) (task : OrchestratorTask)
    (payload : Dict Json) (owner : String) : Prop where
  namedWorker : debatePair services db project task payload = [] →
    OwnAgent db owner (namedWorker project.execution payload task).1
  bestWorker : debatePair services db project task payload = [] → runsAnAgent (payloadRunMode payload) = true →
    (Starts.namedWorker project.execution payload task).1 = .null →
      ∀ agent, selectBestAgentForTask services db task (namedOrchestrator project payload) = some agent →
        agent.ownerId = owner
  debaters : ∀ agent ∈ (debatePair services db project task payload).take 2, agent.ownerId = owner
  namedOrchestrator : OwnAgent db owner (namedOrchestrator project payload)
  defaultManager : payloadRunMode payload = .str "manager_worker" → Starts.namedOrchestrator project payload = .null →
    ∀ agent, projectDefaultManager db project = some agent → agent.ownerId = owner
  reviewer : (debatePair services db project task payload).length < 2 →
    ∀ value, selectReviewer project.execution payload task = .ok value → OwnAgent db owner value

structure Picked (services : Services) (db : Db) (project : OrchestratorProject) (task : OrchestratorTask)
    (payload : Dict Json) (reviewer : Json) (picked : Selected) : Prop where
  worker : picked.worker = match debatePair services db project task payload with
    | [] =>
      if runsAnAgent (payloadRunMode payload) ∧ (namedWorker project.execution payload task).1 = .null then
        agentIdOf (selectBestAgentForTask services db task (namedOrchestrator project payload))
      else (namedWorker project.execution payload task).1
    | first :: _ => .str first.id
  orchestrator : picked.orchestrator =
    if payloadRunMode payload = .str "manager_worker" ∧ namedOrchestrator project payload = .null then
      agentIdOf (projectDefaultManager db project)
    else namedOrchestrator project payload
  reviewer : picked.reviewer = match debatePair services db project task payload with
    | _ :: second :: _ => .str second.id
    | _ => reviewer

variable (mode : Json)

theorem withWorker_worker (picked : Selected) :
    (withWorker services db task mode picked).worker =
      if runsAnAgent mode ∧ picked.worker = .null then
        agentIdOf (selectBestAgentForTask services db task picked.orchestrator)
      else picked.worker := by
  unfold withWorker
  by_cases unnamed : runsAnAgent mode ∧ picked.worker = .null
  · rw [if_pos unnamed, if_pos unnamed]
    cases selectBestAgentForTask services db task picked.orchestrator with
    | none => exact unnamed.2
    | some agent => rfl
  · rw [if_neg unnamed, if_neg unnamed]

theorem withWorker_others (picked : Selected) :
    (withWorker services db task mode picked).orchestrator = picked.orchestrator ∧
      (withWorker services db task mode picked).reviewer = picked.reviewer := by
  unfold withWorker
  split
  · split <;> exact ⟨rfl, rfl⟩
  · exact ⟨rfl, rfl⟩

theorem withManager_others (picked : Selected) :
    (withManager db project mode picked).worker = picked.worker ∧
      (withManager db project mode picked).reviewer = picked.reviewer := by
  unfold withManager
  split <;> exact ⟨rfl, rfl⟩

theorem withManager_orchestrator (picked : Selected) :
    (withManager db project mode picked).orchestrator =
      if mode = .str "manager_worker" ∧ picked.orchestrator = .null then agentIdOf (projectDefaultManager db project)
      else picked.orchestrator := by
  unfold withManager
  split <;> rfl

theorem withDebatePair_eq (picked : Selected) :
    (withDebatePair services db task mode picked).orchestrator = picked.orchestrator ∧
      (withDebatePair services db task mode picked).worker =
        (match if mode = .str "debate" then selectDebatePair services db task picked.orchestrator else [] with
          | [] => picked.worker
          | first :: _ => .str first.id) ∧
      (withDebatePair services db task mode picked).reviewer =
        (match if mode = .str "debate" then selectDebatePair services db task picked.orchestrator else [] with
          | _ :: second :: _ => .str second.id
          | _ => picked.reviewer) := by
  unfold withDebatePair
  by_cases debate : mode = .str "debate"
  · rw [if_pos debate, if_pos debate]
    match selectDebatePair services db task picked.orchestrator with
    | [] => exact ⟨rfl, rfl, rfl⟩
    | [first] => exact ⟨rfl, rfl, rfl⟩
    | first :: second :: rest => exact ⟨rfl, rfl, rfl⟩
  · simp_all

theorem selectAgents_picked (selected : selectAgents services db project task payload = .ok picked) :
    ∃ reviewer, selectReviewer project.execution payload task = .ok reviewer ∧
      Picked services db project task payload reviewer picked := by
  obtain ⟨reviewer, reviewed, rest⟩ := except_bind_ok selected
  have same := (Except.ok.inj rest).symm
  refine ⟨reviewer, reviewed, ?_⟩
  generalize start : (Selected.mk (namedWorker project.execution payload task).1
    ((payload.get "orchestrator_agent_id").pyOr (project.execution.get "manager_agent_id")) reviewer
    (namedWorker project.execution payload task).2) = base at same
  have baseWorker : base.worker = (namedWorker project.execution payload task).1 := by rw [← start]
  have baseOrchestrator : base.orchestrator = namedOrchestrator project payload := by
    rw [← start]
    rfl
  have baseReviewer : base.reviewer = reviewer := by rw [← start]
  have worked := @withWorker_others services db task (payloadRunMode payload) base
  have worker := @withWorker_worker services db task (payloadRunMode payload) base
  generalize withWorker services db task (payloadRunMode payload) base = middle at same worked worker
  have managed := @withManager_others db project (payloadRunMode payload) middle
  have manager := @withManager_orchestrator db project (payloadRunMode payload) middle
  generalize withManager db project (payloadRunMode payload) middle = late at same managed manager
  rw [worked.1, baseOrchestrator] at manager
  rw [baseWorker, baseOrchestrator] at worker
  have paired : (if payloadRunMode payload = .str "debate" then selectDebatePair services db task late.orchestrator
      else []) = debatePair services db project task payload := by
    unfold debatePair
    by_cases debate : payloadRunMode payload = .str "debate"
    · simp_all
    · rw [if_neg debate, if_neg debate]
  obtain ⟨orchestrator, first, second⟩ := @withDebatePair_eq services db task (payloadRunMode payload) late
  rw [← same, manager] at orchestrator
  rw [← same, paired, managed.1, worker] at first
  rw [← same, paired, managed.2, worked.2, baseReviewer] at second
  exact ⟨first, orchestrator, second⟩

theorem ownAgent_ofOption {agent : Option AgentProfile} (row : ∀ found, agent = some found → db.agent found.id = some found) :
    OwnAgent db owner (agentIdOf agent) ↔ ∀ found, agent = some found → found.ownerId = owner := by
  cases agent with
  | none =>
    constructor
    · simp_all
    · intro _
      exact ownAgent_null
  | some own =>
    have mine := @ownAgent_row db owner own (row own rfl)
    constructor
    · intro owned found same
      cases same
      exact mine.mp owned
    · intro owned
      exact mine.mpr (owned own rfl)

theorem debatePair_own {agent : AgentProfile} (member : agent ∈ debatePair services db project task payload) :
    OwnAgent db owner (.str agent.id) ↔ agent.ownerId = owner := by
  unfold debatePair at member
  split at member
  · exact ownAgent_row (selectDebatePair_row member)
  · cases member

theorem Picked.worker_own_iff (source : Picked services db project task payload reviewer picked) :
    OwnAgent db owner picked.worker ↔
      (debatePair services db project task payload = [] →
        OwnAgent db owner (namedWorker project.execution payload task).1) ∧
      (debatePair services db project task payload = [] → runsAnAgent (payloadRunMode payload) = true →
        (namedWorker project.execution payload task).1 = .null →
          ∀ agent, selectBestAgentForTask services db task (namedOrchestrator project payload) = some agent →
            agent.ownerId = owner) ∧
      ∀ agent ∈ (debatePair services db project task payload).take 1, agent.ownerId = owner := by
  have best := @ownAgent_ofOption db owner
    (selectBestAgentForTask services db task (namedOrchestrator project payload)) fun _ picked => selectBestAgent_row picked
  have worker := source.worker
  cases pair : debatePair services db project task payload with
  | nil =>
    rw [pair] at worker
    rw [worker]
    by_cases unnamed : runsAnAgent (payloadRunMode payload) ∧ (namedWorker project.execution payload task).1 = .null
    · rw [if_pos unnamed, best, unnamed.2]
      constructor
      · intro owned
        exact ⟨fun _ => ownAgent_null, fun _ _ _ => owned, by simp⟩
      · simp_all
    · rw [if_neg unnamed]
      constructor <;> simp_all
  | cons first rest =>
    rw [pair] at worker
    have member : first ∈ debatePair services db project task payload := by simp_all
    rw [worker, debatePair_own member]
    constructor <;> simp_all

theorem Picked.orchestrator_own_iff (source : Picked services db project task payload reviewer picked) :
    OwnAgent db owner picked.orchestrator ↔
      OwnAgent db owner (namedOrchestrator project payload) ∧
      (payloadRunMode payload = .str "manager_worker" → namedOrchestrator project payload = .null →
        ∀ agent, projectDefaultManager db project = some agent → agent.ownerId = owner) := by
  have manager := @ownAgent_ofOption db owner (projectDefaultManager db project) fun _ picked =>
    projectDefaultManager_row picked
  rw [source.orchestrator]
  by_cases unnamed : payloadRunMode payload = .str "manager_worker" ∧ namedOrchestrator project payload = .null
  · rw [if_pos unnamed, manager, unnamed.2]
    exact ⟨fun owned => ⟨ownAgent_null, fun _ _ => owned⟩, fun sources => sources.2 unnamed.1 rfl⟩
  · grind

theorem Picked.reviewer_own_iff (source : Picked services db project task payload reviewer picked) :
    OwnAgent db owner picked.reviewer ↔
      ((debatePair services db project task payload).length < 2 → OwnAgent db owner reviewer) ∧
      ∀ agent ∈ ((debatePair services db project task payload).drop 1).take 1, agent.ownerId = owner := by
  have second := source.reviewer
  match pair : debatePair services db project task payload with
  | [] => simp_all
  | [first] => simp_all
  | first :: other :: rest =>
    rw [pair] at second
    have member : other ∈ debatePair services db project task payload := by simp_all
    rw [second, debatePair_own member]
    constructor
    · intro owned
      refine ⟨?_, ?_⟩
      · grind
      · simp_all
    · simp_all

theorem startTaskRun_own_iff {run : TaskRun} (ran : startTaskRun services db project task payload = .ok run) :
    OwnAgents db owner run ↔ OwnSources services db project task payload owner := by
  obtain ⟨picked, started⟩ := startTaskRun_started ran
  obtain ⟨reviewer, reviewed, source⟩ := selectAgents_picked started.selected
  have worker := @Picked.worker_own_iff services db project task owner _ _ _ source
  have orchestrator := @Picked.orchestrator_own_iff services db project task owner _ _ _ source
  have second := @Picked.reviewer_own_iff services db project task owner _ _ _ source
  rw [agentKey_value started.worker] at worker
  rw [agentKey_value started.orchestrator] at orchestrator
  rw [agentKey_value started.reviewer] at second
  have both : (debatePair services db project task payload).take 2 =
      (debatePair services db project task payload).take 1 ++
        ((debatePair services db project task payload).drop 1).take 1 := by
    cases debatePair services db project task payload with
    | _ => rfl
  constructor
  · intro own
    obtain ⟨named, best, first⟩ := worker.mp own.worker
    obtain ⟨supervisor, manager⟩ := orchestrator.mp own.orchestrator
    obtain ⟨review, other⟩ := second.mp own.reviewer
    refine ⟨named, best, ?_, supervisor, manager, ?_⟩
    · intro agent member
      rw [both] at member
      rcases mem_append.mp member with one | two
      · exact first agent one
      · exact other agent two
    · simp_all
  · intro sources
    refine ⟨worker.mpr ⟨sources.namedWorker, sources.bestWorker, ?_⟩,
      orchestrator.mpr ⟨sources.namedOrchestrator, sources.defaultManager⟩, second.mpr ⟨?_, ?_⟩⟩
    · intro agent member
      apply sources.debaters
      rw [both]
      exact mem_append_left _ member
    · intro short
      exact sources.reviewer short reviewer reviewed
    · intro agent member
      apply sources.debaters
      rw [both]
      exact mem_append_right _ member

theorem invokeSpecialist_own_iff {parentId : String} {parent child : TaskRun} {isChild : Bool}
    {specialistChildren : Nat} {arguments : Dict Json}
    (ran : invokeSpecialist db parentId parent isChild specialistChildren arguments = .ok child) :
    OwnAgents db owner child ↔
      OwnAgent db owner (.str (Text.strip (arguments.get "specialist_agent_id").strOrEmpty)) ∧
        OwnAgent db owner (.ofOption parent.orchestratorAgentId) := by
  obtain ⟨_, _, ran⟩ := except_bind_ok ran
  obtain ⟨_, _, ran⟩ := except_bind_ok ran
  obtain ⟨_, _, ran⟩ := except_bind_ok ran
  obtain ⟨_, _, ran⟩ := except_bind_ok ran
  obtain ⟨worker, row, ran⟩ := except_bind_ok ran
  cases ran
  have same := agentKey_value row
  constructor
  · intro own
    rw [same]
    exact ⟨own.worker, own.orchestrator⟩
  · intro sources
    rw [same] at sources
    exact ⟨sources.1, sources.2, ownAgent_null⟩

end Agents

/-- Agents and keys stay with the project's owner exactly when each source names the owner's: the payload, the settings,
    the task and the members for a start, the node's own payload for a node, the model's arguments for a specialist;
    and for the calls of a run, unless it is not tried, the provider that run, project or agent name. -/
theorem runs_own_iff (services : Services) (limits : Limits) (oracles : Oracles) (router : ModelRouter) (db : Db)
    (project : OrchestratorProject) (task : OrchestratorTask) :
    (∀ payload run, startTaskRun services db project task payload = .ok run →
      (OwnAgents db project.ownerId run ↔ OwnSources services db project task payload project.ownerId)) ∧
    (∀ workflowRun track config vars given run, configuredInput config = .ok given →
      startNodeRun services db project task workflowRun track config vars = .ok run →
        (OwnAgents db project.ownerId run ↔ OwnSources services db project task
          (starterPayload (.str (config.get "agent_id").pyStr) (config.get "orchestrator_agent_id") (nodeRunMode config)
            (nodeInput workflowRun track vars given)) project.ownerId)) ∧
    (∀ parentId parent isChild specialistChildren arguments child,
      invokeSpecialist db parentId parent isChild specialistChildren arguments = .ok child →
        (OwnAgents db project.ownerId child ↔
          OwnAgent db project.ownerId (.str (Text.strip (arguments.get "specialist_agent_id").strOrEmpty)) ∧
            OwnAgent db project.ownerId (.ofOption parent.orchestratorAgentId))) ∧
    ∀ run agent, CallsOwned limits oracles router db project run agent ↔
      ∀ provider, namedProvider db project run agent = some provider →
        Tries limits oracles router db project run agent provider → provider.ownerId = project.ownerId := by
  refine ⟨?_, ?_, ?_, callsOwned_iff limits oracles router db project⟩
  · intro payload run ran
    exact startTaskRun_own_iff ran
  · intro workflowRun track config vars given run configured ran
    obtain ⟨read, again, ran⟩ := except_bind_ok ran
    rw [configured] at again
    cases again
    exact startTaskRun_own_iff ran
  · intro parentId parent isChild specialistChildren arguments child ran
    exact invokeSpecialist_own_iff ran

def sharedDb : Db :=
  { agents := [plainAgent "agent" "owner", plainAgent "spy" "other"], memberships := []
    providers := [{ openaiProvider "theirs" none with ownerId := "other" }] }

def foreignPayload : Dict Json :=
  [("worker_agent_id", .str "spy"), ("provider_config_id", .str "theirs"), ("model_name", .str "gpt-small")]

def foreignRun : TaskRun :=
  { projectId := "project", taskId := some "task", workerAgentId := some "spy", orchestratorAgentId := none,
    reviewerAgentId := none, providerConfigId := some "theirs", runMode := "single_agent",
    modelName := some "gpt-small",
    inputPayloadJson := [("orchestration_meta", .obj [("model_source", .str "payload")])] }

def plainRouter : ModelRouter := { rank := fun _ => none, raises := false }

theorem foreign_agent_and_key :
    startTaskRun openServices sharedDb plainProject plainTask foreignPayload = .ok foreignRun ∧
      ¬ OwnAgents sharedDb plainProject.ownerId foreignRun ∧
      ¬ CallsOwned defaultLimits quietOracles plainRouter sharedDb plainProject foreignRun
        (sharedDb.agent "spy") := by
  refine ⟨rfl, ?_, ?_⟩
  · intro own
    have owner := own.worker "spy" (plainAgent "spy" "other") rfl rfl
    revert owner
    decide
  · intro owned
    have owner := owned (fun _ => false) _ rfl
      ⟨some { openaiProvider "theirs" none with ownerId := "other" }, .str "gpt-small"⟩ mem_cons_self _ rfl
    revert owner
    decide

def specialistCall : Dict Json := [("specialist_agent_id", .str "spy"), ("prompt", .str "look")]

def specialistRun : TaskRun :=
  { foreignRun with inputPayloadJson := [("specialist_invocation", .bool true), ("specialist_prompt", .str "look"),
      ("parent_run_id", .str "run"),
      ("orchestration_meta", .obj [("parent_run_id", .str "run"), ("specialist_agent_id", .str "spy")])] }

theorem foreign_runs_iff :
    (OwnAgents sharedDb "owner" foreignRun ↔
      OwnSources openServices sharedDb plainProject plainTask foreignPayload "owner") ∧
    (∃ run, startNodeRun openServices sharedDb plainProject plainTask nodeRun writerTrack writerConfig [] = .ok run ∧
      (OwnAgents sharedDb "owner" run ↔ OwnSources openServices sharedDb plainProject plainTask
        (starterPayload (.str "agent") .null "single_agent" (nodeInput nodeRun writerTrack [] writerInput)) "owner")) ∧
    (OwnAgents sharedDb "owner" specialistRun ↔
      OwnAgent sharedDb "owner" (.str (Text.strip (specialistCall.get "specialist_agent_id").strOrEmpty)) ∧
        OwnAgent sharedDb "owner" .null) := by
  have laws := runs_own_iff openServices defaultLimits quietOracles plainRouter sharedDb plainProject plainTask
  refine ⟨laws.1 foreignPayload foreignRun rfl, ⟨_, rfl, ?_⟩, ?_⟩
  · exact laws.2.1 nodeRun writerTrack writerConfig [] writerInput _ rfl rfl
  · exact laws.2.2.1 "run" foreignRun false 0 specialistCall specialistRun rfl

end Troop.Starts
