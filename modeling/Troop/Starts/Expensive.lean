import Troop.Starts.Pricing

namespace Troop.Starts

open Systems (attemptAll)
open List

def Expensive (prices : Prices) (attempt : Attempt) : Prop :=
  ∃ provider, attempt.provider = some provider ∧
    prices.expensiveThreshold ≤ estimateFor1k prices prices.catalogue provider attempt.effectiveModel

/-- Every expensive prompt has a grant for its model among those consumed before it; `grants` were consumed earlier. -/
def Authorized (prices : Prices) (grants : List ActionApproval) : List RunEvent → Prop
  | [] => True
  | .consumed approval :: rest => Authorized prices (grants ++ [approval]) rest
  | .prompted attempt :: rest =>
    (Expensive prices attempt → ∃ approval ∈ grants, approval.Grants attempt.effectiveModel) ∧ Authorized prices grants rest

def consumedIn (events : List RunEvent) : List ActionApproval :=
  events.filterMap fun event => match event with
    | .consumed approval => some approval
    | .prompted _ => none

section Events

variable {prices : Prices}

variable (grants : List ActionApproval)

theorem authorized_append (first second : List RunEvent) :
    Authorized prices grants (first ++ second) ↔
      Authorized prices grants first ∧ Authorized prices (grants ++ consumedIn first) second := by
  induction first generalizing grants with
  | nil => simp [Authorized, consumedIn]
  | cons event rest ih =>
    cases event with
    | consumed approval =>
      have more : grants ++ consumedIn (.consumed approval :: rest) = (grants ++ [approval]) ++ consumedIn rest := by
        rw [append_assoc]
        rfl
      rw [cons_append, Authorized, Authorized, ih, more]
    | prompted attempt =>
      rw [cons_append, Authorized, Authorized, ih, and_assoc]
      rfl

theorem authorized_prompts (attempts : List Attempt) :
    Authorized prices grants (attempts.map .prompted) ↔
      ∀ attempt ∈ attempts, Expensive prices attempt → ∃ approval ∈ grants, approval.Grants attempt.effectiveModel := by
  induction attempts with
  | nil => exact ⟨fun _ => forall_mem_nil _, fun _ => trivial⟩
  | cons attempt rest ih => rw [map_cons, Authorized, ih, forall_mem_cons]

theorem consumedIn_consumed (approvals : List ActionApproval) : consumedIn (approvals.map .consumed) = approvals := by
  rw [consumedIn, filterMap_map]
  exact filterMap_some

theorem consumedIn_prompted (attempts : List Attempt) : consumedIn (attempts.map .prompted) = [] := by
  rw [consumedIn, filterMap_map]
  exact filterMap_none attempts

theorem consumedIn_append (first second : List RunEvent) : consumedIn (first ++ second) = consumedIn first ++ consumedIn second :=
  filterMap_append

theorem authorized_consumed (grants approvals : List ActionApproval) : Authorized prices grants (approvals.map .consumed) := by
  induction approvals generalizing grants with
  | nil => trivial
  | cons approval rest ih => exact ih _

end Events

section Gate

variable {limits : Limits} {prices : Prices} {project : OrchestratorProject} {call : RoutedCall} {approvals : List ActionApproval}

theorem prepareRoute_offer {oracles : Oracles} {route : Route}
    (same : oracles = { call.oracles with costGate := oracles.costGate })
    (prepared : prepareRoute limits oracles call.db project call.run call.provider call.agent = .ok route) :
    ∃ target candidates, firstOffer limits project call = .ok (target, candidates) ∧
      costGateOf oracles target candidates = .ok () := by
  obtain ⟨policy, settled, prepared⟩ := except_bind_ok prepared
  obtain ⟨routed, target, prepared⟩ := except_bind_ok prepared
  obtain ⟨candidates, filtered, prepared⟩ := except_bind_ok prepared
  obtain ⟨_, _, prepared⟩ := except_bind_ok prepared
  obtain ⟨_, passed, _⟩ := except_bind_ok prepared
  refine ⟨routed.1, candidates, ?_, passed⟩
  have asks : routedTarget limits call.oracles call.db project call.run call.provider = .ok routed := by
    rwa [same] at target
  unfold firstOffer
  rw [settled]
  rw [asks]
  change (filterModelCandidatesByPolicy policy _).bind _ = _
  rw [filtered]
  rfl

theorem asked_granted {route : Route} {provider : ProviderConfig} {model : Json}
    (prepared : prepareRoute limits (gatedOracles prices project call approvals) call.db project call.run call.provider
      call.agent = .ok route) (asks : asked limits prices project call = some (provider, model)) :
    ∃ approval, consumedBy limits prices project call approvals = some approval ∧ approval.Grants model := by
  obtain ⟨target, candidates, offered, passed⟩ := prepareRoute_offer rfl prepared
  have found : consumedBy limits prices project call approvals = approvals.find? (isGrant model) := by
    rw [consumedBy, asks]
    rfl
  unfold asked at asks
  rw [offered] at asks
  cases target with
  | none => cases asks
  | some first =>
    cases candidates with
    | nil => cases asks
    | cons name others =>
      dsimp only at asks
      split at asks
      case isFalse => cases asks
      case isTrue gate =>
        cases asks
        have named : model.truthy = true := by
          rw [gateAsks, Bool.and_eq_true, Bool.and_eq_true] at gate
          exact gate.1.2
        rw [costGateOf, if_pos named] at passed
        change expensiveGate prices project call approvals provider model = .ok () at passed
        rw [expensiveGate, if_pos gate] at passed
        cases grant : approvals.find? (isGrant model) with
        | none => simp [grant] at passed
        | some approval =>
          have matching := find?_some grant
          rw [isGrant, Bool.and_eq_true, decide_eq_true_iff] at matching
          exact ⟨approval, found.trans grant, matching.1⟩

theorem consumedBy_grants {approval : ActionApproval} (consumed : consumedBy limits prices project call approvals = some approval) :
    ∃ provider model, asked limits prices project call = some (provider, model) ∧ approval.Grants model := by
  obtain ⟨found, asks, grant⟩ := Option.bind_eq_some_iff.mp consumed
  have matching := find?_some grant
  rw [isGrant, Bool.and_eq_true, decide_eq_true_iff] at matching
  exact ⟨found.1, found.2, asks, matching.1⟩

def CallCovered (limits : Limits) (prices : Prices) (project : OrchestratorProject) (call : RoutedCall)
    (approvals grants : List ActionApproval) : Prop :=
  ∀ route, prepareRoute limits (gatedOracles prices project call approvals) call.db project call.run call.provider call.agent =
      .ok route →
    ∀ attempt ∈ (firstPlan (gatedOracles prices project call approvals) route ++
        failoverPlan limits (gatedOracles prices project call approvals) call.run call.agent route).take (attemptBudget limits),
      Expensive prices attempt → (∃ approval ∈ grants, approval.Grants attempt.effectiveModel) ∨
        ∃ provider, asked limits prices project call = some (provider, attempt.effectiveModel)

variable (fails : Nat → Bool)

theorem callEvents_ok {route : Route}
    (prepared : prepareRoute limits (gatedOracles prices project call approvals) call.db project call.run call.provider
      call.agent = .ok route) :
    callEvents limits prices project call approvals fails =
      (consumedBy limits prices project call approvals).toList.map .consumed ++
        ((attemptAll fails (attemptBudget limits) (firstPlan (gatedOracles prices project call approvals) route ++
          failoverPlan limits (gatedOracles prices project call approvals) call.run call.agent route) []).2).map .prompted := by
  rw [callEvents, executeWithRouting_flat fails prepared]

theorem callEvents_error {raised : PyError}
    (refused : prepareRoute limits (gatedOracles prices project call approvals) call.db project call.run call.provider
      call.agent = .error raised) :
    callEvents limits prices project call approvals fails =
      (consumedBy limits prices project call approvals).toList.map .consumed := by
  have stopped : executeWithRouting limits (gatedOracles prices project call approvals) call.db project fails call.run
      call.provider call.agent = .error raised := by
    unfold executeWithRouting
    simp_all
  rw [callEvents, stopped, append_nil]

theorem consumedIn_callEvents :
    consumedIn (callEvents limits prices project call approvals fails) = (consumedBy limits prices project call approvals).toList := by
  rw [callEvents, consumedIn_append, consumedIn_consumed]
  split
  · rw [consumedIn_prompted, append_nil]
  · exact append_nil _

theorem callEvents_authorized_iff (grants : List ActionApproval) :
    (∀ fails, Authorized prices grants (callEvents limits prices project call approvals fails)) ↔
      CallCovered limits prices project call approvals grants := by
  cases prepared : prepareRoute limits (gatedOracles prices project call approvals) call.db project call.run call.provider
      call.agent with
  | error raised =>
    constructor
    · intro _ route other
      simp [prepared] at other
    · intro _ fails
      rw [callEvents_error fails prepared]
      exact authorized_consumed _ _
  | ok route =>
    have behind : (∀ fails, Authorized prices grants (callEvents limits prices project call approvals fails)) ↔
        ∀ attempt ∈ (firstPlan (gatedOracles prices project call approvals) route ++
          failoverPlan limits (gatedOracles prices project call approvals) call.run call.agent route).take (attemptBudget limits),
          Expensive prices attempt →
            ∃ approval ∈ grants ++ (consumedBy limits prices project call approvals).toList,
              approval.Grants attempt.effectiveModel := by
      rw [← Systems.attemptAll_forall_iff]
      constructor
      · intro authorized fails
        have parts := authorized fails
        rw [callEvents_ok fails prepared, authorized_append, consumedIn_consumed, authorized_prompts] at parts
        exact parts.2
      · intro each fails
        rw [callEvents_ok fails prepared, authorized_append, consumedIn_consumed, authorized_prompts]
        exact ⟨authorized_consumed _ _, each fails⟩
    rw [behind]
    constructor
    · intro each route' other attempt planned expensive
      cases other.symm.trans prepared
      obtain ⟨approval, among, granted⟩ := each attempt planned expensive
      rcases mem_append.mp among with earlier | now
      · exact .inl ⟨approval, earlier, granted⟩
      · obtain ⟨provider, model, asks, grants'⟩ := consumedBy_grants (Option.mem_toList.mp now)
        right
        have same : model = attempt.effectiveModel := grants'.2.2.symm.trans granted.2.2
        exact ⟨provider, by rw [asks, same]⟩
    · intro covered attempt planned expensive
      rcases covered route prepared attempt planned expensive with ⟨approval, earlier, granted⟩ | ⟨provider, asks⟩
      · exact ⟨approval, mem_append_left _ earlier, granted⟩
      · obtain ⟨approval, consumed, granted⟩ := asked_granted prepared asks
        exact ⟨approval, mem_append_right _ (Option.mem_toList.mpr consumed), granted⟩

end Gate

def RunCovered (limits : Limits) (prices : Prices) (project : OrchestratorProject) :
    List RoutedCall → List ActionApproval → List ActionApproval → Prop
  | [], _, _ => True
  | call :: rest, approvals, grants =>
    let now := call.decisions approvals
    CallCovered limits prices project call now grants ∧
      RunCovered limits prices project rest (approvalsAfter limits prices project call now)
        (grants ++ (consumedBy limits prices project call now).toList)

theorem run_authorized (limits : Limits) (prices : Prices) (project : OrchestratorProject) (calls : List RoutedCall)
    (approvals grants : List ActionApproval) :
    (∀ fails, Authorized prices grants (runEvents limits prices project calls approvals fails)) ↔
      RunCovered limits prices project calls approvals grants := by
  induction calls generalizing approvals grants with
  | nil => exact ⟨fun _ => trivial, fun _ _ => trivial⟩
  | cons call rest ih =>
    rw [RunCovered, ← ih, ← callEvents_authorized_iff]
    constructor
    · intro authorized
      constructor
      · intro fails
        have parts := authorized fun _ => fails
        rw [runEvents, authorized_append] at parts
        exact parts.1
      · intro fails
        have parts := authorized fun index => Nat.casesOn index (fun _ => true) fails
        rw [runEvents, authorized_append, consumedIn_callEvents] at parts
        exact parts.2
    · rintro ⟨first, later⟩ fails
      rw [runEvents, authorized_append, consumedIn_callEvents]
      exact ⟨first _, later _⟩

/-- In every run and whatever fails, an expensive model is called only with a grant consumed for it, exactly when every planned
    attempt is the one that the gate looks at, is cheap, or is for a model with a grant from an earlier call. -/
theorem expensive_calls_granted_iff (limits : Limits) (prices : Prices) (project : OrchestratorProject) (calls : List RoutedCall)
    (approvals : List ActionApproval) :
    (∀ fails, Authorized prices [] (runEvents limits prices project calls approvals fails)) ↔
      RunCovered limits prices project calls approvals [] :=
  run_authorized limits prices project calls approvals []

def ungatedProject : OrchestratorProject := { id := "project", ownerId := "owner", execution := [] }

def fallbackPrices : Prices where
  expensiveModelCost := none
  metadata _ := none
  catalogue := [⟨"gpt-small", none, "openai", 1 / 1000, 2 / 1000⟩, ⟨"gpt-large", none, "openai", 1, 2⟩]

def fallbackCall : RoutedCall where
  run := smallRun
  provider := some (openaiProvider "first" (some "gpt-large"))
  agent := none
  purpose := "task execution"
  oracles := quietOracles
  db := { agents := [], memberships := [], providers := [] }
  cached := fallbackPrices.catalogue
  decisions approvals := approvals

theorem fallback_without_grant :
    ¬ Authorized fallbackPrices [] (runEvents defaultLimits fallbackPrices ungatedProject [fallbackCall] [] fun _ prompt => prompt = 0) := by
  have events : runEvents defaultLimits fallbackPrices ungatedProject [fallbackCall] [] (fun _ prompt => prompt = 0) =
      [.prompted ⟨some (openaiProvider "first" (some "gpt-large")), .str "gpt-small"⟩,
        .prompted ⟨some (openaiProvider "first" (some "gpt-large")), .str "gpt-large"⟩] := by
    decide +kernel
  rw [events]
  rintro ⟨_, granted, _⟩
  have expensive : Expensive fallbackPrices ⟨some (openaiProvider "first" (some "gpt-large")), .str "gpt-large"⟩ :=
    ⟨_, rfl, by decide +kernel⟩
  obtain ⟨approval, among, _⟩ := granted expensive
  cases among

end Troop.Starts
