import Troop.Starts.ModelPolicy

namespace Troop.Starts

open Systems (attemptAll)
open List

/-- What `_execute_with_routing` ends with: the call that answered, or the exception 502 after the last provider. -/
inductive Ending where
  | answered (attempt : Attempt)
  | badGateway
deriving DecidableEq

section Loop

variable (limits : Limits) (oracles : Oracles) (fails : Nat → Bool) (run : TaskRun) (policy : Dict Json) (route : Route)

/-- `_execute_with_routing` from the failover loop on, with the calls made. Without a run the chain is the one target, so that
    nothing of the run is read. -/
def failOver : Ending × List Attempt :=
  match tryProviders oracles fails (attemptBudget limits) route.retries (offers limits run policy route) [] with
  | (true, made) =>
    match made.getLast? with
    | some attempt => (.answered attempt, made)
    | none => (.badGateway, made)
  | (false, made) => (.badGateway, made)

/-- The candidates from an index on that `_attempt_llm` calls. -/
def keptFrom (provider : Option ProviderConfig) (models : List Json) : Nat → List Json → List Json
  | _, [] => []
  | index, model :: rest =>
    if passesOver oracles provider models index model then keptFrom provider models (index + 1) rest
    else model :: keptFrom provider models (index + 1) rest

def slots : List Attempt :=
  (offers limits run policy route).flatMap fun offer => (keptFrom oracles offer.1 offer.2 0 offer.2).map (Attempt.mk offer.1)

def Attempt.available (attempt : Attempt) : Bool :=
  attempt.provider.all fun provider => providerModelExists oracles provider attempt.model

/-- The loop keeps to its budget, calls each candidate at most as often as it retries, ends with the first answer, and gives up
    only when the budget is used up or each provider that is owed a call has had one that failed. -/
structure Complete (owed : Option ProviderConfig → Prop) : Prop where
  budget : (failOver limits oracles fails run policy route).2.length ≤ attemptBudget limits
  perAttempt : Systems.Repeated (route.retries + 1) (slots limits oracles run policy route)
    (failOver limits oracles fails run policy route).2
  firstAnswer : ∀ attempt, (failOver limits oracles fails run policy route).1 = .answered attempt →
    ∃ before, (failOver limits oracles fails run policy route).2 = before ++ [attempt] ∧ fails before.length = false ∧
      ∀ n < before.length, fails n = true
  givesUp : (failOver limits oracles fails run policy route).1 = .badGateway →
    (∀ n < (failOver limits oracles fails run policy route).2.length, fails n = true) ∧
    (attemptBudget limits ≤ (failOver limits oracles fails run policy route).2.length ∨
      ∀ provider ∈ route.chain, owed provider → ∃ attempt ∈ (failOver limits oracles fails run policy route).2,
        attempt.provider = provider ∧ attempt.available oracles = true)

def Usable (provider : Option ProviderConfig) : Prop :=
  ∃ attempt ∈ slots limits oracles run policy route, attempt.provider = provider

end Loop

section Slots

variable {limits : Limits} {oracles : Oracles} {fails : Nat → Bool} {run : TaskRun} {policy : Dict Json} {route : Route}

theorem attemptsFrom_eq (retries : Nat) (provider : Option ProviderConfig) (models rest : List Json) (index : Nat) :
    attemptsFrom oracles retries provider models index rest =
      ((keptFrom oracles provider models index rest).map (Attempt.mk provider)).flatMap (List.replicate (retries + 1)) := by
  induction rest generalizing index with
  | nil => rfl
  | cons model rest ih =>
    unfold attemptsFrom keptFrom
    split
    · rw [nil_append, ih]
    · rw [map_cons, flatMap_cons, ih]

theorem planned_slots : (offers limits run policy route).flatMap (plannedFor oracles route.retries) =
    (slots limits oracles run policy route).flatMap (List.replicate (route.retries + 1)) := by
  unfold slots
  rw [flatMap_assoc]
  congr 1
  funext offer
  exact attemptsFrom_eq _ _ _ _ _

theorem keptFrom_available {provider : Option ProviderConfig} {models rest : List Json} {index : Nat} {model : Json}
    (kept : model ∈ keptFrom oracles provider models index rest) :
    Attempt.available oracles ⟨provider, model⟩ = true := by
  induction rest generalizing index with
  | nil => cases kept
  | cons first rest ih =>
    unfold keptFrom at kept
    split at kept
    · exact ih kept
    rename_i offered
    rcases mem_cons.mp kept with rfl | later
    · cases provider with
      | none => rfl
      | some provider =>
        rw [passesOver, Option.any_some, Bool.or_eq_true, not_or, Bool.not_eq_true, Bool.not_eq_false'] at offered
        exact offered.1
    · exact ih later

theorem slots_available {attempt : Attempt} (slot : attempt ∈ slots limits oracles run policy route) :
    attempt.available oracles = true := by
  obtain ⟨offer, _, mine⟩ := mem_flatMap.mp slot
  obtain ⟨model, kept, rfl⟩ := mem_map.mp mine
  exact keptFrom_available kept

theorem failOver_calls : (failOver limits oracles fails run policy route).2 =
    (attemptAll fails (attemptBudget limits)
      ((slots limits oracles run policy route).flatMap (List.replicate (route.retries + 1))) []).2 := by
  unfold failOver
  rw [tryProviders_flat, planned_slots]
  split
  · grind
  · simp_all

theorem failOver_answered {attempt : Attempt} (answered : (failOver limits oracles fails run policy route).1 = .answered attempt) :
    ∃ before, (failOver limits oracles fails run policy route).2 = before ++ [attempt] ∧ fails before.length = false ∧
      ∀ n < before.length, fails n = true := by
  unfold failOver at answered ⊢
  rw [tryProviders_flat] at answered ⊢
  split at answered
  · rename_i ran
    obtain ⟨before, last, same, success, raised⟩ := Systems.attemptAll_succeeded ran
    subst same
    rw [getLast?_concat] at answered ⊢
    cases answered
    exact ⟨before, rfl, success, fun n below => raised n (Nat.zero_le n) below⟩
  · cases answered

theorem failOver_badGateway (gaveUp : (failOver limits oracles fails run policy route).1 = .badGateway) :
    attemptAll fails (attemptBudget limits)
        ((slots limits oracles run policy route).flatMap (List.replicate (route.retries + 1))) [] =
      (false, (failOver limits oracles fails run policy route).2) := by
  unfold failOver at gaveUp ⊢
  rw [tryProviders_flat, planned_slots] at gaveUp ⊢
  split at gaveUp
  · rename_i ran
    obtain ⟨before, last, same, _⟩ := Systems.attemptAll_succeeded ran
    simp [same, getLast?_concat] at gaveUp
  · simp_all

theorem calls_planned : (failOver limits oracles fails run policy route).2 <+:
    (slots limits oracles run policy route).flatMap (List.replicate (route.retries + 1)) := by
  rw [failOver_calls]
  have begins := @Systems.attemptAll_begins _ fails (attemptBudget limits)
    ((slots limits oracles run policy route).flatMap (replicate (route.retries + 1))) []
  exact begins.trans ( take_prefix _ _)

end Slots

/-- Failover is bounded, and complete as far as providers are offered a candidate that is not passed over. -/
theorem failover_complete (limits : Limits) (oracles : Oracles) (fails : Nat → Bool) (run : TaskRun) (policy : Dict Json)
    (route : Route) : Complete limits oracles fails run policy route (Usable limits oracles run policy route) where
  budget := by
    rw [failOver_calls]
    exact Systems.length_attemptAll _
  perAttempt := by
    rw [prefix_iff_eq_take.mp calls_planned]
    exact Systems.repeated_take _ _ _
  firstAnswer _ answered := failOver_answered answered
  givesUp gaveUp := by
    obtain ⟨raised, ended⟩ := Systems.attemptAll_failed (failOver_badGateway gaveUp)
    refine ⟨fun n below => raised n (Nat.zero_le n) below, ended.imp_right ?_⟩
    intro whole provider _ ⟨attempt, slot, same⟩
    refine ⟨attempt, ?_, same, slots_available slot⟩
    rw [whole, nil_append]
    exact mem_flatMap.mpr ⟨attempt, slot, by simp⟩

def otherProvider : ProviderConfig := { openaiProvider "second" none with defaultModel := "gpt-large" }

def wideLimits : Limits := { defaultLimits with attemptBudget := 12 }

def twoProviders : Route := { chain := [some (openaiProvider "first" none), some otherProvider], candidates := [.str "gpt-small"], retries := 0 }

theorem second_provider_uncalled : ¬ ∀ (limits : Limits) (oracles : Oracles) (fails : Nat → Bool) (run : TaskRun)
    (policy : Dict Json) (route : Route), Complete limits oracles fails run policy route (fun _ => True) := by
  intro complete
  have gaveUp := (complete wideLimits quietOracles (fun _ => true) smallRun [] twoProviders).givesUp (by decide)
  rcases gaveUp.2 with used | called
  · exact absurd used (by decide)
  · have second := called (some otherProvider) (by decide) trivial
    exact absurd second (by decide)

end Troop.Starts
