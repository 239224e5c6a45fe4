import Mathlib.Data.List.Forall2
import Troop.Workflow.Vars

namespace Troop.Workflow

open List

def ended (status : String) : Bool := status = "succeeded" || status = "failed"

structure EndsAs (status final : String) : Prop where
  ended : ended final = true
  kept : Workflow.ended status = true → status = final

section Evaluation

variable {policy : String} {n : Option Int} {statuses finals : List String} {joined : BranchStatus}

theorem ended_cases {status : String} (isEnded : ended status = true) : status = "succeeded" ∨ status = "failed" := by
  simpa [ended] using isEnded

theorem evaluateParallelJoin_perm (perm : statuses.Perm finals) :
    evaluateParallelJoin policy statuses n = evaluateParallelJoin policy finals n := by
  unfold evaluateParallelJoin
  rw [perm.count_eq, perm.count_eq, perm.length_eq]

theorem count_all_ended (all : ∀ status ∈ statuses, ended status = true) :
    statuses.count "succeeded" + statuses.count "failed" = statuses.length := by
  induction statuses with
  | nil => rfl
  | cons status rest ih =>
    rcases ended_cases (all status mem_cons_self) with good | bad <;> grind

structure Counts (statuses finals : List String) : Prop where
  succeeded : statuses.count "succeeded" ≤ finals.count "succeeded"
  failed : statuses.count "failed" ≤ finals.count "failed"
  length : statuses.length = finals.length
  all : finals.count "succeeded" + finals.count "failed" = finals.length

theorem ends_ended (ends : List.Forall₂ EndsAs statuses finals) : ∀ final ∈ finals, ended final = true := by
  induction ends with
  | nil => simp
  | cons head tail ih =>
    intro final member
    rcases mem_cons.mp member with rfl | member
    · exact head.ended
    · exact ih final member

theorem counts_of_ends (ends : List.Forall₂ EndsAs statuses finals) : Counts statuses finals := by
  induction ends with
  | nil => exact ⟨le_refl _, le_refl _, rfl, rfl⟩
  | @cons status final rest others head tail ih =>
    obtain ⟨succeeded, failed, length, all⟩ := ih
    have grows : ∀ text, ended text = true → rest.count text ≤ others.count text →
        (status :: rest).count text ≤ (final :: others).count text := by
      intro text isEnded le
      by_cases same : status = text
      · have kept := head.kept (same ▸ isEnded)
        simp_all
      · grind
    have whole := ends_ended (Forall₂.cons head tail)
    exact ⟨grows _ rfl succeeded, grows _ rfl failed, by simp [length], count_all_ended whole⟩

theorem evaluateParallelJoin_ends (ends : List.Forall₂ EndsAs statuses finals)
    (given : evaluateParallelJoin policy statuses n = .ok joined) (decided : joined ≠ .paused) :
    evaluateParallelJoin policy finals n = .ok joined := by
  obtain ⟨succeeded, failed, length, all⟩ := counts_of_ends ends
  unfold evaluateParallelJoin at given ⊢
  rw [← length] at all ⊢
  generalize statuses.length = total at *
  simp only [bind, Except.bind, pure, Except.pure] at given ⊢
  cases asked : requiredSuccesses (normalizePolicy policy "all_success") n total with
  | _ => grind

theorem evaluateParallelJoin_ended (all : ∀ status ∈ statuses, ended status = true) :
    evaluateParallelJoin policy statuses n ≠ .ok .paused := by
  have whole := count_all_ended all
  unfold evaluateParallelJoin
  generalize statuses.length = total at *
  intro given
  simp only [bind, Except.bind, pure, Except.pure] at given
  cases asked : requiredSuccesses (normalizePolicy policy "all_success") n total with
  | _ => grind

end Evaluation

def branchKeys (children : List String) : List String := (initialBranches children).keys

theorem branchKeys_spec (children : List String) :
    (branchKeys children).Nodup ∧ ∀ child, child ∈ branchKeys children ↔ child ∈ children := by
  have general : ∀ (children : List String) (branches : Dict Json), branches.keys.Nodup →
      (children.foldl (fun branches child =>
        Dict.set branches child (.obj [("status", .str "pending"), ("output", .obj [])])) branches).keys.Nodup ∧
      ∀ child, child ∈ (children.foldl (fun branches child =>
        Dict.set branches child (.obj [("status", .str "pending"), ("output", .obj [])])) branches).keys ↔
        child ∈ branches.keys ∨ child ∈ children := by
    intro children
    induction children with
    | nil => simp
    | cons first rest ih =>
      intro branches distinct
      rw [foldl_cons]
      by_cases member : first ∈ branches.keys
      · have same := Dict.keys_set_of_mem (.obj [("status", .str "pending"), ("output", .obj [])]) member
        have tail := ih (branches.set first (.obj [("status", .str "pending"), ("output", .obj [])])) (same ▸ distinct)
        refine ⟨tail.1, fun child => ?_⟩
        rw [tail.2, same, mem_cons]
        constructor
        · rintro (old | later)
          · exact .inl old
          · exact .inr (.inr later)
        · rintro (old | rfl | later)
          · exact .inl old
          · exact .inl member
          · exact .inr later
      · have same := Dict.keys_set_of_not_mem (.obj [("status", .str "pending"), ("output", .obj [])]) member
        have fresh : (branches.keys ++ [first]).Nodup := by grind
        have tail := ih (branches.set first (.obj [("status", .str "pending"), ("output", .obj [])])) (same ▸ fresh)
        refine ⟨tail.1, fun child => ?_⟩
        rw [tail.2, same, mem_append, mem_singleton, mem_cons, or_assoc]
  have spec := general children [] nodup_nil
  refine ⟨spec.1, fun child => ?_⟩
  rw [branchKeys, initialBranches, spec.2]
  simp [Dict.keys]

theorem branchKeys_perm {children permuted : List String} (perm : permuted.Perm children) :
    (branchKeys permuted).Perm (branchKeys children) := by
  have one := branchKeys_spec permuted
  have two := branchKeys_spec children
  apply (perm_ext_iff_of_nodup one.1 two.1).mpr
  intro child
  rw [one.2, two.2, perm.mem_iff]

section Loop

variable {env : Env} {calls : Calls} {run : WorkflowRun} {nodeId : String} {nodes vars : Dict Json} {plan : JoinPlan}

theorem visitBranch_keys {branches : Dict Json} {childId : String} (member : childId ∈ branches.keys) :
    Yields (visitBranch env calls run nodeId nodes vars plan branches childId) fun after =>
      after.1.keys = branches.keys := by
  apply Yields.next
  intro stored
  apply Yields.next
  intro _
  apply Yields.next
  intro entry
  have current : (if branchStatus stored = "paused" then branches.set childId (.obj entry) else branches).keys =
      branches.keys := by
    split
    · exact Dict.keys_set_of_mem _ member
    · rfl
  apply Yields.ite
  · grind [Yields.next, Yields.pure]
  intro _
  apply Yields.ite
  · exact fun _ => Yields.pure current
  intro _
  apply Yields.next
  intro started
  apply Yields.next
  intro early
  apply Yields.pure
  have inside : childId ∈ (if branchStatus stored = "paused" then branches.set childId (.obj entry) else branches).keys := by
    rwa [current]
  exact (Dict.keys_set_of_mem _ inside).trans current

theorem visitBranches_keys {children : List String} :
    ∀ {branches : Dict Json}, (∀ child ∈ children, child ∈ branches.keys) →
      Yields (visitBranches env calls run nodeId nodes vars plan children branches) fun after =>
        after.keys = branches.keys := by
  induction children with
  | nil => exact fun _ => Yields.pure rfl
  | cons child rest ih =>
    intro branches all
    apply Yields.bind (visitBranch_keys (all child mem_cons_self))
    intro after same
    apply Yields.ite
    · exact fun _ => Yields.pure same
    · grind

end Loop

def storedState (vars : Dict Json) (nodeId : String) : Except PyError (Dict Json) := do
  let all ← (vars.get "parallel_branches").toDict
  (all.get nodeId).toDict

/-- The outcomes of a parallel node: of its first execution, and of each one after it had paused. What
    else the vars hold, and the world, may change in between. -/
inductive JoinExecuted (env : Env) (calls : Calls) (node : Json) (nodeId : String) (nodes : Dict Json) : NodeOutcome → Prop
  | first {run : WorkflowRun} {vars : Dict Json} {w after : World} {outcome : NodeOutcome}
      (fresh : storedState vars nodeId = .ok [])
      (ran : (executeParallelNode env calls run node nodeId nodes vars).exec w = (.ok outcome, after)) :
      JoinExecuted env calls node nodeId nodes outcome
  | again {earlier : NodeOutcome} {run : WorkflowRun} {vars : Dict Json} {w after : World} {outcome : NodeOutcome}
      (executed : JoinExecuted env calls node nodeId nodes earlier) (paused : earlier.pause = some .paused)
      (kept : storedState vars nodeId = storedState earlier.vars nodeId)
      (ran : (executeParallelNode env calls run node nodeId nodes vars).exec w = (.ok outcome, after)) :
      JoinExecuted env calls node nodeId nodes outcome

structure StateOf (policy : String) (n : Option Int) (branches state : Dict Json) : Prop where
  policy : state.get "join_policy" = .str policy
  n : state.get "n" = optionalInt n
  branches : state.get "branches" = .obj branches

def BranchStatus.step : BranchStatus → StepStatus
  | .succeeded => .succeeded
  | .failed => .failed
  | .paused => .paused

structure Concluded (nodeId policy : String) (n : Option Int) (children : List String) (outcome : NodeOutcome)
    (branches : Dict Json) : Prop where
  stored : ∃ state, storedState outcome.vars nodeId = .ok state ∧ StateOf policy n branches state
  keys : branches.keys = branchKeys children
  joined : ∃ joined, evaluateParallelJoin policy (branchStatuses branches) n = .ok joined ∧
    outcome.status = joined.step

section Executions

variable {config vars branches : Dict Json} {nodeId policy : String} {n : Option Int} {children : List Json}
  {parallel : ParallelState}

structure LoadedAs (policy : String) (n : Option Int) (children : List Json) (branches vars : Dict Json)
    (parallel : ParallelState) : Prop where
  plan : parallel.plan = ⟨policy, n⟩
  children : parallel.children = children.map Json.pyStr
  all : (vars.get "parallel_branches").toDict = .ok parallel.all
  branches : parallel.branches = branches
  policy : parallel.state.get "join_policy" = .str policy
  n : parallel.state.get "n" = optionalInt n

theorem loaded_fresh (parsed : parseParallelJoinConfig config = .ok (policy, n))
    (listed : (config.get "children").toList = .ok children) (fresh : storedState vars nodeId = .ok [])
    (loaded : loadParallelState config nodeId vars = .ok parallel) :
    LoadedAs policy n children (initialBranches (children.map Json.pyStr)) vars parallel := by
  obtain ⟨all, read, fresh⟩ := except_bind_ok fresh
  unfold loadParallelState at loaded
  simp only [parsed, listed, read, fresh, bind, Except.bind, List.isEmpty_nil, if_true, pure, Except.pure,
    Except.ok.injEq] at loaded
  subst loaded
  exact ⟨rfl, rfl, read, rfl, rfl, rfl⟩

variable {outcome : NodeOutcome} {state : Dict Json} {outcomes : String → String} {keys : List String} {node : Json}

theorem setDefault_present {key : String} (value : Json) (present : state.get key ≠ .null) :
    setDefault state key value = state := by
  unfold setDefault
  cases found : state.get? key with
  | none => exact absurd (by simp [Dict.get, found]) present
  | some stored => simp

theorem setDefault_other {key other : String} (value : Json) (different : key ≠ other) :
    (setDefault state key value).get other = state.get other := by
  unfold setDefault
  split
  · rfl
  · exact Dict.get_set_of_ne _ _ different

theorem StateOf.named (stored : StateOf policy n branches state) (value other : Json) :
    StateOf policy n branches (setDefault (setDefault state "join_policy" value) "merge_policy" other) := by
  have same := setDefault_present value (show state.get "join_policy" ≠ .null by simp [stored.policy])
  rw [same]
  constructor
  · rw [setDefault_other _ (by decide), stored.policy]
  · rw [setDefault_other _ (by decide), stored.n]
  · rw [setDefault_other _ (by decide), stored.branches]

theorem loaded_again (parsed : parseParallelJoinConfig config = .ok (policy, n))
    (listed : (config.get "children").toList = .ok children) (kept : storedState vars nodeId = .ok state)
    (stored : StateOf policy n branches state) (loaded : loadParallelState config nodeId vars = .ok parallel) :
    LoadedAs policy n children branches vars parallel := by
  obtain ⟨all, read, kept⟩ := except_bind_ok kept
  have present : state.isEmpty = false := by
    cases state with
    | nil => exact absurd stored.policy (by simp)
    | cons _ _ => rfl
  unfold loadParallelState at loaded
  simp only [parsed, listed, read, kept, present, bind, Except.bind, Bool.false_eq_true, if_false, pure,
    Except.pure] at loaded
  obtain ⟨joins, counts, listing⟩ := stored.named (.str policy) (.str (normalizePolicy
    ((config.get "merge_policy").pyOr ((config.get "merge").pyOr (.str "namespaced"))).pyStr "namespaced"))
  generalize setDefault (setDefault state "join_policy" _) "merge_policy" _ = named at *
  have text : ((Json.str policy).pyOr (.str policy)).strOrEmpty = policy := by
    by_cases empty : policy = "" <;> simp [Json.pyOr, Json.truthy, empty, Json.strOrEmpty, Json.pyStr]
  cases n with
  | none =>
    simp only [counts, optionalInt, if_true, listing, Json.toDict, Except.ok.injEq] at loaded
    subst loaded
    exact ⟨by rw [joins, text], rfl, read, rfl, joins, counts⟩
  | some n =>
    have own : (named.set "n" (.num n)).get "branches" = named.get "branches" := Dict.get_set_of_ne _ _ (by decide)
    have joined : (named.set "n" (.num n)).get "join_policy" = named.get "join_policy" :=
      Dict.get_set_of_ne _ _ (by decide)
    simp only [Dict.get_set_self, own, listing, Json.toDict, Json.toInt, Except.map, reduceCtorEq, if_false,
      Except.ok.injEq] at loaded
    subst loaded
    exact ⟨by rw [joined, joins, text], rfl, read, rfl, joined.trans joins, Dict.get_set_self _ _ _⟩

theorem StateOf.finalized {merge : Json} {after : Dict Json} (joins : state.get "join_policy" = .str policy)
    (counts : state.get "n" = optionalInt n) :
    StateOf policy n after ((state.set "branches" (.obj after)).set "merge_policy" merge) := by
  constructor
  · rw [Dict.get_set_of_ne _ _ (by decide), Dict.get_set_of_ne _ _ (by decide), joins]
  · rw [Dict.get_set_of_ne _ _ (by decide), Dict.get_set_of_ne _ _ (by decide), counts]
  · rw [Dict.get_set_of_ne _ _ (by decide), Dict.get_set_self]

theorem finalizeParallel_stored (finished : finalizeParallel parallel config nodeId branches vars = .ok outcome) :
    storedState outcome.vars nodeId =
      .ok ((parallel.state.set "branches" (.obj branches)).set "merge_policy" (.str parallel.mergePolicy)) := by
  obtain ⟨kept, rfl, written⟩ := finalizeParallel_vars finished
  have reads : ∀ after : Dict Json, after.get "parallel_branches" = .obj (parallel.all.set nodeId (.obj
      ((parallel.state.set "branches" (.obj branches)).set "merge_policy" (.str parallel.mergePolicy)))) →
      storedState after nodeId =
        .ok ((parallel.state.set "branches" (.obj branches)).set "merge_policy" (.str parallel.mergePolicy)) := by
    intro after same
    rw [storedState, same]
    show (Dict.get (parallel.all.set nodeId _) nodeId).toDict = _
    rw [Dict.get_set_self]
    rfl
  apply reads
  rcases written with same | ⟨outputs, same⟩
  · rw [same, Dict.get_set_self]
  · rw [same, Dict.get_set_of_ne _ _ (by decide), Dict.get_set_self]

theorem finalize_concluded {stored : Dict Json} (loaded : LoadedAs policy n children stored vars parallel)
    (keys : branches.keys = branchKeys (children.map Json.pyStr))
    (finished : finalizeParallel parallel config nodeId branches vars = .ok outcome) :
    Concluded nodeId policy n (children.map Json.pyStr) outcome branches := by
  refine ⟨⟨_, finalizeParallel_stored finished, StateOf.finalized loaded.policy loaded.n⟩, keys, ?_⟩
  obtain ⟨joined, evaluated, finished⟩ := except_bind_ok finished
  rw [loaded.plan] at evaluated
  refine ⟨joined, evaluated, ?_⟩
  cases joined with
  | succeeded =>
    obtain ⟨merged, _, finished⟩ := except_bind_ok finished
    cases finished
    rfl
  | _ =>
    cases finished
    rfl

theorem executeParallelNode_concluded {env : Env} {calls : Calls} {run : WorkflowRun} {nodes stored : Dict Json}
    (configured : nodeConfig node = .ok config)
    (loads : ∀ parallel, loadParallelState config nodeId vars = .ok parallel → LoadedAs policy n children stored vars parallel)
    (keys : stored.keys = branchKeys (children.map Json.pyStr)) :
    Yields (executeParallelNode env calls run node nodeId nodes vars) fun outcome =>
      ∃ branches, Concluded nodeId policy n (children.map Json.pyStr) outcome branches := by
  unfold executeParallelNode
  rw [configured]
  apply Yields.bind (@Yields.ofExcept World _ _ (fun read => read = config) _ fun read same => (Except.ok.inj same).symm)
  rintro read rfl
  apply Yields.bind (@Yields.ofExcept World _ _ (LoadedAs policy n children stored vars) _ loads)
  intro parallel loaded
  apply Yields.ite
  · intro _
    apply Yields.next
    intro _
    apply Yields.ofExcept
    intro outcome finished
    rw [loaded.branches] at finished
    exact ⟨stored, finalize_concluded loaded keys finished⟩
  · intro _
    have inside : ∀ child ∈ parallel.children, child ∈ parallel.branches.keys := by
      intro child member
      rw [loaded.branches, keys]
      rw [loaded.children] at member
      exact ((branchKeys_spec _).2 child).mpr member
    apply Yields.bind (visitBranches_keys inside)
    intro branches same
    apply Yields.ofExcept
    intro outcome finished
    rw [loaded.branches, keys] at same
    exact ⟨branches, finalize_concluded loaded same finished⟩

theorem JoinExecuted.concluded {env : Env} {calls : Calls} {nodes : Dict Json}
    (executed : JoinExecuted env calls node nodeId nodes outcome) (configured : nodeConfig node = .ok config)
    (parsed : parseParallelJoinConfig config = .ok (policy, n)) (listed : (config.get "children").toList = .ok children) :
    ∃ branches, Concluded nodeId policy n (children.map Json.pyStr) outcome branches := by
  induction executed with
  | first fresh ran =>
    have loads := fun parallel loaded => @loaded_fresh _ _ _ _ _ _ parallel parsed listed fresh loaded
    exact (executeParallelNode_concluded configured loads rfl).run _ _ _ ran
  | again executed paused kept ran ih =>
    obtain ⟨branches, before⟩ := ih
    obtain ⟨state, held, stored⟩ := before.stored
    have loads := fun parallel loaded => @loaded_again _ _ branches _ _ _ _ parallel _ parsed listed (kept.trans held) stored loaded
    exact (executeParallelNode_concluded configured loads before.keys).run _ _ _ ran

def Fits (outcomes : String → String) (nodeId : String) (outcome : NodeOutcome) : Prop :=
  ∀ state branches, storedState outcome.vars nodeId = .ok state → state.get "branches" = .obj branches →
    ∀ branch ∈ branches, ended (branch.2.get "status").strOrEmpty = true →
      (branch.2.get "status").strOrEmpty = outcomes branch.1

theorem Concluded.ends (concluded : Concluded nodeId policy n keys outcome branches)
    (final : ∀ child, ended (outcomes child) = true) (fits : Fits outcomes nodeId outcome) :
    List.Forall₂ EndsAs (branchStatuses branches) ((branchKeys keys).map outcomes) := by
  obtain ⟨state, stored, held⟩ := concluded.stored
  rw [← concluded.keys, branchStatuses, Dict.values, Dict.keys, List.map_map, List.map_map, List.forall₂_map_left_iff,
    List.forall₂_map_right_iff, List.forall₂_same]
  intro branch member
  exact ⟨final _, fun isEnded => fits state branches stored held.branches branch member isEnded⟩

theorem Concluded.verdict
    (concluded : Concluded nodeId policy n keys outcome branches) (final : ∀ child, ended (outcomes child) = true)
    (fits : Fits outcomes nodeId outcome) (decided : outcome.status ≠ .paused) :
    ∃ joined, evaluateParallelJoin policy ((branchKeys keys).map outcomes) n = .ok joined ∧ outcome.status = joined.step := by
  obtain ⟨joined, evaluated, same⟩ := concluded.joined
  have settled : joined ≠ .paused := by
    intro paused
    rw [paused] at same
    exact decided same
  exact ⟨joined, evaluateParallelJoin_ends (concluded.ends final fits) evaluated settled, same⟩

theorem Fits.of_stored
    (stored : storedState outcome.vars nodeId = .ok state) (held : state.get "branches" = .obj branches)
    (all : ∀ branch ∈ branches, ended (branch.2.get "status").strOrEmpty = true →
      (branch.2.get "status").strOrEmpty = outcomes branch.1) : Fits outcomes nodeId outcome := by
  intro other others read listed
  grind

end Executions

/-- The join does not see the order of the branches, and keeps a verdict it has given. So the verdict
    of a parallel node depends on the outcomes of its branches alone: not on the order of its children,
    and not on which of them paused. -/
theorem parallel_join_laws (policy : String) (n : Option Int) :
    (∀ statuses permuted, permuted.Perm statuses →
      evaluateParallelJoin policy permuted n = evaluateParallelJoin policy statuses n) ∧
    (∀ statuses finals joined, List.Forall₂ EndsAs statuses finals → joined ≠ .paused →
      evaluateParallelJoin policy statuses n = .ok joined → evaluateParallelJoin policy finals n = .ok joined) ∧
    (∀ statuses, (∀ status ∈ statuses, ended status = true) → evaluateParallelJoin policy statuses n ≠ .ok .paused) ∧
    ∀ (env other : Env) (calls services : Calls) (nodes graph : Dict Json) (node permutedNode : Json) (nodeId id : String)
      (config permutedConfig : Dict Json) (children permuted : List Json) (outcomes : String → String)
      (outcome second : NodeOutcome),
      nodeConfig node = .ok config → nodeConfig permutedNode = .ok permutedConfig →
      parseParallelJoinConfig config = .ok (policy, n) → parseParallelJoinConfig permutedConfig = .ok (policy, n) →
      (config.get "children").toList = .ok children → (permutedConfig.get "children").toList = .ok permuted →
      permuted.Perm children → (∀ child, ended (outcomes child) = true) →
      JoinExecuted env calls node nodeId nodes outcome → JoinExecuted other services permutedNode id graph second →
      Fits outcomes nodeId outcome → Fits outcomes id second →
      outcome.status ≠ .paused → second.status ≠ .paused → second.status = outcome.status := by
  refine ⟨fun _ _ => evaluateParallelJoin_perm, fun _ _ _ ends decided given => evaluateParallelJoin_ends ends given decided,
    fun _ => evaluateParallelJoin_ended, ?_⟩
  intro env other calls services nodes graph node permutedNode nodeId id config permutedConfig children permuted outcomes
    outcome second configured permutedConfigured parsed permutedParsed listed permutedListed perm final executed again fits
    suits decided settled
  obtain ⟨branches, concluded⟩ := executed.concluded configured parsed listed
  obtain ⟨others, answered⟩ := again.concluded permutedConfigured permutedParsed permutedListed
  obtain ⟨joined, evaluated, same⟩ := concluded.verdict final fits decided
  obtain ⟨verdict, judged, equal⟩ := answered.verdict final suits settled
  have rearranged := (branchKeys_perm (perm.map Json.pyStr)).map outcomes
  rw [evaluateParallelJoin_perm rearranged, evaluated] at judged
  simp_all

def joinConfig (children : List Json) : Dict Json := [("join_policy", .str "any-success"), ("children", .arr children)]

def idleCalls : Calls := ⟨fun _ _ _ => pure ⟨⟩, fun _ _ => pure ⟨⟩⟩

def triggered (children : List Json) : Except PyError NodeOutcome × World :=
  (executeParallelNode stillEnv idleCalls default (plainNode "join" "parallel" (joinConfig children)) "join"
    [("a", plainNode "a" "trigger" [])] []).exec {}

def triggerOutcomes (child : String) : String := if child = "a" then "succeeded" else "failed"

theorem parallel_join_triggered :
    ∃ outcome second after later, triggered [.str "a", .str "b"] = (.ok outcome, after) ∧
      triggered [.str "b", .str "a"] = (.ok second, later) ∧ second.status = outcome.status := by
  obtain ⟨outcome, after, ran, fits, decided⟩ : ∃ outcome after, triggered [.str "a", .str "b"] = (.ok outcome, after) ∧
      Fits triggerOutcomes "join" outcome ∧ outcome.status ≠ .paused :=
    ⟨_, _, rfl, Fits.of_stored rfl rfl (by decide), by decide⟩
  obtain ⟨second, later, again, suits, settled⟩ : ∃ outcome after, triggered [.str "b", .str "a"] = (.ok outcome, after) ∧
      Fits triggerOutcomes "join" outcome ∧ outcome.status ≠ .paused :=
    ⟨_, _, rfl, Fits.of_stored rfl rfl (by decide), by decide⟩
  refine ⟨outcome, second, after, later, ran, again, ?_⟩
  have final : ∀ child, ended (triggerOutcomes child) = true := by
    intro child
    by_cases same : child = "a" <;> simp [triggerOutcomes, same, ended]
  exact (parallel_join_laws "any_success" none).2.2.2 stillEnv stillEnv idleCalls idleCalls _ _ _ _ "join" "join" _ _ _ _
    triggerOutcomes outcome second rfl rfl rfl rfl rfl rfl (Perm.swap _ _ _) final (.first rfl ran) (.first rfl again)
    fits suits decided settled

end Troop.Workflow
