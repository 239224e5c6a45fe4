import Mathlib.Data.List.Perm.Basic
import Troop.Python.Dict
import Troop.Python.Text

namespace Troop.Authorization

open List

structure ActionPolicy where
  id : String
  ownerId : String
  scopeType : String
  scopeId : Option String
  actionKey : String
  decision : String
deriving DecidableEq, Inhabited

def policyScopeOrder : List String := ["task", "skill", "agent", "project", "department", "organization", "global"]

def validDecisions : List String := ["prohibited", "approval_required", "autonomous"]

def normalized (text : String) : String := Text.lower (Text.strip text)

def ActionPolicy.scope (policy : ActionPolicy) : String := normalized policy.scopeType

def ActionPolicy.counts (policy : ActionPolicy) : Bool :=
  policy.scope ∈ policyScopeOrder ∧ normalized policy.decision ∈ validDecisions

theorem ActionPolicy.counts_iff (policy : ActionPolicy) :
    policy.counts = true ↔ policy.scope ∈ policyScopeOrder ∧ normalized policy.decision ∈ validDecisions := by
  exact decide_eq_true_iff

/-- `by_scope`, where the first policy seen of a scope stays -/
def byScope : List ActionPolicy → Dict ActionPolicy :=
  List.foldl (fun seen policy =>
    if policy.counts ∧ (seen.get? policy.scope).isNone then seen.set policy.scope policy else seen) []

structure Resolution where
  decision : String
  reason : String
  matchedScope : Option String
  matchedPolicyId : Option String
  denyOverride : Bool
deriving DecidableEq, Inhabited

def orderedPolicies (policies : List ActionPolicy) : List ActionPolicy :=
  policyScopeOrder.filterMap (byScope policies).get?

def resolveDecisionFromPolicies (policies : List ActionPolicy) (default : String) : Resolution :=
  match orderedPolicies policies with
  | [] => ⟨default, "no_policy_matched", none, none, false⟩
  | chosen :: rest =>
    match ((chosen :: rest).filter (·.decision = "prohibited")).getLast? with
    | some broadest => ⟨"prohibited", "deny_override", some broadest.scopeType, some broadest.id, true⟩
    | none => ⟨chosen.decision, "most_specific", some chosen.scopeType, some chosen.id, false⟩

section First

variable {policies : List ActionPolicy} {policy : ActionPolicy} {scope : String}

def firstOf (policies : List ActionPolicy) (scope : String) : Option ActionPolicy :=
  policies.find? fun policy => policy.counts ∧ policy.scope = scope

theorem byScope_fold (policies : List ActionPolicy) (seen : Dict ActionPolicy) (scope : String) :
    (policies.foldl (fun seen policy =>
      if policy.counts ∧ (seen.get? policy.scope).isNone then seen.set policy.scope policy else seen) seen).get? scope =
      (seen.get? scope).or (firstOf policies scope) := by
  induction policies generalizing seen with
  | nil => simp [firstOf]
  | cons policy rest ih =>
    rw [foldl_cons, ih]
    by_cases here : policy.counts ∧ policy.scope = scope
    · have first : firstOf (policy :: rest) scope = some policy := find?_cons_of_pos (decide_eq_true here)
      obtain ⟨counts, rfl⟩ := here
      rw [first]
      cases known : seen.get? policy.scope with
      | none => simp [counts]
      | some other => simp [known]
    · have later : firstOf (policy :: rest) scope = firstOf rest scope := by
        apply find?_cons_of_neg
        simpa using here
      rw [later]
      split
      · simp_all [Dict.get?_set_of_ne]
      · rfl

theorem byScope_get? (policies : List ActionPolicy) (scope : String) :
    (byScope policies).get? scope = firstOf policies scope := by
  rw [byScope, byScope_fold]
  simp

def Present (policies : List ActionPolicy) (scope : String) : Prop :=
  ∃ policy ∈ policies, policy.counts = true ∧ policy.scope = scope

def MostSpecific (policies : List ActionPolicy) (scope : String) : Prop :=
  ∃ above below, policyScopeOrder = above ++ scope :: below ∧ Present policies scope ∧ ∀ other ∈ above, ¬ Present policies other

def ActionPolicy.prohibits (policy : ActionPolicy) : Prop :=
  policy.scope ∈ policyScopeOrder ∧ normalized policy.decision = "prohibited"

theorem firstOf_some (first : firstOf policies scope = some policy) :
    policy ∈ policies ∧ policy.counts = true ∧ policy.scope = scope := by
  have met := find?_some first
  exact ⟨mem_of_find?_eq_some first, of_decide_eq_true met⟩

theorem firstOf_present (present : Present policies scope) : ∃ policy, firstOf policies scope = some policy := by
  obtain ⟨policy, member, counts, same⟩ := present
  apply Option.isSome_iff_exists.mp
  rw [firstOf, find?_isSome]
  exact ⟨policy, member, decide_eq_true ⟨counts, same⟩⟩

theorem mem_ordered : policy ∈ orderedPolicies policies ↔ firstOf policies policy.scope = some policy := by
  unfold orderedPolicies
  rw [mem_filterMap]
  constructor
  · rintro ⟨scope, _, first⟩
    rw [byScope_get?] at first
    rwa [(firstOf_some first).2.2]
  · intro first
    have counts := policy.counts_iff.mp (firstOf_some first).2.1
    exact ⟨policy.scope, counts.1, by rwa [byScope_get?]⟩

theorem ordered_cons {rest : List ActionPolicy} (ordered : orderedPolicies policies = policy :: rest) :
    MostSpecific policies policy.scope ∧ firstOf policies policy.scope = some policy := by
  obtain ⟨above, scope, below, split, missing, found, _⟩ := filterMap_eq_cons_iff.mp ordered
  rw [byScope_get?] at found
  obtain ⟨member, counts, rfl⟩ := firstOf_some found
  refine ⟨⟨above, below, split, ⟨policy, member, counts, rfl⟩, fun other among present => ?_⟩, found⟩
  obtain ⟨first, here⟩ := firstOf_present present
  have none_ := missing other among
  simp [byScope_get?, here] at none_

theorem ordered_nil : orderedPolicies policies = [] ↔ ∀ policy ∈ policies, policy.counts = false := by
  constructor
  · intro empty policy member
    by_contra counts
    rw [Bool.not_eq_false] at counts
    obtain ⟨first, here⟩ := firstOf_present ⟨policy, member, counts, rfl⟩
    have listed : first ∈ orderedPolicies policies := by rwa [mem_ordered, (firstOf_some here).2.2]
    rw [empty] at listed
    exact absurd listed not_mem_nil
  · intro idle
    rw [eq_nil_iff_forall_not_mem]
    intro policy listed
    have first := mem_ordered.mp listed
    have counts := (firstOf_some first).2.1
    simp [idle policy (firstOf_some first).1] at counts

end First

section Decision

variable {policies : List ActionPolicy} {default : String}

theorem decision_default (empty : orderedPolicies policies = []) :
    (resolveDecisionFromPolicies policies default).decision = default := by
  unfold resolveDecisionFromPolicies
  rw [empty]

theorem decision_prohibited {policy : ActionPolicy} (listed : policy ∈ orderedPolicies policies)
    (spelled : policy.decision = "prohibited") :
    (resolveDecisionFromPolicies policies default).decision = "prohibited" := by
  unfold resolveDecisionFromPolicies
  cases ordered : orderedPolicies policies with
  | nil => simp_all
  | cons chosen rest =>
    dsimp only
    cases last : ((chosen :: rest).filter (·.decision = "prohibited")).getLast? with
    | none => grind
    | some broadest => rfl

theorem decision_first {chosen : ActionPolicy} {rest : List ActionPolicy}
    (ordered : orderedPolicies policies = chosen :: rest)
    (unspelled : ∀ policy ∈ orderedPolicies policies, policy.decision ≠ "prohibited") :
    (resolveDecisionFromPolicies policies default).decision = chosen.decision := by
  unfold resolveDecisionFromPolicies
  grind

end Decision

section Reordered

variable {policies reordered : List ActionPolicy} {scope : String}

theorem Present.perm (same : reordered.Perm policies) (present : Present reordered scope) : Present policies scope := by
  obtain ⟨policy, member, counts, here⟩ := present
  exact ⟨policy, same.mem_iff.mp member, counts, here⟩

theorem MostSpecific.perm (same : reordered.Perm policies) (top : MostSpecific reordered scope) :
    MostSpecific policies scope := by
  obtain ⟨above, below, split, present, missing⟩ := top
  exact ⟨above, below, split, present.perm same, fun other among there => missing other among (there.perm same.symm)⟩

theorem MostSpecific.unique {other : String} (top : MostSpecific policies scope) (also_ : MostSpecific policies other) :
    scope = other := by
  obtain ⟨above, below, split, present, missing⟩ := top
  obtain ⟨above', below', split', present', missing'⟩ := also_
  rw [split] at split'
  rcases append_eq_append_iff.mp split' with ⟨middle, longer, rest⟩ | ⟨middle, longer, rest⟩
  · cases middle with
    | nil => exact (cons.inj rest).1
    | cons head more => simp_all
  · cases middle with
    | nil => exact (cons.inj rest).1.symm
    | cons head more => simp_all

end Reordered

section Law

variable {policies reordered : List ActionPolicy} {default : String} {policy : ActionPolicy}

structure Decides (policies : List ActionPolicy) (default decision : String) : Prop where
  prohibited : decision = "prohibited" ↔ ∃ policy ∈ policies, policy.prohibits
  specific : (∀ policy ∈ policies, ¬ policy.prohibits) → ∀ scope, MostSpecific policies scope →
    ∃ policy ∈ policies, policy.counts = true ∧ policy.scope = scope ∧ decision = normalized policy.decision
  default : (∀ policy ∈ policies, policy.counts = false) → decision = default
  valid : decision ∈ validDecisions

def Untied (policies : List ActionPolicy) : Prop :=
  (∃ policy ∈ policies, policy.prohibits) ∨ ∀ scope, MostSpecific policies scope →
    ∀ first ∈ policies, first.counts = true → first.scope = scope →
    ∀ second ∈ policies, second.counts = true → second.scope = scope →
    normalized first.decision = normalized second.decision

/-- The policies are resolved as documented in every order, and in every order to one decision unless they tie. -/
def ResolvedAsDocumented (policies : List ActionPolicy) (default : String) : Prop :=
  ∀ reordered, reordered.Perm policies →
    Decides reordered default (resolveDecisionFromPolicies reordered default).decision ∧
    (Untied policies →
      (resolveDecisionFromPolicies reordered default).decision = (resolveDecisionFromPolicies policies default).decision)

/-- Where something is prohibited, some scope has only policies spelled `prohibited`; where nothing is, the most specific
    scope has only decisions spelled as they normalise; and without any policy the default is one of the other two. -/
def SpelledOut (policies : List ActionPolicy) (default : String) : Prop :=
  ((∃ policy ∈ policies, policy.prohibits) → ∃ scope, Present policies scope ∧
    ∀ policy ∈ policies, policy.counts = true → policy.scope = scope → policy.decision = "prohibited") ∧
  ((∀ policy ∈ policies, ¬ policy.prohibits) → ∀ scope, MostSpecific policies scope →
    ∀ policy ∈ policies, policy.counts = true → policy.scope = scope → policy.decision = normalized policy.decision) ∧
  ((∀ policy ∈ policies, policy.counts = false) → default ∈ ["approval_required", "autonomous"])

theorem ActionPolicy.prohibits.counts (prohibits : policy.prohibits) : policy.counts = true := by
  rw [ActionPolicy.counts_iff, prohibits.2]
  exact ⟨prohibits.1, by decide⟩

theorem prohibits_of_spelled (counts : policy.counts = true) (spelled : policy.decision = "prohibited") :
    policy.prohibits := by
  refine ⟨(policy.counts_iff.mp counts).1, ?_⟩
  rw [spelled]
  decide

theorem normalized_of_valid {decision : String} (valid : decision ∈ validDecisions) : normalized decision = decision := by
  simp only [validDecisions, mem_cons, not_mem_nil, or_false] at valid
  rcases valid with rfl | rfl | rfl <;> decide

theorem ordered_unspelled (free : ∀ policy ∈ policies, ¬ policy.prohibits) :
    ∀ policy ∈ orderedPolicies policies, policy.decision ≠ "prohibited" := by
  intro policy listed spelled
  obtain ⟨member, counts, _⟩ := firstOf_some (mem_ordered.mp listed)
  exact free policy member (prohibits_of_spelled counts spelled)

theorem SpelledOut.perm (same : reordered.Perm policies) (spelled : SpelledOut policies default) :
    SpelledOut reordered default := by
  obtain ⟨denied, allowed, idle⟩ := spelled
  refine ⟨fun ⟨policy, member, prohibits⟩ => ?_, fun free scope top policy member => ?_, fun none_ => idle fun policy member => ?_⟩
  · obtain ⟨scope, present, all⟩ := denied ⟨policy, same.mem_iff.mp member, prohibits⟩
    exact ⟨scope, present.perm same.symm, fun other among => all other (same.mem_iff.mp among)⟩
  · have free' : ∀ policy ∈ policies, ¬ policy.prohibits := fun other among => free other (same.mem_iff.mpr among)
    exact allowed free' scope (top.perm same) policy (same.mem_iff.mp member)
  · exact none_ policy (same.mem_iff.mpr member)

theorem SpelledOut.decides (spelled : SpelledOut policies default) :
    Decides policies default (resolveDecisionFromPolicies policies default).decision := by
  obtain ⟨denied, allowed, idle⟩ := spelled
  by_cases prohibited : ∃ policy ∈ policies, policy.prohibits
  · obtain ⟨scope, present, all⟩ := denied prohibited
    obtain ⟨first, here⟩ := firstOf_present present
    obtain ⟨member, counts, same⟩ := firstOf_some here
    have listed : first ∈ orderedPolicies policies := mem_ordered.mpr (by rw [same]; exact here)
    rw [decision_prohibited listed (all first member counts same)]
    obtain ⟨culprit, among, prohibits⟩ := prohibited
    refine ⟨⟨fun _ => ⟨culprit, among, prohibits⟩, fun _ => rfl⟩, fun free => absurd prohibits (free culprit among),
      fun none_ => ?_, by decide⟩
    exact absurd ((none_ culprit among).symm.trans prohibits.counts) Bool.false_ne_true
  · have free : ∀ policy ∈ policies, ¬ policy.prohibits := fun policy member prohibits =>
      prohibited ⟨policy, member, prohibits⟩
    cases ordered : orderedPolicies policies with
    | nil =>
      rw [decision_default ordered]
      have none_ := ordered_nil.mp ordered
      have kind := idle none_
      simp only [mem_cons, not_mem_nil, or_false] at kind
      refine ⟨⟨fun same => ?_, fun found => absurd found prohibited⟩, fun _ scope top => ?_, fun _ => rfl, ?_⟩
      · simp [same] at kind
      · obtain ⟨_, _, _, ⟨policy, member, counts, _⟩, _⟩ := top
        exact absurd (counts.symm.trans (none_ policy member)) Bool.false_ne_true.symm
      · rcases kind with rfl | rfl <;> decide
    | cons chosen rest =>
      rw [decision_first ordered (ordered_unspelled free)]
      obtain ⟨top, first⟩ := ordered_cons ordered
      obtain ⟨member, counts, _⟩ := firstOf_some first
      have same := allowed free chosen.scope top chosen member counts rfl
      have valid := (chosen.counts_iff.mp counts).2
      refine ⟨⟨fun prohibits => ?_, fun found => absurd found prohibited⟩, fun _ scope here => ?_, fun none_ => ?_, ?_⟩
      · exact absurd (prohibits_of_spelled counts prohibits) (free chosen member)
      · exact ⟨chosen, member, counts, top.unique here, same⟩
      · exact absurd (counts.symm.trans (none_ chosen member)) Bool.false_ne_true.symm
      · rwa [same]

theorem filter_first_perm (kind : ActionPolicy → Bool) (policies : List ActionPolicy) :
    (policies.filter kind ++ policies.filter fun policy => !kind policy).Perm policies := filter_append_perm kind policies

theorem spelled_of_decides (decides : ∀ reordered, reordered.Perm policies →
      Decides reordered default (resolveDecisionFromPolicies reordered default).decision)
    (prohibited : ∃ policy ∈ policies, policy.prohibits) :
    ∃ scope, Present policies scope ∧
      ∀ policy ∈ policies, policy.counts = true → policy.scope = scope → policy.decision = "prohibited" := by
  by_contra none_
  let soft : ActionPolicy → Bool := fun policy => policy.counts ∧ policy.decision ≠ "prohibited"
  let reordered := policies.filter soft ++ policies.filter fun policy => !soft policy
  have same : reordered.Perm policies := filter_first_perm soft policies
  have first_soft : ∀ policy ∈ orderedPolicies reordered, policy.decision ≠ "prohibited" := by
    intro policy listed spelled
    have first := mem_ordered.mp listed
    obtain ⟨member, counts, _⟩ := firstOf_some first
    apply none_
    refine ⟨policy.scope, ⟨policy, same.mem_iff.mp member, counts, rfl⟩, fun other among counted here => ?_⟩
    by_contra unspelled
    have early : other ∈ policies.filter soft :=
      mem_filter.mpr ⟨among, decide_eq_true ⟨counted, unspelled⟩⟩
    have found : ∃ one, firstOf (policies.filter soft) policy.scope = some one :=
      firstOf_present ⟨other, early, counted, here⟩
    obtain ⟨one, ahead⟩ := found
    have chosen : firstOf reordered policy.scope = some one := by
      rw [firstOf, find?_append]
      exact Option.or_eq_some_iff.mpr (.inl ahead)
    rw [chosen] at first
    cases first
    have kept := (mem_filter.mp (firstOf_some ahead).1).2
    exact (of_decide_eq_true kept).2 spelled
  obtain ⟨culprit, among, prohibits⟩ := prohibited
  have there : culprit ∈ reordered := same.mem_iff.mpr among
  have decision := (decides reordered same).prohibited.mpr ⟨culprit, there, prohibits⟩
  cases ordered : orderedPolicies reordered with
  | nil =>
    have idle := ordered_nil.mp ordered culprit there
    simp [prohibits.counts] at idle
  | cons chosen rest =>
    rw [decision_first ordered first_soft] at decision
    exact first_soft chosen (by rw [ordered]; exact mem_cons_self) decision

end Law

def organizationPolicy (id decision : String) : ActionPolicy :=
  ⟨id, "owner", "organization", some "company", "web_search", decision⟩

end Troop.Authorization
