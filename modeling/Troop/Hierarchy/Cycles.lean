import Troop.Hierarchy.Policy

namespace Troop.Hierarchy

open Relation
open List

variable {policy : HierarchyPolicy} {memberIds : List String} {roles : Dict String}

structure Delegates (policy : HierarchyPolicy) (memberIds : List String) (source target : String) : Prop where
  starts : source ∈ memberIds
  ends : target ∈ memberIds
  edge : ⟨source, target, .delegatesTo⟩ ∈ policy.edges

theorem delegates_edge {source target : String} :
    Graphs.Edge (delegates policy memberIds) source target ↔ Delegates policy memberIds source target := by
  unfold Graphs.Edge delegates
  simp only [mem_map, mem_filter, HierarchyEdge.between, Bool.and_eq_true, decide_eq_true_eq]
  constructor
  · rintro ⟨⟨_, _, _⟩, ⟨member, ⟨⟨known, knownToo⟩, kind⟩, same⟩, sameToo⟩
    cases kind
    cases same
    cases sameToo
    exact ⟨known, knownToo, member⟩
  · rintro ⟨known, knownToo, member⟩
    exact ⟨_, ⟨member, ⟨⟨known, knownToo⟩, rfl⟩, rfl⟩, rfl⟩

theorem cycleErrors_ok (policy : HierarchyPolicy) (memberIds : List String) : ∃ errors, cycleErrors policy memberIds = .ok errors ∧
    (cycleError ∈ errors ↔ ∃ id, TransGen (Delegates policy memberIds) id id) := by
  have edges : Graphs.Edge (delegates policy memberIds) = Delegates policy memberIds := by
    funext source target
    exact propext delegates_edge
  have within (source target : String) (edge : Graphs.Edge (delegates policy memberIds) source target) :
      source ∈ memberIds ∧ target ∈ memberIds := ⟨(delegates_edge.mp edge).starts, (delegates_edge.mp edge).ends⟩
  obtain ⟨reached, ran, found⟩ := Graphs.visitAll_cycle within
  rw [edges] at found
  unfold cycleErrors
  rw [ran]
  refine ⟨_, rfl, ?_⟩
  rw [mem_replicate, ← found]
  exact ⟨And.left, fun some_ => ⟨some_, rfl⟩⟩

theorem ne_cycleError {start rest : String} (apart : ¬ start.toList <+: cycleError.toList) : cycleError ≠ start ++ rest :=
  (prefixed_ne apart).symm

theorem managerErrors_apart : cycleError ∉ managerErrors policy memberIds roles := by
  unfold managerErrors
  cases policy.managerAgentId with
  | none => simp
  | some managerId =>
    simp only [mem_append, not_or]
    constructor <;> split <;> simp [cycleError]

theorem reviewerErrors_apart : cycleError ∉ reviewerErrors policy memberIds roles := by
  unfold reviewerErrors
  simp only [mem_append, not_or]
  refine ⟨⟨⟨?_, ?_⟩, ?_⟩, ?_⟩ <;> split
  · simp [cycleError]
  · simp
  · simp [cycleError]
  · simp
  · simpa using ne_cycleError (by decide)
  · simp
  · simpa using ne_cycleError (by decide)
  · simp

theorem edgeErrors_apart : cycleError ∉ edgeErrors policy memberIds := by
  intro member
  obtain ⟨edge, _, same⟩ := mem_map.mp member
  rw [String.append_assoc, String.append_assoc] at same
  exact ne_cycleError (by decide) same.symm

theorem ruleErrors_apart (kind : String) {rules : Dict (List String)}
    (apart : ¬ (kind ++ " rule").toList <+: cycleError.toList) : cycleError ∉ ruleErrors memberIds kind rules := by
  intro member
  obtain ⟨rule, _, among⟩ := mem_flatMap.mp member
  rcases mem_append.mp among with here | here <;> split at here
  · simp_all
  · cases here
  · simp_all
  · cases here

theorem handoffErrors_apart : cycleError ∉ handoffErrors policy memberIds := by
  unfold handoffErrors
  split
  · split <;> simp [cycleError]
  · simp

/-- The validation of a policy that can be normalized reports a cycle exactly where the delegation edges between members
    have one; whichever way the set of members is iterated, the verdict is the same. -/
theorem cycle_reported_iff (raw : Dict Json) (memberIds : List String) (roles : Dict String)
    (normalized : normalizeHierarchyPolicy raw = .ok policy) :
    ∃ errors, validateHierarchyPolicy raw memberIds roles = .ok errors ∧
      (cycleError ∈ errors ↔ ∃ id, TransGen (Delegates policy memberIds) id id) ∧
      ∀ others, (∀ id, id ∈ others ↔ id ∈ memberIds) →
        ∃ again, validateHierarchyPolicy raw others roles = .ok again ∧ (cycleError ∈ again ↔ cycleError ∈ errors) := by
  have verdict (memberIds : List String) : ∃ errors, validateHierarchyPolicy raw memberIds roles = .ok errors ∧
      (cycleError ∈ errors ↔ ∃ id, TransGen (Delegates policy memberIds) id id) := by
    obtain ⟨cycles, searched, found⟩ := cycleErrors_ok policy memberIds
    refine ⟨firstOccurrences (foundErrors policy memberIds roles cycles), ?_, ?_⟩
    · unfold validateHierarchyPolicy
      rw [normalized]
      simp only [bind, Except.bind, searched]
      rfl
    · rw [mem_firstOccurrences, ← found, foundErrors]
      simp only [mem_append, managerErrors_apart, reviewerErrors_apart, edgeErrors_apart, handoffErrors_apart,
        ruleErrors_apart "delegation" (by decide), ruleErrors_apart "brainstorm" (by decide), false_or, or_false]
  obtain ⟨errors, ran, reported⟩ := verdict memberIds
  refine ⟨errors, ran, reported, fun others same => ?_⟩
  obtain ⟨again, ranAgain, reportedAgain⟩ := verdict others
  have edges : Delegates policy others = Delegates policy memberIds := by
    funext source target
    apply propext
    constructor
    · rintro ⟨starts, ends, edge⟩
      exact ⟨(same source).mp starts, (same target).mp ends, edge⟩
    · rintro ⟨starts, ends, edge⟩
      exact ⟨(same source).mpr starts, (same target).mpr ends, edge⟩
  refine ⟨again, ranAgain, ?_⟩
  rw [reportedAgain, edges, reported]

def delegationEdge (source target : String) : Json :=
  .obj [("source_agent_id", .str source), ("target_agent_id", .str target)]

def mutualPolicy : Dict Json := [("edges", .arr [delegationEdge "lead" "writer", delegationEdge "writer" "lead"])]

def mutualNormalized : HierarchyPolicy :=
  { managerAgentId := none
    edges := [⟨"lead", "writer", .delegatesTo⟩, ⟨"writer", "lead", .delegatesTo⟩]
    delegationRules := []
    brainstormRules := []
    reviewerAgentIds := []
    reviewerChainMode := "sequential"
    routingMode := "capability_based"
    siblingLoadBalance := "queue_depth"
    defaultExecutionMode := "single_agent"
    blockedHandoff := ⟨"escalation_path", none, true⟩ }

theorem mutual_cycle_reported :
    ∃ errors, validateHierarchyPolicy mutualPolicy ["writer", "lead"] [] = .ok errors ∧
      (cycleError ∈ errors ↔ ∃ id, TransGen (Delegates mutualNormalized ["writer", "lead"]) id id) ∧
      ∀ others, (∀ id, id ∈ others ↔ id ∈ ["writer", "lead"]) →
        ∃ again, validateHierarchyPolicy mutualPolicy others [] = .ok again ∧ (cycleError ∈ again ↔ cycleError ∈ errors) :=
  cycle_reported_iff mutualPolicy ["writer", "lead"] [] (by decide)

end Troop.Hierarchy
