import Troop.Workflow.Vars

namespace Troop.Workflow

open List

/-- The edge `_next_node` leaves a node by. A router target needs none. -/
def takenEdge (current : String) (edges : List Json) (vars : Dict Json) : Option Json :=
  if (vars.get "_router_target").truthy then none
  else match outgoing edges current, vars.get "_last_condition" with
    | [], _ => none
    | first :: _, .null => some first
    | first :: rest, cond => some (((first :: rest).find? (edgeOfBranch cond)).getD first)

theorem nextNode_taken (current : String) (edges : List Json) (vars : Dict Json) :
    (nextNode current edges vars).1 =
      if (vars.get "_router_target").truthy then some (vars.get "_router_target").pyStr
      else (takenEdge current edges vars).bind fun edge => edgeEnd edge "to" := by
  have kept : (vars.pop "_router_target").get "_last_condition" = vars.get "_last_condition" :=
    Dict.get_pop_of_ne vars (by decide)
  unfold nextNode takenEdge
  dsimp only
  split
  · rfl
  unfold successor
  rw [kept]
  cases outgoing edges current with
  | nil => rfl
  | cons first rest => cases vars.get "_last_condition" <;> rfl

/-- The edge is for the other branch than `b`. -/
def Mismatches (edge : Json) (b : Bool) : Prop := edge.get "when" ≠ .null ∧ (edge.get "when").truthy ≠ b

variable {edges : List Json} {vars : Dict Json} {current : String} {b : Bool}

theorem edgeOfBranch_iff {edge : Json} :
    edgeOfBranch (.bool b) edge = true ↔ edge.get "when" ≠ .null ∧ (edge.get "when").truthy = b := by
  simp [edgeOfBranch, Json.truthy]

/-- The vars after a condition node that evaluated to `b`. -/
def afterCondition (vars : Dict Json) (b : Bool) : Dict Json := vars.set "_last_condition" (.bool b)

theorem takenEdge_afterCondition (unrouted : (vars.get "_router_target").truthy = false) :
    takenEdge current edges (afterCondition vars b) =
      (outgoing edges current).head?.map
        fun first => ((outgoing edges current).find? (edgeOfBranch (.bool b))).getD first := by
  have off : (afterCondition vars b).get "_router_target" = vars.get "_router_target" :=
    Dict.get_set_of_ne vars _ (by decide)
  have own : (afterCondition vars b).get "_last_condition" = .bool b := Dict.get_set_self vars _ _
  unfold takenEdge
  rw [off, own, unrouted]
  cases outgoing edges current <;> rfl

theorem takenEdge_before (unrouted : (vars.get "_router_target").truthy = false) :
    takenEdge current edges (vars.pop "_last_condition") = (outgoing edges current).head? := by
  have off : (vars.pop "_last_condition").get "_router_target" = vars.get "_router_target" :=
    Dict.get_pop_of_ne vars (by decide)
  have own : (vars.pop "_last_condition").get "_last_condition" = .null := by simp [Dict.get]
  unfold takenEdge
  rw [off, own, unrouted]
  cases outgoing edges current <;> rfl

theorem takenEdge_routed
    (routed : (vars.get "_router_target").truthy = true) : takenEdge current edges vars = none := by
  simp [takenEdge, routed]

def HeedsBranch (current : String) (edges : List Json) (vars : Dict Json) (b : Bool) : Prop :=
  ∀ edge, takenEdge current edges vars = some edge → ¬ Mismatches edge b

/-- The edge is the same whichever condition was evaluated before, with whatever result, and without any. -/
def ForgetsBranch (current : String) (edges : List Json) (vars : Dict Json) : Prop :=
  ∀ b, takenEdge current edges (afterCondition vars b) = takenEdge current edges (vars.pop "_last_condition")

/-- An edge of branch `b` leaves the node, or the fallback is an unconditional edge. -/
def Branching (outgoing : List Json) (b : Bool) : Prop :=
  (∃ edge ∈ outgoing, edge.get "when" ≠ .null ∧ (edge.get "when").truthy = b) ∨
    ∀ first ∈ outgoing.head?, first.get "when" = .null

/-- No edge has a `when`, or the first has one and all that have one agree with it. -/
def Plain (outgoing : List Json) : Prop :=
  ∀ first ∈ outgoing.head?, ∀ edge ∈ outgoing, edge.get "when" ≠ .null →
    first.get "when" ≠ .null ∧ (edge.get "when").truthy = (first.get "when").truthy

instance (outgoing : List Json) (b : Bool) : Decidable (Branching outgoing b) :=
  inferInstanceAs (Decidable ((∃ edge ∈ outgoing, edge.get "when" ≠ .null ∧ (edge.get "when").truthy = b) ∨
    ∀ first ∈ outgoing.head?, first.get "when" = .null))

instance (outgoing : List Json) : Decidable (Plain outgoing) :=
  inferInstanceAs (Decidable (∀ first ∈ outgoing.head?, ∀ edge ∈ outgoing, edge.get "when" ≠ .null →
    first.get "when" ≠ .null ∧ (edge.get "when").truthy = (first.get "when").truthy))

theorem find?_edgeOfBranch_none (absent : edges.find? (edgeOfBranch (.bool b)) = none) :
    ∀ edge ∈ edges, ¬ (edge.get "when" ≠ .null ∧ (edge.get "when").truthy = b) := by
  intro edge member held
  have off := find?_eq_none.mp absent edge member
  exact off (edgeOfBranch_iff.mpr held)

theorem heedsBranch_iff (unrouted : (vars.get "_router_target").truthy = false) :
    HeedsBranch current edges (afterCondition vars b) b ↔ Branching (outgoing edges current) b := by
  unfold HeedsBranch Branching
  rw [takenEdge_afterCondition unrouted]
  cases found : (outgoing edges current).find? (edgeOfBranch (.bool b)) with
  | some edge =>
    have held := edgeOfBranch_iff.mp (find?_some found)
    constructor
    · grind
    intro _ taken same mismatched
    cases head : (outgoing edges current).head? with
    | none => simp [head] at same
    | some first =>
      simp only [head, Option.map_some, Option.getD_some, Option.some.injEq] at same
      rw [← same] at mismatched
      exact mismatched.2 held.2
  | none =>
    have off := find?_edgeOfBranch_none found
    constructor
    · intro heeds
      apply Or.inr
      intro first head
      have fits := heeds first (by rw [head]; rfl)
      have member := mem_of_mem_head? head
      by_contra present
      exact fits ⟨present, fun same => off first member ⟨present, same⟩⟩
    · intro branching taken same mismatched
      rcases branching with ⟨edge, member, held⟩ | plain
      · exact off edge member held
      cases head : (outgoing edges current).head? with
      | none => simp [head] at same
      | some first =>
        simp only [head, Option.map_some, Option.getD_none, Option.some.injEq] at same
        rw [← same] at mismatched
        exact mismatched.1 (plain first head)

theorem forgetsBranch_iff (unrouted : (vars.get "_router_target").truthy = false) :
    ForgetsBranch current edges vars ↔ Plain (outgoing edges current) := by
  unfold ForgetsBranch Plain
  rw [takenEdge_before unrouted]
  constructor
  · intro forgets first head edge member present
    have same := forgets (edge.get "when").truthy
    rw [takenEdge_afterCondition unrouted, head] at same
    cases found : (outgoing edges current).find? (edgeOfBranch (.bool (edge.get "when").truthy)) with
    | none => exact absurd ⟨present, rfl⟩ (find?_edgeOfBranch_none found edge member)
    | some other =>
      have held := edgeOfBranch_iff.mp (find?_some found)
      simp only [found, Option.map_some, Option.getD_some, Option.some.injEq] at same
      rw [same] at held
      exact ⟨held.1, held.2.symm⟩
  · intro plain b
    rw [takenEdge_afterCondition unrouted]
    cases head : (outgoing edges current).head? with
    | none => rfl
    | some first =>
      cases found : (outgoing edges current).find? (edgeOfBranch (.bool b)) with
      | none => rfl
      | some edge =>
        have held := edgeOfBranch_iff.mp (find?_some found)
        have member := mem_of_find?_eq_some found
        have top := head?_eq_some_iff.mp head
        obtain ⟨rest, shape⟩ := top
        obtain ⟨present, agrees⟩ := plain first head edge member held.1
        have matching : edgeOfBranch (.bool b) first = true :=
          edgeOfBranch_iff.mpr ⟨present, agrees.symm.trans held.2⟩
        simp_all

theorem conditionOutcome_branch {node : Json} {outcome : NodeOutcome}
    (executed : executeConditionNode node vars = .ok outcome)
    (branch : Dict.get outcome.output "branch" = .bool b) : outcome.vars = afterCondition vars b := by
  have recorded : ∀ (result : Bool) (detail : Json), outcome =
      succeeded [("branch", .bool result), ("condition", detail)] (afterCondition vars result) →
      outcome.vars = afterCondition vars b := by
    intro result detail same
    subst same
    have agrees : result = b := by simpa [succeeded, Dict.get, Dict.get?_cons] using branch
    rw [agrees]
    rfl
  unfold executeConditionNode at executed
  cases read : nodeConfig node with
  | error error => simp [read, bind, Except.bind] at executed
  | ok config =>
    simp only [read, bind, Except.bind] at executed
    split at executed
    · split at executed
      · cases executed
        exact recorded false _ rfl
      · split at executed
        · cases executed
        · cases executed
          exact recorded _ _ rfl
    · cases executed
      exact recorded false _ rfl

/-- Where the results of conditions choose the edges out of condition nodes, and no others. -/
theorem condition_results_choose_edges (current : String) (edges : List Json) (vars : Dict Json) :
    (∀ node outcome b, executeConditionNode node vars = .ok outcome →
      Dict.get outcome.output "branch" = .bool b →
      (HeedsBranch current edges outcome.vars b ↔
        (vars.get "_router_target").truthy = true ∨ Branching (outgoing edges current) b)) ∧
    (ForgetsBranch current edges vars ↔
      (vars.get "_router_target").truthy = true ∨ Plain (outgoing edges current)) := by
  cases routed : (vars.get "_router_target").truthy with
  | false =>
    constructor
    · intro node outcome b executed branch
      rw [conditionOutcome_branch executed branch, heedsBranch_iff routed]
      simp
    · rw [forgetsBranch_iff routed]
      simp
  | true =>
    have kept (b : Bool) : takenEdge current edges (afterCondition vars b) = none := by
      have off : (afterCondition vars b).get "_router_target" = vars.get "_router_target" :=
        Dict.get_set_of_ne vars _ (by decide)
      exact takenEdge_routed (by rw [off, routed])
    have before : takenEdge current edges (vars.pop "_last_condition") = none := by
      have off : (vars.pop "_last_condition").get "_router_target" = vars.get "_router_target" :=
        Dict.get_pop_of_ne vars (by decide)
      exact takenEdge_routed (by rw [off, routed])
    constructor
    · intro node outcome b executed branch
      rw [conditionOutcome_branch executed branch]
      simp [HeedsBranch, kept]
    · simp [ForgetsBranch, kept, before]

def readyCheck : Json :=
  .obj [("id", .str "check"), ("type", .str "condition"),
    ("config", .obj [("condition", .obj [("operator", .str "truthy"), ("left", .obj [("var", .str "ready")])])])]

def edgeTo (source target : String) (when : Json) : Json :=
  .obj [("from", .str source), ("to", .str target), ("when", when)]

def unreadyVars : Dict Json := [("ready", .bool false)]

def checkedUnready : NodeOutcome :=
  succeeded [("branch", .bool false),
    ("condition", .obj [("operator", .str "truthy"), ("left", .obj [("var", .str "ready")])])]
    (afterCondition unreadyVars false)

theorem condition_results_choose_unready :
    HeedsBranch "check" [edgeTo "check" "ship" (.bool true), edgeTo "check" "redo" (.bool false)]
      checkedUnready.vars false := by
  have law := condition_results_choose_edges "check"
    [edgeTo "check" "ship" (.bool true), edgeTo "check" "redo" (.bool false)] unreadyVars
  apply (law.1 readyCheck checkedUnready false rfl rfl).mpr
  decide

/-- A result of `false` leaves by the only edge, which is for `true`. It stays in the vars,
    and at a later node it outranks the unconditional edge. -/
theorem condition_falls_back_and_lingers :
    executeConditionNode readyCheck unreadyVars = .ok checkedUnready ∧
    ¬ HeedsBranch "check" [edgeTo "check" "ship" (.bool true)] checkedUnready.vars false ∧
    ¬ ForgetsBranch "work" [edgeTo "work" "ship" .null, edgeTo "work" "redo" (.bool false)] checkedUnready.vars := by
  refine ⟨rfl, ?_, ?_⟩
  · intro heeds
    apply heeds (edgeTo "check" "ship" (.bool true)) rfl
    constructor <;> decide
  · intro forgets
    have same := forgets false
    revert same
    decide

end Troop.Workflow
