import Mathlib.Data.String.Basic
import Troop.Packages.Marketplace
import Troop.Python.Sorting
import Troop.Workflow.Leaving

namespace Troop.Packages

open Workflow
open List

theorem edgeBefore_preordered : Preordered edgeBefore :=
  Preordered.ofPair (fun edge : Dict Json => (edge.get "from").pyStr) fun edge : Dict Json => (edge.get "to").pyStr

theorem nodeBefore_preordered : Preordered nodeBefore where
  trans a b c first second := by
    simp only [nodeBefore, decide_eq_true_eq] at *
    exact le_trans first second
  total a b := by
    simp only [nodeBefore, Bool.or_eq_true, decide_eq_true_eq]
    exact le_total _ _

def storedEdge (edge : Json) : Dict Json := sortedEdge (edge.asObj?.getD [])

def storedNode (node : Json) : Dict Json := sortedNode (node.asObj?.getD [])

structure Joined (edge : Json) (source target : String) : Prop where
  object : isObj edge = true
  starts : edge.get "from" = .str source
  ends : edge.get "to" = .str target
  leaves : source ≠ ""
  arrives : target ≠ ""

theorem edgeEnd_some {edge : Json} {key id : String} (ends : edgeEnd edge key = some id) : edge.get key = .str id := by
  unfold edgeEnd at ends
  split at ends
  · simp_all
  · cases ends

theorem joined_of_accepted {graph : Graph}
    (accepted : validateGraph graph.nodes graph.edges graph.entry = []) {edge : Json} (member : edge ∈ graph.edges) :
    ∃ source target, Joined edge source target := by
  obtain ⟨object, source, known, target, within, starts, ends⟩ :=
    validateEdge_nil ((validateGraph_nil accepted).2.2 edge member)
  exact ⟨source, target, object, edgeEnd_some starts, edgeEnd_some ends, ids_named known, ids_named within⟩

section Edges

variable {edge : Json} {source target : String}

theorem Joined.members (joined : Joined edge source target) : edge = .obj (edge.asObj?.getD []) := by
  have object := joined.object
  cases edge <;> first | rfl | cases object

theorem text_pyOr {text : String} (named : text ≠ "") (other : Json) : ((Json.str text).pyOr other).strOrEmpty = text := by
  simp [Json.pyOr, Json.strOrEmpty, Json.truthy, named, Json.pyStr]

theorem Joined.read (joined : Joined edge source target) (key : String) :
    edge.get key = Dict.get (edge.asObj?.getD []) key := by
  conv_lhs => rw [joined.members]
  rfl

theorem Joined.stored_from (joined : Joined edge source target) : (storedEdge edge).get "from" = edge.get "from" := by
  have kept := text_pyOr joined.leaves (Dict.get (edge.asObj?.getD []) "source")
  rw [← joined.starts, joined.read] at kept
  rw [joined.starts, storedEdge, sortedEdge, kept]
  rfl

theorem Joined.stored_to (joined : Joined edge source target) : (storedEdge edge).get "to" = edge.get "to" := by
  have kept := text_pyOr joined.arrives (Dict.get (edge.asObj?.getD []) "target")
  rw [← joined.ends, joined.read] at kept
  rw [joined.ends, storedEdge, sortedEdge, kept]
  rfl

theorem Joined.stored_other (joined : Joined edge source target) {key : String}
    (other : key ∉ ["from", "to", "source", "target"]) : (storedEdge edge).get key = edge.get key := by
  simp only [List.mem_cons, List.not_mem_nil, or_false, not_or] at other
  rw [joined.read, storedEdge, sortedEdge, Dict.get, Dict.get?_append, Dict.get?_sortByKey,
    Dict.get?_filter_key _ _ fun key => decide (key ∉ ["from", "to", "source", "target"])]
  simp [Dict.get?_cons, other, Ne.symm, Dict.get]

theorem Joined.stored_get (joined : Joined edge source target) {key : String} (other : key ∉ ["source", "target"]) :
    Json.get (.obj (storedEdge edge)) key = edge.get key := by
  by_cases starts : key = "from"
  · rw [starts]
    exact joined.stored_from
  · by_cases ends : key = "to"
    · rw [ends]
      exact joined.stored_to
    · apply joined.stored_other
      simp_all

end Edges

section Accepted

variable {graph : Graph}

theorem canonical_edges (accepted : validateGraph graph.nodes graph.edges graph.entry = []) :
    (canonicalizeWorkflowGraph graph).edges = ((graph.edges.map storedEdge).mergeSort edgeBefore).map Json.obj := by
  have read : ∀ edges : List Json, (∀ edge ∈ edges, ∃ source target, Joined edge source target) →
      (((edges.filterMap Json.asObj?).filter fun edge =>
        ((edge.get "from").pyOr (edge.get "source")).truthy).map sortedEdge) = edges.map storedEdge := by
    intro edges
    induction edges with
    | nil => exact fun _ => rfl
    | cons edge rest ih =>
      intro each
      obtain ⟨source, target, joined⟩ := each edge mem_cons_self
      have tail := ih fun other member => each other (mem_cons_of_mem _ member)
      have members : edge.asObj? = some (edge.asObj?.getD []) := by
        conv_lhs => rw [joined.members]
        rfl
      have kept : (Json.pyOr (Dict.get (edge.asObj?.getD []) "from") (Dict.get (edge.asObj?.getD []) "source")).truthy
          = true := by
        rw [← joined.read "from", joined.starts]
        simp [Json.pyOr, Json.truthy, joined.leaves]
      rw [filterMap_cons_some members, filter_cons, if_pos kept, map_cons, tail]
      rfl
  unfold canonicalizeWorkflowGraph
  rw [read graph.edges fun edge member => joined_of_accepted accepted member]

def Blind (graph : Graph) (test : Json → Bool) : Prop :=
  ∀ edge ∈ graph.edges, test (.obj (storedEdge edge)) = test edge

def byTarget (a b : Json) : Bool := (a.get "to").pyStr ≤ (b.get "to").pyStr

variable {edges : List Json} {test : Json → Bool}

theorem Blind.find? {current : String} (blind : Blind graph test)
    (accepted : validateGraph graph.nodes graph.edges graph.entry = [])
    (leaving : ∀ edge, test edge = true → edgeEnd edge "from" = some current) :
    (canonicalizeWorkflowGraph graph).edges.find? test =
      (leastFirst byTarget (graph.edges.filter test)).map fun edge => .obj (storedEdge edge) := by
  have kept : graph.edges.filter ((test ∘ Json.obj) ∘ storedEdge) = graph.edges.filter test :=
    filter_congr blind
  have ordered : ∀ a ∈ graph.edges.filter test, ∀ b ∈ graph.edges.filter test,
      edgeBefore (storedEdge a) (storedEdge b) = byTarget a b := by
    intro a left b right
    obtain ⟨left, starts⟩ := mem_filter.mp left
    obtain ⟨right, begins⟩ := mem_filter.mp right
    obtain ⟨_, _, joined⟩ := joined_of_accepted accepted left
    obtain ⟨_, _, other⟩ := joined_of_accepted accepted right
    simp [edgeBefore, byTarget, joined.stored_from, joined.stored_to, other.stored_from, other.stored_to,
      edgeEnd_some (leaving a starts), edgeEnd_some (leaving b begins)]
  rw [canonical_edges accepted, find?_map, edgeBefore_preordered.find?_mergeSort, filter_map, kept,
    leastFirst_map, leastFirst_congr ordered, Option.map_map]
  rfl

def preferred (test : Json → Bool) (items : List Json) : List Json :=
  if (items.filter test).isEmpty then items else items.filter test

theorem preferred_head? (test : Json → Bool) (items : List Json) :
    (preferred test items).head? = (items.find? test).or items.head? := by
  unfold preferred
  cases shape : items.filter test with
  | nil => grind [head?_filter]
  | cons first rest => grind

theorem leastFirst_preferred (test : Json → Bool) (items : List Json) :
    leastFirst byTarget (preferred test items) =
      if (items.filter test).isEmpty then leastFirst byTarget items else leastFirst byTarget (items.filter test) := by
  unfold preferred
  split <;> rfl

theorem byTarget_preordered : Preordered byTarget where
  trans a b c first second := by
    simp only [byTarget, decide_eq_true_eq] at *
    exact le_trans first second
  total a b := by
    simp only [byTarget, Bool.or_eq_true, decide_eq_true_eq]
    exact le_total _ _

theorem leastFirst_isSome {items : List Json} (some : items ≠ []) : (leastFirst byTarget items).isSome = true := by
  have sorted := byTarget_preordered.find?_mergeSort (fun _ => true) items
  rw [filter_eq_self.mpr fun _ _ => rfl] at sorted
  rw [← sorted, find?_isSome]
  obtain ⟨item, member⟩ := exists_mem_of_ne_nil _ some
  exact ⟨item, mem_mergeSort.mpr member, rfl⟩

theorem canonical_preferred {current : String}
    (accepted : validateGraph graph.nodes graph.edges graph.entry = []) (blind : Blind graph test) :
    (preferred test (outgoing (canonicalizeWorkflowGraph graph).edges current)).head? =
      (leastFirst byTarget (preferred test (outgoing graph.edges current))).map fun edge => .obj (storedEdge edge) := by
  let leaving := fun edge : Json => decide (edgeEnd edge "from" = some current)
  have own : Blind graph leaving := by
    intro edge member
    obtain ⟨_, _, joined⟩ := joined_of_accepted accepted member
    have same := @Joined.stored_get _ _ _ joined "from" (by decide)
    have ends : edgeEnd (.obj (storedEdge edge)) "from" = edgeEnd edge "from" := by rw [edgeEnd, edgeEnd, same]
    simp only [leaving, ends]
  have both : Blind graph fun edge => leaving edge && test edge := by
    intro edge member
    dsimp only
    rw [own edge member, blind edge member]
  have all := own.find? accepted fun edge held => of_decide_eq_true held
  have some := both.find? accepted fun edge held => of_decide_eq_true (Bool.and_eq_true_iff.mp held).1
  have joinedTests : (outgoing graph.edges current).filter test = graph.edges.filter fun edge => leaving edge && test edge := by
    rw [outgoing, filter_filter]
    apply filter_congr
    intro edge _
    exact Bool.and_comm _ _
  have nested : (outgoing (canonicalizeWorkflowGraph graph).edges current).find? test =
      (canonicalizeWorkflowGraph graph).edges.find? fun edge => leaving edge && test edge := by
    rw [outgoing, find?_filter]
    apply find?_congr_mem
    intro edge _
    rw [Bool.decide_and, Bool.decide_eq_true, Bool.decide_eq_true]
  have first : (outgoing (canonicalizeWorkflowGraph graph).edges current).head? =
      (canonicalizeWorkflowGraph graph).edges.find? leaving := head?_filter
  rw [preferred_head?, nested, first, leastFirst_preferred, joinedTests, some, all]
  cases shape : graph.edges.filter fun edge => leaving edge && test edge with
  | nil => rfl
  | cons first rest =>
    have found := @leastFirst_isSome (first :: rest) (by simp)
    obtain ⟨least, same⟩ := Option.isSome_iff_exists.mp found
    simp [same]

/-- The edges `_advance` goes by. -/
def interpretedEdges (graph : Graph) : List Json := graph.edges.filter isObj

theorem interpretedEdges_accepted (accepted : validateGraph graph.nodes graph.edges graph.entry = []) :
    interpretedEdges graph = graph.edges := by
  apply filter_eq_self.mpr
  intro edge member
  obtain ⟨_, _, joined⟩ := joined_of_accepted accepted member
  exact joined.object

theorem interpretedEdges_canonical :
    interpretedEdges (canonicalizeWorkflowGraph graph) = (canonicalizeWorkflowGraph graph).edges := by
  apply filter_eq_self.mpr
  intro edge member
  obtain ⟨_, _, rfl⟩ := mem_map.mp member
  rfl

def forLastCondition (vars : Dict Json) (edge : Json) : Bool :=
  vars.get "_last_condition" ≠ .null && edgeOfBranch (vars.get "_last_condition") edge

/-- The edges among which `_next_node` takes the first. -/
def contenders (edges : List Json) (current : String) (vars : Dict Json) : List Json :=
  preferred (forLastCondition vars) (outgoing edges current)

theorem takenEdge_contenders {current : String} {vars : Dict Json}
    (unrouted : (vars.get "_router_target").truthy = false) :
    takenEdge current edges vars = (contenders edges current vars).head? := by
  rw [takenEdge, unrouted, contenders, preferred_head?]
  cases shape : outgoing edges current with
  | nil => rfl
  | cons first rest =>
    by_cases unset : vars.get "_last_condition" = .null
    · have never : (first :: rest).find? (forLastCondition vars) = none := by
        simp [forLastCondition, unset]
      rw [never, unset]
      rfl
    · have same : (first :: rest).find? (forLastCondition vars) =
          (first :: rest).find? (edgeOfBranch (vars.get "_last_condition")) := by
        apply find?_congr_mem
        simp [forLastCondition, unset]
      rw [same]
      cases chosen : (first :: rest).find? (edgeOfBranch (vars.get "_last_condition")) <;>
        cases given : vars.get "_last_condition" <;> first | exact absurd given unset | (rw [given] at chosen; simp [chosen])

def FirstIsLeast (edges : List Json) : Prop := ∀ first ∈ edges.head?, ∀ edge ∈ edges, byTarget first edge = true

instance (edges : List Json) : Decidable (FirstIsLeast edges) :=
  inferInstanceAs (Decidable (∀ first ∈ edges.head?, ∀ edge ∈ edges, byTarget first edge = true))

theorem contenders_mem {current : String} {vars : Dict Json} {edge : Json}
    (member : edge ∈ contenders edges current vars) : edge ∈ edges := by
  unfold contenders preferred outgoing at member
  split at member
  · exact (mem_filter.mp member).1
  · exact (mem_filter.mp (mem_filter.mp member).1).1

theorem firstIsLeast_iff (joined : ∀ edge ∈ edges, ∃ source target, Joined edge source target) :
    (leastFirst byTarget edges).bind (fun edge => edgeEnd edge "to") = edges.head?.bind (fun edge => edgeEnd edge "to") ↔
      FirstIsLeast edges := by
  cases edges with
  | nil => simp [leastFirst, FirstIsLeast]
  | cons first rest =>
    obtain ⟨least, found⟩ := Option.isSome_iff_exists.mp (@leastFirst_isSome (first :: rest) (by simp))
    obtain ⟨member, below⟩ := leastFirst_spec found
    obtain ⟨_, top, fits⟩ := joined first mem_cons_self
    obtain ⟨_, bottom, suits⟩ := joined least member
    have reads : edgeEnd first "to" = some top := by rw [edgeEnd, fits.ends]
    have ends : edgeEnd least "to" = some bottom := by rw [edgeEnd, suits.ends]
    simp only [found, Option.bind_some, head?_cons, reads, ends, Option.some.injEq, FirstIsLeast, Option.mem_def,
      forall_eq']
    constructor
    · intro same edge among
      have up := below edge among
      rwa [byTarget, suits.ends, same, ← fits.ends] at up
    · intro first_least
      have up := first_least least member
      have down := below first mem_cons_self
      simp only [byTarget, fits.ends, suits.ends, Json.pyStr, decide_eq_true_eq] at up down
      exact le_antisymm down up

theorem nextNode_contenders {current : String} {vars : Dict Json}
    (unrouted : (vars.get "_router_target").truthy = false) :
    (nextNode current edges vars).1 = (contenders edges current vars).head?.bind fun edge => edgeEnd edge "to" := by
  rw [nextNode_taken, unrouted, takenEdge_contenders unrouted]
  simp

theorem forLastCondition_blind (accepted : validateGraph graph.nodes graph.edges graph.entry = []) (vars : Dict Json) :
    Blind graph (forLastCondition vars) := by
  intro edge member
  obtain ⟨_, _, joined⟩ := joined_of_accepted accepted member
  have same := @Joined.stored_get _ _ _ joined "when" (by decide)
  rw [forLastCondition, forLastCondition, edgeOfBranch, edgeOfBranch, same]

theorem nextNode_least {current : String} {vars : Dict Json}
    (accepted : validateGraph graph.nodes graph.edges graph.entry = [])
    (unrouted : (vars.get "_router_target").truthy = false) :
    (nextNode current (interpretedEdges (canonicalizeWorkflowGraph graph)) vars).1 =
      (leastFirst byTarget (contenders graph.edges current vars)).bind fun edge => edgeEnd edge "to" := by
  have first := @canonical_preferred _ _ current accepted (forLastCondition_blind accepted vars)
  rw [interpretedEdges_canonical, nextNode_contenders unrouted, contenders, first, ← contenders]
  cases found : leastFirst byTarget (contenders graph.edges current vars) with
  | none => rfl
  | some least =>
    obtain ⟨_, _, joined⟩ := joined_of_accepted accepted (contenders_mem (leastFirst_spec found).1)
    have same := @Joined.stored_get _ _ _ joined "to" (by decide)
    have ends : edgeEnd (.obj (storedEdge least)) "to" = edgeEnd least "to" := by rw [edgeEnd, edgeEnd, same]
    exact ends

theorem nextNode_canonical {current : String} {vars : Dict Json}
    (accepted : validateGraph graph.nodes graph.edges graph.entry = []) :
    (nextNode current (interpretedEdges (canonicalizeWorkflowGraph graph)) vars).1 =
        (nextNode current (interpretedEdges graph) vars).1 ↔
      (vars.get "_router_target").truthy = true ∨ FirstIsLeast (contenders graph.edges current vars) := by
  cases routed : (vars.get "_router_target").truthy with
  | true => simp [nextNode_taken, routed]
  | false =>
    have joined : ∀ edge ∈ contenders graph.edges current vars, ∃ source target, Joined edge source target :=
      fun edge member => joined_of_accepted accepted (contenders_mem member)
    rw [nextNode_least accepted routed, interpretedEdges_accepted accepted, nextNode_contenders routed,
      firstIsLeast_iff joined]
    simp

end Accepted

section Routers

def matchedTarget (matched : Option Json) : String :=
  match matched with
  | some rule => ((rule.get "to").pyOr (rule.get "target")).strOrEmpty
  | none => ""

def ruling (node : Json) (vars : Dict Json) : Except PyError String := do
  let config ← nodeConfig node
  let rules ← (config.get "rules").toList
  let matched ← firstMatching (ruleMatches · vars) rules
  return matchedTarget matched

def decides (vars : Dict Json) (edge : Json) : Bool :=
  match edgeMatches edge vars with
  | .ok holds => holds
  | .error _ => true

def routerContenders (edges : List Json) (current : String) (vars : Dict Json) : List Json :=
  preferred (decides vars) (outgoing edges current)

def edgeTarget (vars : Dict Json) (edge : Json) : Option String :=
  match edgeMatches edge vars with
  | .ok _ => some (edge.get "to").strOrEmpty
  | .error _ => none

def selectedTarget (result : Except PyError NodeOutcome) : Option String :=
  result.toOption.map fun outcome => (Dict.get outcome.output "selected").strOrEmpty

theorem firstMatching_find? (test : Json → Except PyError Bool) (items : List Json) :
    firstMatching test items =
      match items.find? (fun item => match test item with | .ok holds => holds | .error _ => true) with
      | none => .ok none
      | some item => (test item).map fun _ => some item := by
  induction items with
  | nil => rfl
  | cons first rest ih =>
    rw [firstMatching]
    cases tested : test first with
    | error error => simp [tested, bind, Except.bind, Except.map]
    | ok holds =>
      cases holds with
      | true => simp [tested, bind, Except.bind, Except.map, pure, Except.pure]
      | false => simp [tested, bind, Except.bind, ih]

theorem selected_text (text : String) (detail : Dict Json) :
    (Dict.get (("selected", if text = "" then Json.null else .str text) :: detail) "selected").strOrEmpty = text := by
  by_cases none : text = "" <;>
    simp [Dict.get, Dict.get?_cons, none, Json.strOrEmpty, Json.truthy, Json.pyStr]

theorem routerSelection_edges {rules edges : List Json} {current : String} {vars : Dict Json} {matched : Option Json}
    (named : ∀ edge ∈ edges, (edge.get "to").strOrEmpty ≠ "")
    (read : firstMatching (ruleMatches · vars) rules = .ok matched) (unruled : matchedTarget matched = "") :
    (routerSelection rules edges current vars).toOption.map Prod.fst =
      match (routerContenders edges current vars).head? with
        | none => some ""
        | some edge => edgeTarget vars edge := by
  have among : ∀ edge ∈ outgoing edges current, (edge.get "to").strOrEmpty ≠ "" :=
    fun edge member => named edge (mem_filter.mp member).1
  rw [routerContenders, preferred_head?, routerSelection, read]
  simp only [bind, Except.bind]
  rw [if_neg]
  case hnc => exact not_not.mpr unruled
  have searched := firstMatching_find? (edgeMatches · vars) (outgoing edges current)
  have same : (outgoing edges current).find? (fun item => match edgeMatches item vars with
      | .ok holds => holds
      | .error _ => true) = (outgoing edges current).find? (decides vars) := rfl
  rw [same] at searched
  cases found : (outgoing edges current).find? (decides vars) with
  | none =>
    rw [found] at searched
    rw [searched]
    cases shape : outgoing edges current with
    | nil => rfl
    | cons first rest =>
      have fits : edgeMatches first vars = .ok false := by
        have never := find?_eq_none.mp found first (by rw [shape]; exact mem_cons_self)
        unfold decides at never
        cases tested : edgeMatches first vars with
        | error error => simp [tested] at never
        | ok holds => simpa [tested] using never
      simp [pure, Except.pure, Except.toOption, edgeTarget, fits]
  | some edge =>
    rw [found] at searched
    rw [searched]
    have member := mem_of_find?_eq_some found
    cases tested : edgeMatches edge vars with
    | error error => simp [Except.map, Except.toOption, edgeTarget, tested]
    | ok holds => simp [Except.map, Except.toOption, edgeTarget, tested, among edge member, pure, Except.pure]

variable {node : Json} {edges : List Json}

theorem selectedTarget_router {current : String} {vars : Dict Json}
    (named : ∀ edge ∈ edges, (edge.get "to").strOrEmpty ≠ "") :
    selectedTarget (executeRouterNode node current edges vars) =
      match ruling node vars with
      | .error _ => none
      | .ok ruled =>
        if ruled ≠ "" then some ruled
        else match (routerContenders edges current vars).head? with
          | none => some ""
          | some edge => edgeTarget vars edge := by
  unfold executeRouterNode ruling
  cases read : nodeConfig node with
  | error error => rfl
  | ok config =>
    simp only [bind, Except.bind]
    cases listed : (config.get "rules").toList with
    | error error => rfl
    | ok rules =>
      dsimp only
      apply Eq.trans (b := (routerSelection rules edges current vars).toOption.map Prod.fst)
      · cases routerSelection rules edges current vars with
        | error error => rfl
        | ok chosen => exact congrArg some (selected_text chosen.1 _)
      · cases tested : firstMatching (ruleMatches · vars) rules with
        | error error => simp [routerSelection, tested, bind, Except.bind, Except.toOption]
        | ok matched =>
          dsimp only [pure, Except.pure]
          by_cases unruled : matchedTarget matched = ""
          · rw [if_neg (not_not.mpr unruled)]
            exact routerSelection_edges named tested unruled
          · rw [if_pos unruled]
            simp only [routerSelection, tested, bind, Except.bind]
            rw [if_pos]
            · rfl
            · exact unruled

theorem ruling_stored (object : isObj node = true) (vars : Dict Json) :
    ruling (.obj (storedNode node)) vars = ruling node vars := by
  obtain ⟨members, rfl⟩ : ∃ members : Dict Json, node = .obj members := by
    cases node with
    | obj members => exact ⟨members, rfl⟩
    | null | bool _ | num _ | str _ | arr _ => cases object
  have stored : storedNode (.obj members) = sortedNode members := rfl
  have read (members : Dict Json) : Json.get (.obj members) "config" = members.get "config" := rfl
  unfold ruling nodeConfig
  rw [stored, read, read, sortedNode]
  cases given : Dict.get members "config" with
  | obj config =>
    have same : (Dict.sortByKey config).get "rules" = Dict.get config "rules" := by
      rw [Dict.get, Dict.get?_sortByKey]
      rfl
    simp only [Dict.get_set_self, Json.toDict, bind, Except.bind, same]
  | null | bool _ | num _ | str _ | arr _ => simp only [given]

variable {graph : Graph} {current : String} {vars : Dict Json}

theorem stored_matches {edge : Json} {source target : String} (joined : Joined edge source target) :
    edgeMatches (.obj (storedEdge edge)) vars = edgeMatches edge vars := by
  have same := @Joined.stored_get _ _ _ joined "when" (by decide)
  unfold edgeMatches
  rw [same]

theorem routerContenders_mem {edge : Json} (member : edge ∈ routerContenders edges current vars) :
    edge ∈ edges := by
  unfold routerContenders preferred outgoing at member
  split at member
  · exact (mem_filter.mp member).1
  · exact (mem_filter.mp (mem_filter.mp member).1).1

theorem Joined.target_named {edge : Json} {source target : String} (joined : Joined edge source target) :
    (edge.get "to").strOrEmpty ≠ "" := by
  rw [joined.ends]
  simp [Json.strOrEmpty, Json.truthy, joined.arrives, Json.pyStr]

theorem canonical_named (accepted : validateGraph graph.nodes graph.edges graph.entry = []) :
    ∀ edge ∈ (canonicalizeWorkflowGraph graph).edges, (edge.get "to").strOrEmpty ≠ "" := by
  intro edge member
  rw [canonical_edges accepted] at member
  obtain ⟨members, sorted, rfl⟩ := mem_map.mp member
  obtain ⟨original, there, rfl⟩ := mem_map.mp (mem_mergeSort.mp sorted)
  obtain ⟨_, _, joined⟩ := joined_of_accepted accepted there
  rw [@Joined.stored_get _ _ _ joined "to" (by decide)]
  exact joined.target_named

/-- The first contender and the first of those with the least target lead the same way, or both raise. -/
def FirstAgrees (vars : Dict Json) (edges : List Json) : Prop :=
  ∀ first ∈ edges.head?, ∀ least ∈ leastFirst byTarget edges, edgeTarget vars least = edgeTarget vars first

theorem router_canonical (accepted : validateGraph graph.nodes graph.edges graph.entry = [])
    (object : isObj node = true) :
    selectedTarget (executeRouterNode (.obj (storedNode node)) current
          (interpretedEdges (canonicalizeWorkflowGraph graph)) vars) =
        selectedTarget (executeRouterNode node current (interpretedEdges graph) vars) ↔
      ruling node vars ≠ .ok "" ∨ FirstAgrees vars (routerContenders graph.edges current vars) := by
  have named : ∀ edge ∈ graph.edges, (edge.get "to").strOrEmpty ≠ "" := by
    intro edge member
    obtain ⟨_, _, joined⟩ := joined_of_accepted accepted member
    exact joined.target_named
  have blind : Blind graph (decides vars) := by
    intro edge member
    obtain ⟨_, _, joined⟩ := joined_of_accepted accepted member
    rw [decides, decides, stored_matches joined]
  have first : (routerContenders (canonicalizeWorkflowGraph graph).edges current vars).head? =
      (leastFirst byTarget (routerContenders graph.edges current vars)).map fun edge => .obj (storedEdge edge) :=
    canonical_preferred accepted blind
  rw [interpretedEdges_accepted accepted, interpretedEdges_canonical, selectedTarget_router (canonical_named accepted),
    selectedTarget_router named, ruling_stored object, first]
  cases ruled : ruling node vars with
  | error error => simp
  | ok target =>
    by_cases unruled : target = ""
    · simp only [unruled, ne_eq, not_true_eq_false, if_false, false_or]
      unfold FirstAgrees
      cases shape : routerContenders graph.edges current vars with
      | nil => simp [leastFirst]
      | cons top rest =>
        obtain ⟨least, found⟩ := Option.isSome_iff_exists.mp (@leastFirst_isSome (top :: rest) (by simp))
        have member := (leastFirst_spec found).1
        rw [← shape] at member
        obtain ⟨_, _, joined⟩ := joined_of_accepted accepted (routerContenders_mem member)
        have goes : edgeTarget vars (.obj (storedEdge least)) = edgeTarget vars least := by
          rw [edgeTarget, edgeTarget, stored_matches joined, @Joined.stored_get _ _ _ joined "to" (by decide)]
        simp [found, goes]
    · simp [unruled]

end Routers

section Nodes

variable {node : Json} {id : String}

theorem nodeId?_stored (object : isObj node = true) : nodeId? (.obj (storedNode node)) = nodeId? node := by
  obtain ⟨members, rfl⟩ : ∃ members : Dict Json, node = .obj members := by
    cases node with
    | obj members => exact ⟨members, rfl⟩
    | null | bool _ | num _ | str _ | arr _ => cases object
  have stored : (storedNode (.obj members)).get "id" = Dict.get members "id" := by
    show (sortedNode members).get "id" = _
    unfold sortedNode
    split
    · exact Dict.get_set_of_ne _ _ (by decide)
    · rfl
  have read (members : Dict Json) : Json.get (.obj members) "id" = members.get "id" := rfl
  rw [nodeId?, nodeId?, read, read, stored]

variable {graph : Graph}

theorem nodeId?_some (named : nodeId? node = some id) :
    node.get "id" = .str id ∧ id ≠ "" := by
  unfold nodeId? at named
  split at named
  · split at named
    · cases named
    · simp_all
  · cases named

theorem object_of_accepted (accepted : validateGraph graph.nodes graph.edges graph.entry = [])
    (member : node ∈ graph.nodes) : isObj node = true :=
  validateNode_object ((validateGraph_nil accepted).2.1 node member)

theorem canonical_nodes_named (accepted : validateGraph graph.nodes graph.edges graph.entry = []) (id : String) :
    (canonicalizeWorkflowGraph graph).nodes.filter (fun node => decide (nodeId? node = some id)) =
      (graph.nodes.filter fun node => decide (nodeId? node = some id)).map fun node => .obj (storedNode node) := by
  let named := (fun node => decide (nodeId? node = some id)) ∘ Json.obj
  have tied : ∀ items : List (Dict Json), ∀ a ∈ items, ∀ b ∈ items, named a = true → named b = true →
      nodeBefore a b = true := by
    intro _ a _ b _ left right
    have left := (nodeId?_some (of_decide_eq_true left)).1
    have right := (nodeId?_some (of_decide_eq_true right)).1
    rw [nodeBefore, show a.get "id" = .str id from left, show b.get "id" = .str id from right]
    exact decide_eq_true (le_refl _)
  have read : ∀ nodes : List Json, (∀ node ∈ nodes, isObj node = true) →
      (((nodes.filterMap Json.asObj?).filter fun node => (node.get "id").truthy).map sortedNode).filter named =
        (nodes.filter fun node => decide (nodeId? node = some id)).map storedNode := by
    intro nodes
    induction nodes with
    | nil => exact fun _ => rfl
    | cons node rest ih =>
      intro each
      have object := each node mem_cons_self
      have tail := ih fun other member => each other (mem_cons_of_mem _ member)
      have members : node.asObj? = some (node.asObj?.getD []) := by
        cases node with
        | obj members => rfl
        | null | bool _ | num _ | str _ | arr _ => cases object
      have same : named (storedNode node) = decide (nodeId? node = some id) := by
        show decide (nodeId? (.obj (storedNode node)) = some id) = _
        rw [nodeId?_stored object]
      rw [filterMap_cons_some members, filter_cons, filter_cons]
      by_cases own : nodeId? node = some id
      · have given := nodeId?_some own
        have truthy : (Dict.get (node.asObj?.getD []) "id").truthy = true := by
          have text : Dict.get (node.asObj?.getD []) "id" = .str id := by
            rw [← given.1]
            cases node with
            | obj members => rfl
            | null | bool _ | num _ | str _ | arr _ => cases object
          simp [text, Json.truthy, given.2]
        rw [if_pos truthy, map_cons, filter_cons, show sortedNode (node.asObj?.getD []) = storedNode node from rfl,
          same, if_pos (decide_eq_true own), if_pos (decide_eq_true own), tail, map_cons]
      · rw [if_neg (show ¬ decide (nodeId? node = some id) = true from fun held => own (of_decide_eq_true held)), ← tail]
        split
        · rw [map_cons, filter_cons, show sortedNode (node.asObj?.getD []) = storedNode node from rfl, same,
            if_neg fun held => own (of_decide_eq_true held)]
        · rfl
  unfold canonicalizeWorkflowGraph
  rw [filter_map, nodeBefore_preordered.filter_mergeSort (tied _),
    read graph.nodes fun node member => object_of_accepted accepted member, map_map]
  rfl

theorem canonical_node (accepted : validateGraph graph.nodes graph.edges graph.entry = []) (id : String) :
    (nodesById (canonicalizeWorkflowGraph graph).nodes).get? id =
      ((nodesById graph.nodes).get? id).map fun node => .obj (storedNode node) := by
  rw [nodesById_last, nodesById_last, canonical_nodes_named accepted, getLast?_map]

theorem nodesById_object (accepted : validateGraph graph.nodes graph.edges graph.entry = [])
    (found : (nodesById graph.nodes).get? id = some node) : isObj node = true := by
  rw [nodesById_last] at found
  have member := mem_of_getLast? found
  exact object_of_accepted accepted (mem_filter.mp member).1

end Nodes

def trigger (id : String) : Json := .obj [("id", .str id), ("type", .str "trigger")]

/-- The runtime goes to `b` first, the canonical graph to `a`. -/
def forked : Graph :=
  ⟨[trigger "start", trigger "a", trigger "b"], [edgeTo "start" "b" .null, edgeTo "start" "a" .null], some "start"⟩

def ordered : Graph :=
  ⟨[trigger "start", trigger "a", trigger "b"], [edgeTo "start" "a" .null, edgeTo "start" "b" .null], some "start"⟩

end Troop.Packages
