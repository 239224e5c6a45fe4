import Troop.Packages.Canonicalized
import Troop.Approvals.Readings

namespace Troop.Versions

open Packages (sortedNode sortedEdge nodeBefore edgeBefore nodeBefore_preordered edgeBefore_preordered)
open Workflow (NodeType)
open List

@[ext] structure DraftGraph where
  nodes : List Json
  edges : List Json
  entry : Json
deriving DecidableEq

def hashable : Json → Bool
  | .arr _ | .obj _ => false
  | _ => true

/-- `value in members`, of a set -/
def isIn (members : List Json) (value : Json) : Except PyError Bool :=
  if hashable value then .ok (members.any fun member => member.pyEq value)
  else .error (.typeError "unhashable type")

/-- `{n.get("id") for n in nodes if isinstance(n, dict) and n.get("id")}` -/
def nodeIds : List Json → Except PyError (List Json)
  | [] => .ok []
  | .obj node :: rest => do
    if (Dict.get node "id").truthy then
      if ¬ hashable (Dict.get node "id") then .error (.typeError "unhashable type")
      else
        let others ← nodeIds rest
        return Dict.get node "id" :: others
    else nodeIds rest
  | _ :: rest => nodeIds rest

def validateEntry (ids : List Json) (entry : Json) : Except PyError (List String) := do
  if ¬ entry.truthy then return ["entry_node_id is required"]
  else if ← isIn ids entry then return []
  else return ["entry node `" ++ entry.pyStr ++ "` missing from nodes"]

def validateNode : Json → Except PyError (List String)
  | .obj node =>
    match Dict.get node "type" with
    | .str text => .ok (if (NodeType.ofText text).isSome then [] else ["unsupported node type: " ++ text])
    | other =>
      if hashable other then .ok ["unsupported node type: " ++ other.pyStr]
      else .error (.typeError "unhashable type")
  | _ => .ok ["node must be object"]

def validateEdge (ids : List Json) (edge : Json) : Except PyError (List String) := do
  match edge with
  | .obj members =>
    let unknown := ["edge references unknown nodes: " ++ edge.pyStr]
    if ¬ (← isIn ids (Dict.get members "from")) then return unknown
    else if ¬ (← isIn ids (Dict.get members "to")) then return unknown
    else return []
  | _ => return ["edge must be object"]

def gather (check : Json → Except PyError (List String)) : List Json → Except PyError (List String)
  | [] => .ok []
  | item :: rest => do
    let found ← check item
    let others ← gather check rest
    return found ++ others

def validateGraph (graph : DraftGraph) : Except PyError (List String) := do
  let ids ← nodeIds graph.nodes
  let missing := if graph.nodes.isEmpty then ["nodes is required"] else []
  let entry ← validateEntry ids graph.entry
  let nodes ← gather validateNode graph.nodes
  let edges ← gather (validateEdge ids) graph.edges
  return missing ++ entry ++ nodes ++ edges

def keptNodes (nodes : List Json) : List (Dict Json) :=
  (nodes.filterMap Json.asObj?).filter fun node => (node.get "id").truthy

def keptEdges (edges : List Json) : List (Dict Json) :=
  (edges.filterMap Json.asObj?).filter fun edge => ((edge.get "from").pyOr (edge.get "source")).truthy

def canonicalNodes (nodes : List Json) : List (Dict Json) := ((keptNodes nodes).map sortedNode).mergeSort nodeBefore

def canonicalEdges (edges : List Json) : List (Dict Json) := ((keptEdges edges).map sortedEdge).mergeSort edgeBefore

def idText (node : Dict Json) : String := (node.get "id").pyStr

def canonicalEntry (nodes : List (Dict Json)) (entry : Json) : Json :=
  let text := Text.strip entry.strOrEmpty
  if text ≠ "" then .str text
  else match nodes.head? with
    | some node => .str (idText node)
    | none => .null

def canonicalizeWorkflowGraph (graph : DraftGraph) : DraftGraph :=
  let nodes := canonicalNodes graph.nodes
  { nodes := nodes.map .obj
    edges := (canonicalEdges graph.edges).map .obj
    entry := canonicalEntry nodes graph.entry }

variable (graph : DraftGraph)

theorem canonicalize_nodes :
    (canonicalizeWorkflowGraph graph).nodes = (canonicalNodes graph.nodes).map .obj := rfl

theorem canonicalize_edges :
    (canonicalizeWorkflowGraph graph).edges = (canonicalEdges graph.edges).map .obj := rfl

theorem canonicalize_entry :
    (canonicalizeWorkflowGraph graph).entry = canonicalEntry (canonicalNodes graph.nodes) graph.entry := rfl

section Accepted

theorem gather_nil_iff {check : Json → Except PyError (List String)} {items : List Json} :
    gather check items = .ok [] ↔ ∀ item ∈ items, check item = .ok [] := by
  induction items with
  | nil => simp [gather]
  | cons item rest ih =>
    constructor
    · intro passed
      obtain ⟨found, checked, passed⟩ := except_bind_ok passed
      obtain ⟨others, gathered, passed⟩ := except_bind_ok passed
      obtain ⟨rfl, rfl⟩ := append_eq_nil_iff.mp (Except.ok.inj passed)
      exact forall_mem_cons.mpr ⟨checked, ih.mp gathered⟩
    · intro each
      obtain ⟨first, others⟩ := forall_mem_cons.mp each
      unfold gather
      rw [first, ih.mpr others]
      rfl

theorem isIn_iff {members : List Json} {value : Json} :
    isIn members value = .ok true ↔ hashable value = true ∧ ∃ member ∈ members, member.pyEq value = true := by
  unfold isIn
  by_cases hashed : hashable value = true <;> simp [hashed]

theorem validateEntry_nil_iff {ids : List Json} {entry : Json} :
    validateEntry ids entry = .ok [] ↔ entry.truthy = true ∧ isIn ids entry = .ok true := by
  unfold validateEntry
  by_cases given : entry.truthy = true
  · rw [if_neg (not_not_intro given)]
    cases found : isIn ids entry with
    | error error => simp [bind, Except.bind]
    | ok known => cases known <;> simp [bind, Except.bind, pure, Except.pure, given]
  · simp [given, pure, Except.pure]

theorem validateEdge_nil_iff {ids : List Json} {edge : Json} :
    validateEdge ids edge = .ok [] ↔ ∃ members : Dict Json, edge = .obj members ∧ isIn ids (members.get "from") = .ok true ∧
      isIn ids (members.get "to") = .ok true := by
  cases edge with
  | obj members =>
    unfold validateEdge
    cases starts : isIn ids (Dict.get members "from") with
    | error error => simp [bind, Except.bind, starts]
    | ok known =>
      cases ends : isIn ids (Dict.get members "to") with
      | error error => cases known <;> simp [bind, Except.bind, starts, ends, pure, Except.pure]
      | ok other => cases known <;> cases other <;> simp [bind, Except.bind, starts, ends, pure, Except.pure]
  | _ => simp [validateEdge, pure, Except.pure]

/-- What `validate_graph` finds no error in. -/
structure Accepted (graph : DraftGraph) (ids : List Json) : Prop where
  named : nodeIds graph.nodes = .ok ids
  filled : graph.nodes ≠ []
  entry : graph.entry.truthy = true ∧ isIn ids graph.entry = .ok true
  nodes : ∀ node ∈ graph.nodes, validateNode node = .ok []
  edges : ∀ edge ∈ graph.edges, ∃ members : Dict Json, edge = .obj members ∧ isIn ids (members.get "from") = .ok true ∧
    isIn ids (members.get "to") = .ok true

theorem validateGraph_nil_iff {graph : DraftGraph} : validateGraph graph = .ok [] ↔ ∃ ids, Accepted graph ids := by
  constructor
  · intro passed
    obtain ⟨ids, read, passed⟩ := except_bind_ok passed
    obtain ⟨entry, entered, passed⟩ := except_bind_ok passed
    obtain ⟨nodes, checked, passed⟩ := except_bind_ok passed
    obtain ⟨edges, joined, passed⟩ := except_bind_ok passed
    obtain ⟨three, rfl⟩ := append_eq_nil_iff.mp (Except.ok.inj passed)
    obtain ⟨two, rfl⟩ := append_eq_nil_iff.mp three
    obtain ⟨missing, rfl⟩ := append_eq_nil_iff.mp two
    refine ⟨ids, read, ?_, validateEntry_nil_iff.mp entered, gather_nil_iff.mp checked, fun edge member =>
      validateEdge_nil_iff.mp (gather_nil_iff.mp joined edge member)⟩
    simp_all
  · rintro ⟨ids, accepted⟩
    have edges : gather (validateEdge ids) graph.edges = .ok [] :=
      gather_nil_iff.mpr fun edge member => validateEdge_nil_iff.mpr (accepted.edges edge member)
    have missing : ¬ graph.nodes.isEmpty = true := by simpa using accepted.filled
    unfold validateGraph
    rw [accepted.named]
    simp only [bind, Except.bind]
    rw [validateEntry_nil_iff.mpr accepted.entry]
    rw [gather_nil_iff.mpr accepted.nodes]
    rw [edges, if_neg missing]
    rfl

end Accepted

section Again

theorem set_set (d : Dict Json) (key : String) (value other : Json) :
    (d.set key value).set key other = d.set key other := by
  induction d with
  | nil => simp [Dict.set]
  | cons entry rest ih =>
    obtain ⟨k, v⟩ := entry
    by_cases same : k = key
    · simp [Dict.set, same]
    · simp [Dict.set, same, ih]

theorem sortedNode_get (node : Dict Json) {key : String} (other : key ≠ "config") :
    (sortedNode node).get key = node.get key := by
  unfold sortedNode
  split
  · exact Dict.get_set_of_ne _ _ (Ne.symm other)
  · rfl

theorem sortedNode_again (node : Dict Json) : sortedNode (sortedNode node) = sortedNode node := by
  cases config : node.get "config" with
  | obj members =>
    have once : sortedNode node = node.set "config" (.obj (Dict.sortByKey members)) := by
      unfold sortedNode
      rw [config]
    have again : (node.set "config" (.obj (Dict.sortByKey members))).get "config" = .obj (Dict.sortByKey members) := by
      rw [Dict.get_set, if_pos rfl]
    rw [once]
    unfold sortedNode
    rw [again]
    dsimp only
    rw [set_set, (Dict.sortByKey_sorted members).sortByKey]
  | _ =>
    have kept : sortedNode node = node := by
      unfold sortedNode
      rw [config]
    rw [kept, kept]

variable (edge : Dict Json)

theorem sortedEdge_from :
    (sortedEdge edge).get "from" = .str ((edge.get "from").pyOr (edge.get "source")).strOrEmpty := rfl

theorem sortedEdge_to :
    (sortedEdge edge).get "to" = .str ((edge.get "to").pyOr (edge.get "target")).strOrEmpty := rfl

theorem sortedEdge_other :
    (sortedEdge edge).filter (fun entry => decide (entry.1 ∉ ["from", "to", "source", "target"])) =
      Dict.sortByKey (edge.filter fun entry => entry.1 ∉ ["from", "to", "source", "target"]) := by
  have kept : ∀ entry ∈ Dict.sortByKey (edge.filter fun entry => entry.1 ∉ ["from", "to", "source", "target"]),
      decide (entry.1 ∉ ["from", "to", "source", "target"]) = true := by
    intro entry member
    exact (mem_filter.mp (Dict.mem_sortByKey member)).2
  unfold sortedEdge
  rw [filter_append, filter_eq_self.mpr kept]
  rfl

theorem sortedEdge_alias {key : String} (named : key = "source" ∨ key = "target") :
    (sortedEdge edge).get key = .null := by
  unfold sortedEdge Dict.get
  rw [Dict.get?_append, Dict.get?_sortByKey,
    Dict.get?_filter_key _ _ fun key => decide (key ∉ ["from", "to", "source", "target"])]
  rcases named with rfl | rfl <;> rfl

theorem sortedEdge_again : sortedEdge (sortedEdge edge) = sortedEdge edge := by
  have starts := Json.strOrEmpty_or_null ((edge.get "from").pyOr (edge.get "source")).strOrEmpty
  have ends := Json.strOrEmpty_or_null ((edge.get "to").pyOr (edge.get "target")).strOrEmpty
  rw [sortedEdge, sortedEdge_from, sortedEdge_to, sortedEdge_alias edge (.inl rfl), sortedEdge_alias edge (.inr rfl),
    sortedEdge_other, (Dict.sortByKey_sorted _).sortByKey, starts, ends]
  rfl

theorem filterMap_asObj? (items : List (Dict Json)) : (items.map Json.obj).filterMap Json.asObj? = items := by
  rw [filterMap_map]
  exact filterMap_some

theorem mem_canonicalNodes {nodes : List Json} {node : Dict Json} :
    node ∈ canonicalNodes nodes ↔ ∃ kept ∈ keptNodes nodes, sortedNode kept = node := by
  unfold canonicalNodes
  rw [mem_mergeSort, mem_map]

theorem mem_canonicalEdges {edges : List Json} {edge : Dict Json} :
    edge ∈ canonicalEdges edges ↔ ∃ kept ∈ keptEdges edges, sortedEdge kept = edge := by
  unfold canonicalEdges
  rw [mem_mergeSort, mem_map]

theorem keptNodes_again (nodes : List Json) : keptNodes ((canonicalNodes nodes).map .obj) = canonicalNodes nodes := by
  unfold keptNodes
  rw [filterMap_asObj?]
  apply filter_eq_self.mpr
  intro node member
  obtain ⟨kept, among, rfl⟩ := mem_canonicalNodes.mp member
  rw [sortedNode_get kept (by decide)]
  exact (mem_filter.mp among).2

theorem keptEdges_again (edges : List Json) : keptEdges ((canonicalEdges edges).map .obj) = canonicalEdges edges := by
  unfold keptEdges
  rw [filterMap_asObj?]
  apply filter_eq_self.mpr
  intro edge member
  obtain ⟨kept, among, rfl⟩ := mem_canonicalEdges.mp member
  have given := (mem_filter.mp among).2
  have text : ((kept.get "from").pyOr (kept.get "source")).strOrEmpty ≠ "" := by
    unfold Json.strOrEmpty
    rw [if_pos given]
    exact pyStr_ne_empty given
  rw [sortedEdge_from]
  generalize ((kept.get "from").pyOr (kept.get "source")).strOrEmpty = start at text
  have present : (Json.str start).truthy = true := by simp [Json.truthy, text]
  rwa [Json.pyOr, if_pos present]

theorem canonicalNodes_again (nodes : List Json) :
    canonicalNodes ((canonicalNodes nodes).map .obj) = canonicalNodes nodes := by
  have sorted : (canonicalNodes nodes).map sortedNode = canonicalNodes nodes := by
    conv_rhs => rw [← map_id (canonicalNodes nodes)]
    apply map_congr_left
    intro node member
    obtain ⟨kept, _, rfl⟩ := mem_canonicalNodes.mp member
    exact sortedNode_again kept
  rw [canonicalNodes, keptNodes_again, sorted]
  exact mergeSort_of_pairwise (pairwise_mergeSort nodeBefore_preordered.trans nodeBefore_preordered.total _)

theorem canonicalEdges_again (edges : List Json) :
    canonicalEdges ((canonicalEdges edges).map .obj) = canonicalEdges edges := by
  have sorted : (canonicalEdges edges).map sortedEdge = canonicalEdges edges := by
    conv_rhs => rw [← map_id (canonicalEdges edges)]
    apply map_congr_left
    intro edge member
    obtain ⟨kept, _, rfl⟩ := mem_canonicalEdges.mp member
    exact sortedEdge_again kept
  rw [canonicalEdges, keptEdges_again, sorted]
  exact mergeSort_of_pairwise (pairwise_mergeSort edgeBefore_preordered.trans edgeBefore_preordered.total _)

end Again

end Troop.Versions
