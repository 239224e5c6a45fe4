import Troop.Python.JsonText
import Troop.Versions.Content

namespace Troop.Versions

open Packages (sortedNode sortedEdge nodeBefore edgeBefore nodeBefore_preordered edgeBefore_preordered)
open List
open Json (arr obj sortKeys sortKeys_str str)

def graphPayload (graph : DraftGraph) : Json :=
  .obj [("nodes", .arr graph.nodes), ("edges", .arr graph.edges), ("entry_node_id", graph.entry)]

def workflowGraphHash (sha256 : String → String) (graph : DraftGraph) : String :=
  sha256 (Json.dumpsCompact (graphPayload graph))

section Hash

variable {sha256 : String → String} {g h : DraftGraph}

theorem payload_eq_iff (a b : DraftGraph) :
    (graphPayload a).sortKeys = (graphPayload b).sortKeys ↔ a.nodes.map Json.sortKeys = b.nodes.map Json.sortKeys ∧
      a.edges.map Json.sortKeys = b.edges.map Json.sortKeys ∧ a.entry.sortKeys = b.entry.sortKeys := by
  rw [← sortItems_eq_map, ← sortItems_eq_map, ← sortItems_eq_map, ← sortItems_eq_map]
  constructor
  · intro same
    have members := obj.inj same
    have read (key : String) := congrArg (fun d => Dict.get? d key) members
    have nodes := read "nodes"
    have edges := read "edges"
    have entry := read "entry_node_id"
    refine ⟨arr.inj (Option.some.inj nodes), ?_, ?_⟩
    · have kept : some (arr a.edges).sortKeys = some (arr b.edges).sortKeys := edges
      exact arr.inj (Option.some.inj kept)
    · have kept : some a.entry.sortKeys = some b.entry.sortKeys := entry
      exact Option.some.inj kept
  · rintro ⟨nodes, edges, entry⟩
    unfold graphPayload
    simp only [sortKeys, Json.sortMembers, nodes, edges, entry]

theorem sortKeys_objects (items : List (Dict Json)) :
    (items.map Json.obj).map Json.sortKeys = (items.map content).map .obj := by
  rw [← sortItems_eq_map, sortItems_objects]

theorem objects_eq_iff {left right : List (Dict Json)} : left.map Json.obj = right.map Json.obj ↔ left = right :=
  (map_injective_iff.mpr fun _ _ => obj.inj).eq_iff

theorem canonicalEntry_sorted (nodes : List (Dict Json)) (entry : Json) :
    (canonicalEntry nodes entry).sortKeys = canonicalEntry nodes entry := by
  unfold canonicalEntry
  dsimp only
  split
  · exact sortKeys_str _
  · split
    · exact sortKeys_str _
    · rw [sortKeys]

theorem hash_eq_iff (injective : Function.Injective sha256) :
    workflowGraphHash sha256 (canonicalizeWorkflowGraph g) = workflowGraphHash sha256 (canonicalizeWorkflowGraph h) ↔
      (canonicalNodes g.nodes).map content = (canonicalNodes h.nodes).map content ∧
      (canonicalEdges g.edges).map content = (canonicalEdges h.edges).map content ∧
      (canonicalizeWorkflowGraph g).entry = (canonicalizeWorkflowGraph h).entry := by
  unfold workflowGraphHash
  rw [injective.eq_iff, Json.dumpsCompact_eq_iff, payload_eq_iff]
  simp only [canonicalize_nodes, canonicalize_edges, canonicalize_entry, sortKeys_objects, objects_eq_iff,
    canonicalEntry_sorted]

end Hash

section Same

variable {sha256 : String → String} {g h : DraftGraph}

/-- The same graph up to order: of the nodes with an id, of the edges by where they go, and of keys. -/
structure SameGraph (g h : DraftGraph) : Prop where
  nodes : ((keptNodes g.nodes).map content).Perm ((keptNodes h.nodes).map content)
  edges : ((keptEdges g.edges).map edgeContent).Perm ((keptEdges h.edges).map edgeContent)
  entry : (canonicalizeWorkflowGraph g).entry = (canonicalizeWorkflowGraph h).entry

/-- Nodes with ids of one text are the same, and so are edges with the same ends. -/
structure Untied (g : DraftGraph) : Prop where
  nodes : ∀ a ∈ keptNodes g.nodes, ∀ b ∈ keptNodes g.nodes, idText a = idText b → content a = content b
  edges : ∀ a ∈ keptEdges g.edges, ∀ b ∈ keptEdges g.edges, endTexts a = endTexts b → edgeContent a = edgeContent b

/-- The same lists in another order, with the keys of their dicts in another order. -/
structure Reordered (g h : DraftGraph) : Prop where
  nodes : (g.nodes.map Json.sortKeys).Perm (h.nodes.map Json.sortKeys)
  edges : (g.edges.map Json.sortKeys).Perm (h.edges.map Json.sortKeys)
  entry : g.entry = h.entry

theorem canonicalNodes_content (nodes : List Json) :
    ((canonicalNodes nodes).map content).Perm ((keptNodes nodes).map content) := by
  have sorted := (mergeSort_perm ((keptNodes nodes).map sortedNode) nodeBefore).map content
  rw [map_map] at sorted
  have contents : (keptNodes nodes).map (content ∘ sortedNode) = (keptNodes nodes).map content :=
    map_congr_left fun node _ => content_sortedNode node
  rwa [contents] at sorted

theorem canonicalEdges_content (edges : List Json) :
    ((canonicalEdges edges).map content).Perm ((keptEdges edges).map fun edge => rebuilt (edgeContent edge)) := by
  have sorted := (mergeSort_perm ((keptEdges edges).map sortedEdge) edgeBefore).map content
  rw [map_map] at sorted
  have contents : (keptEdges edges).map (content ∘ sortedEdge) =
      (keptEdges edges).map fun edge => rebuilt (edgeContent edge) :=
    map_congr_left fun edge _ => content_sortedEdge edge
  rwa [contents] at sorted

theorem same_of_hash (injective : Function.Injective sha256)
    (same : workflowGraphHash sha256 (canonicalizeWorkflowGraph g) =
      workflowGraphHash sha256 (canonicalizeWorkflowGraph h)) : SameGraph g h := by
  obtain ⟨nodes, edges, entry⟩ := (hash_eq_iff injective).mp same
  constructor
  · have kept := (canonicalNodes_content g.nodes).symm
    rw [nodes] at kept
    exact kept.trans (canonicalNodes_content h.nodes)
  · have kept := (canonicalEdges_content g.edges).symm
    rw [edges] at kept
    have views := (kept.trans (canonicalEdges_content h.edges)).map viewOf
    rw [map_map, map_map] at views
    have read (items : List (Dict Json)) :
        items.map (viewOf ∘ fun edge => rebuilt (edgeContent edge)) = items.map edgeContent :=
      map_congr_left fun edge _ => viewOf_rebuilt edge
    rwa [read, read] at views
  · exact entry

theorem sortKeys_hashable {value : Json} (hashed : hashable value = true) : value.sortKeys = value := by
  cases value with
  | arr items => cases hashed
  | obj members => cases hashed
  | _ => rw [sortKeys]

theorem idText_content {node : Dict Json} (hashed : hashable (node.get "id") = true) : idText (content node) = idText node := by
  unfold idText
  rw [get_content, sortKeys_hashable hashed]

theorem canonicalNodes_sorted (hashed : ∀ node ∈ keptNodes g.nodes, hashable (node.get "id") = true) :
    (canonicalNodes g.nodes).map content = ((keptNodes g.nodes).map content).mergeSort nodeBefore := by
  have keyed : ∀ a ∈ (keptNodes g.nodes).map sortedNode, ∀ b ∈ (keptNodes g.nodes).map sortedNode,
      nodeBefore a b = nodeBefore (content a) (content b) := by
    have text : ∀ a ∈ (keptNodes g.nodes).map sortedNode, (content a).get "id" = a.get "id" := by
      intro a member
      obtain ⟨node, kept, rfl⟩ := mem_map.mp member
      rw [get_content, sortedNode_get node (by decide), sortKeys_hashable (hashed node kept)]
    intro a first b second
    unfold nodeBefore
    rw [text a first, text b second]
  have contents : ((keptNodes g.nodes).map sortedNode).map content = (keptNodes g.nodes).map content := by
    rw [map_map]
    exact map_congr_left fun node _ => content_sortedNode node
  rw [canonicalNodes, map_mergeSort keyed, contents]

theorem canonicalEdges_sorted (edges : List Json) : (canonicalEdges edges).map content =
    ((keptEdges edges).map fun edge => rebuilt (edgeContent edge)).mergeSort edgeBefore := by
  have keyed : ∀ a ∈ (keptEdges edges).map sortedEdge, ∀ b ∈ (keptEdges edges).map sortedEdge,
      edgeBefore a b = edgeBefore (content a) (content b) := by
    have text : ∀ a ∈ (keptEdges edges).map sortedEdge,
        (content a).get "from" = a.get "from" ∧ (content a).get "to" = a.get "to" := by
      intro a member
      obtain ⟨edge, _, rfl⟩ := mem_map.mp member
      rw [get_content, get_content, sortedEdge_from, sortedEdge_to, sortKeys_str, sortKeys_str]
      exact ⟨rfl, rfl⟩
    intro a first b second
    unfold edgeBefore
    rw [(text a first).1, (text a first).2, (text b second).1, (text b second).2]
  have contents : ((keptEdges edges).map sortedEdge).map content =
      (keptEdges edges).map fun edge => rebuilt (edgeContent edge) := by
    rw [map_map]
    exact map_congr_left fun edge _ => content_sortedEdge edge
  rw [canonicalEdges, map_mergeSort keyed, contents]

theorem rebuilt_before {a b : Dict Json} (below : edgeBefore (rebuilt (edgeContent a)) (rebuilt (edgeContent b)) = true) :
    (endTexts a).1 < (endTexts b).1 ∨ (endTexts a).1 = (endTexts b).1 ∧ (endTexts a).2 ≤ (endTexts b).2 := by
  have read := of_decide_eq_true below
  rwa [rebuilt_from, rebuilt_from, rebuilt_to, rebuilt_to] at read

theorem hash_of_same (injective : Function.Injective sha256) (accepted : validateGraph g = .ok [])
    (accepted' : validateGraph h = .ok []) (untied : Untied g) (same : SameGraph g h) :
    workflowGraphHash sha256 (canonicalizeWorkflowGraph g) =
      workflowGraphHash sha256 (canonicalizeWorkflowGraph h) := by
  obtain ⟨ids, named⟩ := validateGraph_nil_iff.mp accepted
  obtain ⟨ids', named'⟩ := validateGraph_nil_iff.mp accepted'
  have hashed := (nodeIds_eq_iff.mp named.named).2
  have hashed' := (nodeIds_eq_iff.mp named'.named).2
  apply (hash_eq_iff injective).mpr
  refine ⟨?_, ?_, same.entry⟩
  · rw [canonicalNodes_sorted hashed, canonicalNodes_sorted hashed']
    apply nodeBefore_preordered.mergeSort_eq_of_perm same.nodes
    intro a first b second below above
    obtain ⟨node, kept, rfl⟩ := mem_map.mp first
    obtain ⟨other, kept', rfl⟩ := mem_map.mp second
    have texts : idText (content node) = idText (content other) :=
      le_antisymm (of_decide_eq_true below) (of_decide_eq_true above)
    rw [idText_content (hashed node kept), idText_content (hashed other kept')] at texts
    exact untied.nodes node kept other kept' texts
  · rw [canonicalEdges_sorted, canonicalEdges_sorted]
    have perm := same.edges.map rebuilt
    rw [map_map, map_map] at perm
    apply edgeBefore_preordered.mergeSort_eq_of_perm perm
    intro a first b second below above
    obtain ⟨edge, kept, rfl⟩ := mem_map.mp first
    obtain ⟨other, kept', rfl⟩ := mem_map.mp second
    have ends : endTexts edge = endTexts other := pair_antisymm (rebuilt_before below) (rebuilt_before above)
    exact congrArg rebuilt (untied.edges edge kept other kept' ends)

end Same

section Reordering

variable {g h : DraftGraph} {ids : List Json}

theorem Accepted.edgeContent_eq (accepted : Accepted g ids) {edge : Dict Json} (kept : edge ∈ keptEdges g.edges) :
    edgeContent edge = (endTexts (content edge), otherFields (content edge)) := by
  obtain ⟨members, same, starts, ends⟩ := accepted.edges _ (mem_objects.mp (mem_filter.mp kept).1)
  obtain rfl := obj.inj same
  have text {key other : String} (known : isIn ids (edge.get key) = .ok true) :
      (((content edge).get key).pyOr ((content edge).get other)).strOrEmpty =
        ((edge.get key).pyOr (edge.get other)).strOrEmpty := by
    rw [get_content, sortKeys_hashable (isIn_iff.mp known).1, accepted.end_text known, accepted.end_text known]
  unfold edgeContent
  rw [otherFields_content]
  unfold endTexts
  rw [text starts, text ends]

theorem Accepted.edges_contents (accepted : Accepted g ids) : (keptEdges g.edges).map edgeContent =
    ((keptEdges g.edges).map content).map fun edge => (endTexts edge, otherFields edge) := by
  rw [map_map]
  exact map_congr_left fun edge kept => accepted.edgeContent_eq kept

theorem first_text_le (hashed : ∀ node ∈ keptNodes g.nodes, hashable (node.get "id") = true)
    (hashed' : ∀ node ∈ keptNodes h.nodes, hashable (node.get "id") = true)
    (same : ((keptNodes g.nodes).map content).Perm ((keptNodes h.nodes).map content)) {first other : Dict Json}
    (head : (canonicalNodes g.nodes).head? = some first) (head' : (canonicalNodes h.nodes).head? = some other) :
    idText first ≤ idText other := by
  obtain ⟨node, kept, rfl⟩ := mem_canonicalNodes.mp (mem_of_head? head')
  obtain ⟨source, among, alike⟩ := mem_map.mp (same.mem_iff.mpr (mem_map_of_mem kept))
  have text : idText source = idText node := by
    rw [← idText_content (hashed source among), alike, idText_content (hashed' node kept)]
  rw [idText_sortedNode, ← text]
  exact head_least head source among

theorem Reordered.same (reordered : Reordered g h) (accepted : validateGraph g = .ok [])
    (accepted' : validateGraph h = .ok []) : SameGraph g h := by
  obtain ⟨ids, named⟩ := validateGraph_nil_iff.mp accepted
  obtain ⟨ids', named'⟩ := validateGraph_nil_iff.mp accepted'
  have hashed := (nodeIds_eq_iff.mp named.named).2
  have hashed' := (nodeIds_eq_iff.mp named'.named).2
  have nodes : ((keptNodes g.nodes).map content).Perm ((keptNodes h.nodes).map content) := by
    rw [keptNodes_contents, keptNodes_contents]
    exact (reordered.nodes.filterMap _).filter _
  have edges : ((keptEdges g.edges).map content).Perm ((keptEdges h.edges).map content) := by
    rw [keptEdges_contents, keptEdges_contents]
    exact (reordered.edges.filterMap _).filter _
  constructor
  · exact nodes
  · rw [named.edges_contents, named'.edges_contents]
    exact edges.map _
  · rw [canonicalize_entry, canonicalize_entry, reordered.entry]
    unfold canonicalEntry
    dsimp only
    split
    · rfl
    have length := nodes.length_eq
    have long : (canonicalNodes g.nodes).length = (canonicalNodes h.nodes).length := by
      have left := (canonicalNodes_content g.nodes).length_eq
      have right := (canonicalNodes_content h.nodes).length_eq
      simp_all
    cases head : (canonicalNodes g.nodes).head? with
    | none => grind [head?_eq_none_iff, length_eq_zero_iff]
    | some first =>
      cases head' : (canonicalNodes h.nodes).head? with
      | none => simp_all
      | some other =>
        have below := first_text_le hashed hashed' nodes head head'
        have above := first_text_le hashed' hashed nodes.symm head' head
        exact congrArg str (le_antisymm below above)

/-- The hash tells accepted graphs apart that differ in more than order, and where nothing is tied it
    does not see their order. -/
theorem graph_hash_identifies {sha256 : String → String} (injective : Function.Injective sha256)
    (accepted : validateGraph g = .ok []) (accepted' : validateGraph h = .ok []) :
    (workflowGraphHash sha256 (canonicalizeWorkflowGraph g) = workflowGraphHash sha256 (canonicalizeWorkflowGraph h) →
      SameGraph g h) ∧
    (Untied g → SameGraph g h → workflowGraphHash sha256 (canonicalizeWorkflowGraph g) =
      workflowGraphHash sha256 (canonicalizeWorkflowGraph h)) ∧
    (Untied g → Reordered g h → workflowGraphHash sha256 (canonicalizeWorkflowGraph g) =
      workflowGraphHash sha256 (canonicalizeWorkflowGraph h)) :=
  ⟨same_of_hash injective, hash_of_same injective accepted accepted',
    fun untied reordered => hash_of_same injective accepted accepted' untied (reordered.same accepted accepted')⟩

/-- `mailGraph` with its nodes the other way round. -/
def turnedMailGraph : DraftGraph := { mailGraph with nodes := mailGraph.nodes.reverse }

theorem turnedMailGraph_hash : workflowGraphHash id (canonicalizeWorkflowGraph mailGraph) =
    workflowGraphHash id (canonicalizeWorkflowGraph turnedMailGraph) := by
  have accepted : validateGraph mailGraph = .ok [] := by decide
  have accepted' : validateGraph turnedMailGraph = .ok [] := by decide
  apply (graph_hash_identifies Function.injective_id accepted accepted').2.2
  · constructor <;> decide
  · constructor
    · decide
    · decide
    · rfl

def guarded (condition : String) : Json :=
  .obj [("from", .str "start"), ("to", .str "send"), ("condition", .str condition)]

def forkedGraph (first second : String) : DraftGraph := { mailGraph with edges := [guarded first, guarded second] }

def labelledGraph (label : String) : DraftGraph :=
  { mailGraph with nodes := mailGraph.nodes ++ [.obj [("type", .str "tool"), ("label", .str label)]] }

theorem tied_and_nameless :
    (validateGraph (forkedGraph "yes" "no") = .ok [] ∧ validateGraph (forkedGraph "no" "yes") = .ok [] ∧
      Reordered (forkedGraph "yes" "no") (forkedGraph "no" "yes") ∧
      workflowGraphHash id (canonicalizeWorkflowGraph (forkedGraph "yes" "no")) ≠
        workflowGraphHash id (canonicalizeWorkflowGraph (forkedGraph "no" "yes"))) ∧
    validateGraph (labelledGraph "draft") = .ok [] ∧ validateGraph (labelledGraph "final") = .ok [] ∧
      ¬ Reordered (labelledGraph "draft") (labelledGraph "final") ∧
      workflowGraphHash id (canonicalizeWorkflowGraph (labelledGraph "draft")) =
        workflowGraphHash id (canonicalizeWorkflowGraph (labelledGraph "final")) := by
  refine ⟨⟨by decide, by decide, ⟨by decide, by decide, rfl⟩, ?_⟩, by decide,
    by decide, ?_, ?_⟩
  · intro same
    have edges := ((hash_eq_iff Function.injective_id).mp same).2.1
    have one : canonicalEdges (forkedGraph "yes" "no").edges = (keptEdges (forkedGraph "yes" "no").edges).map sortedEdge :=
      mergeSort_of_pairwise (by decide)
    have two : canonicalEdges (forkedGraph "no" "yes").edges = (keptEdges (forkedGraph "no" "yes").edges).map sortedEdge :=
      mergeSort_of_pairwise (by decide)
    rw [one, two] at edges
    revert edges
    decide
  · intro reordered
    exact absurd reordered.nodes (by decide)
  · apply (hash_eq_iff Function.injective_id).mpr
    exact ⟨rfl, rfl, rfl⟩

end Reordering

end Troop.Versions
