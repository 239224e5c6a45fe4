import Troop.Versions.Graph

namespace Troop.Versions

open Packages (sortedNode sortedEdge nodeBefore edgeBefore nodeBefore_preordered edgeBefore_preordered)
open List
open Json (asObj? get numeric? obj pyEq pyOr str)

section Ids

theorem nodeIds_eq_iff {nodes ids : List Json} :
    nodeIds nodes = .ok ids ↔ ids = (keptNodes nodes).map (fun node => node.get "id") ∧
      ∀ node ∈ keptNodes nodes, hashable (node.get "id") = true := by
  induction nodes generalizing ids with
  | nil =>
    constructor
    · intro read
      obtain rfl := Except.ok.inj read
      exact ⟨rfl, fun _ member => nomatch member⟩
    · rintro ⟨rfl, _⟩
      rfl
  | cons node rest ih =>
    cases node with
    | obj node =>
      by_cases given : (Dict.get node "id").truthy = true
      · have kept : keptNodes (.obj node :: rest) = node :: keptNodes rest := by
          have objects : (obj node :: rest).filterMap asObj? = node :: rest.filterMap asObj? := rfl
          simp [keptNodes, objects, filter_cons, if_pos given]
        rw [kept, nodeIds, if_pos given]
        by_cases hashed : hashable (Dict.get node "id") = true
        · rw [if_neg (not_not_intro hashed)]
          constructor
          · intro read
            obtain ⟨others, read, made⟩ := except_bind_ok read
            obtain ⟨rfl, each⟩ := ih.mp read
            obtain rfl := Except.ok.inj made
            exact ⟨rfl, forall_mem_cons.mpr ⟨hashed, each⟩⟩
          · rintro ⟨rfl, each⟩
            simp [ih.mpr ⟨rfl, (forall_mem_cons.mp each).2⟩]
        · rw [if_pos hashed]
          constructor
          · nofun
          · simp_all
      · have kept : keptNodes (.obj node :: rest) = keptNodes rest := by
          have objects : (obj node :: rest).filterMap asObj? = node :: rest.filterMap asObj? := rfl
          simp [keptNodes, objects, filter_cons, if_neg given]
        rw [kept, nodeIds, if_neg given]
        exact ih
    | _ => exact ih

variable {value : Json} {text : String}

theorem pyEq_str_iff : value.pyEq (.str text) = true ↔ value = .str text := by
  cases value <;> simp [pyEq, numeric?]

theorem str_pyEq_iff : (Json.str text).pyEq value = true ↔ value = .str text := by
  cases value <;> simp [pyEq, numeric?, eq_comm]

theorem pyEq_numeric {value other : Json} (same : value.pyEq other = true) (hashed : hashable other = true) :
    value = other ∨ ∃ number, value.numeric? = some number ∧ other.numeric? = some number := by
  cases other with
  | str text => exact .inl (pyEq_str_iff.mp same)
  | null => cases value <;> simp_all [pyEq, numeric?]
  | bool flag => cases value <;> simp_all [pyEq, numeric?]
  | num number => cases value <;> simp_all [pyEq, numeric?]
  | _ => cases hashed

theorem truthy_numeric {number : Int} (numeric : value.numeric? = some number) :
    value.truthy = decide (number ≠ 0) := by
  cases value with
  | bool flag =>
    obtain rfl := Option.some.inj numeric
    cases flag <;> rfl
  | num own =>
    obtain rfl := Option.some.inj numeric
    rfl
  | _ => cases numeric

theorem pyEq_truthy {value other : Json} (hashed : hashable other = true) (same : value.pyEq other = true)
    (given : value.truthy = true) : other.truthy = true := by
  rcases pyEq_numeric same hashed with rfl | ⟨number, left, right⟩
  · exact given
  · rwa [truthy_numeric right, ← truthy_numeric left]

theorem mem_objects {items : List Json} {members : Dict Json} :
    members ∈ items.filterMap Json.asObj? ↔ .obj members ∈ items := by
  rw [mem_filterMap]
  constructor
  · rintro ⟨item, among, object⟩
    cases item with
    | obj own =>
      obtain rfl := Option.some.inj object
      exact among
    | _ => cases object
  · intro among
    exact ⟨_, among, rfl⟩

variable {graph : DraftGraph} {ids : List Json}

theorem isIn_str_iff : isIn ids (.str text) = .ok true ↔ .str text ∈ ids := by
  rw [isIn_iff]
  constructor
  · rintro ⟨_, member, among, same⟩
    exact pyEq_str_iff.mp same ▸ among
  · intro among
    exact ⟨rfl, _, among, pyEq_str_iff.mpr rfl⟩

theorem isIn_perm {others : List Json} (same : ∀ id, id ∈ ids ↔ id ∈ others) :
    isIn ids value = .ok true ↔ isIn others value = .ok true := by
  rw [isIn_iff, isIn_iff]
  simp only [same]

theorem Accepted.eq (accepted : Accepted graph ids) : ids = (keptNodes graph.nodes).map fun node => node.get "id" :=
  (nodeIds_eq_iff.mp accepted.named).1

theorem Accepted.truthy (accepted : Accepted graph ids) : ∀ id ∈ ids, id.truthy = true := by
  intro id member
  rw [accepted.eq] at member
  obtain ⟨node, kept, rfl⟩ := mem_map.mp member
  exact (mem_filter.mp kept).2

def canonicalIds (graph : DraftGraph) : List Json := (canonicalNodes graph.nodes).map fun node => node.get "id"

theorem Accepted.canonical_named (accepted : Accepted graph ids) :
    nodeIds (canonicalizeWorkflowGraph graph).nodes = .ok (canonicalIds graph) := by
  have hashed := (nodeIds_eq_iff.mp accepted.named).2
  apply nodeIds_eq_iff.mpr
  rw [canonicalize_nodes, keptNodes_again]
  refine ⟨rfl, ?_⟩
  intro node member
  obtain ⟨kept, among, rfl⟩ := mem_canonicalNodes.mp member
  rw [sortedNode_get kept (by decide)]
  exact hashed kept among

theorem Accepted.mem_canonicalIds (accepted : Accepted graph ids) (id : Json) : id ∈ canonicalIds graph ↔ id ∈ ids := by
  rw [accepted.eq, canonicalIds, mem_map, mem_map]
  constructor
  · rintro ⟨node, member, rfl⟩
    obtain ⟨kept, among, rfl⟩ := mem_canonicalNodes.mp member
    exact ⟨kept, among, (sortedNode_get kept (by decide)).symm⟩
  · rintro ⟨kept, among, rfl⟩
    exact ⟨sortedNode kept, mem_canonicalNodes.mpr ⟨kept, among, rfl⟩, sortedNode_get kept (by decide)⟩

end Ids

section Closed

variable {graph : DraftGraph} {ids : List Json}

/-- The canonical graph stands for the graph: it is its own canonical graph, it is accepted, and it has
    the same entry and the same ids. -/
structure Closed (graph : DraftGraph) : Prop where
  again : canonicalizeWorkflowGraph (canonicalizeWorkflowGraph graph) = canonicalizeWorkflowGraph graph
  accepted : validateGraph (canonicalizeWorkflowGraph graph) = .ok []
  entry : (canonicalizeWorkflowGraph graph).entry.pyEq graph.entry = true
  ids : ∃ ids others, nodeIds graph.nodes = .ok ids ∧ nodeIds (canonicalizeWorkflowGraph graph).nodes = .ok others ∧
    ∀ id, id ∈ others ↔ id ∈ ids

/-- The ends of the edges and the entry are spelled as the ids they become: each end reads as a text that
    is an id, and the entry is a text without blanks around it, or a blank one that is the least id. -/
structure Spelled (graph : DraftGraph) : Prop where
  ends : ∀ edge ∈ graph.edges, ∀ key ∈ ["from", "to"],
    ∃ node ∈ keptNodes graph.nodes, node.get "id" = .str (edge.get key).pyStr
  entry : ∃ text, graph.entry = .str text ∧ (Text.strip text = text ∨
    Text.strip text = "" ∧ ∀ node ∈ keptNodes graph.nodes, text ≤ idText node)

theorem Accepted.known_truthy (accepted : Accepted graph ids) {value : Json} (known : isIn ids value = .ok true) :
    value.truthy = true := by
  obtain ⟨hashed, member, among, same⟩ := isIn_iff.mp known
  exact pyEq_truthy hashed same (accepted.truthy member among)

theorem Accepted.end_text (accepted : Accepted graph ids) {value other : Json} (known : isIn ids value = .ok true) :
    (value.pyOr other).strOrEmpty = value.pyStr := by
  have given := accepted.known_truthy known
  rw [pyOr, if_pos given, Json.strOrEmpty, if_pos given]

theorem Accepted.canonical_ends (accepted : Accepted graph ids) :
    (∀ edge ∈ (canonicalizeWorkflowGraph graph).edges, validateEdge (canonicalIds graph) edge = .ok []) ↔
      ∀ edge ∈ graph.edges, ∀ key ∈ ["from", "to"],
        ∃ node ∈ keptNodes graph.nodes, node.get "id" = .str (edge.get key).pyStr := by
  have found (text : String) : isIn (canonicalIds graph) (.str text) = .ok true ↔
      ∃ node ∈ keptNodes graph.nodes, node.get "id" = .str text := by
    rw [isIn_str_iff, accepted.mem_canonicalIds, accepted.eq, mem_map]
  have each (members : Dict Json) (known : isIn ids (Dict.get members "from") = .ok true ∧
      isIn ids (Dict.get members "to") = .ok true) :
      validateEdge (canonicalIds graph) (.obj (sortedEdge members)) = .ok [] ↔ ∀ key ∈ ["from", "to"],
        ∃ node ∈ keptNodes graph.nodes, node.get "id" = .str (get (.obj members) key).pyStr := by
    rw [validateEdge_nil_iff]
    simp only [obj.injEq, exists_eq_left', mem_cons, not_mem_nil, or_false, forall_eq_or_imp, forall_eq]
    rw [sortedEdge_from, sortedEdge_to, accepted.end_text known.1, accepted.end_text known.2, found, found]
    rfl
  constructor
  · intro valid edge member
    obtain ⟨members, rfl, known⟩ := accepted.edges edge member
    apply (each members known).mp
    apply valid
    apply mem_map_of_mem
    have given : ((Dict.get members "from").pyOr (Dict.get members "source")).truthy = true := by
      have present := accepted.known_truthy known.1
      rwa [pyOr, if_pos present]
    exact mem_canonicalEdges.mpr ⟨members, mem_filter.mpr ⟨mem_objects.mpr member, given⟩, rfl⟩
  · intro spelled edge member
    obtain ⟨sorted, among, rfl⟩ := mem_map.mp member
    obtain ⟨kept, within, rfl⟩ := mem_canonicalEdges.mp among
    have raw : obj kept ∈ graph.edges := mem_objects.mp (mem_filter.mp within).1
    obtain ⟨members, same, known⟩ := accepted.edges _ raw
    obtain rfl := obj.inj same
    exact (each kept known).mpr (spelled _ raw)

theorem idText_sortedNode (node : Dict Json) : idText (sortedNode node) = idText node := by
  unfold idText
  rw [sortedNode_get node (by decide)]

theorem head_least {node : Dict Json} (first : (canonicalNodes graph.nodes).head? = some node) :
    ∀ other ∈ keptNodes graph.nodes, idText node ≤ idText other := by
  intro other member
  have sorted : (canonicalNodes graph.nodes).Pairwise fun a b => nodeBefore a b = true :=
    pairwise_mergeSort nodeBefore_preordered.trans nodeBefore_preordered.total _
  have among : sortedNode other ∈ canonicalNodes graph.nodes := mem_canonicalNodes.mpr ⟨other, member, rfl⟩
  rw [← idText_sortedNode other]
  cases shape : canonicalNodes graph.nodes with
  | nil => simp [shape] at first
  | cons head rest =>
    rw [shape] at first sorted among
    obtain rfl := Option.some.inj first
    rcases mem_cons.mp among with same | later
    · rw [same]
    · exact of_decide_eq_true (rel_of_pairwise_cons sorted later)

theorem Accepted.entry_id (accepted : Accepted graph ids) {text : String} (entry : graph.entry = .str text) :
    ∃ node ∈ keptNodes graph.nodes, node.get "id" = .str text := by
  have known := accepted.entry.2
  rw [entry, isIn_str_iff, accepted.eq] at known
  exact mem_map.mp known

theorem Accepted.entry_same_iff (accepted : Accepted graph ids) :
    (canonicalizeWorkflowGraph graph).entry = graph.entry ↔ ∃ text, graph.entry = .str text ∧
      (Text.strip text = text ∨ Text.strip text = "" ∧ ∀ node ∈ keptNodes graph.nodes, text ≤ idText node) := by
  have given := accepted.entry.1
  rw [canonicalize_entry]
  unfold canonicalEntry
  dsimp only
  constructor
  · intro same
    split at same
    · rw [← same, Json.strOrEmpty_str] at *
      exact ⟨_, rfl, .inl (Text.strip_strip _)⟩
    · rename_i blank
      split at same
      · rename_i first
        refine ⟨_, same.symm, .inr ⟨?_, head_least first⟩⟩
        rw [← same, Json.strOrEmpty_str] at blank
        exact not_not.mp blank
      · simp [← same] at given
  · rintro ⟨text, entry, spelled⟩
    have named : text ≠ "" := by
      rintro rfl
      rw [entry] at given
      cases given
    rw [entry, Json.strOrEmpty_str]
    rcases spelled with stripped | ⟨blank, least⟩
    · rw [stripped, if_pos named]
    rw [if_neg (not_not_intro blank)]
    obtain ⟨node, kept, id⟩ := accepted.entry_id entry
    cases first : (canonicalNodes graph.nodes).head? with
    | none =>
      have among : sortedNode node ∈ canonicalNodes graph.nodes := mem_canonicalNodes.mpr ⟨node, kept, rfl⟩
      simp [head?_eq_none_iff.mp first] at among
    | some head =>
      obtain ⟨source, within, rfl⟩ := mem_canonicalNodes.mp (mem_of_head? first)
      have low := head_least first node kept
      have high := least source within
      rw [idText_sortedNode] at low
      have text_ : idText node = text := by
        unfold idText
        rw [id]
        rfl
      rw [text_] at low
      dsimp only
      rw [idText_sortedNode, le_antisymm low high]

theorem Closed.spelled (accepted : validateGraph graph = .ok []) (closed : Closed graph) : Spelled graph := by
  obtain ⟨ids, accepted⟩ := validateGraph_nil_iff.mp accepted
  obtain ⟨others, again⟩ := validateGraph_nil_iff.mp closed.accepted
  have named := Except.ok.inj (again.named.symm.trans accepted.canonical_named)
  subst named
  constructor
  · apply accepted.canonical_ends.mp
    intro edge member
    exact validateEdge_nil_iff.mpr (again.edges edge member)
  · apply accepted.entry_same_iff.mp
    have same := closed.entry
    have written : (∃ text, (canonicalizeWorkflowGraph graph).entry = .str text) ∨
        (canonicalizeWorkflowGraph graph).entry = .null := by
      rw [canonicalize_entry]
      unfold canonicalEntry
      dsimp only
      split
      · exact .inl ⟨_, rfl⟩
      · split
        · exact .inl ⟨_, rfl⟩
        · exact .inr rfl
    rcases written with ⟨text, entry⟩ | entry
    · rw [entry] at same ⊢
      exact (str_pyEq_iff.mp same).symm
    · have given := again.entry.1
      simp [entry] at given

theorem validateNode_sorted (node : Dict Json) : validateNode (.obj (sortedNode node)) = validateNode (.obj node) := by
  unfold validateNode
  dsimp only
  rw [sortedNode_get node (by decide)]

theorem Spelled.closed (accepted : validateGraph graph = .ok []) (spelled : Spelled graph) : Closed graph := by
  obtain ⟨ids, accepted⟩ := validateGraph_nil_iff.mp accepted
  have entry := accepted.entry_same_iff.mpr spelled.entry
  obtain ⟨text, written, _⟩ := spelled.entry
  constructor
  case again =>
    have nodes := canonicalNodes_again graph.nodes
    apply DraftGraph.ext
    · rw [canonicalize_nodes, canonicalize_nodes, nodes]
    · rw [canonicalize_edges, canonicalize_edges, canonicalEdges_again]
    · rw [canonicalize_entry, canonicalize_nodes, nodes, entry, ← canonicalize_entry, entry]
  case accepted =>
    apply validateGraph_nil_iff.mpr ⟨canonicalIds graph, _⟩
    constructor
    case named => exact accepted.canonical_named
    case filled =>
      obtain ⟨node, kept, _⟩ := accepted.entry_id written
      have among : sortedNode node ∈ canonicalNodes graph.nodes := mem_canonicalNodes.mpr ⟨node, kept, rfl⟩
      intro empty
      simp [map_eq_nil_iff.mp empty] at among
    case entry =>
      rw [entry]
      exact ⟨accepted.entry.1, (isIn_perm accepted.mem_canonicalIds).mpr accepted.entry.2⟩
    case nodes =>
      intro node member
      obtain ⟨sorted, among, rfl⟩ := mem_map.mp member
      obtain ⟨kept, within, rfl⟩ := mem_canonicalNodes.mp among
      rw [validateNode_sorted]
      exact accepted.nodes _ (mem_objects.mp (mem_filter.mp within).1)
    case edges =>
      intro edge member
      exact validateEdge_nil_iff.mp (accepted.canonical_ends.mpr spelled.ends edge member)
  case entry =>
    rw [entry, written]
    exact pyEq_str_iff.mpr rfl
  case ids => exact ⟨ids, canonicalIds graph, accepted.named, accepted.canonical_named, accepted.mem_canonicalIds⟩

def step (id : Json) (type : String) : Json := .obj [("id", id), ("type", .str type)]

def joining (source target : Json) : Json := .obj [("from", source), ("to", target)]

def mailGraph : DraftGraph :=
  { nodes := [step (.str "start") "trigger", step (.str "send") "tool"]
    edges := [joining (.str "start") (.str "send")]
    entry := .str "start" }

def numberedGraph : DraftGraph :=
  { nodes := [step (.str "start") "trigger", step (.num 7) "tool"]
    edges := [joining (.str "start") (.num 7)]
    entry := .str "start" }

def spacedGraph : DraftGraph := { nodes := [step (.str " start ") "trigger"], edges := [], entry := .str " start " }

end Closed

end Troop.Versions
