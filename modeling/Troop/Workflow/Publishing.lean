import Troop.Graphs.Search
import Troop.Workflow.Nodes

namespace Troop.Workflow

open List

structure Graph where
  nodes : List Json
  edges : List Json
  entry : Option String
deriving DecidableEq

def WorkflowVersion.graph (version : WorkflowVersion) : Graph :=
  ⟨version.nodesJson, version.edgesJson, version.entryNodeId⟩

def Graph.ids (graph : Graph) : List String := graph.nodes.filterMap nodeId?

def gmailTriggerTypes : List String := ["gmail_new_message", "gmail.new_message"]

def outlookTriggerTypes : List String := ["outlook_new_message", "outlook.new_message"]

/-- `str(value or "").strip()` is empty. -/
def blank (value : Json) : Bool := Text.strip value.strOrEmpty = ""

/-- The ends of an edge as `_reachable_node_ids` reads them, `source` and `target` included. -/
def adjacent (graph : Graph) (id : String) : List String :=
  (graph.edges.filter isObj).filterMap fun edge =>
    let source := ((edge.get "from").pyOr (edge.get "source")).strOrEmpty
    let target := ((edge.get "to").pyOr (edge.get "target")).strOrEmpty
    if source = id ∧ source ∈ graph.ids ∧ target ∈ graph.ids then some target else none

def reachableNodeIds (graph : Graph) : List String :=
  let fuel := 2 + Graphs.pending (adjacent graph) graph.ids []
  match graph.entry with
  | some entry =>
    if entry ∈ graph.ids then graph.ids.filter fun id => Graphs.search (adjacent graph) id fuel [entry] [] else []
  | none => []

structure ExternalWrite where
  nodeId : String
  toolSlug : String
deriving DecidableEq, Repr

structure PublishReport where
  valid : Bool
  errors : List String
  warnings : List String
  infos : List String
  externalWriteNodes : List ExternalWrite
deriving DecidableEq, Repr

def triggerErrors (name nodeId : String) (types : List String) (config : Dict Json) : List String :=
  if Text.strip (config.get "trigger_type").strOrEmpty ∈ types ∧ blank (config.get "connector_installation_id") then
    [name ++ " trigger node `" ++ nodeId ++ "` requires connector_installation_id"]
  else []

def subworkflowReference (config : Dict Json) : Json := (config.get "workflow_id").pyOr (config.get "subworkflow_id")

def publishErrors (node : Json) (config : Dict Json) : List String :=
  let nodeId := (node.get "id").strOrEmpty
  match nodeType node with
  | some .tool =>
    if Text.strip (configuredTool config) = "" then
      ["tool node `" ++ nodeId ++ "` missing config.tool or config.tool_slug"]
    else []
  | some .trigger =>
    triggerErrors "Gmail" nodeId gmailTriggerTypes config ++ triggerErrors "Outlook" nodeId outlookTriggerTypes config
  | some .agent => if blank (config.get "agent_id") then ["agent node `" ++ nodeId ++ "` missing config.agent_id"] else []
  | some .subworkflow =>
    if blank (subworkflowReference config) then ["subworkflow node `" ++ nodeId ++ "` missing config.workflow_id"] else []
  | _ => []

def externalWrite (external : String → Bool) (node : Json) (config : Dict Json) : List ExternalWrite :=
  let slug := Text.strip (configuredTool config)
  if nodeType node = some .tool ∧ slug ≠ "" ∧ external slug then [⟨(node.get "id").strOrEmpty, slug⟩] else []

/-- The node loop of `validate_for_publish`: it raises where a config is no object. -/
def readConfigs : List Json → Except PyError (List (Json × Dict Json))
  | [] => .ok []
  | node :: rest =>
    if isObj node then do
      let config ← nodeConfig node
      let others ← readConfigs rest
      return (node, config) :: others
    else readConfigs rest

def unreachableWarning (graph : Graph) : List String :=
  let unreachable := (graph.ids.dedup.filter fun id => id ∉ reachableNodeIds graph).mergeSort
  if unreachable.isEmpty then [] else ["unreachable nodes from entry: " ++ ", ".intercalate unreachable]

def validateForPublish (external : String → Bool) (graph : Graph) : Except PyError PublishReport := do
  let read ← readConfigs graph.nodes
  let errors := validateGraph graph.nodes graph.edges graph.entry ++
    read.flatMap fun entry => publishErrors entry.1 entry.2
  let writes := read.flatMap fun entry => externalWrite external entry.1 entry.2
  return {
    valid := errors.isEmpty
    errors := errors
    warnings := unreachableWarning graph
    infos := if writes.isEmpty then []
      else [toString writes.length ++ " node(s) invoke external-mutating tools"]
    externalWriteNodes := writes }

def Publishable (external : String → Bool) (graph : Graph) : Prop :=
  ∃ report, validateForPublish external graph = .ok report ∧ report.valid = true

variable {graph : Graph} {node : Json}

theorem readConfigs_mem {nodes : List Json} {read : List (Json × Dict Json)} (ran : readConfigs nodes = .ok read) (member : node ∈ nodes) (object : isObj node = true) :
    ∃ config, nodeConfig node = .ok config ∧ (node, config) ∈ read := by
  induction nodes generalizing read with
  | nil => cases member
  | cons first rest ih =>
    unfold readConfigs at ran
    split at ran
    · obtain ⟨config, configured, ran⟩ := except_bind_ok ran
      obtain ⟨others, later, ran⟩ := except_bind_ok ran
      have same : (first, config) :: others = read := Except.ok.inj ran
      subst same
      rcases mem_cons.mp member with rfl | member
      · exact ⟨config, configured, mem_cons_self⟩
      · grind
    · rename_i noObject
      rcases mem_cons.mp member with rfl | member
      · exact absurd object noObject
      · exact ih ran member

structure Validated (graph : Graph) : Prop where
  shape : validateGraph graph.nodes graph.edges graph.entry = []
  nodes : ∀ node ∈ graph.nodes, ∃ config, nodeConfig node = .ok config ∧ publishErrors node config = []

theorem validateNode_object (valid : validateNode node = []) : isObj node = true := by
  by_contra noObject
  simp [validateNode, noObject] at valid

theorem validateGraph_nil (valid : validateGraph graph.nodes graph.edges graph.entry = []) :
    (∃ entry, graph.entry = some entry ∧ entry ∈ graph.ids) ∧
      (∀ node ∈ graph.nodes, validateNode node = []) ∧ ∀ edge ∈ graph.edges, validateEdge graph.ids edge = [] := by
  unfold validateGraph at valid
  simp only [append_eq_nil_iff, flatMap_eq_nil_iff] at valid
  obtain ⟨⟨⟨_, entered⟩, nodes⟩, edges⟩ := valid
  refine ⟨?_, nodes, edges⟩
  cases given : graph.entry with
  | none => simp [given] at entered
  | some entry =>
    simp only [given] at entered
    refine ⟨entry, rfl, ?_⟩
    by_contra missing
    split at entered
    · cases entered
    · rw [if_pos (show entry ∉ graph.nodes.filterMap nodeId? from missing)] at entered
      cases entered

theorem ids_named {id : String} (member : id ∈ graph.ids) : id ≠ "" := by
  obtain ⟨node, _, given⟩ := mem_filterMap.mp member
  unfold nodeId? at given
  split at given
  · split at given
    · cases given
    · simp_all
  · cases given

theorem validateEdge_nil {ids : List String} {edge : Json} (valid : validateEdge ids edge = []) :
    isObj edge = true ∧
      ∃ source ∈ ids, ∃ target ∈ ids, edgeEnd edge "from" = some source ∧ edgeEnd edge "to" = some target := by
  unfold validateEdge at valid
  split at valid
  · cases valid
  rename_i object
  dsimp only at valid
  split at valid
  · cases valid
  rename_i known
  simp only [Bool.or_eq_true, Bool.not_eq_true', not_or, Bool.not_eq_false] at known
  obtain ⟨source, starts, there⟩ := (Option.any_eq_true _ _).mp known.1
  obtain ⟨target, ends, here⟩ := (Option.any_eq_true _ _).mp known.2
  exact ⟨by simpa using object, source, of_decide_eq_true there, target, of_decide_eq_true here, starts, ends⟩

theorem Publishable.validated {external : String → Bool} (publishable : Publishable external graph) :
    Validated graph := by
  obtain ⟨report, ran, valid⟩ := publishable
  obtain ⟨read, readable, ran⟩ := except_bind_ok ran
  have same := Except.ok.inj ran
  subst same
  have none := isEmpty_iff.mp valid
  obtain ⟨structural, each⟩ := append_eq_nil_iff.mp none
  refine ⟨structural, fun node member => ?_⟩
  have object := validateNode_object ((validateGraph_nil structural).2.1 node member)
  obtain ⟨config, configured, inside⟩ := readConfigs_mem readable member object
  exact ⟨config, configured, flatMap_eq_nil_iff.mp each _ inside⟩

end Troop.Workflow
