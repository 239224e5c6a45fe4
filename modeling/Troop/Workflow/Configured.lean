import Troop.Workflow.Publishing
import Troop.Workflow.Routing

namespace Troop.Workflow

open List

/-- `str(rule.get("to") or rule.get("target") or "")` -/
def ruleTarget (rule : Json) : String := ((rule.get "to").pyOr (rule.get "target")).strOrEmpty

/-- `_SIMPLE_PARALLEL_TYPES` and `_ASYNC_PARALLEL_TYPES` -/
def parallelTypes : List NodeType := [.tool, .skill, .condition, .trigger, .agent, .subworkflow, .delay]

def Branchable (graph : Graph) (id : String) : Prop :=
  id ∈ graph.ids ∧ ∀ node ∈ graph.nodes, nodeId? node = some id → ∃ type ∈ parallelTypes, nodeType node = some type

def ConfiguredNode (graph : Graph) (type : Option NodeType) (config : Dict Json) : Prop :=
  (onReject config = "route_to" → rejectRoute config ∈ graph.ids) ∧
    match type with
    | some .router => ∀ rules, (config.get "rules").toList = .ok rules →
        ∀ rule ∈ rules, ruleTarget rule = "" ∨ ruleTarget rule ∈ graph.ids
    | some .parallel => (∀ children, (config.get "children").toList = .ok children →
        ∀ child ∈ children, Branchable graph child.pyStr) ∧ ∃ plan, parseParallelJoinConfig config = .ok plan
    | some .subworkflow => (config.get "workflow_id").truthy = true
    | some .skill => (config.get "skill_version_id").truthy = true ∨ (config.get "skill_id").truthy = true
    | some .delay => ∃ seconds, delaySeconds config = .ok seconds
    | _ => True

def Configured (graph : Graph) : Prop :=
  ∀ node ∈ graph.nodes, ∀ config, nodeConfig node = .ok config → ConfiguredNode graph (nodeType node) config

def Referenced (type : Option NodeType) (config : Dict Json) : Prop :=
  match type with
  | some .tool => configuredTool config ≠ ""
  | some .agent => (config.get "agent_id").truthy = true
  | _ => True

theorem strOrEmpty_of_not_truthy {value : Json} (falsy : ¬ value.truthy = true) : value.strOrEmpty = "" := by
  simp [Json.strOrEmpty, falsy]

theorem referenced_of_published {node : Json} {config : Dict Json} (passed : publishErrors node config = []) :
    Referenced (nodeType node) config := by
  unfold publishErrors at passed
  cases type : nodeType node with
  | none => trivial
  | some kind =>
    rw [type] at passed
    cases kind with
    | tool =>
      intro empty
      rw [empty] at passed
      cases passed
    | agent =>
      by_contra falsy
      rw [blank, strOrEmpty_of_not_truthy falsy] at passed
      cases passed
    | _ => trivial

structure Ready (graph : Graph) (node : Json) : Prop where
  read : ∃ config, nodeConfig node = .ok config
  configured : ∀ config, nodeConfig node = .ok config → ConfiguredNode graph (nodeType node) config
  referenced : ∀ config, nodeConfig node = .ok config → Referenced (nodeType node) config

theorem Validated.ready {graph : Graph} (validated : Validated graph) (configured : Configured graph) {node : Json}
    (member : node ∈ graph.nodes) : Ready graph node := by
  obtain ⟨config, read, passed⟩ := validated.nodes node member
  refine ⟨⟨config, read⟩, configured node member, fun other again => ?_⟩
  cases read.symm.trans again
  exact referenced_of_published passed

section Overlay

variable {graph : Graph} {config other : Dict Json}

def AgreeUnbound (config other : Dict Json) : Prop := ∀ key, key ∉ bindingKeys → config.get key = other.get key

theorem overlayConfig_agrees (overlay : Json) (config : Dict Json) : AgreeUnbound (overlayConfig overlay config) config := by
  intro key unbound
  simp only [bindingKeys, mem_cons, not_mem_nil, or_false, not_or] at unbound
  unfold overlayConfig
  cases overlay with
  | obj bindings =>
    simp only [bindingKeys, foldl_cons, foldl_nil]
    split <;> split <;> simp [Dict.get_set_of_ne _ _ (Ne.symm unbound.1), Dict.get_set_of_ne _ _ (Ne.symm unbound.2)]
  | str text =>
    dsimp only
    split
    · rfl
    · exact Dict.get_set_of_ne _ _ (Ne.symm unbound.1)
  | _ => rfl

variable {nodes resolved : List Json} {type : Option NodeType} {node : Json}

theorem ConfiguredNode.bound (configured : ConfiguredNode graph type config)
    (agree : AgreeUnbound other config) : ConfiguredNode graph type other := by
  have on : onReject other = onReject config := by simp only [onReject, agree "on_reject" (by decide)]
  have route : rejectRoute other = rejectRoute config := by
    simp only [rejectRoute, agree "reject_route" (by decide), agree "route_to" (by decide)]
  have rules := agree "rules" (by decide)
  have children := agree "children" (by decide)
  have workflow := agree "workflow_id" (by decide)
  have skillVersion := agree "skill_version_id" (by decide)
  have skill := agree "skill_id" (by decide)
  have join : parseParallelJoinConfig other = parseParallelJoinConfig config := by
    simp only [parseParallelJoinConfig, agree "join_policy" (by decide), agree "policy" (by decide),
      agree "n" (by decide), agree "min_success" (by decide)]
  have delay : delaySeconds other = delaySeconds config := by
    simp only [delaySeconds, agree "seconds" (by decide), agree "delay_seconds" (by decide)]
  simp only [ConfiguredNode, on, route, rules, children, workflow, skillVersion, skill, join, delay]
  exact configured

theorem Referenced.bound (referenced : Referenced type config)
    (agree : AgreeUnbound other config) : Referenced type other := by
  have tool : configuredTool other = configuredTool config := by
    simp only [configuredTool, agree "tool" (by decide), agree "tool_slug" (by decide)]
  simp only [Referenced, tool, agree "agent_id" (by decide)]
  exact referenced

structure BoundNode (node original : Json) : Prop where
  id : nodeId? node = nodeId? original
  type : nodeType node = nodeType original
  config : ∀ config, nodeConfig node = .ok config →
    ∃ given, nodeConfig original = .ok given ∧ AgreeUnbound config given
  read : (∃ given, nodeConfig original = .ok given) → ∃ config, nodeConfig node = .ok config

theorem BoundNode.refl (node : Json) : BoundNode node node :=
  ⟨rfl, rfl, fun config read => ⟨config, read, fun _ _ => rfl⟩, fun given => given⟩

theorem Ready.bound {node original : Json} (ready : Ready graph original) (bound : BoundNode node original) :
    Ready graph node := by
  refine ⟨bound.read ready.read, fun config read => ?_, fun config read => ?_⟩
  · obtain ⟨given, there, agree⟩ := bound.config config read
    exact bound.type ▸ (ready.configured given there).bound agree
  · obtain ⟨given, there, agree⟩ := bound.config config read
    exact bound.type ▸ (ready.referenced given there).bound agree

theorem applyBindingsToNode_bound {bindings members : Dict Json}
    (applied : applyBindingsToNode bindings members = .ok node) : BoundNode node (.obj members) := by
  obtain ⟨config, read, applied⟩ := except_bind_ok applied
  have same := Except.ok.inj applied
  subst same
  have elsewhere : ∀ key, key ≠ "config" → Json.get (.obj (members.set "config"
      (.obj (overlayConfig (bindings.get ((members.get "id").strOrEmpty)) config)))) key = Json.get (.obj members) key :=
    fun key apart => Dict.get_set_of_ne _ _ (Ne.symm apart)
  have stored : nodeConfig (.obj (members.set "config"
      (.obj (overlayConfig (bindings.get ((members.get "id").strOrEmpty)) config)))) =
      .ok (overlayConfig (bindings.get ((members.get "id").strOrEmpty)) config) := by
    unfold nodeConfig
    rw [show ∀ value, Json.get (.obj (members.set "config" value)) "config" = value from fun _ => Dict.get_set_self _ _ _]
    rfl
  refine ⟨?_, ?_, fun other again => ?_, fun _ => ⟨_, stored⟩⟩
  · simp only [nodeId?, elsewhere "id" (by decide)]
  · simp only [nodeType, nodeTypeText, elsewhere "type" (by decide)]
  · cases stored.symm.trans again
    exact ⟨config, read, overlayConfig_agrees _ _⟩

theorem nodeId?_of_noObject (noObject : node.asObj? = none) : nodeId? node = none := by
  cases node with
  | obj members => cases noObject
  | _ => rfl

theorem applyBindingsToGraph_bound {bindings : Dict Json} (applied : applyBindingsToGraph bindings nodes = .ok resolved) :
    resolved.filterMap nodeId? = nodes.filterMap nodeId? ∧
      ∀ node ∈ resolved, ∃ original ∈ nodes, BoundNode node original := by
  induction nodes generalizing resolved with
  | nil =>
    cases applied
    exact ⟨rfl, by simp⟩
  | cons first rest ih =>
    unfold applyBindingsToGraph at applied
    split at applied
    · rename_i noObject
      obtain ⟨ids, each⟩ := ih applied
      refine ⟨by rw [ids, filterMap_cons, nodeId?_of_noObject noObject], fun node member => ?_⟩
      obtain ⟨original, there, bound⟩ := each node member
      exact ⟨original, mem_cons_of_mem _ there, bound⟩
    · rename_i members object
      obtain ⟨bound, here, applied⟩ := except_bind_ok applied
      obtain ⟨others, later, applied⟩ := except_bind_ok applied
      have same := Except.ok.inj applied
      subst same
      have given : first = .obj members := by
        cases first with
        | obj _ =>
          cases object
          rfl
        | _ => cases object
      have boundNode : BoundNode bound first := given ▸ applyBindingsToNode_bound here
      obtain ⟨ids, each⟩ := ih later
      refine ⟨?_, fun node member => ?_⟩
      · rw [filterMap_cons, filterMap_cons, boundNode.id, ids]
      · rcases mem_cons.mp member with rfl | member
        · exact ⟨first, mem_cons_self, boundNode⟩
        · simp_all

theorem resolveNodes_bound {environment : String} {deployment : Option WorkflowEnvironmentDeployment} (applied : resolveNodes environment deployment nodes = .ok resolved) :
    resolved.filterMap nodeId? = nodes.filterMap nodeId? ∧
      ∀ node ∈ resolved, ∃ original ∈ nodes, BoundNode node original := by
  unfold resolveNodes at applied
  split at applied
  · exact applyBindingsToGraph_bound applied
  obtain ⟨normalized, _, applied⟩ := except_bind_ok applied
  split at applied
  · obtain ⟨bindings, _, applied⟩ := except_bind_ok applied
    exact applyBindingsToGraph_bound applied
  · have same := Except.ok.inj applied
    subst same
    exact ⟨rfl, fun node member => ⟨node, member, .refl node⟩⟩

theorem Overlaid.bound {row version : WorkflowVersion} (overlaid : Overlaid row version) :
    version.graph.ids = row.graph.ids ∧ ∀ node ∈ version.nodesJson, ∃ original ∈ row.nodesJson, BoundNode node original := by
  rcases overlaid.nodes with same | ⟨environment, deployment, resolved⟩
  · simp only [WorkflowVersion.graph, Graph.ids, same]
    exact ⟨trivial, fun node member => ⟨node, member, .refl node⟩⟩
  · exact resolveNodes_bound resolved

end Overlay

end Troop.Workflow
