import Mathlib.Data.List.Dedup
import Troop.Graphs.Coloured
import Troop.Python.Json
import Troop.Python.Text

namespace Troop.Hierarchy

/-- `HIERARCHY_EDGE_TYPES` -/
inductive Relationship where
  | delegatesTo | reviews | escalatesTo | collaboratesWith
deriving DecidableEq, Repr

def Relationship.text : Relationship → String
  | delegatesTo => "delegates_to"
  | reviews => "reviews"
  | escalatesTo => "escalates_to"
  | collaboratesWith => "collaborates_with"

def Relationship.ofText : String → Option Relationship
  | "delegates_to" => some delegatesTo
  | "reviews" => some reviews
  | "escalates_to" => some escalatesTo
  | "collaborates_with" => some collaboratesWith
  | _ => none

def routingModes : List String :=
  ["capability_based", "priority_sla", "sla_priority", "cost_aware", "model_availability", "user_pinned", "throughput"]

def loadBalanceModes : List String := ["queue_depth", "round_robin"]

def executionModes : List String := ["single_agent", "manager_worker", "debate"]

def handoffModes : List String := ["escalation_path", "configured_agent", "sibling_with_capacity"]

structure HierarchyEdge where
  sourceAgentId : String
  targetAgentId : String
  relationship : Relationship
deriving DecidableEq

structure BlockedHandoff where
  mode : String
  targetAgentId : Option String
  fallbackToManager : Bool
deriving DecidableEq

/-- What `normalize_hierarchy_policy` returns, less the constant `final_authority`. -/
structure HierarchyPolicy where
  managerAgentId : Option String
  edges : List HierarchyEdge
  delegationRules : Dict (List String)
  brainstormRules : Dict (List String)
  reviewerAgentIds : List String
  reviewerChainMode : String
  routingMode : String
  siblingLoadBalance : String
  defaultExecutionMode : String
  blockedHandoff : BlockedHandoff
deriving DecidableEq

def firstOccurrences {α : Type} [DecidableEq α] (items : List α) : List α := items.reverse.dedup.reverse

theorem mem_firstOccurrences {α : Type} [DecidableEq α] {items : List α} {item : α} :
    item ∈ firstOccurrences items ↔ item ∈ items := by
  simp [firstOccurrences]

/-- `str(value or fallback).strip()` -/
def strippedOr (fallback : String) (value : Json) : String := Text.strip (value.pyOr (.str fallback)).strOrEmpty

/-- `str(value or "").strip() or None` -/
def optionalId (value : Json) : Option String := if strippedOr "" value = "" then none else some (strippedOr "" value)

def modeOf (allowed : List String) (fallback : String) (value : Json) : String :=
  if strippedOr fallback value ∈ allowed then strippedOr fallback value else fallback

/-- The items `_clean_ids` looks at. -/
def idItems : Json → List Json
  | .str text => ((text.toList.splitOn ',').map String.ofList).map Json.str
  | .arr items => items
  | _ => []

def cleanIds (value : Json) : List String :=
  firstOccurrences (((idItems value).map fun item => Text.strip item.pyStr).filter (· ≠ ""))

/-- An item of `edges` as it is kept. -/
def edgeOf : Json → Option HierarchyEdge
  | .obj item =>
    let source := strippedOr "" ((Dict.get item "source_agent_id").pyOr (Dict.get item "source"))
    let target := strippedOr "" ((Dict.get item "target_agent_id").pyOr (Dict.get item "target"))
    let data := (Dict.get item "data").asObj?.getD []
    let named := ((Dict.get item "relationship").pyOr (Dict.get item "semantic")).pyOr (Dict.get data "semantic")
    match Relationship.ofText (strippedOr "delegates_to" named) with
    | some relationship =>
      if source ≠ "" ∧ target ≠ "" ∧ source ≠ target then some ⟨source, target, relationship⟩ else none
    | none => none
  | _ => none

/-- `raw.get("edges") or raw.get("hierarchy_edges")` -/
def rawEdges (raw : Dict Json) : Json := (raw.get "edges").pyOr (raw.get "hierarchy_edges")

def edgesOf (value : Json) : Except PyError (List HierarchyEdge) :=
  value.toList.map fun items => firstOccurrences (items.filterMap edgeOf)

/-- `delegation_rules`, `brainstorm_rules` -/
def rulesOf (value : Json) : Except PyError (Dict (List String)) :=
  match value with
  | .obj members => .ok (members.foldl (fun rules entry =>
      if Text.strip entry.1 = "" then rules else rules.set (Text.strip entry.1) (cleanIds entry.2)) [])
  | other => if other.truthy then .error (.raised "object has no attribute 'items'") else .ok []

def handoffOf (handoff : Dict Json) : BlockedHandoff :=
  { mode := modeOf handoffModes "escalation_path" (handoff.get "mode")
    targetAgentId := optionalId (handoff.get "target_agent_id")
    fallbackToManager := handoff.get "fallback_to_manager" ≠ .bool false }

def normalizeHierarchyPolicy (raw : Dict Json) : Except PyError HierarchyPolicy := do
  let edges ← edgesOf (rawEdges raw)
  let delegationRules ← rulesOf (raw.get "delegation_rules")
  let brainstormRules ← rulesOf (raw.get "brainstorm_rules")
  let blockedHandoff ← (raw.get "blocked_handoff").toDict
  return {
    managerAgentId := optionalId (raw.get "manager_agent_id")
    edges := edges
    delegationRules := delegationRules
    brainstormRules := brainstormRules
    reviewerAgentIds := cleanIds (raw.get "reviewer_agent_ids")
    reviewerChainMode := strippedOr "sequential" (raw.get "reviewer_chain_mode")
    routingMode := modeOf routingModes "capability_based" (raw.get "routing_mode")
    siblingLoadBalance := modeOf loadBalanceModes "queue_depth" (raw.get "sibling_load_balance")
    defaultExecutionMode := modeOf executionModes "single_agent" (raw.get "default_execution_mode")
    blockedHandoff := handoffOf blockedHandoff }

def HierarchyEdge.json (edge : HierarchyEdge) : Json :=
  .obj [("source_agent_id", .str edge.sourceAgentId), ("target_agent_id", .str edge.targetAgentId),
    ("relationship", .str edge.relationship.text)]

def idsJson (ids : List String) : Json := .arr (ids.map Json.str)

def rulesJson (rules : Dict (List String)) : Json := .obj (rules.map fun entry => (entry.1, idsJson entry.2))

def BlockedHandoff.json (handoff : BlockedHandoff) : Json :=
  .obj [("mode", .str handoff.mode), ("target_agent_id", .ofOption handoff.targetAgentId),
    ("fallback_to_manager", .bool handoff.fallbackToManager)]

def HierarchyPolicy.dict (policy : HierarchyPolicy) : Dict Json :=
  [("manager_agent_id", .ofOption policy.managerAgentId), ("edges", .arr (policy.edges.map HierarchyEdge.json)),
    ("delegation_rules", rulesJson policy.delegationRules), ("brainstorm_rules", rulesJson policy.brainstormRules),
    ("reviewer_agent_ids", idsJson policy.reviewerAgentIds), ("reviewer_chain_mode", .str policy.reviewerChainMode),
    ("routing_mode", .str policy.routingMode), ("sibling_load_balance", .str policy.siblingLoadBalance),
    ("default_execution_mode", .str policy.defaultExecutionMode), ("blocked_handoff", policy.blockedHandoff.json),
    ("final_authority", .str "human_user")]

/-- The keys that `policy_from_execution` also takes from the execution settings themselves. -/
def flattenedKeys : List String :=
  ["manager_agent_id", "reviewer_agent_ids", "reviewer_chain_mode", "routing_mode", "sibling_load_balance",
    "blocked_handoff"]

/-- `if key not in raw and key in execution: raw[key] = execution[key]` -/
def inherit (execution raw : Dict Json) (key : String) : Dict Json :=
  match raw.get? key, execution.get? key with
  | none, some value => raw.set key value
  | _, _ => raw

def withExecutionMode (execution raw : Dict Json) : Dict Json :=
  match raw.get? "default_execution_mode" with
  | some _ => raw
  | none => raw.set "default_execution_mode" ((execution.get "default_run_mode").pyOr (.str "single_agent"))

def withLayoutEdges (execution raw : Dict Json) : Dict Json :=
  if (raw.get "edges").truthy then raw
  else
    match execution.get "team_graph_layout" with
    | .obj layout => raw.set "edges" ((Dict.get layout "edges").pyOr (.arr []))
    | _ => raw

def policyFromExecution (execution : Dict Json) : Except PyError HierarchyPolicy := do
  let stored ← (execution.get "hierarchy_policy").toDict
  normalizeHierarchyPolicy
    (withLayoutEdges execution (withExecutionMode execution (flattenedKeys.foldl (inherit execution) stored)))

def applyPolicyToExecution (execution value : Dict Json) : Except PyError (Dict Json) := do
  let policy ← normalizeHierarchyPolicy value
  return execution.update
    [("hierarchy_policy", .obj policy.dict), ("manager_agent_id", .ofOption policy.managerAgentId),
      ("reviewer_agent_ids", idsJson policy.reviewerAgentIds), ("reviewer_chain_mode", .str policy.reviewerChainMode),
      ("routing_mode", .str policy.routingMode), ("sibling_load_balance", .str policy.siblingLoadBalance),
      ("blocked_handoff", policy.blockedHandoff.json), ("default_run_mode", .str policy.defaultExecutionMode)]

section Validation

variable (policy : HierarchyPolicy) (memberIds : List String) (roles : Dict String)

def managerErrors : List String :=
  match policy.managerAgentId with
  | none => []
  | some managerId =>
    (if managerId ∉ memberIds then ["manager_agent_id must be a member of the project"] else []) ++
    (if roles.get? managerId ∉ [some "manager", some "team_lead"] then
      ["manager_agent_id must reference a manager or team lead"] else [])

def reviewerErrors : List String :=
  let missing := policy.reviewerAgentIds.filter (· ∉ memberIds)
  let invalid := policy.reviewerAgentIds.filter fun id =>
    roles.get? id ∉ [some "reviewer", some "manager", some "team_lead"]
  (if memberIds ≠ [] ∧ roles ≠ [] ∧ ¬ memberIds.any (fun id => roles.get? id = some "reviewer") then
    ["Project must include at least one reviewer role"] else []) ++
  (if memberIds ≠ [] ∧ policy.reviewerAgentIds = [] then
    ["At least one reviewer agent must be configured in the reviewer chain"] else []) ++
  (if missing ≠ [] then ["reviewer_agent_ids contain non-members: " ++ ", ".intercalate missing] else []) ++
  (if invalid ≠ [] then ["reviewer chain contains non-reviewer agents: " ++ ", ".intercalate invalid] else [])

def HierarchyEdge.between (edge : HierarchyEdge) : Bool := edge.sourceAgentId ∈ memberIds ∧ edge.targetAgentId ∈ memberIds

def edgeErrors : List String :=
  (policy.edges.filter fun edge => !edge.between memberIds).map fun edge =>
    "hierarchy edge references a non-member: " ++ edge.sourceAgentId ++ " -> " ++ edge.targetAgentId

/-- `adjacency` -/
def delegates (node : String) : List String :=
  (policy.edges.filter fun edge =>
    edge.between memberIds && edge.relationship = .delegatesTo && edge.sourceAgentId = node).map HierarchyEdge.targetAgentId

def cycleError : String := "delegation relationships cannot contain cycles"

def cycleErrors : Except PyError (List String) :=
  match Graphs.visitAll (delegates policy memberIds) (memberIds.length + 1) memberIds ⟨[], [], 0⟩ with
  | some reached => .ok (List.replicate reached.backEdges cycleError)
  | none => .error .recursionError

/-- The errors of `delegation_rules` and of `brainstorm_rules`. -/
def ruleErrors (kind : String) (rules : Dict (List String)) : List String :=
  rules.flatMap fun rule =>
    let missing := rule.2.filter (· ∉ memberIds)
    (if rule.1 ∉ memberIds then [kind ++ " rule source is not a project member: " ++ rule.1] else []) ++
    (if missing ≠ [] then [kind ++ " rule for " ++ rule.1 ++ " contains non-members: " ++ ", ".intercalate missing] else [])

def handoffErrors : List String :=
  match policy.blockedHandoff.targetAgentId with
  | some target => if target ∉ memberIds then ["blocked handoff target must be a member of the project"] else []
  | none => []

def foundErrors (cycles : List String) : List String :=
  managerErrors policy memberIds roles ++ reviewerErrors policy memberIds roles ++ edgeErrors policy memberIds ++ cycles ++
    ruleErrors memberIds "delegation" policy.delegationRules ++ ruleErrors memberIds "brainstorm" policy.brainstormRules ++
    handoffErrors policy memberIds

end Validation

/-- `member_ids` comes in the order in which the set is iterated. -/
def validateHierarchyPolicy (policy : Dict Json) (memberIds : List String) (roles : Dict String) :
    Except PyError (List String) := do
  let normalized ← normalizeHierarchyPolicy policy
  let cycles ← cycleErrors normalized memberIds
  return firstOccurrences (foundErrors normalized memberIds roles cycles)

end Troop.Hierarchy
