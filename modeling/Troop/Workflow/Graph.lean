import Troop.Workflow.Conditions

namespace Troop.Workflow

inductive NodeType where
  | agent | skill | tool | router | condition | parallel | approval | humanInput | subworkflow | delay
  | trigger
deriving DecidableEq, Repr, Inhabited

/-- `SUPPORTED_NODE_TYPES` -/
def NodeType.ofText : String → Option NodeType
  | "agent" => some .agent
  | "skill" => some .skill
  | "tool" => some .tool
  | "router" => some .router
  | "condition" => some .condition
  | "parallel" => some .parallel
  | "approval" => some .approval
  | "human_input" => some .humanInput
  | "subworkflow" => some .subworkflow
  | "delay" => some .delay
  | "trigger" => some .trigger
  | _ => none

def nodeId? (node : Json) : Option String :=
  match node.get "id" with
  | .str id => if id = "" then none else some id
  | _ => none

/-- `str(node.get("type") or "")` -/
def nodeTypeText (node : Json) : String := (node.get "type").strOrEmpty

def nodeType (node : Json) : Option NodeType := NodeType.ofText (nodeTypeText node)

def edgeEnd (edge : Json) (key : String) : Option String :=
  match edge.get key with
  | .str id => some id
  | _ => none

def isObj (value : Json) : Bool := value.asObj?.isSome

def validateNode (node : Json) : List String :=
  if ¬ isObj node then ["node must be object"]
  else
    match node.get "type" with
    | .str text => if (NodeType.ofText text).isSome then [] else ["unsupported node type: " ++ text]
    | other => ["unsupported node type: " ++ other.pyStr]

def validateEdge (nodeIds : List String) (edge : Json) : List String :=
  if ¬ isObj edge then ["edge must be object"]
  else
    let known := fun key => (edgeEnd edge key).any (fun id => id ∈ nodeIds)
    if !known "from" || !known "to" then ["edge references unknown nodes: " ++ edge.pyStr] else []

def validateGraph (nodes edges : List Json) (entryNodeId : Option String) : List String :=
  let nodeIds := nodes.filterMap nodeId?
  (if nodes.isEmpty then ["nodes is required"] else []) ++
  (match entryNodeId with
    | none => ["entry_node_id is required"]
    | some entry =>
      if entry = "" then ["entry_node_id is required"]
      else if entry ∉ nodeIds then ["entry node `" ++ entry ++ "` missing from nodes"]
      else []) ++
  nodes.flatMap validateNode ++ edges.flatMap (validateEdge nodeIds)

/-- The dict `_advance` looks nodes up in: of several nodes with one id the last counts. -/
def nodesById (nodes : List Json) : Dict Json :=
  nodes.foldl (fun index node => match nodeId? node with
    | some id => index.set id node
    | none => index) []

theorem nodesById_last (nodes : List Json) (id : String) :
    (nodesById nodes).get? id = (nodes.filter fun node => decide (nodeId? node = some id)).getLast? := by
  induction nodes using List.reverseRecOn with
  | nil => rfl
  | append_singleton nodes node ih =>
    rw [nodesById, List.foldl_append, ← nodesById, List.filter_append, List.getLast?_append]
    cases named : nodeId? node with
    | none => simp [named, ih]
    | some own =>
      by_cases same : own = id
      · simp [named, same]
      · simp [named, same, Dict.get?_set, ih]

/-- The lookup of `resume_run` and `apply_approval_rejection`: the first node with the id. -/
def currentNode (nodes : List Json) (current : Option String) : Option Json :=
  match current with
  | none => none
  | some id => if id = "" then none else nodes.find? (fun node => nodeId? node = some id)

structure NodeOutcome where
  status : StepStatus
  output : Dict Json
  pause : Option RunStatus
  vars : Dict Json
deriving Inhabited

def succeeded (output vars : Dict Json) : NodeOutcome := ⟨.succeeded, output, none, vars⟩

def failed (output vars : Dict Json) : NodeOutcome := ⟨.failed, output, some .failed, vars⟩

def paused (output vars : Dict Json) (status : RunStatus) : NodeOutcome :=
  ⟨.paused, output, some status, vars⟩

/-- `dict(node.get("config") or \{})` -/
def nodeConfig (node : Json) : Except PyError (Dict Json) := (node.get "config").toDict

def ruleMatches (rule : Json) (vars : Dict Json) : Except PyError Bool :=
  match rule.asObj? with
  | none => .ok false
  | some members =>
    let condition := (rule.get "condition").asObj?.getD members
    if (condition.get "operator").truthy then evaluateCondition condition vars else .ok false

/-- An edge's test in a router: a condition object is evaluated, any other `when` is its truth. -/
def edgeMatches (edge : Json) (vars : Dict Json) : Except PyError Bool :=
  let when := edge.get "when"
  match when.asObj? with
  | some condition =>
    if (condition.get "operator").truthy then evaluateCondition condition vars else .ok when.truthy
  | none => .ok when.truthy

def firstMatching (test : Json → Except PyError Bool) : List Json → Except PyError (Option Json)
  | [] => .ok none
  | item :: rest => do
    if ← test item then return some item
    firstMatching test rest

def outgoing (edges : List Json) (nodeId : String) : List Json :=
  edges.filter (fun edge => edgeEnd edge "from" = some nodeId)

/-- The target `_execute_router_node` settles on: the first matching rule, else the first matching
    outgoing edge, else the first outgoing edge. The empty string stands for no selection. -/
def routerSelection (rules edges : List Json) (nodeId : String) (vars : Dict Json) :
    Except PyError (String × Option Json) := do
  let matched ← firstMatching (ruleMatches · vars) rules
  let ruled := match matched with
    | some rule => ((rule.get "to").pyOr (rule.get "target")).strOrEmpty
    | none => ""
  if ruled ≠ "" then return (ruled, matched)
  let edge ← firstMatching (edgeMatches · vars) (outgoing edges nodeId)
  let followed := match edge with
    | some edge => (edge.get "to").strOrEmpty
    | none => ""
  if followed ≠ "" then return (followed, matched)
  match outgoing edges nodeId with
  | [] => return ("", matched)
  | first :: _ => return ((first.get "to").strOrEmpty, matched)

def executeRouterNode (node : Json) (nodeId : String) (edges : List Json) (vars : Dict Json) :
    Except PyError NodeOutcome := do
  let config ← nodeConfig node
  let rules ← (config.get "rules").toList
  let (selected, matched) ← routerSelection rules edges nodeId vars
  let output : Dict Json :=
    [("selected", if selected = "" then .null else .str selected), ("rules_evaluated", .num rules.length),
      ("matched_rule", matched.getD .null)]
  return succeeded output (if selected = "" then vars else vars.set "_router_target" (.str selected))

def edgeOfBranch (cond edge : Json) : Bool :=
  edge.get "when" ≠ .null && (edge.get "when").truthy == cond.truthy

/-- The edge `_next_node` takes when no router target is set. -/
def successor (edges : List Json) (current : String) (vars : Dict Json) : Option String :=
  match outgoing edges current with
  | [] => none
  | first :: rest =>
    let chosen := match vars.get "_last_condition" with
      | .null => none
      | cond => (first :: rest).find? (edgeOfBranch cond)
    edgeEnd (chosen.getD first) "to"

/-- `_next_node`: the node after `current`, and the vars without the router target. -/
def nextNode (current : String) (edges : List Json) (vars : Dict Json) : Option String × Dict Json :=
  let target := vars.get "_router_target"
  let rest := vars.pop "_router_target"
  if target.truthy then (some target.pyStr, rest) else (successor edges current rest, rest)

end Troop.Workflow
