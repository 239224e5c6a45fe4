import Troop.Packages.Catalog
import Troop.Workflow.Publishing

namespace Troop.Packages

open Workflow (Graph)

structure HttpError where
  status : Nat
  detail : String
deriving DecidableEq, Repr

def sortedNode (node : Dict Json) : Dict Json :=
  match node.get "config" with
  | .obj config => node.set "config" (.obj (Dict.sortByKey config))
  | _ => node

def sortedEdge (edge : Dict Json) : Dict Json :=
  [("from", .str ((edge.get "from").pyOr (edge.get "source")).strOrEmpty),
    ("to", .str ((edge.get "to").pyOr (edge.get "target")).strOrEmpty)] ++
  Dict.sortByKey (edge.filter fun entry => entry.1 ∉ ["from", "to", "source", "target"])

def edgeBefore (a b : Dict Json) : Bool :=
  let left := ((a.get "from").pyStr, (a.get "to").pyStr)
  let right := ((b.get "from").pyStr, (b.get "to").pyStr)
  left.1 < right.1 ∨ (left.1 = right.1 ∧ left.2 ≤ right.2)

def nodeBefore (a b : Dict Json) : Bool := (a.get "id").pyStr ≤ (b.get "id").pyStr

def canonicalizeWorkflowGraph (graph : Graph) : Graph :=
  let nodes := (((graph.nodes.filterMap Json.asObj?).filter fun node => (node.get "id").truthy).map sortedNode).mergeSort
    nodeBefore
  let edges := (((graph.edges.filterMap Json.asObj?).filter fun edge =>
    ((edge.get "from").pyOr (edge.get "source")).truthy).map sortedEdge).mergeSort edgeBefore
  let entry := Text.strip (graph.entry.getD "")
  { nodes := nodes.map Json.obj
    edges := edges.map Json.obj
    entry := if entry ≠ "" then some entry else nodes.head?.map fun node => (node.get "id").pyStr }

/-- `list(value or [])` of a list. -/
def listAt (item : Dict Json) (key : String) : List Json :=
  match item.get key with
  | .arr items => items
  | _ => []

def graphOf (item : Dict Json) : Graph :=
  ⟨listAt item "nodes", listAt item "edges", match item.get "entry_node_id" with
    | .str entry => some entry
    | _ => none⟩

structure SkillContent where
  name : Json
  slug : Json
  description : Json
  purpose : Json
  whenToUse : Json
  instructionsMarkdown : Json
  scope : String
  riskLevel : Json
  capabilities : List Json
  requiredTools : List Json
  generationMetadata : Dict Json
deriving DecidableEq

/-- The draft `install_skill` makes of a catalog item. -/
def skillOf (slug : String) (item : Dict Json) : SkillContent :=
  { name := item.get "name"
    slug := item.get "slug"
    description := (item.get "description").pyOr (.str "")
    purpose := ((item.get "purpose").pyOr (item.get "description")).pyOr (.str "")
    whenToUse := (item.get "when_to_use").pyOr (.str "")
    instructionsMarkdown := (item.get "instructions_markdown").pyOr (.str "")
    scope := "organization"
    riskLevel := (item.get "risk_level").pyOr (.str "low")
    capabilities := listAt item "capabilities"
    requiredTools := listAt item "required_tools"
    generationMetadata := [("marketplace_slug", .str slug), ("category", item.get "category"),
      ("department", item.get "department")] }

structure WorkflowContent where
  name : Json
  description : Json
  category : Json
  graph : Graph
  published : Bool
deriving DecidableEq

def workflowOf (item : Dict Json) : WorkflowContent :=
  { name := item.get "name"
    description := (item.get "description").pyOr (.str "")
    category := (item.get "category").pyOr (.str "general")
    graph := canonicalizeWorkflowGraph (graphOf item)
    published := true }

structure SkillRow where
  id : String
  owner : String
  slug : String
  content : SkillContent
deriving DecidableEq

structure WorkflowRow where
  id : String
  owner : String
  slug : String
  content : WorkflowContent
deriving DecidableEq

structure OtherRow where
  kind : String
  place : String
  slug : String
  item : Dict Json
deriving DecidableEq

structure Marketplace where
  skills : List (Dict Json)
  workflows : List (Dict Json)
  departments : List (Dict Json)
  agentTemplates : List (Dict Json)
  validDraft : SkillContent → Bool
  storable : String → Dict Json → Bool
  external : String → Bool
  uuid4 : Nat → String
  uuid4_injective : ∀ {m n}, uuid4 m = uuid4 n → m = n

structure Library where
  drawn : Nat := 0
  skills : List SkillRow := []
  workflows : List WorkflowRow := []
  others : List OtherRow := []

def emailApprovalFlagshipSlug : String := "email-reply-telegram-approval"

def findItem (items : List (Dict Json)) (slug : String) : Option (Dict Json) :=
  items.find? fun item => item.get "slug" = .str slug

def Library.skill? (library : Library) (owner slug : String) : Option SkillRow :=
  library.skills.find? fun row => row.owner = owner ∧ row.slug = slug

def Library.workflow? (library : Library) (owner slug : String) : Option WorkflowRow :=
  library.workflows.find? fun row => row.owner = owner ∧ row.slug = slug

abbrev Result := Except HttpError String × Library

section Installs

variable (market : Marketplace)

/-- `install_skill`: the identifier of the skill, new or already there. -/
def installSkill (owner slug : String) (library : Library) : Result :=
  match findItem market.skills slug with
  | none => (.error ⟨404, "marketplace skill not found"⟩, library)
  | some item =>
    match library.skill? owner slug with
    | some existing =>
      if slug ≠ emailApprovalFlagshipSlug then (.ok existing.id, library)
      else (.error ⟨409, "slug exists"⟩, library)
    | none =>
      if ¬ market.validDraft (skillOf slug item) then (.error ⟨422, "draft failed validation"⟩, library)
      else
        let row : SkillRow := ⟨market.uuid4 library.drawn, owner, slug, skillOf slug item⟩
        (.ok row.id, { library with drawn := library.drawn + 1, skills := library.skills ++ [row] })

def flagshipNode (skillId : String) (node : Json) : Json :=
  match node.asObj? with
  | none => node
  | some members =>
    let config := configOf members
    let changed : Dict Json :=
      if members.get "id" = .str "gmail_trigger" then
        ((config.set "connector_installation_id" (.str "")).set "project_id" .null).set "task_id" .null
      else if members.get "id" = .str "draft_skill" then (config.pop "skill_slug").set "skill_id" (.str skillId)
      else if members.get "id" = .str "draft_agent" then config.set "agent_id" .null
      else if members.get "id" = .str "send_draft" then
        (config.set "approval_delivery_channel" (.str "in_app")).set "approval_connector_installation_id" (.str "")
      else config
    .obj (members.set "config" (.obj changed))

/-- `publish_draft` raises: the graph is not valid for publishing. -/
def publishRefused (graph : Graph) : Bool :=
  match Workflow.validateForPublish market.external graph with
  | .ok report => !report.valid
  | .error _ => true

/-- The rest of `install_workflow`, for a graph that is to be published or kept as a draft. -/
def storeWorkflow (owner slug : String) (item : Dict Json) (graph : Graph) (publish : Bool) (library : Library) : Result :=
  let errors := Workflow.validateGraph graph.nodes graph.edges graph.entry
  if ¬ graph.nodes.isEmpty ∧ errors ≠ [] then (.error ⟨422, "errors"⟩, library)
  else
    if publish && publishRefused market graph then (.error ⟨422, "errors"⟩, library)
    else
      let content : WorkflowContent := { workflowOf item with graph := canonicalizeWorkflowGraph graph, published := publish }
      let row : WorkflowRow := ⟨market.uuid4 library.drawn, owner, slug, content⟩
      (.ok row.id, { library with drawn := library.drawn + 1, workflows := library.workflows ++ [row] })

/-- `install_workflow`, as a package calls it: without connectors, agent, project and task, so that
    the flagship workflow stays a draft. -/
def installWorkflow (owner slug : String) (library : Library) : Result :=
  match findItem market.workflows slug with
  | none => (.error ⟨404, "marketplace workflow not found"⟩, library)
  | some item =>
    match library.workflow? owner slug with
    | some existing => (.ok existing.id, library)
    | none =>
      if slug = emailApprovalFlagshipSlug then
        match installSkill market owner "email-response-drafter" library with
        | (.error error, after) => (.error error, after)
        | (.ok skillId, after) =>
          let graph := graphOf item
          storeWorkflow market owner slug item { graph with nodes := graph.nodes.map (flagshipNode skillId) } false after
      else storeWorkflow market owner slug item (graphOf item) true library

/-- `install_department` and `install_agent_template`, which leave skills and workflows alone. -/
def installOther (items : List (Dict Json)) (kind place slug : String) (library : Library) : Result :=
  match findItem items slug with
  | none => (.error ⟨404, "marketplace " ++ kind ++ " not found"⟩, library)
  | some item =>
    if library.others.any fun row => row.kind = kind ∧ row.place = place ∧ row.slug = slug then (.ok slug, library)
    else if ¬ market.storable kind item then (.error ⟨422, "invalid " ++ kind⟩, library)
    else (.ok slug, { library with others := library.others ++ [⟨kind, place, slug, item⟩] })

end Installs

end Troop.Packages
