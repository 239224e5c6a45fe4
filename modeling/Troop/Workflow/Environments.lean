import Troop.Workflow.Graph

namespace Troop.Workflow

def workflowEnvironments : List String := ["dev", "staging", "prod"]

def bindingKeys : List String := ["connector_installation_id", "approval_connector_installation_id"]

def normalizeEnvironment (value : String) : Except PyError String :=
  let env := Text.lower (Text.strip (if value = "" then "dev" else value))
  if env ∈ workflowEnvironments then .ok env
  else .error (.valueError ("invalid environment `" ++ env ++ "`"))

/-- `str(value or "").strip()` -/
def bindingText (value : Json) : String := Text.strip value.strOrEmpty

def extractBindingsFromNode (node : Json) : Except PyError (Option (String × Json)) := do
  if ¬ isObj node then return none
  let id := (node.get "id").strOrEmpty
  if id = "" then return none
  let config ← nodeConfig node
  let bindings := bindingKeys.filterMap fun key =>
    if bindingText (config.get key) = "" then none else some (key, Json.str (bindingText (config.get key)))
  return if bindings.isEmpty then none else some (id, .obj bindings)

def extractBindingsFromGraph : List Json → Except PyError (Dict Json)
  | [] => .ok []
  | node :: rest => do
    let binding ← extractBindingsFromNode node
    let others ← extractBindingsFromGraph rest
    return match binding with
      | some (id, bindings) => if (others.get? id).isSome then others else (id, bindings) :: others
      | none => others

def overlayConfig (overlay : Json) (config : Dict Json) : Dict Json :=
  match overlay with
  | .obj bindings =>
    bindingKeys.foldl (fun current key =>
      if bindingText (Json.get (.obj bindings) key) = "" then current
      else current.set key (.str (bindingText (Json.get (.obj bindings) key)))) config
  | .str text =>
    if Text.strip text = "" then config
    else config.set "connector_installation_id" (.str (Text.strip text))
  | _ => config

def applyBindingsToNode (bindings : Dict Json) (node : Dict Json) : Except PyError Json := do
  let config ← nodeConfig (.obj node)
  let overlay := bindings.get (node.get "id").strOrEmpty
  return .obj (node.set "config" (.obj (overlayConfig overlay config)))

def applyBindingsToGraph (bindings : Dict Json) : List Json → Except PyError (List Json)
  | [] => .ok []
  | node :: rest => do
    match node.asObj? with
    | none => applyBindingsToGraph bindings rest
    | some members =>
      let resolved ← applyBindingsToNode bindings members
      let others ← applyBindingsToGraph bindings rest
      return resolved :: others

def getVersion (versionId : Option String) : Session (Option WorkflowVersion) := do
  let w ← get
  return versionId.bind fun id => if id = "" then none else w.db.versions.get? id

def findDeployment (db : Db) (workflowId environment : String) : Option WorkflowEnvironmentDeployment :=
  db.deployments.find? (fun row => row.workflowId = workflowId ∧ row.environment = environment)

def resolveVersionForEnvironment (definition : WorkflowDefinition) (environment : String) :
    Session (WorkflowVersion × Option WorkflowEnvironmentDeployment) := do
  let env ← Prog.ofExcept (normalizeEnvironment environment)
  let w ← get
  match findDeployment w.db definition.id env with
  | some deployment =>
    match ← getVersion (some deployment.workflowVersionId) with
    | none => raiseValueError (env ++ " deployment references missing workflow version")
    | some version =>
      if version.isPublished then return (version, some deployment)
      else raiseValueError (env ++ " deployment must reference a published version")
  | none =>
    if env = "dev" then
      match ← getVersion definition.publishedVersionId with
      | some version => return (version, none)
      | none => raiseValueError ("workflow has no deployment for `" ++ env ++ "`")
    else raiseValueError ("workflow has no deployment for `" ++ env ++ "`")

def resolveNodes (environment : String) (deployment : Option WorkflowEnvironmentDeployment)
    (nodes : List Json) : Except PyError (List Json) :=
  match deployment with
  | some row => applyBindingsToGraph row.connectionBindingsJson nodes
  | none => do
    if (← normalizeEnvironment environment) = "dev" then
      applyBindingsToGraph (← extractBindingsFromGraph nodes) nodes
    else return nodes

/-- The version a run of this environment interprets, its nodes carrying the environment's
    bindings. -/
def resolvedGraphForEnvironment (definition : WorkflowDefinition) (environment : String) :
    Session WorkflowVersion := do
  let (version, deployment) ← resolveVersionForEnvironment definition environment
  let nodes ← Prog.ofExcept (resolveNodes environment deployment version.nodesJson)
  return { version with nodesJson := nodes }

end Troop.Workflow
