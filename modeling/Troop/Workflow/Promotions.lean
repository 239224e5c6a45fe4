import Troop.History.Undo
import Troop.Workflow.Environments

namespace Troop.Workflow

open Troop.History
open List

structure Installation where
  ownerId : String
  environment : Option String
deriving DecidableEq, Inhabited

structure WorkflowEnvironmentDeploymentEvent where
  workflowId : String
  environment : String
  action : String
  workflowVersionId : String
  connectionBindingsJson : Dict Json
  previousVersionId : Option String
  previousBindingsJson : Option (Dict Json)
deriving DecidableEq, Inhabited

/-- The tables `WorkflowEnvironmentService` reads and writes. `events` is newest first: the order of
    `created_at.desc()`. -/
structure Registry where
  definitions : List WorkflowDefinition := []
  versions : List WorkflowVersion := []
  installations : Dict Installation := []
  deployments : List WorkflowEnvironmentDeployment := []
  events : List WorkflowEnvironmentDeploymentEvent := []
deriving DecidableEq, Inhabited

structure BindingValidation where
  errors : List String
  warnings : List String
deriving DecidableEq, Inhabited

def installationAllowedForEnvironment (installationEnvironment : Option String) (target : String) : Bool :=
  let environment := installationEnvironment.getD ""
  let inst := Text.lower (Text.strip (if environment = "" then "dev" else environment))
  if target = "prod" then inst = "prod"
  else if target = "staging" then inst = "staging" ∨ inst = "prod"
  else true

def boundInstallations : Json → List String
  | .obj bindings => (bindingKeys.map fun key => bindingText (Json.get (.obj bindings) key)).filter (· ≠ "")
  | .str text => if Text.strip text = "" then [] else [Text.strip text]
  | _ => []

def bindingError (registry : Registry) (ownerId env installationId : String) : Option String :=
  match (registry.installations.get? installationId).filter (fun row => row.ownerId = ownerId) with
  | none => some ("connector installation `" ++ installationId ++ "` not found")
  | some installation =>
    if installationAllowedForEnvironment installation.environment env then none
    else
      let environment := installation.environment.getD ""
      some ("installation `" ++ installationId ++ "` (" ++ (if environment = "" then "dev" else environment) ++
        ") cannot be used in `" ++ env ++ "`")

def bindingWarning (bindings : Dict Json) (node : Json) : Except PyError (Option String) := do
  if ¬ isObj node then return none
  let ntype := (node.get "type").strOrEmpty
  let nodeId := (node.get "id").strOrEmpty
  if ntype ≠ "trigger" ∧ ntype ≠ "tool" then return none
  let inline ← nodeConfig node
  if boundInstallations (bindings.get nodeId) ≠ [] then return none
  if bindingKeys.any (fun key => bindingText (inline.get key) ≠ "") then return none
  if ntype = "tool" then return some ("tool node `" ++ nodeId ++ "` has no environment binding")
  let triggerType := ((inline.get "trigger_type").pyOr (inline.get "event_type")).strOrEmpty
  if triggerType = "manual" ∨ triggerType = "schedule" ∨ triggerType = "" then return none
  return some ("trigger node `" ++ nodeId ++ "` has no environment binding")

def validateBindings (registry : Registry) (ownerId environment : String) (bindings : Dict Json)
    (nodes : List Json) : Except PyError BindingValidation := do
  let env ← normalizeEnvironment environment
  let installationIds := (bindings.values.flatMap boundInstallations).dedup
  let warnings ← nodes.mapM (bindingWarning bindings)
  return ⟨installationIds.filterMap (bindingError registry ownerId env), warnings.reduceOption⟩

def Registry.getVersion (registry : Registry) (versionId : String) : Option WorkflowVersion :=
  if versionId = "" then none else registry.versions.find? (fun row => row.id = versionId)

def Registry.getDeployment (registry : Registry) (workflowId env : String) :
    Option WorkflowEnvironmentDeployment :=
  registry.deployments.find? (fun row => row.workflowId = workflowId ∧ row.environment = env)

/-- `dict(connection_bindings or extract_bindings_from_graph(...))` -/
def promotedBindings (version : WorkflowVersion) (connectionBindings : Option (Dict Json)) :
    Except PyError (Dict Json) :=
  match connectionBindings with
  | some (binding :: rest) => .ok (binding :: rest)
  | _ => extractBindingsFromGraph version.nodesJson

def Registry.deploy (registry : Registry) (row : WorkflowEnvironmentDeployment) : Registry :=
  if (registry.getDeployment row.workflowId row.environment).isSome then
    { registry with deployments := registry.deployments.map fun old =>
        if old.workflowId = row.workflowId ∧ old.environment = row.environment then row else old }
  else { registry with deployments := registry.deployments ++ [row] }

def Registry.add (registry : Registry) (event : WorkflowEnvironmentDeploymentEvent) : Registry :=
  { registry with events := event :: registry.events }

/-- The rows `promote` writes: the deployment and the event. -/
def Registry.writePromotion (registry : Registry) (workflowId env versionId : String) (bindings : Dict Json) :
    Registry :=
  let existing := registry.getDeployment workflowId env
  (registry.deploy ⟨workflowId, env, versionId, bindings⟩).add
    { workflowId, environment := env, action := "promote", workflowVersionId := versionId,
      connectionBindingsJson := bindings, previousVersionId := existing.map (·.workflowVersionId),
      previousBindingsJson := existing.map (·.connectionBindingsJson) }

def Registry.publish (registry : Registry) (workflowId versionId : String) : Registry :=
  { registry with definitions := registry.definitions.map fun row =>
      if row.id = workflowId then { row with publishedVersionId := some versionId } else row }

def promote (definition : WorkflowDefinition) (environment versionId : String)
    (connectionBindings : Option (Dict Json)) (registry : Registry) :
    Except PyError (WorkflowEnvironmentDeployment × Registry) := do
  let env ← normalizeEnvironment environment
  match (registry.getVersion versionId).filter (fun version => version.workflowId = definition.id) with
  | none => .error (.valueError "workflow version not found")
  | some version =>
    if ¬ version.isPublished then
      .error (.valueError "only published versions can be promoted to an environment")
    else
      let bindings ← promotedBindings version connectionBindings
      let validation ← validateBindings registry definition.ownerId env bindings version.nodesJson
      if validation.errors ≠ [] then .error (.valueErrors validation.errors)
      else
        let promoted := registry.writePromotion definition.id env version.id bindings
        return (⟨definition.id, env, version.id, bindings⟩,
          if env = "dev" then promoted.publish definition.id version.id else promoted)

def Registry.promotions (registry : Registry) (workflowId env : String) :
    List WorkflowEnvironmentDeploymentEvent :=
  registry.events.filter fun event =>
    event.workflowId = workflowId ∧ event.environment = env ∧ event.action = "promote"

def rollback (definition : WorkflowDefinition) (environment : String) (registry : Registry) :
    Except PyError (WorkflowEnvironmentDeployment × Registry) := do
  let env ← normalizeEnvironment environment
  match registry.promotions definition.id env with
  | _ :: previousEvent :: _ =>
    match registry.getDeployment definition.id env with
    | none => .error (.valueError "no active deployment")
    | some current =>
      let deployment : WorkflowEnvironmentDeployment :=
        { current with
          workflowVersionId := previousEvent.workflowVersionId
          connectionBindingsJson := previousEvent.connectionBindingsJson }
      return (deployment, (registry.deploy deployment).add
        { workflowId := definition.id, environment := env, action := "rollback",
          workflowVersionId := previousEvent.workflowVersionId,
          connectionBindingsJson := previousEvent.connectionBindingsJson,
          previousVersionId := some current.workflowVersionId,
          previousBindingsJson := some current.connectionBindingsJson })
  | _ => .error (.valueError "no previous deployment to roll back to")

structure Deployed where
  workflowVersionId : String
  connectionBindings : Dict Json
deriving DecidableEq

def WorkflowEnvironmentDeployment.deployed (row : WorkflowEnvironmentDeployment) : Deployed :=
  ⟨row.workflowVersionId, row.connectionBindingsJson⟩

def WorkflowEnvironmentDeploymentEvent.deployed (event : WorkflowEnvironmentDeploymentEvent) : Deployed :=
  ⟨event.workflowVersionId, event.connectionBindingsJson⟩

structure Place where
  workflowId : String
  environment : String
deriving DecidableEq

def Place.named (place : Place) (definition : WorkflowDefinition) (environment : String) : Prop :=
  definition.id = place.workflowId ∧ (normalizeEnvironment environment).toOption = some place.environment

instance (place : Place) (definition : WorkflowDefinition) (environment : String) :
    Decidable (place.named definition environment) := inferInstanceAs (Decidable (_ ∧ _))

def Registry.at (registry : Registry) (place : Place) : Option Deployed :=
  (registry.getDeployment place.workflowId place.environment).map (·.deployed)

/-- `elsewhere`: workflows, versions and installations are written by other services. -/
inductive Request where
  | promote (definition : WorkflowDefinition) (environment versionId : String)
      (connectionBindings : Option (Dict Json))
  | rollback (definition : WorkflowDefinition) (environment : String)
  | elsewhere (definitions : List WorkflowDefinition) (versions : List WorkflowVersion)
      (installations : Dict Installation)

def Registry.settle (registry : Registry) : Except PyError (WorkflowEnvironmentDeployment × Registry) → Registry
  | .ok (_, after) => after
  | .error _ => registry

def Registry.perform (registry : Registry) : Request → Registry
  | .promote definition environment versionId connectionBindings =>
    registry.settle (promote definition environment versionId connectionBindings registry)
  | .rollback definition environment => registry.settle (rollback definition environment registry)
  | .elsewhere definitions versions installations =>
    { registry with definitions := definitions, versions := versions, installations := installations }

/-- What a promotion is asked to install: the version, with the bindings given or else those of its graph. -/
def Registry.asked (registry : Registry) (versionId : String) (connectionBindings : Option (Dict Json)) :
    List Deployed :=
  match (registry.getVersion versionId).map (fun version => promotedBindings version connectionBindings) with
  | some (.ok bindings) => [⟨versionId, bindings⟩]
  | _ => []

def Place.change (place : Place) (registry : Registry) : Request → List (Change Deployed)
  | .promote definition environment versionId connectionBindings =>
    if place.named definition environment ∧
        (promote definition environment versionId connectionBindings registry).isOk then
      (registry.asked versionId connectionBindings).map .make
    else []
  | .rollback definition environment =>
    if place.named definition environment ∧ (rollback definition environment registry).isOk then [.undo] else []
  | .elsewhere .. => []

/-- Requests served one after the other, with the history of a place; `allowed` limits them. -/
inductive Served (place : Place) (allowed : List (Change Deployed) → Request → Prop) (start : Registry) :
    Registry → List (Change Deployed) → Prop
  | start : Served place allowed start start []
  | next {registry : Registry} {history : List (Change Deployed)} (request : Request)
      (before : Served place allowed start registry history) (may : allowed history request) :
      Served place allowed start (registry.perform request) (place.change registry request ++ history)

def Registry.Fresh (registry : Registry) (place : Place) : Prop :=
  registry.getDeployment place.workflowId place.environment = none ∧
    registry.promotions place.workflowId place.environment = []

instance (registry : Registry) (place : Place) : Decidable (registry.Fresh place) := by
  unfold Registry.Fresh
  infer_instance

/-- No rollback of the place happens while its newest two promotions are not the newest two in effect. -/
def Place.Careful (place : Place) (history : List (Change Deployed)) : Request → Prop
  | .rollback definition environment => place.named definition environment → Settled history
  | _ => True

variable {history : List (Change Deployed)} {registry : Registry} {deployment : WorkflowEnvironmentDeployment}
  {place : Place} {row : WorkflowEnvironmentDeployment} {definition : WorkflowDefinition}

theorem find?_replaced_self {rows : List WorkflowEnvironmentDeployment}
    (present : (rows.find? fun old => old.workflowId = row.workflowId ∧ old.environment = row.environment).isSome = true) :
    (rows.map fun old => if old.workflowId = row.workflowId ∧ old.environment = row.environment then row
      else old).find? (fun old => old.workflowId = row.workflowId ∧ old.environment = row.environment) =
        some row := by
  induction rows with
  | nil => simp at present
  | cons old rest ih =>
    by_cases same : old.workflowId = row.workflowId ∧ old.environment = row.environment
    · simp [same]
    · grind

theorem find?_replaced_other (rows : List WorkflowEnvironmentDeployment)
    {workflowId env : String} (apart : ¬(row.workflowId = workflowId ∧ row.environment = env)) :
    (rows.map fun old => if old.workflowId = row.workflowId ∧ old.environment = row.environment then row
      else old).find? (fun old => old.workflowId = workflowId ∧ old.environment = env) =
        rows.find? (fun old => old.workflowId = workflowId ∧ old.environment = env) := by
  induction rows with
  | nil => rfl
  | cons old rest ih =>
    by_cases same : old.workflowId = row.workflowId ∧ old.environment = row.environment
    · simp_all
    · rw [map_cons, if_neg same, find?_cons, find?_cons, ih]

theorem getDeployment_deploy (registry : Registry) (row : WorkflowEnvironmentDeployment) (workflowId env : String) :
    (registry.deploy row).getDeployment workflowId env =
      if row.workflowId = workflowId ∧ row.environment = env then some row
      else registry.getDeployment workflowId env := by
  by_cases here : row.workflowId = workflowId ∧ row.environment = env
  · obtain ⟨rfl, rfl⟩ := here
    rw [if_pos (And.intro rfl rfl)]
    unfold Registry.deploy
    split
    · rename_i present
      exact find?_replaced_self present
    · rename_i absent
      have missing : registry.getDeployment row.workflowId row.environment = none := by simpa using absent
      unfold Registry.getDeployment at missing ⊢
      rw [find?_append, missing]
      simp
  · unfold Registry.deploy Registry.getDeployment
    split
    · exact find?_replaced_other registry.deployments here
    · simp [here]

@[simp] theorem promotions_deploy (registry : Registry) (row : WorkflowEnvironmentDeployment) (workflowId env : String) :
    (registry.deploy row).promotions workflowId env = registry.promotions workflowId env := by
  unfold Registry.deploy
  split <;> rfl

@[simp] theorem getDeployment_add (registry : Registry) (event : WorkflowEnvironmentDeploymentEvent)
    (workflowId env : String) :
    (registry.add event).getDeployment workflowId env = registry.getDeployment workflowId env := rfl

theorem promotions_add (registry : Registry) (event : WorkflowEnvironmentDeploymentEvent) (workflowId env : String) :
    (registry.add event).promotions workflowId env =
      if event.workflowId = workflowId ∧ event.environment = env ∧ event.action = "promote" then
        event :: registry.promotions workflowId env
      else registry.promotions workflowId env := by
  simp [Registry.add, Registry.promotions, filter_cons]

theorem getVersion_id {versionId : String} {version : WorkflowVersion}
    (found : registry.getVersion versionId = some version) : version.id = versionId := by
  unfold Registry.getVersion at found
  split at found
  · cases found
  · simpa using find?_some found

def Registry.promoted (registry : Registry) (place : Place) : List Deployed :=
  (registry.promotions place.workflowId place.environment).map (·.deployed)

theorem at_installed (registry : Registry) (row : WorkflowEnvironmentDeployment)
    (event : WorkflowEnvironmentDeploymentEvent) (place : Place) :
    ((registry.deploy row).add event).at place =
      if row.workflowId = place.workflowId ∧ row.environment = place.environment then some row.deployed
      else registry.at place := by
  unfold Registry.at
  rw [getDeployment_add, getDeployment_deploy]
  split <;> rfl

theorem promoted_installed (registry : Registry) (row : WorkflowEnvironmentDeployment)
    (event : WorkflowEnvironmentDeploymentEvent) (place : Place) :
    ((registry.deploy row).add event).promoted place =
      (if event.workflowId = place.workflowId ∧ event.environment = place.environment ∧ event.action = "promote" then
        [event.deployed] else []) ++ registry.promoted place := by
  unfold Registry.promoted
  rw [promotions_add, promotions_deploy]
  split <;> rfl

theorem writePromotion_effect (registry : Registry) (workflowId env versionId : String) (bindings : Dict Json)
    (place : Place) :
    (registry.writePromotion workflowId env versionId bindings).at place =
        (if workflowId = place.workflowId ∧ env = place.environment then some ⟨versionId, bindings⟩
        else registry.at place) ∧
      (registry.writePromotion workflowId env versionId bindings).promoted place =
        (if workflowId = place.workflowId ∧ env = place.environment then [⟨versionId, bindings⟩] else []) ++
          registry.promoted place := by
  unfold Registry.writePromotion
  rw [at_installed, promoted_installed]
  simp only [and_true]
  exact ⟨rfl, rfl⟩

theorem promote_ok {environment versionId : String}
    {connectionBindings : Option (Dict Json)} {registry after : Registry}
    (ok : promote definition environment versionId connectionBindings registry = .ok (deployment, after)) :
    ∃ version bindings, registry.getVersion versionId = some version ∧
      promotedBindings version connectionBindings = .ok bindings ∧
      deployment.deployed = ⟨versionId, bindings⟩ ∧
      ∀ place : Place, after.at place =
          (if place.named definition environment then some ⟨versionId, bindings⟩ else registry.at place) ∧
        after.promoted place = (if place.named definition environment then [⟨versionId, bindings⟩] else []) ++
          registry.promoted place := by
  obtain ⟨env, normal, ok⟩ := except_bind_ok ok
  cases found : (registry.getVersion versionId).filter (fun version => version.workflowId = definition.id) with
  | none => simp [found] at ok
  | some version =>
    have read : registry.getVersion versionId = some version := (Option.filter_eq_some_iff.mp found).1
    have same := getVersion_id read
    simp only [found] at ok
    split at ok
    · cases ok
    obtain ⟨bindings, given, ok⟩ := except_bind_ok ok
    obtain ⟨validation, _, ok⟩ := except_bind_ok ok
    split at ok
    · cases ok
    have named (place : Place) : place.named definition environment ↔
        definition.id = place.workflowId ∧ env = place.environment := by
      simp [Place.named, normal, Except.toOption]
    have effect (place : Place) := writePromotion_effect registry definition.id env version.id bindings place
    simp only [same, ← named] at effect
    obtain ⟨rfl, rfl⟩ := Prod.mk.inj (Except.ok.inj ok)
    refine ⟨version, bindings, read, given, by rw [← same]; rfl, fun place => ?_⟩
    rw [same]
    split <;> exact effect place

theorem rollback_ok {environment : String} {registry after : Registry}
    (ok : rollback definition environment registry = .ok (deployment, after)) (place : Place) :
    after.promoted place = registry.promoted place ∧
      if place.named definition environment then
        ∃ newest older, registry.promoted place = newest :: deployment.deployed :: older ∧
          after.at place = some deployment.deployed ∧ (registry.at place).isSome
      else after.at place = registry.at place := by
  obtain ⟨env, normal, ok⟩ := except_bind_ok ok
  have named : place.named definition environment ↔
      definition.id = place.workflowId ∧ env = place.environment := by
    simp [Place.named, normal, Except.toOption]
  split at ok
  · rename_i newest previous older promotions
    split at ok
    · cases ok
    rename_i current found
    obtain ⟨rfl, rfl⟩ := Prod.mk.inj (Except.ok.inj ok)
    have here : current.workflowId = definition.id ∧ current.environment = env := by
      simpa using find?_some found
    rw [promoted_installed, at_installed]
    refine ⟨by simp, ?_⟩
    simp only [here.1, here.2, ← named]
    by_cases placed : place.named definition environment
    · obtain ⟨id, env'⟩ := named.mp placed
      rw [if_pos placed, if_pos placed]
      refine ⟨newest.deployed, older.map (·.deployed), ?_, rfl, ?_⟩
      · unfold Registry.promoted
        rw [← id, ← env', promotions]
        rfl
      · simp_all [Registry.at]
    · rw [if_neg placed, if_neg placed]
  · cases ok

structure Place.Follows (place : Place) (registry : Registry) (history : List (Change Deployed)) : Prop where
  promoted : registry.promoted place = made history
  current : registry.at place = (inEffect history).head?

theorem change_promote (place : Place) (registry : Registry) (definition : WorkflowDefinition)
    (environment versionId : String) (connectionBindings : Option (Dict Json)) :
    place.change registry (.promote definition environment versionId connectionBindings) =
      if place.named definition environment ∧
          (promote definition environment versionId connectionBindings registry).isOk then
        (registry.asked versionId connectionBindings).map .make
      else [] := rfl

theorem change_rollback (place : Place) (registry : Registry) (definition : WorkflowDefinition) (environment : String) :
    place.change registry (.rollback definition environment) =
      if place.named definition environment ∧ (rollback definition environment registry).isOk then [.undo]
      else [] := rfl

theorem Place.Follows.promote (follows : place.Follows registry history) (definition : WorkflowDefinition)
    (environment versionId : String) (connectionBindings : Option (Dict Json)) :
    place.Follows (registry.perform (.promote definition environment versionId connectionBindings))
      (place.change registry (.promote definition environment versionId connectionBindings) ++ history) := by
  rw [change_promote]
  unfold Registry.perform
  dsimp only
  cases ran : Workflow.promote definition environment versionId connectionBindings registry with
  | error error => rwa [if_neg (fun done => Bool.noConfusion done.2)]
  | ok result =>
    obtain ⟨version, bindings, found, given, _, effect⟩ := promote_ok ran
    obtain ⟨installed, recorded⟩ := effect place
    have asked : registry.asked versionId connectionBindings = [⟨versionId, bindings⟩] := by
      simp [Registry.asked, found, given]
    by_cases named : place.named definition environment
    · rw [if_pos named] at installed recorded
      rw [if_pos ⟨named, rfl⟩, asked]
      constructor
      · exact recorded.trans (congrArg _ follows.promoted)
      · exact installed
    · rw [if_neg named] at installed recorded
      rw [if_neg (fun done => named done.1)]
      exact ⟨recorded.trans follows.promoted, installed.trans follows.current⟩

theorem Place.Follows.rollback (follows : place.Follows registry history) (definition : WorkflowDefinition)
    (environment : String) (settled : place.named definition environment → Settled history) :
    place.Follows (registry.perform (.rollback definition environment))
      (place.change registry (.rollback definition environment) ++ history) := by
  rw [change_rollback]
  unfold Registry.perform
  dsimp only
  cases ran : Workflow.rollback definition environment registry with
  | error error => rwa [if_neg (fun done => Bool.noConfusion done.2)]
  | ok result =>
    obtain ⟨kept, effect⟩ := rollback_ok ran place
    by_cases named : place.named definition environment
    · rw [if_pos named] at effect
      obtain ⟨newest, older, promotions, restored, _⟩ := effect
      obtain ⟨rest, standing⟩ := (settled named).previous (follows.promoted.symm.trans promotions)
      rw [if_pos ⟨named, rfl⟩]
      constructor
      · exact kept.trans follows.promoted
      · rwa [singleton_append, inEffect_undo, standing]
    · rw [if_neg named] at effect
      rw [if_neg (fun done => named done.1)]
      exact ⟨kept.trans follows.promoted, effect.trans follows.current⟩

theorem Place.Follows.perform
    (follows : place.Follows registry history) (request : Request) (careful : place.Careful history request) :
    place.Follows (registry.perform request) (place.change registry request ++ history) := by
  cases request with
  | promote definition environment versionId connectionBindings => exact follows.promote ..
  | rollback definition environment => exact follows.rollback _ _ careful
  | elsewhere definitions versions installations => exact ⟨follows.promoted, follows.current⟩

theorem Served.follows {start registry : Registry}
    (fresh : start.Fresh place) (served : Served place place.Careful start registry history) :
    place.Follows registry history := by
  induction served with
  | start =>
    obtain ⟨undeployed, unpromoted⟩ := fresh
    constructor
    · simp [Registry.promoted, unpromoted, made]
    · simp [Registry.at, undeployed, inEffect]
  | next request before may ih => exact ih.perform request may

/-- After any requests for any workflows and environments, a rollback of a place sets its deployment back to what
    ran there before the newest promotion still in effect. -/
theorem rollback_undoes_last_promotion {place : Place} {start registry : Registry} {history : List (Change Deployed)}
    (fresh : start.Fresh place) (served : Served place place.Careful start registry history) :
    registry.at place = (inEffect history).head? ∧
      ∀ (definition : WorkflowDefinition) (environment : String) (deployment : WorkflowEnvironmentDeployment)
        (after : Registry), place.named definition environment → Settled history →
        rollback definition environment registry = .ok (deployment, after) →
        ∃ undone previous older, inEffect history = undone :: previous :: older ∧
          registry.at place = some undone ∧ deployment.deployed = previous ∧ after.at place = some previous := by
  have follows := served.follows fresh
  refine ⟨follows.current, ?_⟩
  intro definition environment deployment after named settled ran
  obtain ⟨_, effect⟩ := rollback_ok ran place
  rw [if_pos named] at effect
  obtain ⟨newest, older, promotions, restored, _⟩ := effect
  obtain ⟨rest, standing⟩ := settled.previous (follows.promoted.symm.trans promotions)
  refine ⟨newest, deployment.deployed, rest, standing, ?_, rfl, restored⟩
  rw [follows.current, standing]
  rfl

def flow : WorkflowDefinition := ⟨"flow", "owner", false, none, none⟩

def releases : Registry :=
  { versions := ["a", "b", "c"].map fun id => ⟨id, "flow", [], [], none, true⟩ }

def stagingOfFlow : Place := ⟨"flow", "staging"⟩

def promoting (versionId : String) : Request := .promote flow "staging" versionId none

def rollingBack : Request := .rollback flow "staging"

def promotedTwice : Registry := (releases.perform (promoting "a")).perform (promoting "b")

def rolledBackOnce : Registry := (promotedTwice.perform (promoting "c")).perform rollingBack

theorem promotedTwice_served {allowed : List (Change Deployed) → Request → Prop}
    (may : ∀ history versionId, allowed history (promoting versionId)) :
    Served stagingOfFlow allowed releases promotedTwice [.make ⟨"b", []⟩, .make ⟨"a", []⟩] := by
  have none : Served stagingOfFlow allowed releases releases [] := .start
  have first := none.next (promoting "a") (may ..)
  have second := first.next (promoting "b") (may ..)
  have history : stagingOfFlow.change (releases.perform (promoting "a")) (promoting "b") ++
      (stagingOfFlow.change releases (promoting "a") ++ []) = [.make ⟨"b", []⟩, .make ⟨"a", []⟩] := by
    decide +kernel
  rwa [history] at second

theorem rollback_restores_first : promotedTwice.at stagingOfFlow = some ⟨"b", []⟩ ∧
    ∃ deployment after, rollback flow "staging" promotedTwice = .ok (deployment, after) ∧
      deployment.deployed = ⟨"a", []⟩ ∧ after.at stagingOfFlow = some ⟨"a", []⟩ := by
  have fresh : releases.Fresh stagingOfFlow := by decide +kernel
  have served : Served stagingOfFlow stagingOfFlow.Careful releases promotedTwice
      [.make ⟨"b", []⟩, .make ⟨"a", []⟩] := promotedTwice_served fun _ _ => trivial
  obtain ⟨current, restores⟩ := rollback_undoes_last_promotion fresh served
  refine ⟨current, ?_⟩
  cases ran : rollback flow "staging" promotedTwice with
  | error error =>
    have possible : (rollback flow "staging" promotedTwice).isOk = true := by decide +kernel
    rw [ran] at possible
    cases possible
  | ok result =>
    obtain ⟨deployment, after⟩ := result
    obtain ⟨undone, previous, older, standing, _, restored, placed⟩ :=
      restores flow "staging" deployment after (by decide +kernel) (by decide) ran
    simp_all

theorem second_rollback_undoes_nothing :
    Served stagingOfFlow (fun _ _ => True) releases rolledBackOnce
        [.undo, .make ⟨"c", []⟩, .make ⟨"b", []⟩, .make ⟨"a", []⟩] ∧
      inEffect [.undo, .make ⟨"c", []⟩, .make ⟨"b", []⟩, .make ⟨"a", []⟩] =
        [(⟨"b", []⟩ : Deployed), ⟨"a", []⟩] ∧
      rolledBackOnce.at stagingOfFlow = some ⟨"b", []⟩ ∧
      (rollback flow "staging" rolledBackOnce).toOption.map (fun result => result.2.at stagingOfFlow) =
        some (some ⟨"b", []⟩) := by
  have third := (promotedTwice_served fun _ _ => trivial : Served stagingOfFlow (fun _ _ => True) releases
    promotedTwice _).next (promoting "c") trivial
  have fourth := third.next rollingBack trivial
  exact ⟨fourth, rfl, by decide +kernel, by decide +kernel⟩

end Troop.Workflow
