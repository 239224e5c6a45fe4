import Troop.Projects.Dependencies
import Troop.Python.Json

namespace Troop.Projects

/-- An `HTTPException` whose detail is a text or a dict. -/
structure HttpException where
  statusCode : Nat
  detail : Json
deriving DecidableEq

inductive Refusal where
  | http (exception : HttpException)
  | integrity
deriving DecidableEq

/-- A row of `orchestrator_tasks` with its dependency rows; `columns` are the ones besides the status and the
    metadata. -/
structure OrchestratorTask where
  id : String
  status : String
  columns : String → Json
  metadata : Dict Json
  dependencyIds : List String

def OrchestratorTask.setColumn (task : OrchestratorTask) (column : String) (value : Json) : OrchestratorTask :=
  { task with columns := Function.update task.columns column value }

def OrchestratorTask.withMetadata (task : OrchestratorTask) (metadata : Dict Json) : OrchestratorTask :=
  { task with metadata := metadata }

def taskTransitions : List (String × List String) :=
  [("backlog", ["ready", "queued", "planned", "archived", "cancelled"]),
    ("ready", ["planned", "in_progress", "blocked", "archived", "cancelled"]),
    ("queued", ["ready", "planned", "blocked", "failed", "archived", "cancelled"]),
    ("planned", ["in_progress", "blocked", "archived", "failed", "cancelled", "needs_input"]),
    ("in_progress", ["blocked", "needs_input", "needs_review", "needs_approval", "completed", "failed", "planned",
      "cancelled"]),
    ("needs_input", ["in_progress", "planned", "blocked", "cancelled", "archived"]),
    ("blocked", ["planned", "in_progress", "ready", "failed", "archived", "cancelled"]),
    ("needs_review", ["needs_approval", "approved", "planned", "blocked", "failed", "in_progress", "cancelled"]),
    ("needs_approval", ["completed", "approved", "planned", "blocked", "cancelled"]),
    ("approved", ["completed", "planned", "archived", "needs_approval"]),
    ("completed", ["synced_to_github", "planned", "archived", "cancelled"]),
    ("failed", ["planned", "queued", "ready", "archived", "cancelled"]),
    ("synced_to_github", ["archived", "planned", "completed"]),
    ("cancelled", ["backlog", "archived"]),
    ("archived", [])]

def isValidTaskTransition (current next : String) : Bool :=
  current = next || next ∈ (Dict.get? taskTransitions current).getD []

def taskStatusValues : List String := taskTransitions.map Prod.fst ++ taskTransitions.flatMap Prod.snd

def defaultApprovalGates : List String :=
  ["post_to_github", "open_pr", "mark_complete", "change_task_ownership", "write_memory", "use_expensive_model",
    "run_tool"]

def mandatoryApprovalGates : List String := defaultApprovalGates

def normalizeApprovalGates (value : Json) : List String :=
  let selected := match value with
    | .arr items => (items.map fun (item : Json) => Text.strip item.pyStr).filter (· ∈ mandatoryApprovalGates)
    | _ => defaultApprovalGates
  defaultApprovalGates.filter fun gate => gate ∈ selected ∨ gate ∈ mandatoryApprovalGates

def actionRequiresApproval (settings : Dict Json) (actionType : String) : Bool :=
  if actionType ∈ mandatoryApprovalGates then true
  else if Text.lower (Text.strip ((settings.get "autonomy_level").pyOr (.str "assisted")).pyStr) = "autonomous" then
    false
  else actionType ∈ normalizeApprovalGates (settings.get "approval_gates")

/-- What an update of a task depends on besides the task, as the actor sees it. -/
structure Surroundings where
  executionSettings : Dict Json
  /-- the name of an agent that `get_agent` finds -/
  agentName : String → Option String
  isMember : String → Bool
  /-- the tasks and the dependency rows of the project -/
  tasks : List Task
  dependencies : List TaskDependency
  /-- the constraints of the table -/
  storable : OrchestratorTask → Bool
  /-- `_check_task_acceptance_payload` and `_check_task_evidence_bundle_payload`: whether passed, and the checks -/
  acceptance : OrchestratorTask → Bool × Json
  evidence : OrchestratorTask → String → Bool × Json
  /-- `_validate_github_secondary_repository_ids` -/
  secondaryRefusal : List String → Option HttpException
  normalizedTaskMetadata : Json → Dict Json
  normalizedRequiredTools : Json → Json
  normalizedExternalLinks : Json → Json
  /-- the metadata that `_apply_blocked_handoff_suggestion` leaves -/
  blockedHandoff : OrchestratorTask → Dict Json
  /-- the metadata that promoting and archiving the memory of a closed task leave -/
  closedMetadata : OrchestratorTask → Dict Json

inductive Deferred where
  | assignment (toAssignedAgentId : Json)
  | completion (toStatus : String)
deriving DecidableEq

section Update

variable (around : Surroundings)

/-- `_transition_task_status`, up to its run events -/
def transitionRefusal (task : OrchestratorTask) (next : Json) : Option HttpException :=
  if .str task.status = next ∨ isValidTaskTransition task.status next.pyStr then none
  else some ⟨409, .str ("Invalid task transition from " ++ task.status ++ " to " ++ next.pyStr)⟩

def transitioned (task : OrchestratorTask) (next : Json) : OrchestratorTask :=
  if .str task.status = next then task
  else
    let moved := { task with status := next.pyStr }
    if next = .str "blocked" then moved.withMetadata (around.blockedHandoff moved) else moved

/-- `_ensure_project_agent_member` -/
def memberRefusal (agentId : Json) (relationship : String) : Option HttpException :=
  if ¬ agentId.truthy then none
  else if (around.agentName agentId.pyStr).isNone then some ⟨404, .str "Agent not found"⟩
  else if around.isMember agentId.pyStr then none
  else some ⟨422, .str (relationship ++ " agent must be assigned to this project before it can own the task.")⟩

def doneStatuses : List Json := [.str "completed", .str "approved"]

def syncedStatuses : List Json := [.str "synced_to_github", .str "archived"]

def terminalStatuses : List String := ["completed", "archived", "synced_to_github"]

/-- `list(value or [])` of a list of ids -/
def idsOf (value : Json) : List String :=
  match value with
  | .arr items => items.map Json.pyStr
  | _ => []

/-- `[str(x).strip() for x in (value or []) if str(x).strip()]` -/
def strippedIds (value : Json) : List String := ((idsOf value).map Text.strip).filter (· ≠ "")

/-- `_validate_task_dependencies` -/
def dependencyRefusal (task : OrchestratorTask) (dependencyIds : List String) : Option HttpException :=
  let normalized := normalizedDependencies dependencyIds
  match checkNormalized task.id normalized *> checkListed around.tasks normalized *>
      checkAcyclic around.tasks around.dependencies task.id normalized with
  | .ok _ => none
  | .error error => some ⟨error.statusCode, .str error.detail⟩

def fieldRefusal (task : OrchestratorTask) (field : String) (value : Json) : Option HttpException :=
  if field = "dependency_ids" then dependencyRefusal around task (idsOf value)
  else if field = "github_secondary_repository_ids" then around.secondaryRefusal (strippedIds value)
  else if field = "status" then
    if value ∈ doneStatuses ∧ (around.acceptance task).1 = false then
      some ⟨409, .obj [("message", .str "Acceptance checks must pass before the task can be marked done."),
        ("checks", (around.acceptance task).2)]⟩
    else if value ∈ syncedStatuses ∧ (around.evidence task value.pyStr).1 = false then
      some ⟨409, .obj [("message", .str ("Evidence bundle must be complete before moving to " ++ value.pyStr ++ ".")),
        ("checks", (around.evidence task value.pyStr).2)]⟩
    else transitionRefusal task value
  else none

def normalizeTaskPriority (value : Json) : String :=
  if value = .null ∨ value.pyStr = "" then "normal"
  else
    let priority := Text.lower (Text.strip value.pyStr)
    if priority = "medium" then "normal" else priority

/-- What the branch of a field writes; `previous` is the status before the update. -/
def writeField (previous : String) (task : OrchestratorTask) (field : String) (value : Json) : OrchestratorTask :=
  if field = "labels" then task.setColumn "labels_json" value
  else if field = "result_payload" then task.setColumn "result_payload_json" value
  else if field = "metadata" then task.withMetadata (around.normalizedTaskMetadata value)
  else if field = "required_tools" then
    let metadata := task.metadata.set "required_tools" (around.normalizedRequiredTools value)
    task.withMetadata (around.normalizedTaskMetadata (.obj metadata))
  else if field = "external_links" then
    let metadata := task.metadata.set "external_links" (around.normalizedExternalLinks value)
    task.withMetadata (around.normalizedTaskMetadata (.obj metadata))
  else if field = "dependency_ids" then { task with dependencyIds := idsOf value }
  else if field = "github_secondary_repository_ids" then
    task.withMetadata (task.metadata.set "github_secondary_repository_ids" (.arr ((strippedIds value).map Json.str)))
  else if field = "status" then
    let reopened := if previous ∈ terminalStatuses ∧ value ∉ terminalStatuses.map Json.str then
        task.withMetadata ((task.metadata.pop "memory_checkpoint_compacted").pop "memory_low_value_archived")
      else task
    transitioned around reopened value
  else if field = "priority" then task.setColumn "priority" (.str (normalizeTaskPriority value))
  else task.setColumn field value

def applyFields (previous : String) (task : OrchestratorTask) : Dict Json → Except HttpException OrchestratorTask
  | [] => .ok task
  | (field, value) :: rest =>
    match fieldRefusal around task field value with
    | some exception => .error exception
    | none => applyFields previous (writeField around previous task field value) rest

def noteRouting (source : String) (task : OrchestratorTask) (updates : Dict Json) : OrchestratorTask :=
  match updates.get? "assigned_agent_id" with
  | none => task
  | some agentId =>
    if agentId.truthy then
      let name := (around.agentName agentId.pyStr).getD ""
      let note : Dict Json :=
        [("agent_selection_reason", .str ("Task assigned to " ++ name ++ " via " ++
            Text.replaceChar '_' ' ' source ++ ".")),
          ("model_selection_reason", .str ""),
          ("routing_inputs", .obj [("assignment_source", .str source), ("assigned_agent_id", agentId)]),
          ("routing_policy_snapshot", .obj []), ("agent_source", .str "manual_update"), ("model_source", .null)]
      task.withMetadata (task.metadata.set "routing_explainability" (.obj note))
    else task.withMetadata (task.metadata.pop "routing_explainability")

def followUp (previous : String) (task : OrchestratorTask) : OrchestratorTask :=
  if previous ≠ task.status ∧ task.status ∈ terminalStatuses then task.withMetadata (around.closedMetadata task)
  else task

def store (task : OrchestratorTask) : Except Refusal OrchestratorTask :=
  if around.storable task then .ok task else .error .integrity

/-- The gates of `update_task`. -/
def approvalGate (task : OrchestratorTask) (updates : Dict Json) : Option Deferred :=
  if updates.get? "assigned_agent_id" ≠ none ∧ updates.get "assigned_agent_id" ≠ task.columns "assigned_agent_id" ∧
      actionRequiresApproval around.executionSettings "change_task_ownership" then
    some (.assignment (updates.get "assigned_agent_id"))
  else if updates.get "status" ∈ doneStatuses ∧ actionRequiresApproval around.executionSettings "mark_complete" then
    some (.completion (updates.get "status").pyStr)
  else none

/-- `update_task` behind its gates -/
def updateTask (source : String) (task : OrchestratorTask) (updates : Dict Json) : Except Refusal OrchestratorTask := do
  match memberRefusal around (updates.get "assigned_agent_id") "Owner" with
  | some exception => .error (.http exception)
  | none =>
    match memberRefusal around (updates.get "reviewer_agent_id") "Reviewer" with
    | some exception => .error (.http exception)
    | none =>
      let changed ← (applyFields around task.status (noteRouting around source task updates) updates).mapError .http
      let stored ← store around changed
      return followUp around task.status stored

def completionTarget (toStatus : String) : String :=
  let target := if toStatus = "" then "completed" else toStatus
  if target ∈ taskStatusValues then target else "completed"

/-- `decide_approval`, once a deferred update is approved -/
def decideApproval (task : OrchestratorTask) : Deferred → Except Refusal OrchestratorTask
  | .assignment agentId => store around (task.setColumn "assigned_agent_id" agentId)
  | .completion toStatus =>
    let target := Json.str (completionTarget toStatus)
    match transitionRefusal task target with
    | some exception => .error (.http exception)
    | none => store around (transitioned around task target)

def written (previous : String) : OrchestratorTask → Dict Json → OrchestratorTask
  | task, [] => task
  | task, (field, value) :: rest => written previous (writeField around previous task field value) rest

def firstRefusal (previous : String) : OrchestratorTask → Dict Json → Option HttpException
  | _, [] => none
  | task, (field, value) :: rest =>
    (fieldRefusal around task field value).or (firstRefusal previous (writeField around previous task field value) rest)

def updateRefusal (source : String) (task : OrchestratorTask) (updates : Dict Json) : Option HttpException :=
  ((memberRefusal around (updates.get "assigned_agent_id") "Owner").or
    (memberRefusal around (updates.get "reviewer_agent_id") "Reviewer")).or
      (firstRefusal around task.status (noteRouting around source task updates) updates)

def Deferred.change (task : OrchestratorTask) : Deferred → OrchestratorTask
  | .assignment agentId => task.setColumn "assigned_agent_id" agentId
  | .completion toStatus => transitioned around task (.str (completionTarget toStatus))

def Deferred.refusal (task : OrchestratorTask) : Deferred → Option HttpException
  | .assignment _ => none
  | .completion toStatus => transitionRefusal task (.str (completionTarget toStatus))

end Update

section Compared

variable {around : Surroundings} {task : OrchestratorTask} {updates : Dict Json} {deferred : Deferred}
  {source previous : String}

theorem applyFields_eq : applyFields around previous task updates =
    match firstRefusal around previous task updates with
    | some exception => .error exception
    | none => .ok (written around previous task updates) := by
  induction updates generalizing task with
  | nil => rfl
  | cons entry rest ih =>
    obtain ⟨field, value⟩ := entry
    unfold applyFields firstRefusal written
    cases fieldRefusal around task field value with
    | some exception => rfl
    | none => exact ih

theorem updateTask_eq : updateTask around source task updates =
    match updateRefusal around source task updates with
    | some exception => .error (.http exception)
    | none => (store around (written around task.status (noteRouting around source task updates) updates)).map
        (followUp around task.status) := by
  unfold updateTask updateRefusal
  cases memberRefusal around (updates.get "assigned_agent_id") "Owner" with
  | some exception => rfl
  | none =>
    cases memberRefusal around (updates.get "reviewer_agent_id") "Reviewer" with
    | some exception => rfl
    | none =>
      rw [applyFields_eq]
      cases firstRefusal around task.status (noteRouting around source task updates) updates with
      | some exception => rfl
      | none =>
        dsimp only [Option.or, Except.mapError, bind, Except.bind]
        cases store around (written around task.status (noteRouting around source task updates) updates) <;> rfl

theorem decideApproval_eq : decideApproval around task deferred =
    match deferred.refusal task with
    | some exception => .error (.http exception)
    | none => store around (deferred.change around task) := by
  cases deferred with
  | _ => rfl

/-- The update asks for nothing but its deferred field: it is refused as that field is, and what it writes besides
    is there already. -/
structure Deferred.Whole (around : Surroundings) (source : String) (task : OrchestratorTask) (updates : Dict Json)
    (deferred : Deferred) : Prop where
  refusal : updateRefusal around source task updates = deferred.refusal task
  storable : deferred.refusal task = none →
    around.storable (written around task.status (noteRouting around source task updates) updates) =
      around.storable (deferred.change around task)
  writes : deferred.refusal task = none → around.storable (deferred.change around task) = true →
    followUp around task.status (written around task.status (noteRouting around source task updates) updates) =
      deferred.change around task

theorem Deferred.whole_iff : decideApproval around task deferred = updateTask around source task updates ↔
    deferred.Whole around source task updates := by
  rw [decideApproval_eq, updateTask_eq]
  constructor
  · intro same
    cases late : deferred.refusal task with
    | some exception =>
      rw [late] at same
      cases early : updateRefusal around source task updates with
      | some other =>
        rw [early] at same
        have equal : exception = other := Refusal.http.inj (Except.error.inj same)
        exact ⟨by rw [early, late, equal], by simp [late], by simp [late]⟩
      | none =>
        rw [early] at same
        unfold store at same
        dsimp only at same
        split at same <;> cases same
    | none =>
      rw [late] at same
      cases early : updateRefusal around source task updates with
      | some other =>
        rw [early] at same
        unfold store at same
        dsimp only at same
        split at same <;> cases same
      | none =>
        rw [early] at same
        refine ⟨by rw [early, late], fun _ => ?_, fun _ stored => ?_⟩
        · unfold store at same
          cases first : around.storable (deferred.change around task) <;>
            cases second : around.storable
              (written around task.status (noteRouting around source task updates) updates) <;>
            simp [first, second, Except.map] at same ⊢
        · unfold store at same
          dsimp only at same
          rw [if_pos stored] at same
          split at same
          · exact (Except.ok.inj same).symm
          · cases same
  · intro whole
    cases late : deferred.refusal task with
    | some exception => rw [whole.refusal, late]
    | none =>
      rw [whole.refusal, late]
      have storable := whole.storable late
      unfold store
      cases stored : around.storable (deferred.change around task) with
      | true =>
        rw [storable, stored, if_pos rfl, if_pos rfl]
        exact congrArg Except.ok (whole.writes late stored).symm
      | false =>
        rw [storable, stored]
        rfl

/-- Where an update waits for an approval, approving it has the outcome of the update without gates. -/
def AsImmediate (around : Surroundings) (source : String) (task : OrchestratorTask) (updates : Dict Json) : Prop :=
  ∀ deferred, approvalGate around task updates = some deferred →
    decideApproval around task deferred = updateTask around source task updates

end Compared

def withOutsider : Surroundings where
  executionSettings := []
  agentName := some
  isMember agentId := agentId ≠ "outsider"
  tasks := [⟨"task-1", "project-1"⟩]
  dependencies := []
  storable _ := true
  acceptance _ := (true, .arr [])
  evidence _ _ := (true, .arr [])
  secondaryRefusal _ := none
  normalizedTaskMetadata value := value.asObj?.getD []
  normalizedRequiredTools := id
  normalizedExternalLinks := id
  blockedHandoff task := task.metadata
  closedMetadata task := task.metadata

def openTask : OrchestratorTask := ⟨"task-1", "planned", fun _ => .null, [], []⟩

end Troop.Projects
