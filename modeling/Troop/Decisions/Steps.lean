import Troop.Approvals.Desk
import Troop.Projects.Updates
import Troop.Session.Transaction

namespace Troop.Decisions

open Approvals (BoundApproval Decision Receipt isApprovalExpired receivedPayload statusText)
open Projects (actionRequiresApproval isValidTaskTransition taskStatusValues)
open Workflow (Env ApprovalStatus)

structure OrchestratorProject where
  id : String
  ownerId : String
  companyId : Option String
  executionSettings : Dict Json
  autoPromoteApprovedAgentMemory : Bool
  autoIngestBypassesSemanticApproval : Bool
  semanticWriteRequiresApproval : Bool

structure OrchestratorTask where
  id : String
  projectId : String
  status : String
  assignedAgentId : Json
  metadataJson : Dict Json
  resultPayloadJson : Dict Json

structure TaskRun where
  id : String
  projectId : String
  taskId : Option String
  status : String
  errorMessage : Option String

structure AgentMemoryEntry where
  id : String
  ownerId : String
  projectId : Option String
  status : String
  approvedByUserId : Option String
  deletedAt : Option Int

structure SemanticMemoryEntry where
  id : String
  ownerId : String
  projectId : Option String
  /-- the agent memory it was promoted from -/
  agentMemoryId : Option String
  columns : Dict Json

structure GithubIssueLink where
  id : String
  repositoryId : String
  issueNumber : Int
  state : String
  labelsJson : List String
  assigneeLogin : Option String

structure GithubRepository where
  id : String
  connectionId : String

structure GithubConnection where
  id : String
  ownerId : String

structure SyncEvent where
  issueLinkId : String
  action : String
  completed : Bool

structure RunEvent where
  runId : String
  eventType : String

structure AuditLog where
  action : String
  userId : String
  resourceId : String
deriving DecidableEq

/-- The tables a decision reads or writes; lists are in the order of creation. -/
structure Db where
  approvals : List BoundApproval
  projects : String → Option OrchestratorProject
  tasks : String → Option OrchestratorTask
  runs : List TaskRun
  memories : String → Option AgentMemoryEntry
  entries : List SemanticMemoryEntry
  issueLinks : String → Option GithubIssueLink
  repositories : String → Option GithubRepository
  connections : String → Option GithubConnection
  /-- the users with a default workspace, and the owners with a default company -/
  workspaces : List String
  companies : List String
  /-- the payloads of the approvals that promotions have asked for -/
  suggested : List (Dict Json)
  syncEvents : List SyncEvent
  runEvents : List RunEvent
  auditLogs : List AuditLog

namespace Db

variable (db : Db)

def putApproval (row : BoundApproval) : Db :=
  { db with approvals := db.approvals.map fun other => if other.id = row.id then row else other }

def putTask (row : OrchestratorTask) : Db := { db with tasks := Function.update db.tasks row.id (some row) }
def putMemory (row : AgentMemoryEntry) : Db := { db with memories := Function.update db.memories row.id (some row) }
def putLink (row : GithubIssueLink) : Db := { db with issueLinks := Function.update db.issueLinks row.id (some row) }
def putProject (row : OrchestratorProject) : Db := { db with projects := Function.update db.projects row.id (some row) }

def putRun (row : TaskRun) : Db :=
  { db with runs := db.runs.map fun other => if other.id = row.id then row else other }

def putEntry (row : SemanticMemoryEntry) : Db :=
  { db with entries := db.entries.map fun other => if other.id = row.id then row else other }

def putPayload (id : String) (payloadJson : Dict Json) : Db :=
  { db with approvals := db.approvals.map fun row => if row.id = id then { row with payloadJson } else row }

def approval? (id : String) : Option BoundApproval := db.approvals.find? fun row => row.id = id

def run? (id : String) : Option TaskRun := db.runs.find? fun run => run.id = id

/-- `get_latest_run_for_task` -/
def latestRun? (projectId taskId : String) : Option TaskRun :=
  db.runs.reverse.find? fun run => run.projectId = projectId ∧ run.taskId = some taskId

def entry? (ownerId id : String) : Option SemanticMemoryEntry :=
  db.entries.find? fun entry => entry.ownerId = ownerId ∧ entry.id = id

end Db

inductive Fault where
  | http (statusCode : Nat) (detail : String)
  | python (error : PyError)
deriving DecidableEq

inductive Stored where
  | blocked
  | duplicate
  | row (entry : SemanticMemoryEntry)

inductive Claim where
  | replayed (receipt : Receipt)
  | claimed

/-- What a decision asks of other services and computes from the rows it has loaded. -/
structure Surroundings where
  env : Env
  now : Int
  accessible : String → BoundApproval → Bool
  eligible : String → BoundApproval → Bool
  /-- the answer about the workspace that the request names, if it names one -/
  namedWorkspace : Option (Option Fault)
  projectReadable : String → OrchestratorProject → Bool
  cachedDenial : String → String → Bool
  /-- the checks of `_persist_semantic_memory_row` before and after it looks for a company -/
  draftFault : Dict Json → Option Fault
  rowFault : OrchestratorProject → Dict Json → Option Fault
  stored : List SemanticMemoryEntry → OrchestratorProject → Dict Json → Stored
  conflicts : List SemanticMemoryEntry → OrchestratorProject → Dict Json → Bool
  /-- `_apply_semantic_entry_updates` -/
  applied : SemanticMemoryEntry → Dict Json → Except Fault SemanticMemoryEntry
  /-- the payload a promotion stores and whether its verdict is "auto", unless it is skipped -/
  promotion : AgentMemoryEntry → Option (Dict Json × Bool)
  blockedHandoff : OrchestratorTask → Dict Json
  claim : BoundApproval → Dict Json → Except String Claim
  /-- the answers of GitHub -/
  comment : GithubIssueLink → Dict Json → Option Receipt
  closes : GithubIssueLink → Bool
  review : GithubIssueLink → Dict Json → Bool
  updates : GithubIssueLink → Dict Json → Bool
  pullRequest : TaskRun → OrchestratorTask → Option (Dict Json)

abbrev Work (α : Type) := Transaction Db Fault α

open Transaction

def refuse {α : Type} (statusCode : Nat) (detail : String) : Work α := .raise (.http statusCode detail)

def orRaise {ε α : Type} (fault : ε → Fault) : Except ε α → Work α
  | .ok value => pure value
  | .error error => .raise (fault error)

def refuseIf : Option Fault → Work PUnit
  | none => pure ⟨⟩
  | some fault => .raise fault

def given (column : Option String) : Option String := column.filter fun text => text ≠ ""

section Steps

variable (around : Surroundings)

def moved (task : OrchestratorTask) (next : String) : OrchestratorTask :=
  let task := { task with status := next }
  if next = "blocked" then { task with metadataJson := around.blockedHandoff task } else task

def reportedRun (task : OrchestratorTask) : Option TaskRun → Work (Option TaskRun)
  | some run => pure (some run)
  | none => rows fun db => db.latestRun? task.projectId task.id

def transitionTaskStatus (task : OrchestratorTask) (next : String) (run : Option TaskRun) : Work OrchestratorTask :=
  if task.status = next then pure task
  else if ¬ isValidTaskTransition task.status next then
    refuse 409 ("Invalid task transition from " ++ task.status ++ " to " ++ next)
  else do
    change fun db => db.putTask (moved around task next)
    match ← reportedRun task run with
    | none => return moved around task next
    | some run =>
      insert fun db => { db with runEvents := db.runEvents ++ [⟨run.id, "task_status_changed"⟩] }
      commits
      return moved around task next

/-- `_emit_run_event`, which refreshes the scratchpad and commits -/
def emitRunEvent (run : TaskRun) (eventType : String) : Work PUnit := do
  insert fun db => { db with runEvents := db.runEvents ++ [⟨run.id, eventType⟩] }
  statement
  commits

/-- `resolve_active_workspace`, which makes a default workspace where there is none -/
def resolveActiveWorkspace (userId : String) : Work PUnit := do
  statement
  match around.namedWorkspace with
  | some answer => refuseIf answer
  | none =>
    if userId ∈ (← loaded Db.workspaces) then return
    insert fun db => { db with workspaces := userId :: db.workspaces }
    commits

/-- The project as `get_project` finds it. -/
def readProject (userId projectId : String) (db : Db) : Except Fault OrchestratorProject :=
  if around.cachedDenial userId projectId then .error (.http 404 "Project not found")
  else match db.projects projectId with
    | none => .error (.http 404 "Project not found")
    | some project =>
      if around.projectReadable userId project then .ok project else .error (.http 404 "Project not found")

def getProject (userId projectId : String) : Work OrchestratorProject := do
  resolveActiveWorkspace around userId
  orRaise id (← rows (readProject around userId projectId))

def ensureCompanyIdForProject (project : OrchestratorProject) : Work PUnit := do
  if project.companyId = none then
    statement
    if project.ownerId ∉ (← loaded Db.companies) then
      insert fun db => { db with companies := project.ownerId :: db.companies }
      commits
    change fun db => db.putProject { project with companyId := some project.ownerId }

def persistSemanticMemoryRow (project : OrchestratorProject) (payload : Dict Json) : Work PUnit := do
  refuseIf (around.draftFault payload)
  ensureCompanyIdForProject project
  refuseIf (around.rowFault project payload)
  statement
  match ← rows fun db => around.stored db.entries project payload with
  | .blocked => refuse 422 "Memory content was blocked by privacy filters"
  | .duplicate => statement
  | .row entry =>
    insert fun db => { db with entries := db.entries ++ [entry] }
    commits
    statement

def createSemanticMemoryEntryForProject (userId projectId : String) (payload : Dict Json) (bypass : Bool) :
    Work PUnit := do
  let project ← getProject around userId projectId
  let conflict ← rows fun db => around.conflicts db.entries project payload
  let gated := actionRequiresApproval project.executionSettings "write_memory" || project.semanticWriteRequiresApproval
  if (gated && !bypass) || conflict then
    insert fun db => { db with suggested := db.suggested ++ [payload] }
    commits
    statement
  else persistSemanticMemoryRow around project payload

def maybePromoteAgentMemoryToSemantic (userId : String) (project : OrchestratorProject) (memory : AgentMemoryEntry) :
    Work PUnit := do
  if project.autoPromoteApprovedAgentMemory then
    let promoted ← rows fun db =>
      db.entries.any fun entry => entry.projectId = some project.id ∧ entry.agentMemoryId = some memory.id
    if promoted then return
    match around.promotion memory with
    | none => return
    | some (payload, auto) =>
      createSemanticMemoryEntryForProject around userId project.id payload
        (project.autoIngestBypassesSemanticApproval && auto)

def decideAgentMemory (userId : String) (decision : Decision) (approval : BoundApproval) : Work PUnit := do
  if (approval.payloadJson.get "memory_entry_id").truthy then
    let found ← rows fun db =>
      (db.memories (approval.payloadJson.get "memory_entry_id").pyStr).filter fun memory => memory.ownerId = userId
    match found, decision with
    | none, _ => return
    | some memory, .rejected =>
      change fun db => db.putMemory { memory with status := "rejected", deletedAt := some around.now }
    | some memory, .approved =>
      let approved := { memory with status := "approved", approvedByUserId := some userId }
      change fun db => db.putMemory approved
      match given memory.projectId with
      | none => return
      | some projectId =>
        match ← rows fun db => db.projects projectId with
        | none => return
        | some project => maybePromoteAgentMemoryToSemantic around userId project approved

/-- The entry that `get_semantic_memory_entry_for_project` finds in a project. -/
def readEntry (projectId entryId : String) (project : OrchestratorProject) (db : Db) : Except Fault SemanticMemoryEntry :=
  match db.entry? project.ownerId entryId with
  | none => .error (.http 404 "Semantic entry not found")
  | some entry =>
    if entry.projectId = some projectId then .ok entry else .error (.http 404 "Semantic entry not found")

def getSemanticMemoryEntryForProject (userId projectId entryId : String) : Work SemanticMemoryEntry := do
  let project ← getProject around userId projectId
  orRaise id (← rows (readEntry projectId entryId project))

def semanticOperation (userId projectId : String) (payload : Dict Json) : Work PUnit := do
  let project ← getProject around userId projectId
  let operation := payload.get "operation"
  if operation = .str "create" then
    persistSemanticMemoryRow around project (← orRaise .python (payload.get "payload").toDict)
  else if operation = .str "update" then
    let entryId := (payload.get "entry_id").strOrEmpty
    let updates ← orRaise .python (payload.get "updates").toDict
    let entry ← getSemanticMemoryEntryForProject around userId projectId entryId
    let updated ← orRaise id (around.applied entry updates)
    change fun db => db.putEntry updated
    commits
    statement
  else if operation = .str "delete" then
    let entryId := (payload.get "entry_id").strOrEmpty
    let entry ← getSemanticMemoryEntryForProject around userId projectId entryId
    insert fun db => { db with entries := db.entries.filter fun other => other.id ≠ entry.id }
    commits

def decideSemanticMemory (userId : String) (decision : Decision) (approval : BoundApproval) : Work PUnit := do
  statement
  match given approval.projectId, decision with
  | some projectId, .approved =>
    semanticOperation around ((given approval.requestedByUserId).getD userId) projectId approval.payloadJson
  | _, _ => return

def taskOf (approval : BoundApproval) : Work (Option OrchestratorTask) :=
  match given approval.taskId with
  | none => pure none
  | some taskId => rows fun db => db.tasks taskId

def assignTask (approval : BoundApproval) : Work PUnit := do
  match ← taskOf approval with
  | none => return
  | some task =>
    change fun db => db.putTask { task with assignedAgentId := approval.payloadJson.get "to_assigned_agent_id" }

def targetStatus (approval : BoundApproval) : String :=
  let asked := ((approval.payloadJson.get "to_status").pyOr (.str "completed")).pyStr
  if asked ∈ taskStatusValues then asked else "completed"

def completeTask (approval : BoundApproval) : Work PUnit := do
  match ← taskOf approval with
  | none => return
  | some task => discard (transitionTaskStatus around task (targetStatus approval) none)

def sharedMetadata (task : OrchestratorTask) (shared : String) : Except PyError (Dict Json) := do
  let current ← (task.metadataJson.get "memory_coordination").toDict
  return task.metadataJson.set "memory_coordination" (.obj (current.set "shared" (.str shared)))

def shareMemory (approval : BoundApproval) : Work PUnit := do
  match ← taskOf approval with
  | none => return
  | some task =>
    let metadataJson ← orRaise .python (sharedMetadata task (approval.payloadJson.get "shared").strOrEmpty)
    change fun db => db.putTask { task with metadataJson }

end Steps

end Troop.Decisions
