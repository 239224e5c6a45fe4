import Troop.Workflow.Runtime

namespace Troop.Workflow

inductive Change where
  | user (id : String)
  | definition (row : WorkflowDefinition)
  | version (row : WorkflowVersion)
  | deployment (row : WorkflowEnvironmentDeployment)
  | skill (row : Skill)
  | skillVersion (row : SkillVersion)
  | approval (row : ApprovalRequest)
  | taskRun (row : TaskRun)
deriving DecidableEq

def sameDeployment (a b : WorkflowEnvironmentDeployment) : Bool :=
  a.workflowId = b.workflowId ∧ a.environment = b.environment

def Change.apply (db : Db) : Change → Db
  | .user id => { db with users := id :: db.users }
  | .definition row => { db with definitions := db.definitions.set row.id row }
  | .version row => { db with versions := db.versions.set row.id row }
  | .deployment row =>
    { db with deployments := row :: db.deployments.filter (fun other => ¬ sameDeployment other row) }
  | .skill row => { db with skills := db.skills.set row.id row }
  | .skillVersion row =>
    { db with skillVersions := row :: db.skillVersions.filter (fun other => other.id ≠ row.id) }
  | .approval row => { db with approvals := db.approvals.set row.id row }
  | .taskRun row => { db with taskRuns := db.taskRuns.set row.id row }

/-- `assert_mutable`: a published version is never written again. -/
def Change.allowed (db : Db) : Change → Prop
  | .version row => ∀ old, db.versions.get? row.id = some old → old.isPublished = true → old = row
  | _ => True

structure StartRequest where
  owner : String
  workflowId : String
  projectId : Option String
  taskId : Option String
  input : Dict Json
deriving DecidableEq

def StartRequest.production (request : StartRequest) (environment : String) : NewRun :=
  { owner := request.owner, workflowId := request.workflowId, projectId := request.projectId,
    taskId := request.taskId, input := request.input, testMode := false, versionId := none,
    environment := environment, parent := none }

def StartRequest.test (request : StartRequest) (versionId : Option String) : NewRun :=
  { owner := request.owner, workflowId := request.workflowId, projectId := request.projectId,
    taskId := request.taskId, input := request.input, testMode := true, versionId := versionId,
    environment := "prod", parent := none }

/-- One call of the service, one delivery of a hook, or one change made elsewhere. The session of a
    hook belongs to its caller, which afterwards commits it or not. -/
inductive Label where
  | start (request : StartRequest) (environment : String)
  | startTest (request : StartRequest) (versionId : Option String)
  | resume (owner runId : String) (given : Resumption)
  | reject (owner runId approvalId : String)
  | approvalDecided (approvalId : String) (committed : Bool)
  | taskRunTerminal (taskRunId : String) (status : Option TaskStatus) (committed : Bool)
  | delayElapsed (runId nodeId owner : String) (expectedResumeAt : Option String)
  | changed (change : Change)
  | tick (now : Int)

def Session.ends (committed : Bool) (w : World) : World :=
  if committed then { w with committed := w.db } else { w with db := w.committed }

def called {α : Type} (program : Session α) (w : World) : World :=
  match program.exec w with
  | (.ok _, after) => Session.ends true after
  | (.error _, after) => Session.ends false after

def delivered (program : Session PUnit) (committed : Bool) (w : World) : World :=
  Session.ends committed (program.exec w).2

def Label.next (env : Env) (w : World) : Label → World
  | .start request environment => called (startRun env (request.production environment)) w
  | .startTest request versionId => called (startRun env (request.test versionId)) w
  | .resume owner runId given => called (resumeRun env (service env) owner runId given) w
  | .reject owner runId approvalId =>
    called (applyApprovalRejection env (service env) owner runId approvalId) w
  | .approvalDecided approvalId committed => delivered (onApprovalDecided env approvalId) committed w
  | .taskRunTerminal taskRunId status committed =>
    delivered (onTaskRunTerminal env taskRunId status) committed w
  | .delayElapsed runId nodeId owner expected =>
    called (resumeWorkflowAfterDelay env runId nodeId owner expected) w
  | .changed change => { w with db := change.apply w.db, committed := change.apply w.committed }
  | .tick now => { w with now := max w.now now }

def Label.enabled (w : World) : Label → Prop
  | .changed change => change.allowed w.db
  | _ => True

structure Terms where
  starts : NewRun → Prop
  changes : Change → Prop

def Terms.supplying (good : Dict Json → Prop) (graphs : WorkflowVersion → Prop) : Terms where
  starts new := good new.input
  changes
    | .taskRun row => good (agentUpdate row.outputPayloadJson)
    | .version row => graphs row
    | _ => True

def Label.fits (terms : Terms) : Label → Prop
  | .start request environment => terms.starts (request.production environment)
  | .startTest request versionId => terms.starts (request.test versionId)
  | .changed change => terms.changes change
  | _ => True

/-- The states the service can be in, when every run started and every change made elsewhere was
    within the terms. -/
inductive Run (env : Env) (terms : Terms) : World → Prop
  | init : Run env terms {}
  | step {w : World} {label : Label} (earlier : Run env terms w) (possible : label.enabled w)
      (fits : label.fits terms) : Run env terms (label.next env w)

def World.after (env : Env) : List Label → World → World
  | [], w => w
  | label :: rest, w => World.after env rest (label.next env w)

def Possible (env : Env) (terms : Terms) : List Label → World → Prop
  | [], _ => True
  | label :: rest, w => label.enabled w ∧ label.fits terms ∧ Possible env terms rest (label.next env w)

theorem Run.after {env : Env} {terms : Terms} {labels : List Label} :
    ∀ {w : World}, Run env terms w → Possible env terms labels w → Run env terms (w.after env labels) := by
  induction labels with
  | nil => exact fun run _ => run
  | cons label rest ih => exact fun run possible => ih (run.step possible.1 possible.2.1) possible.2.2

def Terms.any : Terms := ⟨fun _ => True, fun _ => True⟩

def stillEnv : Env where
  uuid4 n := String.ofList (List.replicate (n + 1) 'r')
  uuid4_injective := by
    intro m n same
    simpa using congrArg (fun text => text.toList.length) same
  isoformat _ := "2026-01-01T00:00:00"
  fromisoformat _ := some 0
  argumentsHash _ := "hash"
  proposedEffect _ arguments := (arguments, "hash")
  isExternalMutatingTool _ := true
  executeTool _ _ := .ok [("status", .str "ok")]
  startTask _ _ _ := .ok []
  setOrder := id
  setOrder_perm _ := .refl _
  nesting := 3
  hookDepth := 2

def plainNode (id type : String) (config : Dict Json) : Json :=
  .obj [("id", .str id), ("type", .str type), ("config", .obj config)]

def plainEdge (source target : String) : Json := .obj [("from", .str source), ("to", .str target)]

def published (id : String) (nodes edges : List Json) (entry : String) : WorkflowVersion :=
  { id, workflowId := id, nodesJson := nodes, edgesJson := edges, entryNodeId := some entry, isPublished := true }

def publishedDefinition (version : WorkflowVersion) : WorkflowDefinition :=
  { id := version.id, ownerId := "owner", isTemplate := false, draftVersionId := none,
    publishedVersionId := some version.id }

def publishing (version : WorkflowVersion) : List Label :=
  [.changed (.definition (publishedDefinition version)), .changed (.version version)]

theorem publishing_possible {env : Env} {terms : Terms} {version : WorkflowVersion} {rest : List Label}
    (definition : terms.changes (.definition (publishedDefinition version))) (graph : terms.changes (.version version))
    (later : Possible env terms rest (World.after env (publishing version) {})) :
    Possible env terms (publishing version ++ rest) {} := by
  refine ⟨trivial, definition, fun old found => ?_, graph, later⟩
  cases found

def startOf (workflowId : String) (input : Dict Json) : StartRequest :=
  { owner := "owner", workflowId, projectId := some "project", taskId := some "task", input }

end Troop.Workflow
