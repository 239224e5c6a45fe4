import Troop.Decisions.Steps

namespace Troop.Decisions

open Approvals (BoundApproval Decision Receipt isApprovalExpired receivedPayload statusText)
open Workflow (ApprovalStatus)
open Transaction

section Github

variable (around : Surroundings)

def authorizedLink (ownerId : String) (approval : BoundApproval) (db : Db) : Except Fault GithubIssueLink :=
  match db.issueLinks (approval.issueLinkId.getD "") with
  | none => .error (.http 404 "Issue link not found")
  | some link =>
    match db.repositories link.repositoryId with
    | none => .error (.http 404 "Repository not found")
    | some repository =>
      match db.connections repository.connectionId with
      | none => .error (.http 404 "Connection not found")
      | some connection =>
        if connection.ownerId = ownerId then .ok link else .error (.http 404 "Connection not found")

/-- `str(approved_by or requested_by or "")` -/
def postingOwner (approval : BoundApproval) : String :=
  ((given approval.approvedByUserId).orElse fun _ => given approval.requestedByUserId).getD ""

def commentBody (approval : BoundApproval) : Json :=
  (approval.payloadJson.get "body").pyOr (approval.payloadJson.get "draft_comment")

def closesIssue (approval : BoundApproval) : Bool := (approval.payloadJson.get "close_issue").truthy

def recordSync (link : GithubIssueLink) (action : String) (completed : Bool) : Work PUnit :=
  insert fun db => { db with syncEvents := db.syncEvents ++ [⟨link.id, action, completed⟩] }

def completeApproved (task : OrchestratorTask) : Work OrchestratorTask :=
  if task.status = "approved" then transitionTaskStatus around task "completed" none else pure task

def syncCommentedTask (approval : BoundApproval) : Work PUnit := do
  match ← taskOf approval with
  | none => return
  | some task =>
    let task ← completeApproved around task
    if task.status = "completed" then
      discard (transitionTaskStatus around task "synced_to_github" none)

def postApprovedGithubComment (approval : BoundApproval) : Work PUnit := do
  if postingOwner approval = "" ∨ approval.issueLinkId.getD "" = "" then
    refuse 422 "Approval is missing owner or issue link"
  else if (approval.payloadJson.get "posted_comment_id").truthy then
    return
  else
    statement
    statement
    let link ← orRaise id (← rows (authorizedLink (postingOwner approval) approval))
    if ¬ (commentBody approval).truthy then
      refuse 422 "Approval payload does not include a comment body"
    else
      statement
      match ← orRaise (Fault.http 409) (around.claim approval approval.payloadJson) with
      | .replayed receipt =>
        change fun db => db.putPayload approval.id (approval.payloadJson.update receipt.payload)
      | .claimed =>
        statement
        statement
        match around.comment link approval.payloadJson with
        | none =>
          statement
          refuse 502 "Failed to post GitHub comment"
        | some receipt =>
          statement
          change fun db => db.putPayload approval.id (approval.payloadJson.update receipt.payload)
          if closesIssue approval then
            statement
            if ¬ around.closes link then
              refuse 502 "Failed to close GitHub issue"
            else change fun db => db.putLink { link with state := "closed" }
          syncCommentedTask around approval
          recordSync link "post_comment" true

/-- `_approve_github_create_pr`; the requests that open the pull request are one step here. -/
def approveGithubCreatePr (approval : BoundApproval) : Work PUnit := do
  statement
  let taskId := (given approval.taskId).getD (approval.payloadJson.get "task_id").strOrEmpty
  let runId := approval.payloadJson.get "run_id"
  match ← loaded fun db => db.issueLinks (approval.issueLinkId.getD "") with
  | none => refuse 422 "PR approval payload is incomplete"
  | some link =>
    if ¬ runId.truthy ∨ taskId = "" then refuse 422 "PR approval payload is incomplete"
    else
      statement
      match ← rows fun db => (db.run? runId.pyStr, db.tasks taskId, db.repositories link.repositoryId) with
      | (some run, some task, some repository) =>
        match ← rows fun db => db.connections repository.connectionId with
        | none => return
        | some _ =>
          statement
          match around.pullRequest run task with
          | none => recordSync link "create_pr" false
          | some pullRequest =>
            change fun db => db.putTask
              { task with resultPayloadJson := task.resultPayloadJson.set "github_pr" (.obj pullRequest) }
            statement
            recordSync link "create_pr" true
      | _ => refuse 404 "PR approval target could not be resolved"

def connectedLink (approval : BoundApproval) (db : Db) : Option (GithubIssueLink × Bool) :=
  (db.issueLinks (approval.issueLinkId.getD "")).map fun link =>
    (link, (do db.connections (← db.repositories link.repositoryId).connectionId : Option GithubConnection).isSome)

def approveGithubPrReviewComment (approval : BoundApproval) : Work PUnit := do
  statement
  match ← rows (connectedLink approval) with
  | none => refuse 404 "Issue link not found"
  | some (link, connected) =>
    let body := Text.strip (approval.payloadJson.get "body").strOrEmpty
    if ¬ connected ∨ ¬ (approval.payloadJson.get "pr_number").truthy ∨ body = "" then
      refuse 422 "PR review approval payload is incomplete"
    else
      statement
      if ¬ around.review link approval.payloadJson then
        refuse 502 "Failed to post approved reviewer PR comment"
      else recordSync link "post_pr_review" true

def syncedLink (link : GithubIssueLink) (update : Dict Json) : GithubIssueLink :=
  let link := match update.get? "state" with
    | some state => { link with state := state.pyStr }
    | none => link
  let link := match update.get? "labels" with
    | some (.arr labels) => { link with labelsJson := labels.map Json.pyStr }
    | _ => link
  match update.get? "assignees" with
  | some (.arr (first :: _)) => { link with assigneeLogin := some first.pyStr }
  | some _ => { link with assigneeLogin := none }
  | none => link

def approveGithubIssueSync (approval : BoundApproval) : Work PUnit := do
  statement
  match ← rows (connectedLink approval) with
  | none => refuse 404 "Issue link not found"
  | some (link, connected) =>
    let update ← orRaise .python (approval.payloadJson.get "issue_update").toDict
    if ¬ connected ∨ update = [] then refuse 422 "GitHub issue sync approval payload is incomplete"
    else
      statement
      if around.updates link update then
        change fun db => db.putLink (syncedLink link update)
      recordSync link "sync_issue_fields" (around.updates link update)

end Github

section Decide

variable (around : Surroundings)

def openRun (run : TaskRun) : Bool := run.status ∉ ["completed", "failed", "cancelled"]

def runOf (approval : BoundApproval) : Work (Option TaskRun) :=
  match given approval.runId with
  | none => pure none
  | some runId => rows fun db => db.run? runId

def failRejectedRun (reason : Option String) (approval : BoundApproval) : Work (Option TaskRun) := do
  match ← runOf approval with
  | none => return none
  | some run =>
    if openRun run then
      let failed := { run with
        status := "failed"
        errorMessage := some ("Approval rejected: " ++ (given reason).getD "No reason provided") }
      change fun db => db.putRun failed
      emitRunEvent failed "approval_rejected"
      return some failed
    else return none

def reopenDone (task : OrchestratorTask) : Work OrchestratorTask :=
  if task.status ∈ ["approved", "completed"] then transitionTaskStatus around task "planned" none else pure task

def replan (reason : Option String) (approval : BoundApproval) : Work PUnit := do
  match ← taskOf approval with
  | none => discard (failRejectedRun reason approval)
  | some task =>
    let task ← reopenDone around task
    match ← failRejectedRun reason approval with
    | none => return
    | some run => discard (transitionTaskStatus around task "planned" (some run))

def githubCommentTypes : List String := ["github_comment", "github_progress_comment", "github_manager_closure"]

def sideEffect (userId : String) (decision : Decision) (reason : Option String) (approval : BoundApproval) :
    Work PUnit :=
  if decision = .approved ∧ approval.approvalType ∈ githubCommentTypes ∧ given approval.issueLinkId ≠ none then
    postApprovedGithubComment around approval
  else if decision = .approved ∧ approval.approvalType = "github_create_pr" then approveGithubCreatePr around approval
  else if decision = .approved ∧ approval.approvalType = "github_pr_review_comment" then
    approveGithubPrReviewComment around approval
  else if decision = .approved ∧ approval.approvalType = "github_issue_sync" then
    approveGithubIssueSync around approval
  else if approval.approvalType = "agent_memory_write" then decideAgentMemory around userId decision approval
  else if approval.approvalType = "semantic_memory_write" then decideSemanticMemory around userId decision approval
  else if approval.approvalType = "task_assignment_change" then
    if decision = .approved then assignTask approval else pure ⟨⟩
  else if approval.approvalType = "task_mark_complete" then
    if decision = .approved then completeTask around approval else pure ⟨⟩
  else if approval.approvalType = "shared_memory_write" then
    if decision = .approved then shareMemory approval else pure ⟨⟩
  else if decision = .approved ∧ given approval.runId ≠ none then pure ⟨⟩
  else if decision = .rejected ∧ given approval.taskId ≠ none then replan around reason approval
  else pure ⟨⟩

def returnTask (approval : BoundApproval) : Work PUnit := do
  match ← taskOf approval with
  | none => return
  | some task =>
    if task.status ∈ ["blocked", "approved", "completed"] then
      discard (transitionTaskStatus around task "planned" none)

def returnRejected (decision : Decision) (reason : Option String) (approval : BoundApproval) : Work PUnit := do
  if decision = .rejected ∧ given approval.taskId ≠ none then
    returnTask around approval
    discard (failRejectedRun reason approval)

def unblockTask (run : TaskRun) : Work PUnit := do
  match given run.taskId with
  | none => return
  | some taskId =>
    match ← rows fun db => db.tasks taskId with
    | none => return
    | some task =>
      if task.status = "blocked" then
        discard (transitionTaskStatus around task "planned" (some run))

def resumeApproved (decision : Decision) (approval : BoundApproval) : Work (Option String) := do
  if decision = .approved then
    match ← runOf approval with
    | none => return none
    | some run =>
      if run.status = "blocked" then
        let queued := { run with status := "queued", errorMessage := none }
        change fun db => db.putRun queued
        unblockTask around queued
        emitRunEvent queued "unblocked"
        return some run.id
      else return none
  else return none

def decidedRow (userId : String) (decision : Decision) (reason : Option String) (approval : BoundApproval) :
    BoundApproval :=
  { approval with status := decision.status, reason, approvedByUserId := some userId }

def admitDecision (userId approvalId : String) (decision : Decision) (reason : Option String) : Work BoundApproval := do
  match ← rows fun db => (db.approval? approvalId).filter (around.accessible userId) with
  | none => refuse 404 "Approval request not found"
  | some approval =>
    if approval.status ≠ .pending then
      refuse 409 ("Approval request is already " ++ statusText approval.status ++ " and cannot be decided again.")
    else if ← orRaise .python (isApprovalExpired around.env approval around.now) then
      change fun db => db.putApproval
        { approval with status := .stale, reason := some "Approval effect expired before decision" }
      commits
      refuse 409 "Approval effect expired before decision"
    else
      statement
      if ¬ around.eligible userId approval then
        refuse 403 "User is not an eligible approver for approval"
      else if decision = .rejected ∧ Text.strip (reason.getD "") = "" then
        refuse 422 "A rejection reason is required."
      else return approval

def consequences (userId : String) (decision : Decision) (reason : Option String) (approval : BoundApproval) :
    Work (Option String) := do
  sideEffect around userId decision reason approval
  returnRejected around decision reason approval
  resumeApproved around decision approval

def auditEntry (userId : String) (decision : Decision) (approval : BoundApproval) : AuditLog :=
  ⟨"orchestration.approval." ++ statusText decision.status, userId, approval.id⟩

def afterDecision (approval : BoundApproval) : Option String → Work PUnit
  | some _ => do
    if given approval.projectId ≠ none then
      statement
    statement
  | none => statement

def decideApproval (userId approvalId : String) (decision : Decision) (reason : Option String) : Work PUnit := do
  let approval ← admitDecision around userId approvalId decision reason
  let row := decidedRow userId decision reason approval
  change fun db => db.putApproval row
  let resumed ← consequences around userId decision reason row
  insert fun db => { db with auditLogs := db.auditLogs ++ [auditEntry userId decision row] }
  commits
  afterDecision row resumed

end Decide

end Troop.Decisions
