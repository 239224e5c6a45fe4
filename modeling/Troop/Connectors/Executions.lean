import Troop.Connectors.Resumed
import Troop.Session.Keyed

namespace Troop.Connectors

open Approvals
open Workflow (Env)

inductive ExecutionStatus where
  | claimed | sending | succeeded | retryableFailure | failed | stale | outcomeUnknown
deriving DecidableEq, Repr

def executionText : ExecutionStatus → String
  | .claimed => "claimed"
  | .sending => "sending"
  | .succeeded => "succeeded"
  | .retryableFailure => "retryable_failure"
  | .failed => "failed"
  | .stale => "stale"
  | .outcomeUnknown => "outcome_unknown"

/-- A row of `external_action_executions`, which are unique in their `idempotency_key`. -/
structure ExternalActionExecution where
  ownerId : String
  connectorInstallationId : String
  workflowRunId : String
  approvalRequestId : String
  actionKey : String
  argumentsHash : String
  status : ExecutionStatus := .claimed
  externalResultId : Option String := none
  resultJson : Dict Json := []
  error : Option String := none
deriving DecidableEq

def buildIdempotencyKey (sha256 : String → String) (parts : List String) : String :=
  sha256 (":".intercalate (parts.filter fun part => part ≠ ""))

section Adapters

/-- How an adapter wraps its provider call: what it hashes, what it adds to the key, which draft it
    checks (the mail adapters), whether its `try` catches every exception or its own alone, whether a
    missing draft counts as sent, the keywords it calls `mark_execution_succeeded` with, and whether it
    commits by itself. -/
structure Adapter where
  hashed : Dict Json → Except PyError (Dict Json)
  threaded : Dict Json → List String := fun _ => []
  draft : Option String := none
  everyError : Bool := false
  goneIsSent : Bool := false
  success : List String
  commits : Bool := false

def mailSuccess : List String := ["owner_id", "result_json", "external_result_id", "audit_action", "audit_metadata"]

def gmailAdapter : Adapter :=
  { hashed := canonicalEmailActionArguments, draft := some "gmail_draft_id", success := mailSuccess }

def outlookAdapter : Adapter :=
  { hashed := canonicalOutlookEmailActionArguments, draft := some "outlook_draft_id", goneIsSent := true,
    success := mailSuccess }

def slackAdapter : Adapter :=
  { hashed := fun arguments => .ok [("channel", textOf arguments "channel"),
      ("thread_ts", textOf arguments "thread_ts"), ("text", textOf arguments "text")]
    threaded := fun arguments => [textChain arguments ["thread_ts"] "root"]
    success := ["owner_id", "result", "audit_action"], commits := true }

def teamsAdapter : Adapter :=
  { hashed := fun arguments => .ok [("conversation_id", textOf arguments "conversation_id"),
      ("reply_to_id", textOf arguments "reply_to_id"), ("text", textOf arguments "text")]
    threaded := fun arguments => [textChain arguments ["reply_to_id"] "root"]
    success := ["owner_id", "result", "audit_action"], commits := true }

/-- The `_mutation_exactly_once` that four adapters share but for their hash. -/
def mutationAdapter (hashed : Dict Json → Except PyError (Dict Json)) : Adapter :=
  { hashed, everyError := true, success := ["owner_id", "result"] }

def jiraAdapter : Adapter := mutationAdapter fun arguments => .ok (canonicalJiraIssueArguments arguments)

def linearAdapter : Adapter := mutationAdapter fun arguments => .ok (canonicalLinearIssueArguments arguments)

def hubspotAdapter : Adapter :=
  mutationAdapter fun arguments => canonicalHubspotCrmArguments (arguments.set "record_type" (.str "contact"))

def salesforceAdapter : Adapter :=
  mutationAdapter fun arguments => canonicalSalesforceCrmArguments (arguments.set "record_type" (.str "contact"))

inductive Provider where
  | gmail | outlook | slack | teams | jira | linear | hubspot | salesforce
deriving DecidableEq, Repr

def adapterOf : Provider → Adapter
  | .gmail => gmailAdapter
  | .outlook => outlookAdapter
  | .slack => slackAdapter
  | .teams => teamsAdapter
  | .jira => jiraAdapter
  | .linear => linearAdapter
  | .hubspot => hubspotAdapter
  | .salesforce => salesforceAdapter

def keywordError (required optional given : List String) : Option String :=
  match given.find? fun keyword => keyword ∉ required ++ optional with
  | some unknown => some ("got an unexpected keyword argument " ++ Json.quote unknown)
  | none => (required.find? fun keyword => keyword ∉ given).map fun missing =>
      "missing 1 required keyword-only argument: " ++ Json.quote missing

/-- What the call of `mark_execution_succeeded` raises, when it raises. -/
def Adapter.successError (adapter : Adapter) : Option String :=
  (keywordError ["owner_id", "result_json", "audit_action"] ["external_result_id", "audit_metadata"] adapter.success).map
    fun text => "mark_execution_succeeded() " ++ text

end Adapters

section Calls

structure Call where
  provider : Provider
  toolSlug : String
  installationId : String
  ownerId : String
  arguments : Dict Json

def Call.adapter (call : Call) : Adapter := adapterOf call.provider

def Call.key (sha256 : String → String) (call : Call) : String :=
  buildIdempotencyKey sha256
    ([(call.arguments.get "workflow_run_id").strOrEmpty, (call.arguments.get "approval_request_id").strOrEmpty,
      resourceKey call.arguments call.toolSlug] ++ call.adapter.threaded call.arguments ++ [call.toolSlug])

def Call.draftId (call : Call) : String :=
  match call.adapter.draft with
  | some field => (call.arguments.get field).strOrEmpty
  | none => ""

inductive Claim where
  | fresh
  | existing (row : ExternalActionExecution)
  | replayed (row : ExternalActionExecution)
deriving DecidableEq

/-- `authorize_and_claim_execution`, up to the insert of a new row -/
def authorizeAndClaim (env : Env) (approvals : Dict BoundApproval) (approvalId : String) (request : CommitRequest)
    (argumentsHash : String) (existing : Option ExternalActionExecution) : Except String Claim :=
  match approvals.get? approvalId with
  | none => .error "Approval request not found"
  | some approval =>
    if approval.status ≠ .approved then
      .error ("Approval status " ++ Json.quote (statusText approval.status) ++ " is not committable")
    else match validateCommittedEffect env approval request with
    | .error error => .error (errorText error)
    | .ok _ =>
      match existing with
      | none => .ok .fresh
      | some row =>
        if row.argumentsHash ≠ argumentsHash then .error "Idempotency key was reused with different content"
        else match row.status with
        | .succeeded => .ok (.replayed row)
        | .claimed | .sending | .retryableFailure => .ok (.existing row)
        | status => .error (((Json.ofOption row.error).pyOr
            (.str ("External action blocked in status " ++ executionText status))).pyStr)

structure ApiError where
  message : String
  statusCode : Option Int := none
  retryable : Bool := false
deriving DecidableEq

/-- What comes of the provider call: a result, an error of the provider, an error of the read that follows
    an accepted request, an exception that is no error of the API, or an error raised before anything is sent. -/
inductive Answer where
  | sent (result : Dict Json)
  | refused (error : ApiError)
  | unconfirmed (error : ApiError)
  | lost (message : String)
  | unsent (message : String)
deriving DecidableEq

def Answer.issued : Answer → Bool
  | .unsent _ => false
  | _ => true

def Answer.accepted : Answer → Bool
  | .sent _ | .unconfirmed _ => true
  | _ => false

inductive Failure where
  | api (error : ApiError)
  | other (message : String)

/-- What the `try` block around the provider call gives. -/
def Call.tried (call : Call) : Answer → Except Failure (Dict Json)
  | .sent result => .ok result
  | .refused error | .unconfirmed error =>
    if call.adapter.goneIsSent ∧ error.statusCode = some 404 then
      .ok [("id", .str call.draftId), ("status", .str "sent")]
    else .error (.api error)
  | .lost message => .error (.other message)
  | .unsent message => .error (.api { message })

/-- The row of the draft in `draft_execution_metadata`. -/
structure DraftMetadata where
  contentHash : String
  threadId : String
  threadFingerprint : String
deriving DecidableEq

end Calls

section Sessions

inductive Phase where
  | authorize
  | insert
  | reconcile (existing : ExternalActionExecution)
  | check (existing : ExternalActionExecution)
  | send (existing : ExternalActionExecution)
  | request
  | answered (answer : Answer)
  | returned (result : Dict Json)
  | raised (message : String)
deriving DecidableEq

structure Execution where
  call : Call
  hash : String
  phase : Phase
  issued : Bool := false
  staled : Option String := none

structure Request where
  call : Call
  hash : String
  answer : Answer

structure World where
  approvals : Dict BoundApproval
  table : Keyed String Nat ExternalActionExecution
  executions : Nat → Option Execution
  /-- every mutating request that was issued, in their order -/
  requests : List Request

def World.start (approvals : Dict BoundApproval) : World := ⟨approvals, .empty, fun _ => none, []⟩

def World.put (w : World) (session : Nat) (execution : Option Execution) : World :=
  { w with executions := Function.update w.executions session execution }

def World.move (w : World) (session : Nat) (execution : Execution) (phase : Phase) : World :=
  w.put session (some { execution with phase })

/-- A flush of changed columns; `none` while it waits for the session that holds the row. -/
def World.flush (w : World) (session : Nat) (key : String)
    (change : ExternalActionExecution → ExternalActionExecution) : Option World :=
  if w.table.free session key then
    match w.table.read session key with
    | some row => some { w with table := w.table.write session key (change row) }
    | none => some w
  else none

variable (env : Env) (sha256 : String → String)

def World.claim (w : World) (session : Nat) (call : Call) (hash : String) (now : Int) : Except String Claim :=
  match commitOf call.toolSlug call.ownerId call.arguments now with
  | none => .error (call.toolSlug ++ " requires workflow_run_id, approval_request_id, and a resource key")
  | some (approvalId, request) =>
    authorizeAndClaim env w.approvals approvalId request hash (w.table.read session (call.key sha256))

def claimedPhase (call : Call) : Claim → Phase
  | .fresh => .insert
  | .replayed row => .returned row.resultJson
  | .existing row =>
    if call.adapter.draft = none then .send row
    else if row.status = .sending ∨ row.status = .retryableFailure then .reconcile row
    else .check row

def World.authorize (w : World) (session : Nat) (execution : Execution) (now : Int) : World :=
  match execution.call.adapter.hashed execution.call.arguments with
  | .error error => w.move session execution (.raised (errorText error))
  | .ok content =>
    let hash := env.argumentsHash content
    match w.claim env sha256 session execution.call hash now with
    | .error message => w.move session execution (.raised message)
    | .ok claim => w.move session { execution with hash } (claimedPhase execution.call claim)

def claimedRow (call : Call) (hash : String) : ExternalActionExecution :=
  { ownerId := call.ownerId, connectorInstallationId := call.installationId
    workflowRunId := (call.arguments.get "workflow_run_id").strOrEmpty
    approvalRequestId := (call.arguments.get "approval_request_id").strOrEmpty
    actionKey := call.toolSlug, argumentsHash := hash }

def World.insert (w : World) (session : Nat) (execution : Execution) : Option World :=
  let key := execution.call.key sha256
  let row := claimedRow execution.call execution.hash
  if ¬ w.table.free session key then none
  else if (w.table.committed key).isSome then
    some ({ w with table := w.table.rollback session }.move session execution
      (.raised "Concurrent duplicate external action blocked"))
  else
    some ({ w with table := w.table.write session key row }.move session execution
      (if execution.call.adapter.draft = none then .send row else .check row))

def draftGone : String :=
  "Draft disappeared after an ambiguous send; manual reconciliation is required before retry"

/-- `_reconcile_ambiguous_gmail_send`: `found` is what the read of the draft raises, if anything. -/
def World.reconcile (w : World) (session : Nat) (execution : Execution) (existing : ExternalActionExecution)
    (found : Option ApiError) : Option World :=
  match found with
  | some error =>
    if error.statusCode = some 404 then
      (w.flush session (execution.call.key sha256) fun row =>
        { row with status := .outcomeUnknown, error := some draftGone }).map
        fun w => w.move session execution (.raised draftGone)
    else some (w.move session execution (.raised error.message))
  | none =>
    if existing.status = .sending then
      some (w.move session execution (.raised "Email send is already in progress"))
    else some (w.move session execution (.check existing))

def contentChanged : String := "Draft content does not match approval fingerprint"

def threadChanged (provider : Provider) : String :=
  (if provider = .outlook then "Outlook" else "Gmail") ++ " thread changed while approval was pending"

/-- The checks of a draft against its row; `thread` is the fingerprint of its thread as it reads now. -/
def World.check (w : World) (session : Nat) (execution : Execution) (existing : ExternalActionExecution)
    (metadata : Option DraftMetadata) (thread : Except ApiError String) : Option World :=
  let key := execution.call.key sha256
  let fail := (w.flush session key fun row => { row with status := .failed, error := some contentChanged }).map
    fun w => w.move session execution (.raised contentChanged)
  match metadata with
  | none => fail
  | some metadata =>
    if metadata.contentHash ≠ execution.hash then fail
    else if metadata.threadId = "" then some (w.move session execution (.send existing))
    else match thread with
    | .error error => some (w.move session execution (.raised error.message))
    | .ok fingerprint =>
      if fingerprint ≠ metadata.threadFingerprint then
        let stale := threadChanged execution.call.provider
        (w.flush session key fun row => { row with status := .stale, error := some stale }).map
          fun w => w.move session { execution with staled := some stale } (.raised stale)
      else some (w.move session execution (.send existing))

/-- `mark_execution_sending`; a row that was loaded as sending has no column to write. -/
def World.markSending (w : World) (session : Nat) (execution : Execution) (existing : ExternalActionExecution) :
    Option World :=
  if existing.status = .sending then some (w.move session execution .request)
  else (w.flush session (execution.call.key sha256) fun row => { row with status := .sending }).map
    fun w => w.move session execution .request

def World.issue (w : World) (session : Nat) (execution : Execution) (answer : Answer) : World :=
  let issued := if answer.issued then w.requests ++ [⟨execution.call, execution.hash, answer⟩] else w.requests
  { w with requests := issued }.move session { execution with issued := execution.issued || answer.issued }
    (.answered answer)

/-- `mark_execution_succeeded`, as the adapter calls it -/
def World.markSucceeded (w : World) (session : Nat) (execution : Execution) (result : Dict Json) : Option World :=
  match execution.call.adapter.successError with
  | some message => some (w.move session execution (.raised message))
  | none =>
    let resultId := if execution.call.adapter.draft = none then none
      else if execution.call.adapter.goneIsSent then some ((result.get "id").pyOr (.str execution.call.draftId)).pyStr
      else some (result.get "id").strOrEmpty
    (w.flush session (execution.call.key sha256) fun row =>
      { row with status := .succeeded, externalResultId := resultId, resultJson := result, error := none }).map
      fun w =>
        let done := w.move session execution (.returned result)
        if execution.call.adapter.commits then { done with table := done.table.commit session } else done

/-- `mark_execution_failed`; only the mail adapters pass on that a failure may be retried. -/
def World.markFailed (w : World) (session : Nat) (execution : Execution) (message : String) (retryable : Bool) :
    Option World :=
  let retried := execution.call.adapter.draft ≠ none ∧ retryable
  (w.flush session (execution.call.key sha256) fun row =>
    { row with status := if retried then .retryableFailure else .failed, error := some message }).map
    fun w => w.move session execution (.raised message)

def World.conclude (w : World) (session : Nat) (execution : Execution) (answer : Answer) : Option World :=
  match execution.call.tried answer with
  | .ok result => w.markSucceeded sha256 session execution result
  | .error (.api error) => w.markFailed sha256 session execution error.message error.retryable
  | .error (.other message) =>
    if execution.call.adapter.everyError then w.markFailed sha256 session execution message false
    else some (w.move session execution (.raised message))

def staledApprovals (approvals : Dict BoundApproval) (execution : Execution) : Dict BoundApproval :=
  match execution.staled with
  | none => approvals
  | some reason => approvals.modify (execution.call.arguments.get "approval_request_id").strOrEmpty fun approval =>
      { approval with
        status := .stale, reason := some reason
        payloadJson := approval.payloadJson.set "stale_reason" (.str reason) }

def Phase.ended : Phase → Bool
  | .returned _ | .raised _ => true
  | _ => false

/-- What an execution does between two awaits, with what the outside answers; `commit` and `rollback` are
    the caller's, and a crash is a rollback. -/
inductive Move where
  | authorize (now : Int)
  | insert
  | reconcile (found : Option ApiError)
  | check (metadata : Option DraftMetadata) (thread : Except ApiError String)
  | send
  | request (answer : Answer)
  | conclude
  | commit
  | rollback

inductive Step where
  | begin (session : Nat) (call : Call)
  | move (session : Nat) (move : Move)
  | elsewhere (approvals : Dict BoundApproval)

def World.advance (w : World) (session : Nat) (execution : Execution) : Move → Option World
  | .authorize now => if execution.phase = .authorize then some (w.authorize env sha256 session execution now) else none
  | .insert => if execution.phase = .insert then w.insert sha256 session execution else none
  | .reconcile found =>
    match execution.phase with
    | .reconcile existing => w.reconcile sha256 session execution existing found
    | _ => none
  | .check metadata thread =>
    match execution.phase with
    | .check existing => w.check sha256 session execution existing metadata thread
    | _ => none
  | .send =>
    match execution.phase with
    | .send existing => w.markSending sha256 session execution existing
    | _ => none
  | .request answer => if execution.phase = .request then some (w.issue session execution answer) else none
  | .conclude =>
    match execution.phase with
    | .answered answer => w.conclude sha256 session execution answer
    | _ => none
  | .commit =>
    if execution.phase.ended then
      some ({ w with approvals := staledApprovals w.approvals execution, table := w.table.commit session }.put session none)
    else none
  | .rollback => some ({ w with table := w.table.rollback session }.put session none)

def World.step (w : World) : Step → Option World
  | .begin session call =>
    match w.executions session with
    | none => some (w.put session (some { call, hash := "", phase := .authorize }))
    | some _ => none
  | .move session move =>
    match w.executions session with
    | none => none
    | some execution => w.advance env sha256 session execution move
  | .elsewhere approvals => some { w with approvals }

end Sessions

end Troop.Connectors
