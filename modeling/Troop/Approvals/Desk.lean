import Troop.Approvals.Exact

namespace Troop.Approvals

open Workflow (Env ApprovalStatus WorkflowRun)

structure DraftExecutionMetadata where
  ownerId : String
  connectorInstallationId : String
  providerDraftId : String
  threadFingerprint : String
  contentHash : String
  draftVersion : Int
  status : String
deriving DecidableEq, Inhabited

structure Desk where
  approvals : Dict BoundApproval := []
  runs : Dict WorkflowRun := []
  drafts : List DraftExecutionMetadata := []
  drawn : Nat := 0
deriving DecidableEq, Inhabited

/-- `draft_arguments[key] = changes[key]`, if the key is in the changes -/
def applyChange (changes draft : Dict Json) (key : String) : Dict Json :=
  match changes.get? key with
  | some value => draft.set key value
  | none => draft

def setBody (draft : Dict Json) (value : Json) : Dict Json :=
  (draft.set "body" (.str value.pyStr)).set "body_text" (.str value.pyStr)

def applyChanges (changes draft : Dict Json) : Dict Json :=
  let addressed := ["subject", "to", "cc", "bcc"].foldl (applyChange changes) draft
  match changes.get? "body_text", changes.get? "body" with
  | some text, _ => setBody addressed text
  | none, some text => setBody addressed text
  | none, none => addressed

def draftArguments (approval : BoundApproval) (bound : Option ProposedEffect) : Except PyError (Dict Json) :=
  match bound with
  | some effect =>
    if effect.normalizedEffect.isEmpty then (approval.payloadJson.get "draft_arguments").toDict
    else .ok effect.normalizedEffect
  | none => (approval.payloadJson.get "draft_arguments").toDict

/-- `int(approval.effect_version or (bound.effect_version if bound else 1))` -/
def priorVersion (approval : BoundApproval) (bound : Option ProposedEffect) : Int :=
  if approval.effectVersion ≠ 0 then approval.effectVersion
  else match bound with
    | some effect => effect.effectVersion
    | none => 1

def DraftExecutionMetadata.isFor (ownerId installationId draftId : String) (row : DraftExecutionMetadata) : Bool :=
  row.ownerId = ownerId ∧ row.connectorInstallationId = installationId ∧ row.providerDraftId = draftId

def redirectedVars (vars : Dict Json) (replacementId : String) (draft : Dict Json) :
    Except PyError (Dict Json) := do
  let pending ← (vars.get "pending_tool").toDict
  let tool := (pending.set "approval_request_id" (.str replacementId)).set "params" (.obj draft)
  return (vars.set "pending_approval_request_id" (.str replacementId)).set "pending_tool" (.obj tool)

def redirectRun (runs : Dict WorkflowRun) (ownerId workflowRunId replacementId : String) (draft : Dict Json) :
    Except PyError (Dict WorkflowRun) :=
  if workflowRunId = "" then .ok runs
  else match runs.get? workflowRunId with
    | none => .error (.valueError "Approval workflow ownership mismatch")
    | some run =>
      if run.createdBy.getD "" ≠ ownerId then .error (.valueError "Approval workflow ownership mismatch")
      else do
        let vars ← redirectedVars run.contextJson.vars replacementId draft
        return runs.set workflowRunId { run with contextJson := { run.contextJson with vars } }

def revisedEffect (env : Env) (draft : Dict Json) (metadata : DraftExecutionMetadata) (version now : Int) :
    Except PyError ProposedEffect :=
  let fingerprint := if metadata.threadFingerprint = "" then .null else .str metadata.threadFingerprint
  buildProposedEffect env "gmail.send_draft" draft fingerprint version now

def withDraft (row : BoundApproval) (draft : Dict Json) : BoundApproval :=
  { row with payloadJson := row.payloadJson.set "draft_arguments" (.obj draft) }

/-- `replace_email_approval_draft`: the replacement and the rows as committed. When it raises, nothing
    is. `updated` is how the provider answers `gmail.update_draft`. -/
def replaceEmailApprovalDraft (env : Env) (ownerId approvalId : String) (changes : Dict Json)
    (updated : Except PyError PUnit) (now : Int) (desk : Desk) : Except PyError (BoundApproval × Desk) := do
  match desk.approvals.get? approvalId with
  | none => .error (.valueError "Approval request not found")
  | some approval =>
    if approval.requestedByUserId ≠ some ownerId then .error (.valueError "Approval request not found")
    else if approval.status ≠ .pending then .error (.valueError "Only a pending approval can be edited")
    else
    let bound ← readProposedEffect env approval
    let drafted ← draftArguments approval bound
    let installationId := (drafted.get "connector_installation_id").strOrEmpty
    let draftId := (drafted.get "gmail_draft_id").strOrEmpty
    if installationId = "" ∨ draftId = "" then .error (.valueError "Approval is not bound to a Gmail draft")
    else
    let draft := applyChanges changes drafted
    updated
    match desk.drafts.find? (DraftExecutionMetadata.isFor ownerId installationId draftId) with
    | none => .error (.valueError "Draft execution metadata missing")
    | some metadata =>
      let canonical ← canonicalEmailActionArguments draft
      let recorded := { metadata with
        contentHash := env.argumentsHash canonical, draftVersion := metadata.draftVersion + 1, status := "current" }
      let effect ← revisedEffect env draft recorded (priorVersion approval bound + 1) now
      let (old, row) ← createReplacementApproval env (env.uuid4 desk.drawn) approval effect ownerId
        "Approve the revised Gmail draft"
      let replacement := withDraft row draft
      let runs ← redirectRun desk.runs ownerId (replacement.payloadJson.get "workflow_run_id").strOrEmpty
        replacement.id draft
      return (replacement,
        { approvals := (desk.approvals.set approvalId old).set replacement.id replacement
          runs
          drafts := desk.drafts.map fun row =>
            if row.isFor ownerId installationId draftId then recorded else row
          drawn := desk.drawn + 1 })

/-- What `decide_approval` may be asked for. -/
inductive Decision where
  | approved | rejected
deriving DecidableEq, Repr

def Decision.status : Decision → ApprovalStatus
  | .approved => .approved
  | .rejected => .rejected

structure Receipt where
  postedCommentId : Json
  postedCommentUrl : Json
  postedAt : Json

def Receipt.payload (receipt : Receipt) : Dict Json :=
  [("draft_status", .str "posted"), ("posted_comment_id", receipt.postedCommentId),
    ("posted_comment_url", receipt.postedCommentUrl), ("posted_at", receipt.postedAt)]

/-- What `decide_approval` asks others: who may see the approval, who may decide it, and how the side
    effect of an approval of its type comes out. -/
structure Ruling where
  accessible : Bool
  eligibility : Except PyError PUnit
  sideEffect : BoundApproval → Except PyError (Option Receipt)

def receivedPayload (payload : Dict Json) : Option Receipt → Dict Json
  | some receipt => payload.update receipt.payload
  | none => payload

def decided (approval : BoundApproval) (userId : String) (decision : Decision) (reason : Option String)
    (ruling : Ruling) : Except PyError BoundApproval := do
  ruling.eligibility
  if decision = .rejected ∧ Text.strip (reason.getD "") = "" then
    .error (.raised "A rejection reason is required.")
  else
  let row := { approval with status := decision.status, reason, approvedByUserId := some userId }
  let receipt ← ruling.sideEffect row
  return { row with payloadJson := receivedPayload row.payloadJson receipt }

/-- `decide_approval`: its answer and the rows as committed. An expired approval is marked stale, and
    that is committed although the call raises. -/
def decideApproval (env : Env) (userId approvalId : String) (decision : Decision) (reason : Option String)
    (ruling : Ruling) (now : Int) (desk : Desk) : Except PyError BoundApproval × Desk :=
  match desk.approvals.get? approvalId with
  | none => (.error (.raised "Approval request not found"), desk)
  | some approval =>
    if ¬ ruling.accessible then (.error (.raised "Approval request not found"), desk)
    else if approval.status ≠ .pending then
      (.error (.raised ("Approval request is already " ++ statusText approval.status ++
        " and cannot be decided again.")), desk)
    else match isApprovalExpired env approval now with
      | .error error => (.error error, desk)
      | .ok true =>
        let expired : BoundApproval :=
          { approval with status := .stale, reason := some "Approval effect expired before decision" }
        (.error (.raised "Approval effect expired before decision"),
          { desk with approvals := desk.approvals.set approvalId expired })
      | .ok false =>
        match decided approval userId decision reason ruling with
        | .error error => (.error error, desk)
        | .ok row => (.ok row, { desk with approvals := desk.approvals.set approvalId row })

inductive Request where
  | edit (ownerId approvalId : String) (changes : Dict Json) (updated : Except PyError PUnit) (now : Int)
  | decide (userId approvalId : String) (decision : Decision) (reason : Option String) (ruling : Ruling)
      (now : Int)

def Request.next (env : Env) (desk : Desk) : Request → Desk
  | .edit ownerId approvalId changes updated now =>
    match replaceEmailApprovalDraft env ownerId approvalId changes updated now desk with
    | .ok (_, after) => after
    | .error _ => desk
  | .decide userId approvalId decision reason ruling now =>
    (decideApproval env userId approvalId decision reason ruling now desk).2

def Desk.after (env : Env) (desk : Desk) (requests : List Request) : Desk :=
  requests.foldl (Request.next env) desk

end Troop.Approvals
