import Troop.Approvals.Canonical

namespace Troop.Approvals

open Workflow (Env ApprovalRequest ApprovalStatus stripToolPrefix approvalTtl)

structure BoundApproval extends ApprovalRequest where
  runId : Option String
  issueLinkId : Option String
  effectVersion : Int
  preconditionFingerprint : Json
  expiresAt : Option Int
  proposedEffectJson : Option (Dict Json)
deriving DecidableEq, Inhabited

structure ProposedEffect where
  actionKey : String
  normalizedEffect : Dict Json
  effectHash : String
  preconditionFingerprint : Json
  effectVersion : Int
  expiresAt : Option Int
  replacesApprovalId : Option String
deriving DecidableEq, Inhabited

/-- `arguments_hash` tells dicts of different content apart, as a hash without collisions does. -/
structure HashesContent (env : Env) : Prop where
  same_iff : ∀ a b : Dict Json, env.argumentsHash a = env.argumentsHash b ↔ a.SameContent b
  nonempty : ∀ a : Dict Json, env.argumentsHash a ≠ ""

def statusText : ApprovalStatus → String
  | .pending => "pending"
  | .approved => "approved"
  | .rejected => "rejected"
  | .stale => "stale"
  | .invalidated => "invalidated"

/-- `build_proposed_effect`, called at `now` without an expiry of its own -/
def buildProposedEffect (env : Env) (actionKey : String) (rawArguments : Dict Json)
    (preconditionFingerprint : Json) (effectVersion : Int) (now : Int) : Except PyError ProposedEffect := do
  let normalized ← normalizeProposedEffect actionKey rawArguments
  let hash ← computeEffectHash env normalized actionKey
  return { actionKey := stripToolPrefix actionKey, normalizedEffect := normalized, effectHash := hash,
           preconditionFingerprint, effectVersion := max 1 effectVersion,
           expiresAt := some (now + approvalTtl), replacesApprovalId := none }

structure Built (env : Env) (actionKey : String) (rawArguments : Dict Json) (preconditionFingerprint : Json)
    (effectVersion now : Int) (effect : ProposedEffect) : Prop where
  normalized : normalizeProposedEffect actionKey rawArguments = .ok effect.normalizedEffect
  hash : computeEffectHash env effect.normalizedEffect actionKey = .ok effect.effectHash
  key : effect.actionKey = stripToolPrefix actionKey
  fingerprint : effect.preconditionFingerprint = preconditionFingerprint
  version : effect.effectVersion = max 1 effectVersion
  expires : effect.expiresAt = some (now + approvalTtl)

theorem buildProposedEffect_ok {env : Env} {actionKey : String} {rawArguments : Dict Json} {fingerprint : Json}
    {version now : Int} {effect : ProposedEffect}
    (built : buildProposedEffect env actionKey rawArguments fingerprint version now = .ok effect) :
    Built env actionKey rawArguments fingerprint version now effect := by
  obtain ⟨normalized, read, built⟩ := except_bind_ok built
  obtain ⟨hash, hashed, built⟩ := except_bind_ok built
  simp only [pure, Except.pure, Except.ok.injEq] at built
  rw [← built]
  constructor
  · exact read
  · exact hashed
  all_goals dsimp only

def effectPayload (env : Env) (effect : ProposedEffect) : Dict Json :=
  let bound := [("action_key", Json.str effect.actionKey), ("arguments_hash", .str effect.effectHash),
    ("effect_hash", .str effect.effectHash), ("effect_version", .num effect.effectVersion),
    ("precondition_fingerprint", effect.preconditionFingerprint)]
  let expiring := match effect.expiresAt with
    | some time => [("expires_at", Json.str (env.isoformat time))]
    | none => []
  let replacing := match effect.replacesApprovalId with
    | some id => if id = "" then [] else [("replaces_approval_request_id", Json.str id)]
    | none => []
  bound ++ expiring ++ replacing ++ [("proposed_effect", .obj effect.normalizedEffect)]

def applyProposedEffectToApproval (env : Env) (approval : BoundApproval) (effect : ProposedEffect) :
    BoundApproval :=
  { approval with
    effectHash := some effect.effectHash
    effectVersion := effect.effectVersion
    preconditionFingerprint := effect.preconditionFingerprint
    expiresAt := effect.expiresAt
    proposedEffectJson := some effect.normalizedEffect
    payloadJson := approval.payloadJson.update (effectPayload env effect) }

def actionKeyOf (approval : BoundApproval) : String :=
  (((approval.payloadJson.get "action_key").pyOr (approval.payloadJson.get "action")).pyOr
    (.str approval.approvalType)).strOrEmpty

def boundArguments (approval : BoundApproval) : Except PyError (Dict Json) := do
  let payload := approval.payloadJson
  let column := approval.proposedEffectJson.getD []
  if ¬ column.isEmpty then return column
  let drafted ← ((payload.get "proposed_effect").pyOr (payload.get "draft_arguments")).toDict
  if ¬ drafted.isEmpty then return drafted
  if payload.get "body" ≠ .null then
    normalizeGithubCommentEffect (payload.update
      [("issue_link_id", .ofOption approval.issueLinkId), ("repository_id", payload.get "repository_id"),
        ("issue_number", payload.get "issue_number")])
  else if (payload.get "arguments").truthy then (payload.get "arguments").toDict
  else return []

def readEffectHash (env : Env) (approval : BoundApproval) (normalized : Dict Json) : Except PyError String :=
  if normalized.isEmpty then
    .ok (((Json.ofOption approval.effectHash).pyOr (approval.payloadJson.get "effect_hash")).pyOr
      (approval.payloadJson.get "arguments_hash")).strOrEmpty
  else computeEffectHash env normalized (actionKeyOf approval)

def readExpiry (env : Env) (approval : BoundApproval) : Option Int :=
  match approval.expiresAt with
  | some time => some time
  | none =>
    let raw := approval.payloadJson.get "expires_at"
    if raw.truthy then env.fromisoformat raw.pyStr else none

/-- `int(approval.effect_version or payload.get("effect_version") or 1)` -/
def readVersion (approval : BoundApproval) : Except PyError Int :=
  (((Json.num approval.effectVersion).pyOr (approval.payloadJson.get "effect_version")).pyOr (.num 1)).toInt

def readProposedEffect (env : Env) (approval : BoundApproval) : Except PyError (Option ProposedEffect) := do
  if actionKeyOf approval = "" then return none
  let normalized ← boundArguments approval
  let hash ← readEffectHash env approval normalized
  if hash = "" then return none
  let version ← readVersion approval
  let replaces := (approval.payloadJson.get "replaces_approval_request_id").strOrEmpty
  return some
    { actionKey := stripToolPrefix (actionKeyOf approval), normalizedEffect := normalized, effectHash := hash,
      preconditionFingerprint :=
        (approval.preconditionFingerprint.pyOr (approval.payloadJson.get "precondition_fingerprint")).pyOr .null,
      effectVersion := version, expiresAt := readExpiry env approval,
      replacesApprovalId := if replaces = "" then none else some replaces }

def isApprovalExpired (env : Env) (approval : BoundApproval) (now : Int) : Except PyError Bool := do
  match ← readProposedEffect env approval with
  | none => return false
  | some effect =>
    match effect.expiresAt with
    | none => return false
    | some time => return decide (time ≤ now)

/-- What the caller of `validate_committed_effect` passes besides the approval. -/
structure CommitRequest where
  actionKey : String
  rawArguments : Dict Json
  preconditionFingerprint : Json := .null
  requireConsumed : Bool := false
  ownerId : String := ""
  workflowRunId : String := ""
  now : Int

def checkGrant (approval : BoundApproval) (request : CommitRequest) : Except PyError PUnit :=
  let payload := approval.payloadJson
  let owner := (((payload.get "owner_id").pyOr (.ofOption approval.requestedByUserId)).pyOr
    (.ofOption approval.approvedByUserId)).strOrEmpty
  let runId := (payload.get "workflow_run_id").strOrEmpty
  if approval.status ≠ .approved ∧ approval.status ≠ .stale then
    .error (.valueError ("Approval status " ++ Json.quote (statusText approval.status) ++ " is not committable"))
  else if approval.status = .stale then
    .error (.valueError ((Json.ofOption approval.reason).pyOr (.str "Approval is stale")).pyStr)
  else if request.requireConsumed ∧ ¬ Workflow.alreadyConsumed payload then
    .error (.valueError "Approval grant has not been consumed")
  else if request.ownerId ≠ "" ∧ owner ≠ "" ∧ owner ≠ request.ownerId then
    .error (.valueError "Approval owner does not match commit context")
  else if request.workflowRunId ≠ "" ∧ runId ≠ "" ∧ runId ≠ request.workflowRunId then
    .error (.valueError "Approval workflow_run_id does not match commit context")
  else .ok ⟨⟩

def validateCommittedEffect (env : Env) (approval : BoundApproval) (request : CommitRequest) :
    Except PyError ProposedEffect := do
  checkGrant approval request
  if ← isApprovalExpired env approval request.now then
    .error (.valueError "Approval expired before commit")
  else
  match ← readProposedEffect env approval with
  | none => .error (.valueError "Approval is missing canonical effect binding")
  | some bound =>
    if bound.actionKey ≠ stripToolPrefix request.actionKey then
      .error (.valueError ("Approval action " ++ Json.quote bound.actionKey ++
        " does not match commit action " ++ Json.quote (stripToolPrefix request.actionKey)))
    else
    let normalized ← normalizeProposedEffect request.actionKey request.rawArguments
    let commitHash ← computeEffectHash env normalized request.actionKey
    if commitHash ≠ bound.effectHash then
      .error (.valueError "Commit effect hash does not match approved effect")
    else if request.preconditionFingerprint ≠ .null ∧ bound.preconditionFingerprint.truthy ∧
        request.preconditionFingerprint ≠ bound.preconditionFingerprint then
      .error (.valueError "Resource precondition fingerprint changed since approval")
    else return bound

def invalidateApprovalForEdit (approval : BoundApproval) (reason : String) : BoundApproval :=
  { approval with
    status := .invalidated
    reason := some reason
    payloadJson := approval.payloadJson.set "invalidated_by_edit" (.bool true) }

def draftedPayload (payload : Dict Json) (effect : ProposedEffect) : Dict Json :=
  if (payload.get? "draft_arguments").isSome ∨ Text.startsWith "gmail." effect.actionKey ∨
      Text.startsWith "outlook." effect.actionKey then
    payload.set "draft_arguments" (.obj effect.normalizedEffect)
  else payload

def replacementOf (env : Env) (id : String) (approval : BoundApproval) (effect : ProposedEffect)
    (ownerId reason : String) : BoundApproval :=
  let row : BoundApproval :=
    { id, projectId := approval.projectId, taskId := approval.taskId, runId := approval.runId,
      issueLinkId := approval.issueLinkId, requestedByUserId := some ownerId, approvedByUserId := none,
      approvalType := approval.approvalType, status := .pending,
      reason := some (if reason = "" then "Approve the revised effect" else reason),
      payloadJson := approval.payloadJson, effectHash := none, effectVersion := 1,
      preconditionFingerprint := .null, expiresAt := none, proposedEffectJson := none }
  let bound := applyProposedEffectToApproval env row { effect with replacesApprovalId := some approval.id }
  { bound with payloadJson := draftedPayload bound.payloadJson effect }

/-- `create_replacement_approval`: the old row as it is left, and the new one. -/
def createReplacementApproval (env : Env) (id : String) (approval : BoundApproval) (effect : ProposedEffect)
    (ownerId reason : String) : Except PyError (BoundApproval × BoundApproval) :=
  if approval.status ≠ .pending then
    .error (.valueError "Only pending approvals can be replaced by an edited effect")
  else
    let old := invalidateApprovalForEdit approval "Draft edited; replacement approval created"
    .ok (old, replacementOf env id old effect ownerId reason)

end Troop.Approvals
