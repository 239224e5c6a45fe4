import Troop.Approvals.Edits
import Troop.Connectors.Contents

namespace Troop.Connectors

open Approvals
open Workflow (Env WorkflowRun approvalTtl stripToolPrefix rawEffectArguments)

variable {env : Env}

section Rows

variable {run : WorkflowRun} {id nodeId toolSlug : String} {params : Dict Json} {email : Json} {now : Int}

theorem rawEffectArguments_tool :
    rawEffectArguments (toolPayload toolSlug params email) = .ok (effectArguments params) := by
  unfold rawEffectArguments effectArguments
  have drafted : ((toolPayload toolSlug params email).get "draft_arguments").toDict = .ok params := rfl
  rw [drafted]
  cases params with
  | nil => simp [bind, Except.bind, pure, Except.pure, toolPayload]
  | cons entry rest => rfl

structure Paused (env : Env) (run : WorkflowRun) (nodeId toolSlug : String) (params : Dict Json) (now : Int)
    (row : BoundApproval) (effect : ProposedEffect) : Prop where
  built : Built env ("tool:" ++ toolSlug) (effectArguments params) .null 1 now effect
  column : row.proposedEffectJson = some effect.normalizedEffect
  expires : row.expiresAt = some (now + approvalTtl)
  version : row.effectVersion = 1
  key : row.payloadJson.get "action_key" = .str effect.actionKey
  runNamed : row.payloadJson.get "workflow_run_id" = .str run.id
  owned : row.payloadJson.get "owner_id" = .ofOption run.createdBy
  requested : row.requestedByUserId = run.createdBy

theorem createExactEffectApproval_ok {approvalType actionKey reason : String} {rawArguments payload : Dict Json}
    {row : BoundApproval} (owned : (payload.get? "owner_id").isSome = true)
    (drafted : (payload.get? "draft_arguments").isSome = true)
    (created : createExactEffectApproval env id run approvalType actionKey rawArguments reason payload now = .ok row) :
    ∃ effect, Built env actionKey rawArguments .null 1 now effect ∧
      row.proposedEffectJson = some effect.normalizedEffect ∧ row.expiresAt = effect.expiresAt ∧
      row.effectVersion = effect.effectVersion ∧ row.requestedByUserId = run.createdBy ∧
      row.payloadJson = payload.update (effectPayload env effect) := by
  obtain ⟨effect, built, created⟩ := except_bind_ok created
  have absent : (payload.get? "draft_arguments").isNone = false := by
    simpa using drafted
  obtain rfl := Except.ok.inj created
  refine ⟨effect, buildProposedEffect_ok built, rfl, rfl, rfl, rfl, ?_⟩
  unfold applyProposedEffectToApproval
  simp [owned, absent]

theorem toolApproval_ok {row : BoundApproval}
    (created : toolApproval env id run nodeId toolSlug params email now = .ok row) :
    ∃ effect, Paused env run nodeId toolSlug params now row effect := by
  obtain ⟨raw, read, created⟩ := except_bind_ok created
  rw [rawEffectArguments_tool] at read
  obtain rfl := Except.ok.inj read
  obtain ⟨bound, made, created⟩ := except_bind_ok created
  obtain ⟨effect, built, column, expires, version, requested, payload⟩ :=
    createExactEffectApproval_ok (by rfl) (by rfl) made
  have key : bound.payloadJson.get "action_key" = .str effect.actionKey := by
    rw [payload, Dict.get_update]
    simp [effectPayload, Dict.get?_cons]
  have kept {other : String} (plain : other ∉ editedKeys) : bound.payloadJson.get other =
      Dict.get (Dict.update [("workflow_run_id", Json.str run.id), ("workflow_node_id", .str nodeId),
        ("owner_id", .ofOption run.createdBy)] (toolPayload toolSlug params email)) other := by
    rw [payload, Dict.get_update, effectPayload_other effect plain]
    rfl
  have paused : Paused env run nodeId toolSlug params now bound effect := by
    constructor
    · exact built
    · exact column
    · exact expires.trans built.expires
    · rw [version, built.version]
      rfl
    · exact key
    · rw [kept (by decide)]
      rfl
    · rw [kept (by decide)]
      rfl
    · exact requested
  refine ⟨effect, ?_⟩
  have last := Except.ok.inj created
  rw [← last]
  split
  · constructor
    · exact built
    · exact column
    · exact paused.expires
    · exact paused.version
    · exact (Dict.get_set_of_ne _ _ (by decide)).trans paused.key
    · exact (Dict.get_set_of_ne _ _ (by decide)).trans paused.runNamed
    · exact (Dict.get_set_of_ne _ _ (by decide)).trans paused.owned
    · exact requested
  · exact paused

theorem decided_ok {row granted : BoundApproval} {userId : String} {reason : Option String} {ruling : Approvals.Ruling}
    (approved : decided row userId .approved reason ruling = .ok granted) :
    (∃ payload, granted = { row with status := .approved, reason, approvedByUserId := some userId, payloadJson := payload }) ∧
      ∀ key, key ∉ ["draft_status", "posted_comment_id", "posted_comment_url", "posted_at"] →
        granted.payloadJson.get key = row.payloadJson.get key := by
  obtain ⟨_, _, approved⟩ := except_bind_ok approved
  split at approved
  · cases approved
  · obtain ⟨receipt, _, approved⟩ := except_bind_ok approved
    obtain rfl := Except.ok.inj approved
    exact ⟨⟨_, rfl⟩, fun key other => receivedPayload_get _ _ other⟩

end Rows

section Commit

variable {run : WorkflowRun} {id nodeId toolSlug : String} {params : Dict Json} {email : Json} {paused consumed now : Int}
  {row granted : BoundApproval} {effect : ProposedEffect} {request : CommitRequest} {ownerId : String}

structure Spent (env : Env) (run : WorkflowRun) (toolSlug : String) (params : Dict Json) (paused : Int)
    (spent : BoundApproval) (effect : ProposedEffect) : Prop where
  built : Built env ("tool:" ++ toolSlug) (effectArguments params) .null 1 paused effect
  carries : Carries spent effect
  status : spent.status = .approved
  expires : spent.expiresAt = some (paused + approvalTtl)
  version : spent.effectVersion = 1
  consumed : Workflow.alreadyConsumed spent.payloadJson = true
  runNamed : spent.payloadJson.get "workflow_run_id" = .str run.id
  owned : spent.payloadJson.get "owner_id" = .ofOption run.createdBy
  requested : spent.requestedByUserId = run.createdBy

theorem Paused.spent {userId : String} {reason : Option String} {ruling : Approvals.Ruling}
    (stamped : env.isoformat consumed ≠ "") (waits : Paused env run nodeId toolSlug params paused row effect)
    (approved : decided row userId .approved reason ruling = .ok granted) :
    Spent env run toolSlug params paused (spentRow env nodeId consumed granted) effect := by
  obtain ⟨⟨payload, shape⟩, kept⟩ := decided_ok approved
  have marked {key : String} (first : "_consumed_at" ≠ key) (second : "consumed_at" ≠ key)
      (third : "consumed_workflow_node_id" ≠ key) :
      (spentRow env nodeId consumed granted).payloadJson.get key = granted.payloadJson.get key := by
    show (((granted.payloadJson.set _ _).set _ _).set _ _).get key = _
    rw [Dict.get_set_of_ne _ _ third, Dict.get_set_of_ne _ _ second, Dict.get_set_of_ne _ _ first]
  constructor
  · exact waits.built
  · constructor
    · rw [shape]
      exact waits.column
    · rw [marked (by decide) (by decide) (by decide), kept _ (by decide)]
      exact waits.key
  · rw [shape]
    rfl
  · rw [shape]
    exact waits.expires
  · rw [shape]
    exact waits.version
  · have stamp : (spentRow env nodeId consumed granted).payloadJson.get "consumed_at" = .str (env.isoformat consumed) := by
      show (((granted.payloadJson.set _ _).set _ _).set _ _).get _ = _
      rw [Dict.get_set_of_ne _ _ (by decide), Dict.get_set_self]
    unfold Workflow.alreadyConsumed
    rw [stamp]
    simp [Json.truthy, stamped]
  · rw [marked (by decide) (by decide) (by decide), kept _ (by decide)]
    exact waits.runNamed
  · rw [marked (by decide) (by decide) (by decide), kept _ (by decide)]
    exact waits.owned
  · rw [shape]
    exact waits.requested

theorem Spent.grant {spent : BoundApproval} (given : Spent env run toolSlug params paused spent effect)
    (named : run.id ≠ "") (owner : request.ownerId = run.createdBy.getD "") (filled : request.workflowRunId ≠ "") :
    checkGrant spent request = .ok () ↔ request.workflowRunId = run.id := by
  unfold checkGrant
  dsimp only
  rw [given.status, given.consumed, given.runNamed, given.owned, Json.strOrEmpty_str, owner]
  have mismatch : ¬ (run.createdBy.getD "" ≠ "" ∧
      (((Json.ofOption run.createdBy).pyOr (.ofOption spent.requestedByUserId)).pyOr
        (.ofOption spent.approvedByUserId)).strOrEmpty ≠ "" ∧
      (((Json.ofOption run.createdBy).pyOr (.ofOption spent.requestedByUserId)).pyOr
        (.ofOption spent.approvedByUserId)).strOrEmpty ≠ run.createdBy.getD "") := by
    rintro ⟨someone, _, other⟩
    cases creator : run.createdBy with
    | none => simp [creator] at someone
    | some user =>
      rw [creator] at other someone
      have truthy : (Json.str user).truthy = true := by simpa [Json.truthy] using someone
      apply other
      simp [Json.ofOption, Json.pyOr, truthy]
  rw [if_neg (by simp), if_neg (by simp), if_neg (by simp), if_neg mismatch]
  by_cases same : request.workflowRunId = run.id
  · simp [same]
  · simp [same, filled, named, Ne.symm same]

theorem Spent.checked {spent : BoundApproval} (given : Spent env run toolSlug params paused spent effect)
    (grant : checkGrant spent request = .ok ()) (early : request.now < paused + approvalTtl)
    (unprinted : request.preconditionFingerprint = .null) : Checked spent request := by
  constructor
  · exact grant
  · exact ⟨_, given.expires, early⟩
  · rw [given.version]
    decide
  · exact unprinted

theorem committing_key (listed : toolSlug ∈ committingTools) : stripToolPrefix ("tool:" ++ toolSlug) = toolSlug ∧
    stripToolPrefix toolSlug = toolSlug ∧ toolSlug ≠ "" ∧ toolSlug ∉ telegramOperations :=
  (by decide +kernel : ∀ slug ∈ committingTools, stripToolPrefix ("tool:" ++ slug) = slug ∧
    stripToolPrefix slug = slug ∧ slug ≠ "" ∧ slug ∉ telegramOperations) toolSlug listed

theorem handed_text {key value : String} (installation : ConnectorInstallation) (plain : key ≠ "cloud_id")
    (handed : (handedContext run nodeId params id).get key = .str value) :
    ((adapterArguments toolSlug installation (mergedArguments params (handedContext run nodeId params id))).get key).strOrEmpty =
        value ↔
      ((params.get? key).isSome = true → (params.get key).strOrEmpty = value) := by
  rw [adapterArguments_get plain]
  cases found : params.get? key with
  | none =>
    rw [mergedArguments_absent found, handed, Json.strOrEmpty_str]
    simp
  | some item =>
    rw [mergedArguments_given _ (by simp [found])]
    simp

theorem handed_run : (handedContext run nodeId params id).get "workflow_run_id" = .str run.id := by
  unfold Dict.get
  rw [handedContext_get? (by decide) (by decide), resumedContext_get?, freshToolContext_get?]
  rfl

theorem handed_approval : (handedContext run nodeId params id).get "approval_request_id" = .str id := by
  unfold Dict.get
  rw [handedContext_get? (by decide) (by decide), resumedContext_get?]
  rfl

theorem handed_call_accepted (hashes : HashesContent env) (stamped : env.isoformat consumed ≠ "")
    (listed : toolSlug ∈ committingTools) (named : run.id ≠ "") {userId : String} {reason : Option String} {ruling : Approvals.Ruling}
    (created : toolApproval env id run nodeId toolSlug params email paused = .ok row)
    (approved : decided row userId .approved reason ruling = .ok granted)
    {approvalId : String} {installation : ConnectorInstallation} (ownerIs : installation.ownerId = run.createdBy.getD "")
    (commit : commitOf toolSlug installation.ownerId (adapterArguments toolSlug installation
      (mergedArguments params (handedContext run nodeId params id))) now = some (approvalId, request))
    (early : now < paused + approvalTtl) :
    (approvalId = id ∧ ∃ bound, validateCommittedEffect env (spentRow env nodeId consumed granted) request = .ok bound) ↔
      Committable toolSlug params id run.id installation.cloudId := by
  obtain ⟨effect, waits⟩ := toolApproval_ok created
  have given := waits.spent stamped approved
  obtain ⟨keyed, bare, slug, _⟩ := committing_key listed
  have runText := @handed_text run id nodeId toolSlug params "workflow_run_id" run.id installation (by decide) handed_run
  have approvalText := @handed_text run id nodeId toolSlug params "approval_request_id" id installation (by decide)
    handed_approval
  obtain ⟨c, content, _⟩ := computeEffectHash_content given.built.normalized given.built.hash
  have shapes := @contents_same run id nodeId toolSlug params installation _ listed keyed c content
  have tooled : stripToolPrefix ("tool:" ++ toolSlug) ≠ "" := fun empty => slug (keyed.symm.trans empty)
  have again : stripToolPrefix (stripToolPrefix ("tool:" ++ toolSlug)) = stripToolPrefix ("tool:" ++ toolSlug) :=
    (congrArg stripToolPrefix keyed).trans (bare.trans keyed.symm)
  have nonempty : effect.normalizedEffect ≠ [] := by
    intro nothing
    have none := given.built.normalized
    rw [nothing] at none
    exact effectArguments_ne_nil params (normalizeProposedEffect_nil none).1
  unfold commitOf at commit
  dsimp only at commit
  split at commit
  · cases commit
  rename_i filled
  rw [not_or, not_or] at filled
  obtain ⟨approvalIs, made⟩ := Prod.mk.inj (Option.some.inj commit)
  have keyIs : request.actionKey = toolSlug := by rw [← made]
  have rawIs : request.rawArguments = adapterArguments toolSlug installation
      (mergedArguments params (handedContext run nodeId params id)) := by rw [← made]
  have ownedIs : request.ownerId = run.createdBy.getD "" := by rw [← made, ← ownerIs]
  have runIs : request.workflowRunId = ((adapterArguments toolSlug installation
      (mergedArguments params (handedContext run nodeId params id))).get "workflow_run_id").strOrEmpty := by rw [← made]
  have nowIs : request.now < paused + approvalTtl := by rwa [← made]
  have unprinted : request.preconditionFingerprint = .null := by rw [← made]
  have toolIs : stripToolPrefix request.actionKey = stripToolPrefix ("tool:" ++ toolSlug) :=
    (congrArg stripToolPrefix keyIs).trans (bare.trans keyed.symm)
  have opens := given.grant named ownedIs (runIs ▸ filled.1)
  have accepts (grant : checkGrant (spentRow env nodeId consumed granted) request = .ok ()) :=
    validateCommittedEffect_iff hashes given.built given.carries nonempty (given.checked grant nowIs unprinted) tooled
      again toolIs
  rw [rawIs] at accepts
  rw [runIs] at opens
  constructor
  · rintro ⟨same, bound, accepted⟩
    have grant := validateCommittedEffect_granted accepted
    have conditions := shapes.mp ((accepts grant).mp ⟨bound, accepted⟩)
    constructor
    · exact approvalText.mp (approvalIs.trans same)
    · exact runText.mp (opens.mp grant)
    · exact conditions.1
    · exact conditions.2
  · intro conditions
    have grant := opens.mpr (runText.mpr conditions.run)
    have contents := shapes.mpr ⟨conditions.whole, conditions.cloud⟩
    exact ⟨approvalIs.symm.trans (approvalText.mpr conditions.approval), (accepts grant).mpr contents⟩

/-- What was approved under the params of a call can be committed with what its adapter passes if and
    only if the params are committable. -/
theorem approved_call_commits (hashes : HashesContent env) (stamped : env.isoformat consumed ≠ "")
    (listed : toolSlug ∈ committingTools) (named : run.id ≠ "") {userId : String} {reason : Option String} {ruling : Approvals.Ruling}
    (created : toolApproval env id run nodeId toolSlug params email paused = .ok row)
    (approved : decided row userId .approved reason ruling = .ok granted)
    {installations : Dict ConnectorInstallation} {installationId approvalId : String}
    {installation : ConnectorInstallation} {arguments : Dict Json}
    (ran : connectorExecute installations toolSlug params (handedContext run nodeId params id) =
      .ok (.called installationId installation arguments))
    (commit : commitOf toolSlug installation.ownerId (adapterArguments toolSlug installation arguments) now =
      some (approvalId, request)) (early : now < paused + approvalTtl) :
    (approvalId = id ∧ ∃ bound, validateCommittedEffect env (spentRow env nodeId consumed granted) request = .ok bound) ↔
      Committable toolSlug params id run.id installation.cloudId := by
  obtain ⟨_, _, _, telegram⟩ := committing_key listed
  obtain ⟨_, _, owner, passed⟩ := connectorExecute_called ran
  rw [if_neg telegram] at owner passed
  have ownerIs : installation.ownerId = run.createdBy.getD "" := by
    rw [owner]
    unfold handedContext
    rw [Dict.get_set_self]
    rfl
  subst passed
  exact handed_call_accepted hashes stamped listed named created approved ownerIs commit early

end Commit

section Examples

def toolRun : WorkflowRun := { (default : WorkflowRun) with id := "run", createdBy := some "owner" }

def mailbox : ConnectorInstallation :=
  { ownerId := "owner", companyId := none, status := "active", connector := "gmail" }

def office : Dict ConnectorInstallation := [("m", mailbox), ("s", { mailbox with connector := "slack" })]

def sendCall : Dict Json :=
  [("connector_installation_id", .str "m"), ("gmail_draft_id", .str "d"), ("subject", .str "Offer")]

def postCall : Dict Json :=
  [("connector_installation_id", .str "s"), ("channel", .str "C1"), ("text", .str "hi")]

def spentOf (row : BoundApproval) : BoundApproval :=
  spentRow deskEnv "node" 0 { row with status := .approved, approvedByUserId := some "owner", reason := none }

def handedTo (params : Dict Json) : Dict Json := mergedArguments params (handedContext toolRun "node" params "approval")

def commitRequest (toolSlug : String) (params : Dict Json) : CommitRequest :=
  { actionKey := toolSlug, rawArguments := handedTo params, requireConsumed := true, ownerId := "owner",
    workflowRunId := "run", now := 0 }

theorem approved_draft_commits : ∃ row bound,
    toolApproval deskEnv "approval" toolRun "node" "gmail.send_draft" sendCall .null 0 = .ok row ∧
      validateCommittedEffect deskEnv (spentOf row) (commitRequest "gmail.send_draft" sendCall) = .ok bound := by
  have hashes : HashesContent deskEnv := ⟨Json.digest_eq_iff, Json.digest_nonempty⟩
  obtain ⟨row, created⟩ : ∃ row, toolApproval deskEnv "approval" toolRun "node" "gmail.send_draft" sendCall .null 0 =
    .ok row := ok_of_isSome (by decide +kernel)
  have approved : decided row "owner" .approved none unopposed =
      .ok { row with status := .approved, approvedByUserId := some "owner", reason := none } := rfl
  have ran : connectorExecute office "gmail.send_draft" sendCall (handedContext toolRun "node" sendCall "approval") =
      .ok (.called "m" mailbox (handedTo sendCall)) := rfl
  have commit : commitOf "gmail.send_draft" "owner" (adapterArguments "gmail.send_draft" mailbox (handedTo sendCall)) 0 =
      some ("approval", commitRequest "gmail.send_draft" sendCall) := rfl
  have shape : effectShape "gmail.send_draft" sendCall = .gmail := rfl
  have committable : Committable "gmail.send_draft" sendCall "approval" "run" "" := by
    constructor
    · nofun
    · nofun
    · simp [shape]
    · simp [shape]
  have stamped : deskEnv.isoformat 0 ≠ "" := by decide
  obtain ⟨_, bound, accepted⟩ := (approved_call_commits hashes stamped (by decide) (by decide) created approved ran
    commit (by decide)).mpr committable
  exact ⟨row, bound, created, accepted⟩

theorem approved_post_not_committed : ∃ row,
    toolApproval deskEnv "approval" toolRun "node" "slack.post_message" postCall .null 0 = .ok row ∧
      connectorExecute office "slack.post_message" postCall (handedContext toolRun "node" postCall "approval") =
        .ok (.called "s" { mailbox with connector := "slack" } (handedTo postCall)) ∧
      commitOf "slack.post_message" "owner" (handedTo postCall) 0 =
        some ("approval", commitRequest "slack.post_message" postCall) ∧
      ∀ bound, validateCommittedEffect deskEnv (spentOf row) (commitRequest "slack.post_message" postCall) ≠ .ok bound := by
  have checked : (match toolApproval deskEnv "approval" toolRun "node" "slack.post_message" postCall .null 0 with
      | .ok row => (validateCommittedEffect deskEnv (spentOf row) (commitRequest "slack.post_message" postCall)).isOk
      | .error _ => true) = false := by
    decide +kernel
  cases created : toolApproval deskEnv "approval" toolRun "node" "slack.post_message" postCall .null 0 with
  | error error => simp [created] at checked
  | ok row =>
    rw [created] at checked
    refine ⟨row, rfl, rfl, rfl, ?_⟩
    intro bound accepted
    dsimp only at checked
    rw [accepted] at checked
    cases checked

end Examples

end Troop.Connectors
