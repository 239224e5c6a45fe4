import Troop.Approvals.Chains
import Troop.Workflow.Rejections

namespace Troop.Approvals

open Workflow (Env World WorkflowRun exactTools approvalAction alreadyConsumed otherProject pendingCall
  consumeApprovalForNode checkApprovalForNode checkPendingTool stripToolPrefix)

variable {env : Env} {before after desk : Desk}

def approvedForm (draft : Dict Json) : Except PyError (Dict Json) :=
  canonicalEmailActionArguments draft >>= canonicalEmailActionArguments

def InApprovedForm (draft : Dict Json) : Prop :=
  ∃ form, approvedForm draft = .ok form ∧ form.SameContent draft

/-- A pending approval of the call that the tool node of a run waits to make. -/
structure AwaitsTool (desk : Desk) (id runId : String) (nodeId : Option String) (slug : String)
    (approval : BoundApproval) (run : WorkflowRun) (pending : Dict Json) : Prop where
  row : desk.approvals.get? id = some approval
  runNamed : (approval.payloadJson.get "workflow_run_id").strOrEmpty = runId
  nodeNamed : (approval.payloadJson.get "workflow_node_id").strOrEmpty = nodeId.getD ""
  unconsumed : alreadyConsumed approval.payloadJson = false
  type : approval.approvalType = "tool:" ++ slug
  owner : desk.runs.get? runId = some run
  runId_eq : run.id = runId
  runId_ne : runId ≠ ""
  node : run.currentNodeId = nodeId
  project : otherProject approval.toApprovalRequest run = false
  call : (run.contextJson.vars.get "pending_tool").toDict = .ok pending
  tool : (pending.get "tool_slug").strOrEmpty = slug

def editedKeys : List String :=
  ["action_key", "arguments_hash", "effect_hash", "effect_version", "precondition_fingerprint", "expires_at",
    "replaces_approval_request_id", "proposed_effect", "invalidated_by_edit", "draft_arguments"]

variable {run : WorkflowRun} {nodeId : Option String} {row : Workflow.ApprovalRequest} {old new : BoundApproval}
  {key : String} {now : Int} {w : World}

theorem effectPayload_other (effect : ProposedEffect) (other : key ∉ editedKeys) :
    (effectPayload env effect).get? key = none := by
  simp only [editedKeys, List.mem_cons, List.not_mem_nil, or_false, not_or] at other
  obtain ⟨a, b, c, d, e, f, g, h, _, _⟩ := other
  unfold effectPayload
  cases effect.expiresAt <;> cases effect.replacesApprovalId <;> dsimp only <;> try split
  all_goals
    simp [Dict.get?_cons, Ne.symm a, Ne.symm b, Ne.symm c, Ne.symm d, Ne.symm e, Ne.symm f, Ne.symm g, Ne.symm h]

theorem effectPayload_hash (effect : ProposedEffect) :
    (effectPayload env effect).get? "arguments_hash" = some (.str effect.effectHash) := by
  unfold effectPayload
  simp [Dict.get?_cons]

section Revised

variable {id ownerId : String} {approval : BoundApproval} {effect : ProposedEffect} {draft : Dict Json}

theorem revisedRow_get (key : String) (other : "draft_arguments" ≠ key) :
    (revisedRow env id approval effect ownerId draft).payloadJson.get key =
      ((approval.payloadJson.set "invalidated_by_edit" (.bool true)).update
        (effectPayload env { effect with replacesApprovalId := some approval.id })).get key := by
  show ((Dict.set _ _ _).get _) = _
  rw [Dict.get_set_of_ne _ _ other]
  exact draftedPayload_get _ _ other

theorem revisedRow_kept (key : String) (other : key ∉ editedKeys) :
    (revisedRow env id approval effect ownerId draft).payloadJson.get key = approval.payloadJson.get key := by
  have apart : "draft_arguments" ≠ key ∧ "invalidated_by_edit" ≠ key := by
    simp only [editedKeys, List.mem_cons, List.not_mem_nil, or_false, not_or] at other
    exact ⟨Ne.symm other.2.2.2.2.2.2.2.2.2, Ne.symm other.2.2.2.2.2.2.2.2.1⟩
  rw [revisedRow_get key apart.1, Dict.get_update, effectPayload_other _ other]
  exact Dict.get_set_of_ne _ _ apart.2

theorem revisedRow_hash :
    ((revisedRow env id approval effect ownerId draft).payloadJson.get "arguments_hash").strOrEmpty = effect.effectHash := by
  rw [revisedRow_get _ (by decide), Dict.get_update, effectPayload_hash]
  exact Json.strOrEmpty_str _

theorem revisedRow_consumed :
    alreadyConsumed (revisedRow env id approval effect ownerId draft).payloadJson =
      alreadyConsumed approval.payloadJson := by
  unfold alreadyConsumed
  rw [revisedRow_kept _ (by decide), revisedRow_kept _ (by decide)]

end Revised

theorem redirectedVars_ok {vars redirected draft : Dict Json} {id : String}
    (done : redirectedVars vars id draft = .ok redirected) :
    ∃ pending, (vars.get "pending_tool").toDict = .ok pending ∧
      redirected.get "pending_tool" =
        .obj ((pending.set "approval_request_id" (.str id)).set "params" (.obj draft)) := by
  obtain ⟨pending, read, done⟩ := except_bind_ok done
  cases done
  exact ⟨pending, read, Dict.get_set_self ..⟩

theorem AwaitsTool.edited {id runId slug ownerId : String} {row : BoundApproval} {pending : Dict Json} (waits : AwaitsTool before id runId nodeId slug row run pending)
    {changes : Dict Json} {approval : BoundApproval} {bound : Option ProposedEffect} {drafted : Dict Json}
    {effect : ProposedEffect}
    (edited : Edited env ownerId id changes now before after approval bound drafted effect) :
    ∃ run' pending', AwaitsTool after (env.uuid4 before.drawn) runId nodeId slug
        (revisedRow env (env.uuid4 before.drawn) approval effect ownerId (applyChanges changes drafted)) run' pending' ∧
      pending'.get "params" = .obj (applyChanges changes drafted) ∧
      run'.contextJson.vars.get "pending_tool" = .obj pending' := by
  cases Option.some.inj (waits.row.symm.trans edited.found)
  have named : (revisedRow env (env.uuid4 before.drawn) row effect ownerId (applyChanges changes drafted)).payloadJson.get
      "workflow_run_id" = row.payloadJson.get "workflow_run_id" := revisedRow_kept _ (by decide)
  have redirected := edited.runs
  unfold redirectRun at redirected
  rw [named, waits.runNamed, if_neg waits.runId_ne, waits.owner] at redirected
  dsimp only at redirected
  split at redirected
  · cases redirected
  obtain ⟨vars, moved, redirected⟩ := except_bind_ok redirected
  have runs := Except.ok.inj redirected
  obtain ⟨read, readable, params⟩ := redirectedVars_ok moved
  cases Except.ok.inj (waits.call.symm.trans readable)
  refine ⟨{ run with contextJson := { run.contextJson with vars } },
    (pending.set "approval_request_id" (.str (env.uuid4 before.drawn))).set "params" (.obj (applyChanges changes drafted)),
    ?_, Dict.get_set_self .., params⟩
  constructor
  · rw [edited.table]
    exact Dict.get?_set_self ..
  · rw [named]
    exact waits.runNamed
  · rw [revisedRow_kept _ (by decide)]
    exact waits.nodeNamed
  · rw [revisedRow_consumed]
    exact waits.unconsumed
  · exact waits.type
  · grind [Dict.get?_set_self]
  · exact waits.runId_eq
  · exact waits.runId_ne
  · exact waits.node
  · exact waits.project
  · rw [params]
    rfl
  · rw [Dict.get_set_of_ne _ _ (by decide), Dict.get_set_of_ne _ _ (by decide)]
    exact waits.tool

/-- One edit after the other, each of the replacement that the last one made: the rows after them, the
    last replacement and its draft. -/
inductive EditedBy (env : Env) (desk : Desk) (id : String) : Desk → String → BoundApproval → Dict Json → Prop
  | once {ownerId : String} {changes : Dict Json} {now : Int} {after : Desk} {approval : BoundApproval}
      {bound : Option ProposedEffect} {drafted : Dict Json} {effect : ProposedEffect}
      (edited : Edited env ownerId id changes now desk after approval bound drafted effect) :
      EditedBy env desk id after (env.uuid4 desk.drawn)
        (revisedRow env (env.uuid4 desk.drawn) approval effect ownerId (applyChanges changes drafted))
        (applyChanges changes drafted)
  | again {middle : Desk} {last : String} {row : BoundApproval} {draft : Dict Json} {ownerId : String}
      {changes : Dict Json} {now : Int} {after : Desk} {approval : BoundApproval} {bound : Option ProposedEffect}
      {drafted : Dict Json} {effect : ProposedEffect} (before : EditedBy env desk id middle last row draft)
      (edited : Edited env ownerId last changes now middle after approval bound drafted effect) :
      EditedBy env desk id after (env.uuid4 middle.drawn)
        (revisedRow env (env.uuid4 middle.drawn) approval effect ownerId (applyChanges changes drafted))
        (applyChanges changes drafted)

theorem built_hash {draft : Dict Json} {fingerprint : Json} {version now : Int} {effect : ProposedEffect}
    (built : buildProposedEffect env "gmail.send_draft" draft fingerprint version now = .ok effect) :
    ∃ form, approvedForm draft = .ok form ∧ effect.effectHash = env.argumentsHash form := by
  have known := buildProposedEffect_ok built
  have key : stripToolPrefix "gmail.send_draft" ∈ gmailActions := by decide
  have normalized : canonicalEmailActionArguments draft = .ok effect.normalizedEffect := by
    have shape : normalizedShape (stripToolPrefix "gmail.send_draft") draft = .gmail := by
      unfold normalizedShape
      exact if_pos (.inl key)
    have read := known.normalized
    unfold normalizeProposedEffect at read
    rwa [shape] at read
  have hashed := known.hash
  have shape : hashedShape (stripToolPrefix "gmail.send_draft") effect.normalizedEffect = .gmail := by
    unfold hashedShape
    exact if_pos (.inl key)
  unfold computeEffectHash at hashed
  rw [shape] at hashed
  cases form : canonicalEmailActionArguments effect.normalizedEffect with
  | error error => simp [Shape.hash, Shape.project, form, Except.map] at hashed
  | ok dict =>
    simp only [Shape.hash, Shape.project, form, Except.map, Except.ok.injEq] at hashed
    exact ⟨dict, by rw [approvedForm, normalized]; exact form, hashed.symm⟩

theorem EditedBy.waits {id runId slug last : String} {first row : BoundApproval}
    {start : WorkflowRun} {asked draft : Dict Json} (waits : AwaitsTool desk id runId nodeId slug first start asked)
    (edits : EditedBy env desk id after last row draft) :
    ∃ run pending, AwaitsTool after last runId nodeId slug row run pending ∧
      pending.get "params" = .obj draft ∧ run.contextJson.vars.get "pending_tool" = .obj pending ∧
      ∃ form, approvedForm draft = .ok form ∧
        (row.payloadJson.get "arguments_hash").strOrEmpty = env.argumentsHash form := by
  have hashed : ∀ {ownerId last : String} {changes : Dict Json} {now : Int} {middle after : Desk}
      {approval : BoundApproval} {bound : Option ProposedEffect} {drafted : Dict Json} {effect : ProposedEffect},
      Edited env ownerId last changes now middle after approval bound drafted effect → ∀ new,
      ∃ form, approvedForm (applyChanges changes drafted) = .ok form ∧
        ((revisedRow env new approval effect ownerId (applyChanges changes drafted)).payloadJson.get
          "arguments_hash").strOrEmpty = env.argumentsHash form := by
    intro ownerId last changes now middle after approval bound drafted effect edited new
    obtain ⟨fingerprint, built⟩ := edited.built
    obtain ⟨form, formed, hash⟩ := built_hash built
    exact ⟨form, formed, revisedRow_hash.trans hash⟩
  induction edits with
  | once edited =>
    obtain ⟨run, pending, now, params, tool⟩ := waits.edited edited
    exact ⟨run, pending, now, params, tool, hashed edited _⟩
  | again before edited ih =>
    obtain ⟨middleRun, middlePending, middle, _⟩ := ih
    obtain ⟨run, pending, now, params, tool⟩ := middle.edited edited
    exact ⟨run, pending, now, params, tool, hashed edited _⟩

theorem receivedPayload_get (payload : Dict Json) (receipt : Option Receipt)
    (other : key ∉ ["draft_status", "posted_comment_id", "posted_comment_url", "posted_at"]) :
    (receivedPayload payload receipt).get key = payload.get key := by
  cases receipt with
  | none => rfl
  | some receipt =>
    simp only [List.mem_cons, List.not_mem_nil, or_false, not_or] at other
    obtain ⟨a, b, c, d⟩ := other
    show (payload.update receipt.payload).get _ = _
    rw [Dict.get_update]
    simp [Receipt.payload, Dict.get?_cons, Dict.get, Ne.symm a, Ne.symm b, Ne.symm c, Ne.symm d]

structure Granted (old new : BoundApproval) : Prop where
  status : new.status = .approved
  type : new.approvalType = old.approvalType
  project : new.projectId = old.projectId
  payload : ∀ key, key ∉ ["draft_status", "posted_comment_id", "posted_comment_url", "posted_at"] →
    new.payloadJson.get key = old.payloadJson.get key

theorem decideApproval_ok {userId id : String} {reason : Option String} {ruling : Ruling} (there : desk.approvals.get? id = some old)
    (approved : decideApproval env userId id .approved reason ruling now desk = (.ok new, after)) :
    Granted old new ∧ after.runs = desk.runs ∧ after.approvals.get? id = some new := by
  unfold decideApproval at approved
  rw [there] at approved
  dsimp only at approved
  split at approved
  · cases approved
  split at approved
  · cases approved
  split at approved
  · cases approved
  · cases approved
  split at approved
  · cases approved
  rename_i settled
  cases approved
  refine ⟨?_, rfl, Dict.get?_set_self ..⟩
  obtain ⟨_, _, settled⟩ := except_bind_ok settled
  split at settled
  · cases settled
  obtain ⟨receipt, _, settled⟩ := except_bind_ok settled
  cases settled
  exact ⟨rfl, rfl, rfl, fun key other => receivedPayload_get _ _ other⟩

theorem otherProject_congr {a b : BoundApproval} (same : b.projectId = a.projectId) :
    otherProject b.toApprovalRequest run = otherProject a.toApprovalRequest run := by
  unfold otherProject
  rw [same]

theorem checkApprovalForNode_granted {id runId slug : String} {pending draft : Dict Json} (waits : AwaitsTool desk id runId nodeId slug old run pending)
    (granted : Granted old new) (params : pending.get "params" = .obj draft)
    (tool : run.contextJson.vars.get "pending_tool" = .obj pending) :
    checkApprovalForNode env (some new.toApprovalRequest) run nodeId run.contextJson.vars true =
      if (old.payloadJson.get "arguments_hash").strOrEmpty = "" ∨
          (old.payloadJson.get "arguments_hash").strOrEmpty ≠ env.argumentsHash draft then
        .error (.valueError "approval arguments_hash does not match pending tool params")
      else .ok (new.toApprovalRequest, some (slug, draft)) := by
  have consumed : alreadyConsumed new.payloadJson = false := by
    have kept := waits.unconsumed
    unfold alreadyConsumed at kept ⊢
    rw [granted.payload _ (by decide), granted.payload _ (by decide)]
    exact kept
  have runNamed : (new.payloadJson.get "workflow_run_id").strOrEmpty = run.id := by
    rw [granted.payload _ (by decide), waits.runNamed, waits.runId_eq]
  have nodeNamed : (new.payloadJson.get "workflow_node_id").strOrEmpty = nodeId.getD "" := by
    rw [granted.payload _ (by decide), waits.nodeNamed]
  have project : otherProject new.toApprovalRequest run = false := by
    rw [otherProject_congr granted.project]
    exact waits.project
  have call : pendingCall run.contextJson.vars = .ok (slug, draft) := by
    unfold pendingCall
    rw [tool]
    show (do let params ← (pending.get "params").toDict; return ((pending.get "tool_slug").strOrEmpty, params)) = _
    rw [params, waits.tool]
    rfl
  have typed : new.approvalType ∈ exactTools slug := by
    rw [granted.type, waits.type]
    simp [exactTools]
  unfold checkApprovalForNode
  dsimp only
  rw [if_neg (not_not.mpr granted.status), if_neg (by simp [project]), if_neg (by simp [consumed]),
    if_neg (not_not.mpr runNamed), if_neg (not_not.mpr nodeNamed), if_pos rfl]
  unfold checkPendingTool
  rw [call]
  simp only [bind, Except.bind]
  rw [if_neg (fun refused => refused.2 typed), granted.payload "arguments_hash" (by decide)]

theorem consumeApprovalForNode_refused {id : String} {nodeId actor : Option String}
    {vars : Dict Json} {error : PyError} (there : w.db.approvals.get? id = some row)
    (refused : checkApprovalForNode env (some row) run nodeId vars true = .error error) :
    ((consumeApprovalForNode env id run nodeId vars actor true).exec w).1 = .error error := by
  unfold consumeApprovalForNode
  rw [Prog.exec_bind_ok (Prog.exec_get w), there, refused]
  rw [Prog.exec_bind_error (Prog.exec_ofExcept _ w)]

theorem consumeApprovalForNode_passed {id slug : String} {nodeId actor : Option String} {vars pending draft : Dict Json}
    (there : w.db.approvals.get? id = some row)
    (passed : checkApprovalForNode env (some row) run nodeId vars true = .ok (row, some (slug, draft)))
    (tool : vars.get "pending_tool" = .obj pending) (params : pending.get "params" = .obj draft)
    (named : (pending.get "tool_slug").strOrEmpty = slug) :
    ∃ after, ((consumeApprovalForNode env id run nodeId vars actor true).exec w).1 = .ok after ∧
      pendingCall after = .ok (slug, draft) := by
  unfold consumeApprovalForNode
  rw [Prog.exec_bind_ok (Prog.exec_get w), there, passed]
  rw [Prog.exec_bind_ok (Prog.exec_ofExcept _ w)]
  dsimp only
  unfold Workflow.grantedVars
  rw [if_pos rfl, tool]
  refine ⟨_, rfl, ?_⟩
  unfold pendingCall
  rw [Dict.get_set_self]
  show (do
    let params ← (Dict.get _ "params").toDict
    return ((Dict.get _ "tool_slug").strOrEmpty, params)) = _
  rw [Dict.get_set_of_ne _ _ (by decide), Dict.get_set_of_ne _ _ (by decide), Dict.get_set_of_ne _ _ (by decide),
    params, Dict.get_set_of_ne _ _ (by decide), Dict.get_set_of_ne _ _ (by decide),
    Dict.get_set_of_ne _ _ (by decide), named]
  rfl

theorem mailDesk_awaits :
    AwaitsTool mailDesk "root" "run" (some "send") "gmail.send_draft" mailApproval mailRun
      [("node_id", .str "send"), ("tool_slug", .str "gmail.send_draft"), ("params", .obj mailArguments)] := by
  refine ⟨rfl, ?_, ?_, ?_, ?_, rfl, rfl, ?_, rfl, rfl, rfl, ?_⟩ <;> decide

theorem ok_of_isSome {ε α : Type} {attempt : Except ε α} (passed : attempt.toOption.isSome = true) :
    ∃ value, attempt = .ok value := by
  cases attempt with
  | error error => cases passed
  | ok value => exact ⟨value, rfl⟩

def unopposed : Ruling := ⟨true, .ok ⟨⟩, fun _ => .ok none⟩

def retitled : Dict Json := [("subject", .str "Better offer")]

def retitling : Except PyError (BoundApproval × Desk) :=
  replaceEmailApprovalDraft deskEnv "owner" "root" retitled (.ok ⟨⟩) 0 mailDesk

def rewordAndApprove : List Request :=
  [.edit "owner" "root" [("body_text", .str "Dear Bob")] (.ok ⟨⟩) 0,
    .decide "owner" "r" .approved none ⟨true, .ok ⟨⟩, fun _ => .ok none⟩ 1]

end Troop.Approvals
