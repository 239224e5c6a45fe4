import Troop.Approvals.Commit
import Troop.Approvals.Desk
import Troop.Connectors.Tenancy
import Troop.Workflow.Nodes

namespace Troop.Connectors

open Approvals
open Workflow (Env WorkflowRun approvalTtl stripToolPrefix freshToolContext rawEffectArguments)

variable {env : Env}

/-- The tools whose adapter commits through `authorize_and_claim_execution`. -/
def committingTools : List String :=
  ["gmail.send_draft", "outlook.send_draft", "slack.post_message", "teams.post_message"] ++ jiraMutationActions ++
    linearMutationActions ++ hubspotMutationActions ++ salesforceMutationActions

/-- `create_exact_effect_approval`, called at `now` -/
def createExactEffectApproval (env : Env) (id : String) (run : WorkflowRun) (approvalType actionKey : String)
    (rawArguments : Dict Json) (reason : String) (extraPayload : Dict Json) (now : Int) :
    Except PyError BoundApproval := do
  let effect ← buildProposedEffect env actionKey rawArguments .null 1 now
  let owned := if (extraPayload.get? "owner_id").isSome then extraPayload
    else extraPayload.set "owner_id" (.ofOption run.createdBy)
  let drafted := if ¬ rawArguments.isEmpty ∧ (owned.get? "draft_arguments").isNone then
    owned.set "draft_arguments" (.obj rawArguments) else owned
  let row : BoundApproval :=
    { id, projectId := run.projectId, taskId := run.taskId, runId := none, issueLinkId := none,
      requestedByUserId := run.createdBy, approvedByUserId := none, approvalType, status := .pending,
      reason := some reason, payloadJson := drafted, effectHash := none, effectVersion := 1,
      preconditionFingerprint := .null, expiresAt := none, proposedEffectJson := none }
  return applyProposedEffectToApproval env row effect

/-- What `_execute_tool_node` adds to the payload of an approval. -/
def toolPayload (toolSlug : String) (params : Dict Json) (email : Json) : Dict Json :=
  [("tool_slug", .str toolSlug), ("draft_arguments", .obj params),
    ("risk_level", .str (if toolSlug = "gmail.send_draft" then "high" else "medium")), ("email", email)]

/-- The approval a tool node pauses with: `_create_workflow_approval_request` for the tool and its
    params. -/
def toolApproval (env : Env) (id : String) (run : WorkflowRun) (nodeId toolSlug : String) (params : Dict Json)
    (email : Json) (now : Int) : Except PyError BoundApproval := do
  let extra := toolPayload toolSlug params email
  let rawArguments ← rawEffectArguments extra
  let payload := Dict.update [("workflow_run_id", Json.str run.id), ("workflow_node_id", .str nodeId),
    ("owner_id", .ofOption run.createdBy)] extra
  let row ← createExactEffectApproval env id run ("tool:" ++ toolSlug) ("tool:" ++ toolSlug) rawArguments
    ("Workflow tool `" ++ toolSlug ++ "` requires approval") payload now
  let hash := env.argumentsHash params
  return if hash ≠ "" ∧ row.effectHash ≠ some hash then
    { row with payloadJson := row.payloadJson.set "arguments_hash" (.str hash) } else row

def spentRow (env : Env) (nodeId : String) (now : Int) (row : BoundApproval) : BoundApproval :=
  { row with payloadJson := Workflow.consumedPayload env row.payloadJson (some nodeId) now }

def resumedContext (run : WorkflowRun) (nodeId : String) (params : Dict Json) (approvalId : String) : Dict Json :=
  let parked : Dict Json := (freshToolContext run nodeId params).filter fun entry =>
    entry.1 ∉ ["approval_granted", "approval_request_id"]
  (parked.set "approval_granted" (.bool true)).set "approval_request_id" (.str approvalId)

def handedContext (run : WorkflowRun) (nodeId : String) (params : Dict Json) (approvalId : String) : Dict Json :=
  (authContext params (resumedContext run nodeId params approvalId)).set "owner_id" (.str (run.createdBy.getD ""))

def adapterArguments (toolSlug : String) (installation : ConnectorInstallation) (arguments : Dict Json) : Dict Json :=
  if toolSlug ∈ jiraOperations then
    arguments.set "cloud_id" (if (arguments.get "cloud_id").truthy then .str (arguments.get "cloud_id").pyStr
      else .str installation.cloudId)
  else arguments

def resourceKey (arguments : Dict Json) : String → String
  | "gmail.send_draft" => textChain arguments ["gmail_draft_id"] ""
  | "outlook.send_draft" => textChain arguments ["outlook_draft_id"] ""
  | "slack.post_message" => textChain arguments ["channel"] ""
  | "teams.post_message" => textChain arguments ["conversation_id"] ""
  | "jira.create_issue" => textChain arguments ["project_key"] ""
  | "jira.update_issue" => textChain arguments ["issue_key", "issue_id"] ""
  | "jira.add_comment" =>
    textChain arguments ["issue_key", "issue_id"] "" ++ ":" ++
      String.ofList ((textChain arguments ["comment_body", "comment"] "").toList.take 64)
  | "linear.create_issue" => textChain arguments ["team_id"] ""
  | "linear.update_issue" => textChain arguments ["issue_id", "issue_key"] ""
  | "linear.add_comment" =>
    textChain arguments ["issue_id", "issue_key"] "" ++ ":" ++
      String.ofList ((textChain arguments ["comment_body", "comment"] "").toList.take 64)
  | "hubspot.send_email" => textChain arguments ["email_to", "to"] ""
  | _ => textChain arguments ["contact_id", "record_id"] ""

def commitOf (toolSlug ownerId : String) (arguments : Dict Json) (now : Int) : Option (String × CommitRequest) :=
  let runId := (arguments.get "workflow_run_id").strOrEmpty
  let approvalId := (arguments.get "approval_request_id").strOrEmpty
  if runId = "" ∨ approvalId = "" ∨ resourceKey arguments toolSlug = "" then none
  else some (approvalId,
    { actionKey := toolSlug, rawArguments := arguments, requireConsumed := true, ownerId, workflowRunId := runId, now })

def handedKeys : List String :=
  ["owner_id", "project_id", "task_id", "workflow_run_id", "workflow_node_id", "connector_installation_id",
    "approval_granted", "approval_request_id"]

/-- The params of a call that commits what was approved under them: they name no other approval and no
    other run, they carry the whole context where everything is hashed, and the cloud where Jira's
    adapter would add it. -/
structure Committable (toolSlug : String) (params : Dict Json) (approvalId runId cloudId : String) : Prop where
  approval : (params.get? "approval_request_id").isSome = true →
    (params.get "approval_request_id").strOrEmpty = approvalId
  run : (params.get? "workflow_run_id").isSome = true → (params.get "workflow_run_id").strOrEmpty = runId
  whole : effectShape toolSlug params = .whole → ∀ key ∈ handedKeys, (params.get? key).isSome = true
  cloud : toolSlug ∈ jiraMutationActions → effectShape toolSlug params = .jira →
    (params.get "cloud_id").truthy = true ∨ cloudId = ""

section Merged

variable {run : WorkflowRun} {nodeId approvalId : String} {params : Dict Json}

def ambientKeys : List String :=
  ["owner_id", "project_id", "task_id", "workflow_run_id", "workflow_node_id", "approval_granted",
    "approval_request_id", "draft_arguments"]

theorem freshToolContext_get? (key : String) :
    (freshToolContext run nodeId params).get? key =
      if "owner_id" = key then some (.ofOption run.createdBy) else if "project_id" = key then some (.ofOption run.projectId)
      else if "task_id" = key then some (.ofOption run.taskId) else if "workflow_run_id" = key then some (.str run.id)
      else if "workflow_node_id" = key then some (.str nodeId)
      else if "connector_installation_id" = key then some (params.get "connector_installation_id") else none := by
  unfold freshToolContext
  rw [Dict.get?_cons, Dict.get?_cons, Dict.get?_cons, Dict.get?_cons, Dict.get?_cons, Dict.get?_cons, Dict.get?_nil]

theorem resumedContext_get? (key : String) :
    (resumedContext run nodeId params approvalId).get? key =
      if "approval_request_id" = key then some (.str approvalId)
      else if "approval_granted" = key then some (.bool true)
      else (freshToolContext run nodeId params).get? key := by
  unfold resumedContext
  rw [Dict.get?_set, Dict.get?_set, Dict.get?_filter_key _ _ fun key => key ∉ ["approval_granted", "approval_request_id"]]
  by_cases request : "approval_request_id" = key
  · simp [request]
  · by_cases grant : "approval_granted" = key
    · simp [grant]
    · simp [request, grant, Ne.symm request, Ne.symm grant]

theorem handedContext_get? {key : String} (other : key ≠ "owner_id") (another : key ≠ "connector_installation_id") :
    (handedContext run nodeId params approvalId).get? key = (resumedContext run nodeId params approvalId).get? key := by
  unfold handedContext authContext
  rw [Dict.get?_set_of_ne _ _ (Ne.symm other)]
  split
  · rw [Dict.get?_set_of_ne _ _ (Ne.symm another)]
  · rfl

theorem handedContext_installation :
    (handedContext run nodeId params approvalId).get? "connector_installation_id" =
      some (params.get "connector_installation_id") := by
  unfold handedContext authContext
  rw [Dict.get?_set_of_ne _ _ (by decide)]
  split
  · rw [Dict.get?_set_self]
  · rfl

theorem merged_get {key : String} (plain : key ∉ ambientKeys) :
    (mergedArguments params (handedContext run nodeId params approvalId)).get key = params.get key := by
  cases found : params.get? key with
  | some value => exact mergedArguments_given _ (by simp [found])
  | none =>
    rw [mergedArguments_absent found]
    have absent : params.get key = .null := by simp_all [Dict.get]
    rw [absent]
    simp only [ambientKeys, List.mem_cons, List.not_mem_nil, or_false, not_or] at plain
    obtain ⟨owner, project, task, runKey, node, grant, request, _⟩ := plain
    unfold Dict.get
    by_cases installation : key = "connector_installation_id"
    · subst installation
      rw [handedContext_installation, absent]
      rfl
    · rw [handedContext_get? owner installation, resumedContext_get?, freshToolContext_get?]
      simp [Ne.symm owner, Ne.symm project, Ne.symm task, Ne.symm runKey, Ne.symm node, Ne.symm grant,
        Ne.symm request, Ne.symm installation]

theorem handedContext_isSome {key : String} (handed : key ∈ handedKeys) :
    ((handedContext run nodeId params approvalId).get? key).isSome = true := by
  simp only [handedKeys, List.mem_cons, List.not_mem_nil, or_false] at handed
  rcases handed with rfl | rfl | rfl | rfl | rfl | rfl | rfl | rfl
  case inl =>
    unfold handedContext
    simp_all
  case inr.inr.inr.inr.inr.inl =>
    rw [handedContext_installation]
    rfl
  all_goals
    rw [handedContext_get? (by decide) (by decide), resumedContext_get?, freshToolContext_get?]
    rfl

end Merged

end Troop.Connectors
