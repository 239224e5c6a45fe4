import Troop.Python.Json
import Troop.Python.Text
import Troop.Session.Logic

namespace Troop.Connectors

def gmailOperations : List String :=
  ["gmail.search_messages", "gmail.get_message", "gmail.get_thread", "gmail.create_draft", "gmail.update_draft",
    "gmail.send_draft", "gmail.add_label"]

def outlookOperations : List String :=
  ["outlook.search_messages", "outlook.get_message", "outlook.get_thread", "outlook.create_draft",
    "outlook.update_draft", "outlook.send_draft", "outlook.add_label"]

def googleCalendarOperations : List String :=
  ["google_calendar.list_events", "google_calendar.get_event", "google_calendar.get_availability",
    "google_calendar.create_event", "google_calendar.update_event", "google_calendar.cancel_event"]

def microsoftCalendarOperations : List String :=
  ["microsoft_calendar.list_events", "microsoft_calendar.get_event", "microsoft_calendar.get_availability",
    "microsoft_calendar.create_event", "microsoft_calendar.update_event", "microsoft_calendar.cancel_event"]

def googleDriveOperations : List String :=
  ["google_drive.search_files", "google_drive.get_file_metadata", "google_drive.get_file_content"]

def microsoftDriveOperations : List String :=
  ["microsoft_drive.search_files", "microsoft_drive.get_file_metadata", "microsoft_drive.get_file_content"]

def jiraOperations : List String :=
  ["jira.search_issues", "jira.get_issue", "jira.get_issue_comments", "jira.create_issue", "jira.update_issue",
    "jira.add_comment"]

def linearOperations : List String :=
  ["linear.search_issues", "linear.get_issue", "linear.get_issue_comments", "linear.create_issue",
    "linear.update_issue", "linear.add_comment"]

def hubspotOperations : List String :=
  ["hubspot.search_contacts", "hubspot.get_contact", "hubspot.search_companies", "hubspot.get_company",
    "hubspot.update_contact", "hubspot.create_note", "hubspot.send_email"]

def salesforceOperations : List String :=
  ["salesforce.search_contacts", "salesforce.get_contact", "salesforce.search_accounts", "salesforce.get_account",
    "salesforce.update_contact", "salesforce.create_task", "salesforce.send_email"]

def telegramOperations : List String :=
  ["telegram.send_message", "telegram.edit_message", "telegram.answer_callback"]

def slackOperations : List String :=
  ["slack.search_messages", "slack.get_thread", "slack.get_message", "slack.post_message", "slack.update_message"]

def teamsOperations : List String :=
  ["teams.search_messages", "teams.get_thread", "teams.get_message", "teams.post_message", "teams.update_message"]

def adapters : List (String × List String) :=
  [("gmail", gmailOperations), ("outlook", outlookOperations), ("google_calendar", googleCalendarOperations),
    ("microsoft_calendar", microsoftCalendarOperations), ("google_drive", googleDriveOperations),
    ("microsoft_drive", microsoftDriveOperations), ("jira", jiraOperations), ("linear", linearOperations),
    ("hubspot", hubspotOperations), ("salesforce", salesforceOperations), ("slack", slackOperations),
    ("teams", teamsOperations)]

/-- A row of `connector_installations`, with the slug of its connector and the `cloud_id` of its
    configuration. -/
structure ConnectorInstallation where
  ownerId : String
  companyId : Option String
  status : String
  connector : String
  cloudId : String := ""
deriving DecidableEq, Inhabited

def validatePermissions (installations : Dict ConnectorInstallation) (context : Dict Json) : Bool :=
  let ownerId := (context.get "owner_id").strOrEmpty
  let installationId := (context.get "connector_installation_id").strOrEmpty
  if ownerId = "" ∨ installationId = "" then false
  else match installations.get? installationId with
    | none => false
    | some installation =>
      if installation.ownerId ≠ ownerId ∨ installation.status ≠ "active" then false
      else
        let companyId := installation.companyId.getD ""
        ¬ ((context.get "company_id").truthy ∧ companyId ≠ "" ∧ (context.get "company_id").pyStr ≠ companyId)

/-- The `for_owner` of the adapters. -/
def forOwner (installations : Dict ConnectorInstallation) (ownerId installationId connector : String) :
    Except PyError ConnectorInstallation :=
  let refused := PyError.valueError ("Authorized " ++ connector ++ " installation not found")
  match installations.get? installationId with
  | none => .error refused
  | some installation =>
    if installation.ownerId = ownerId ∧ installation.status = "active" ∧ installation.connector = connector then
      .ok installation
    else .error refused

/-- `{**params, **{k: v for k, v in context.items() if k not in params}}` -/
def mergedArguments (params context : Dict Json) : Dict Json :=
  params ++ context.filter fun entry => (params.get? entry.1).isNone

inductive Outcome where
  | denied (reason : String)
  | approvalRequired
  /-- left to the toolbox or to a provider that executes nothing -/
  | delegated
  /-- the adapter of an installation is called -/
  | called (installationId : String) (installation : ConnectorInstallation) (arguments : Dict Json)

/-- `NativeConnectorToolProvider.execute`, up to the call of the adapter -/
def connectorExecute (installations : Dict ConnectorInstallation) (toolSlug : String) (params context : Dict Json) :
    Except PyError Outcome := do
  let merged := mergedArguments params context
  let installationId := (merged.get "connector_installation_id").strOrEmpty
  if ¬ validatePermissions installations merged then return .denied "connector_installation_not_authorized"
  match adapters.find? fun adapter => toolSlug ∈ adapter.2 with
  | some adapter =>
    let installation ← forOwner installations (context.get "owner_id").pyStr installationId adapter.1
    return .called installationId installation merged
  | none =>
    if toolSlug ∉ telegramOperations then return .denied "unsupported_connector_operation"
    match installations.get? installationId with
    | none => return .denied "connector_installation_not_found"
    | some installation => return .called installationId installation params

/-- What `resolve_effective_tool_permissions` says of one tool. -/
structure Effective where
  allow : List String
  deny : List String
  requestedUnavailable : List String
  effect : String

/-- The policies and grants that `authorize_tool` asks. -/
structure Governance where
  /-- `ActionPolicyService.resolve` -/
  resolve : String → String → Dict Json → Except PyError (Dict Json)
  effectivePermissions : String → String → Dict Json → Except PyError Effective
  isLowRiskTool : String → Bool
  /-- the action key of the tool's contract, where that blocks autonomous use -/
  blockingContract : String → Option String
  /-- `validate_permissions` of the providers that are no connectors -/
  otherPermits : String → Dict Json → Bool

/-- `str(exc)` -/
def errorText : PyError → String
  | .valueError message | .typeError message | .raised message => message
  | .valueErrors errors => "[" ++ ", ".intercalate (errors.map Json.quote) ++ "]"
  | .keyError key => Json.quote key
  | .recursionError => "maximum recursion depth exceeded"

def connectorStarts : List String :=
  ["gmail.", "outlook.", "google_calendar.", "microsoft_calendar.", "telegram.", "slack.", "teams."]

/-- `provider_for` is the connector provider. -/
def isConnector (toolSlug : String) : Bool := connectorStarts.any fun start => Text.startsWith start toolSlug

structure Authorization where
  permitted : Bool
  decision : Json

def refinedPermission (effective : Effective) (toolSlug : String) (decision : Json) (permitted : Bool) : Bool :=
  if toolSlug ∈ effective.deny ∨ effective.effect ∈ ["deny", "prohibited"] ∨
      toolSlug ∈ effective.requestedUnavailable then false
  else if toolSlug ∈ effective.allow ∧ decision ≠ .str "prohibited" then true
  else permitted

variable (policies : Governance) (installations : Dict ConnectorInstallation)

def policyResolution (ownerId toolSlug : String) (context : Dict Json) : Except PyError (Dict Json) :=
  let carried := context.get "_policy_resolution"
  if carried.truthy then
    match carried.asObj? with
    | some resolution => .ok resolution
    | none => .error (.typeError "object has no attribute 'get'")
  else policies.resolve ownerId toolSlug context

def refinedByGrants (ownerId toolSlug : String) (context resolution : Dict Json) (valid : Bool) :
    Bool × Dict Json × Dict Json :=
  let governed := (context.get "agent_id").truthy || (context.get "project_id").truthy ||
    (context.get "company_id").truthy
  if ¬ governed then (valid, resolution, context)
  else match policies.effectivePermissions ownerId toolSlug context with
    | .ok effective => (refinedPermission effective toolSlug (resolution.get "decision") valid, resolution, context)
    | .error error =>
      if policies.isLowRiskTool toolSlug then (valid, resolution, context)
      else
        let failed := resolution.update [("decision", .str "prohibited"),
          ("matched_scope", .str "effective_permissions_error"), ("error", .str (errorText error))]
        (false, failed, context.set "_policy_resolution" (.obj failed))

def blockedResolution (toolSlug : String) (context resolution : Dict Json) : Option (Dict Json) :=
  match policies.blockingContract toolSlug with
  | some actionKey =>
    if resolution.get "decision" = .str "autonomous" ∧ ¬ (context.get "approval_granted").truthy then
      some (resolution.update [("decision", .str "approval_required"),
        ("matched_scope", .str "idempotency_contract"), ("reason", .str "missing_durable_idempotency"),
        ("idempotency_blocked_autonomous", .bool true), ("action_key", .str actionKey)])
    else none
  | none => none

/-- `authorize_tool`: its answer, and the context as it leaves it. -/
def authorizeTool (ownerId toolSlug : String) (context : Dict Json) :
    Except PyError (Authorization × Dict Json) := do
  let resolution ← policyResolution policies ownerId toolSlug context
  let owned := context.set "owner_id" (.str ownerId)
  let valid := if isConnector toolSlug then validatePermissions installations owned
    else policies.otherPermits toolSlug owned
  let refined := refinedByGrants policies ownerId toolSlug context resolution valid
  let permitted := refined.1 && refined.2.1.get "decision" ≠ .str "prohibited"
  match blockedResolution policies toolSlug refined.2.2 refined.2.1 with
  | some blocked =>
    return (⟨permitted, blocked.get "decision"⟩, refined.2.2.set "_policy_resolution" (.obj blocked))
  | none => return (⟨permitted, refined.2.1.get "decision"⟩, refined.2.2)

def refusal (authorization : Authorization) (context : Dict Json) : Option Outcome :=
  if ¬ authorization.permitted then some (.denied "not_permitted")
  else if authorization.decision = .str "prohibited" then some (.denied "prohibited")
  else if authorization.decision = .str "approval_required" ∧ ¬ (context.get "approval_granted").truthy then
    some .approvalRequired
  else none

def executeTool (ownerId toolSlug : String) (params context : Dict Json) : Except PyError Outcome := do
  let (authorization, context) ← authorizeTool policies installations ownerId toolSlug context
  match refusal authorization context with
  | some outcome => return outcome
  | none =>
    if isConnector toolSlug then
      connectorExecute installations toolSlug params (context.set "owner_id" (.str ownerId))
    else return .delegated

def nativeExecutable : List String :=
  ["web_search", "web_fetch", "fs_read", "knowledge_search", "repo_search", "code_execute", "fs_write", "db_query",
    "github_comment", "github_label_issue", "github_create_pr", "invoke_specialist"]

def toToolbox (toolSlug : String) : Bool :=
  toolSlug ∈ nativeExecutable || ["github_", "mcp.", "a2a."].any fun start => Text.startsWith start toolSlug

def authContext (params context : Dict Json) : Dict Json :=
  if (params.get "connector_installation_id").truthy then
    context.set "connector_installation_id" (params.get "connector_installation_id")
  else context

/-- `ToolExecutionService.execute`, up to the call of the adapter -/
def toolExecutionServiceExecute (ownerId toolSlug : String) (params context : Dict Json) :
    Except PyError Outcome := do
  let (authorization, authorized) ←
    authorizeTool policies installations ownerId toolSlug (authContext params context)
  match refusal authorization context with
  | some outcome => return outcome
  | none =>
    if (context.get "project_id").truthy ∧ toToolbox toolSlug then return .delegated
    else executeTool policies installations ownerId toolSlug params authorized

end Troop.Connectors
