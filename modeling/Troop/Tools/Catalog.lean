import Mathlib.Data.List.Basic
import Troop.Python.Text

namespace Troop.Tools

inductive SideEffect where
  | read
  | internalMutating
  | externalMutating
deriving DecidableEq, Repr

inductive IdempotencyStrategy where
  | none
  | approvalDedupOnly
  | approvalPayloadGuard
  | durableClaim
deriving DecidableEq, Repr

/-- A row of `NATIVE_TOOL_CATALOG` with the effect contract of its slug. -/
structure CatalogEntry where
  slug : String
  requiresApproval : Bool
  sideEffect : SideEffect
  idempotencyStrategy : IdempotencyStrategy
deriving DecidableEq, Repr

def readTools : List String :=
  ["gmail.search_messages", "gmail.get_message", "gmail.get_thread", "outlook.search_messages",
    "outlook.get_message", "outlook.get_thread", "slack.search_messages", "slack.get_thread",
    "slack.get_message", "teams.search_messages", "teams.get_thread", "teams.get_message",
    "google_calendar.list_events", "microsoft_calendar.list_events", "google_calendar.get_event",
    "microsoft_calendar.get_event", "google_calendar.get_availability",
    "microsoft_calendar.get_availability", "google_drive.search_files", "microsoft_drive.search_files",
    "google_drive.get_file_metadata", "microsoft_drive.get_file_metadata", "google_drive.get_file_content",
    "microsoft_drive.get_file_content", "jira.search_issues", "linear.search_issues", "jira.get_issue",
    "linear.get_issue", "jira.get_issue_comments", "linear.get_issue_comments", "hubspot.search_contacts",
    "salesforce.search_contacts", "hubspot.get_contact", "salesforce.get_contact",
    "hubspot.search_companies", "salesforce.search_accounts", "hubspot.get_company",
    "salesforce.get_account", "web_search", "web_fetch", "knowledge_search", "repo_search", "fs_read"]

def openMutatingTools : List String :=
  ["gmail.create_draft", "gmail.update_draft", "gmail.add_label", "outlook.create_draft",
    "outlook.update_draft", "outlook.add_label", "telegram.send_message", "telegram.edit_message",
    "telegram.answer_callback", "slack.update_message", "teams.update_message"]

def claimedTools : List String :=
  ["gmail.send_draft", "outlook.send_draft", "slack.post_message", "teams.post_message", "jira.create_issue",
    "linear.create_issue", "jira.update_issue", "linear.update_issue", "jira.add_comment",
    "linear.add_comment", "hubspot.update_contact", "salesforce.update_contact", "hubspot.create_note",
    "salesforce.create_task", "hubspot.send_email", "salesforce.send_email"]

def approvedTools : List String :=
  ["google_calendar.create_event", "microsoft_calendar.create_event", "google_calendar.update_event",
    "microsoft_calendar.update_event", "google_calendar.cancel_event", "microsoft_calendar.cancel_event",
    "github_label_issue", "github_create_pr"]

def nativeToolCatalog : List CatalogEntry :=
  readTools.map (⟨·, false, .read, .none⟩) ++ openMutatingTools.map (⟨·, false, .externalMutating, .none⟩) ++
    claimedTools.map (⟨·, true, .externalMutating, .durableClaim⟩) ++
    approvedTools.map (⟨·, true, .externalMutating, .none⟩) ++
    [⟨"fs_write", true, .internalMutating, .none⟩,
      ⟨"code_execute", true, .internalMutating, .none⟩,
      ⟨"db_query", true, .read, .none⟩,
      ⟨"github_comment", true, .externalMutating, .approvalDedupOnly⟩,
      ⟨"invoke_specialist", false, .internalMutating, .none⟩]

/-- The keys of `DEFAULT_ACTION_POLICIES` that no tool of the catalog has. -/
def abstractActionPolicies : List (String × String) :=
  [("knowledge_read", "autonomous"), ("external_email_send", "approval_required"),
    ("social_publish", "approval_required"), ("ad_budget_change", "approval_required"),
    ("delete_record", "approval_required"), ("merge_pull_request", "approval_required"),
    ("shell_destructive_action", "prohibited")]

def catalogEntry (toolSlug : String) : Option CatalogEntry :=
  nativeToolCatalog.find? fun entry => entry.slug = Text.strip toolSlug

def catalogToolRequiresApproval (toolSlug : String) : Bool :=
  match catalogEntry toolSlug with
  | some entry => entry.requiresApproval
  | none =>
    match abstractActionPolicies.find? fun row => row.1 = Text.strip toolSlug with
    | some row => row.2 = "prohibited" ∨ row.2 = "approval_required"
    | none => true

def toolRequiresHitlExecutionGrant (toolSlug : String) : Bool := catalogToolRequiresApproval toolSlug

def isEcosystem (toolSlug : String) : Bool := Text.startsWith "mcp." toolSlug || Text.startsWith "a2a." toolSlug

def isLowRiskTool (toolSlug : String) : Bool :=
  let slug := Text.strip toolSlug
  if isEcosystem slug || Text.startsWith "github_" slug then false
  else match catalogEntry slug with
    | none => false
    | some entry => !entry.requiresApproval && entry.sideEffect = .read

/-- `get_external_effect_contract(...).blocks_autonomous_use`, as the action key of the contract -/
def blocksAutonomousUse (toolSlug : String) : Option String :=
  let slug := Text.strip toolSlug
  match catalogEntry slug with
  | some entry =>
    if entry.sideEffect ≠ .read ∧ entry.idempotencyStrategy ≠ .durableClaim then some entry.slug else none
  | none =>
    if Text.startsWith "mcp." slug then some "mcp.*"
    else if Text.startsWith "a2a." slug then some "a2a.*"
    else none

/-- Only tools of the catalog read, and reading is what `parallel_safe` and the strategy of their contracts
    allow to fan out. -/
def toolCallParallelEligible (toolSlug : String) : Bool :=
  let slug := Text.strip toolSlug
  if slug = "" ∨ catalogToolRequiresApproval slug ∨ toolRequiresHitlExecutionGrant slug then false
  else slug = "knowledge_read" || match catalogEntry slug with
    | some entry => entry.sideEffect = .read ∧
        (entry.idempotencyStrategy = .none ∨ entry.idempotencyStrategy = .approvalDedupOnly)
    | none => false

end Troop.Tools
