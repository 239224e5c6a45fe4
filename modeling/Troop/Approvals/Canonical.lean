import Mathlib.Data.List.Sort
import Troop.Python.Dumps
import Troop.Workflow.Approvals

namespace Troop.Approvals

open Workflow (Env stripToolPrefix)

/-- `str(arguments.get(key) or "")` -/
def textOf (arguments : Dict Json) (key : String) : Json := .str (arguments.get key).strOrEmpty

/-- `str(arguments.get(first) or arguments.get(second) or "")` -/
def textOfEither (arguments : Dict Json) (first second : String) : Json :=
  .str ((arguments.get first).pyOr (arguments.get second)).strOrEmpty

/-- `str(arguments.get(key) or fallback)` -/
def textOrElse (arguments : Dict Json) (key fallback : String) : Json :=
  .str ((arguments.get key).pyOr (.str fallback)).pyStr

/-- `sorted` of strings, by code points -/
def sortTexts (texts : List String) : List String :=
  texts.insertionSort (fun a b => ¬ b.toList < a.toList)

/-- One recipient, an address or a dict with the key `email`; an empty one is left out. -/
def normalizeAddress (item : Json) : Option String :=
  let address := match item with
    | .obj members => Dict.get members "email"
    | other => other
  if address.truthy then some (Text.lower (Text.strip address.pyStr)) else none

def normalizeAddresses (value : Json) : Json :=
  let raw := match value with
    | .arr items => items
    | other => if other.truthy then [other] else []
  .arr ((sortTexts (raw.filterMap normalizeAddress)).map .str)

structure Attachment where
  attachmentId : String
  filename : String
  size : Int
deriving DecidableEq

/-- The order of `(attachment_id, filename, size)` tuples. -/
def Attachment.before (a b : Attachment) : Bool :=
  if a.attachmentId ≠ b.attachmentId then a.attachmentId.toList < b.attachmentId.toList
  else if a.filename ≠ b.filename then a.filename.toList < b.filename.toList
  else a.size ≤ b.size

def Attachment.json (a : Attachment) : Json :=
  .obj [("attachment_id", .str a.attachmentId), ("filename", .str a.filename), ("size", .num a.size)]

def readAttachments : List Json → Except PyError (List Attachment)
  | [] => .ok []
  | .obj item :: rest => do
    let size ← ((Dict.get item "size").pyOr (.num 0)).toInt
    let others ← readAttachments rest
    let id := ((Dict.get item "attachment_id").pyOr (Dict.get item "id")).strOrEmpty
    return ⟨id, (Dict.get item "filename").strOrEmpty, size⟩ :: others
  | _ :: rest => readAttachments rest

def emailForm (arguments : Dict Json) (attachments : List Attachment) : Dict Json :=
  [("provider", .str "gmail"),
    ("connector_installation_id", textOf arguments "connector_installation_id"),
    ("gmail_draft_id", textOfEither arguments "gmail_draft_id" "draft_id"),
    ("thread_id", textOf arguments "thread_id"),
    ("in_reply_to", textOf arguments "in_reply_to"),
    ("from", .str (Text.lower (Text.strip (arguments.get "from").strOrEmpty))),
    ("to", normalizeAddresses (arguments.get "to")),
    ("cc", normalizeAddresses (arguments.get "cc")),
    ("bcc", normalizeAddresses (arguments.get "bcc")),
    ("subject", textOf arguments "subject"),
    ("body", textOfEither arguments "body" "body_text"),
    ("attachments", .arr ((attachments.insertionSort (fun a b => a.before b)).map Attachment.json))]

def canonicalEmailActionArguments (arguments : Dict Json) : Except PyError (Dict Json) := do
  let items ← (arguments.get "attachments").toList
  let attachments ← readAttachments items
  return emailForm arguments attachments

def asEmail (arguments : Dict Json) : Dict Json :=
  arguments.update [("provider", .str "outlook"),
    ("gmail_draft_id", (arguments.get "outlook_draft_id").pyOr (arguments.get "draft_id"))]

def outlookForm (arguments canonical : Dict Json) : Dict Json :=
  canonical.update [("provider", .str "outlook"),
    ("outlook_draft_id", textOfEither arguments "outlook_draft_id" "draft_id")]

def canonicalOutlookEmailActionArguments (arguments : Dict Json) : Except PyError (Dict Json) := do
  let canonical ← canonicalEmailActionArguments (asEmail arguments)
  return outlookForm arguments canonical

def canonicalJiraIssueArguments (arguments : Dict Json) : Dict Json :=
  [("provider", .str "jira"),
    ("connector_installation_id", textOf arguments "connector_installation_id"),
    ("cloud_id", textOf arguments "cloud_id"),
    ("issue_id", textOf arguments "issue_id"),
    ("issue_key", textOf arguments "issue_key"),
    ("project_key", textOf arguments "project_key"),
    ("issue_type", textOrElse arguments "issue_type" "Task"),
    ("summary", textOf arguments "summary"),
    ("description", textOfEither arguments "description" "body"),
    ("comment_body", textOfEither arguments "comment_body" "comment"),
    ("priority", textOf arguments "priority"),
    ("assignee_account_id", textOf arguments "assignee_account_id")]

def canonicalLinearIssueArguments (arguments : Dict Json) : Dict Json :=
  let issueId := (arguments.get "issue_id").strOrEmpty
  let issueKey := (arguments.get "issue_key").strOrEmpty
  [("provider", .str "linear"),
    ("connector_installation_id", textOf arguments "connector_installation_id"),
    ("team_id", textOf arguments "team_id"),
    ("issue_id", .str (if issueId = "" then issueKey else issueId)),
    ("issue_key", .str issueKey),
    ("title", textOfEither arguments "title" "summary"),
    ("description", textOfEither arguments "description" "body"),
    ("comment_body", textOfEither arguments "comment_body" "comment"),
    ("state_id", textOf arguments "state_id"),
    ("priority", textOf arguments "priority"),
    ("assignee_id", textOf arguments "assignee_id")]

/-- The text of a field, unless it is `None`. -/
def fieldText (value : Json) : Option String := if value = .null then none else some value.pyStr

def sortedFields (fields : Json) : Except PyError (Dict Json) := do
  let members ← fields.toDict
  let texts := members.filterMap fun entry =>
    ((members.get? entry.1).bind fieldText).map fun text => (entry.1, Json.str text)
  return Dict.sortByKey texts

def hubspotForm (arguments fields : Dict Json) : Dict Json :=
  let record := ((arguments.get "record_id").pyOr (arguments.get "contact_id")).pyOr
    (arguments.get "company_id")
  [("provider", .str "hubspot"),
    ("connector_installation_id", textOf arguments "connector_installation_id"),
    ("record_id", .str record.strOrEmpty),
    ("record_type", textOrElse arguments "record_type" "contact"),
    ("query", textOf arguments "query"),
    ("fields", .obj fields),
    ("note_body", textOfEither arguments "note_body" "body"),
    ("email_to", textOfEither arguments "email_to" "to"),
    ("email_subject", textOfEither arguments "email_subject" "subject"),
    ("email_body", textOfEither arguments "email_body" "message"),
    ("email_id", textOf arguments "email_id")]

def canonicalHubspotCrmArguments (arguments : Dict Json) : Except PyError (Dict Json) := do
  let fields ← sortedFields (arguments.get "fields")
  return hubspotForm arguments fields

def salesforceForm (arguments fields : Dict Json) : Dict Json :=
  let record := ((arguments.get "record_id").pyOr (arguments.get "contact_id")).pyOr
    (arguments.get "account_id")
  [("provider", .str "salesforce"),
    ("connector_installation_id", textOf arguments "connector_installation_id"),
    ("record_id", .str record.strOrEmpty),
    ("record_type", textOrElse arguments "record_type" "contact"),
    ("query", textOfEither arguments "query" "soql"),
    ("fields", .obj fields),
    ("task_subject", textOfEither arguments "task_subject" "subject"),
    ("task_description", textOfEither arguments "task_description" "description"),
    ("email_to", textOfEither arguments "email_to" "to"),
    ("email_subject", textOfEither arguments "email_subject" "subject"),
    ("email_body", textOfEither arguments "email_body" "message")]

def canonicalSalesforceCrmArguments (arguments : Dict Json) : Except PyError (Dict Json) := do
  let fields ← sortedFields (arguments.get "fields")
  return salesforceForm arguments fields

def githubCommentForm (arguments : Dict Json) (number : Int) : Dict Json :=
  let body := ((arguments.get "body").pyOr (arguments.get "draft_comment")).strOrEmpty
  [("issue_link_id", textOf arguments "issue_link_id"),
    ("repository_id", textOf arguments "repository_id"),
    ("issue_number", .num number),
    ("body", .str (Text.strip body)),
    ("close_issue", .bool (arguments.get "close_issue").truthy)]

def normalizeGithubCommentEffect (arguments : Dict Json) : Except PyError (Dict Json) := do
  let number ← ((arguments.get "issue_number").pyOr (.num 0)).toInt
  return githubCommentForm arguments number

def gmailActions : List String := ["gmail.send_draft", "gmail.create_draft", "gmail.update_draft"]

def outlookActions : List String := ["outlook.send_draft", "outlook.create_draft", "outlook.update_draft"]

def githubCommentActions : List String :=
  ["github_comment", "github_progress_comment", "github_manager_closure"]

def jiraMutationActions : List String := ["jira.create_issue", "jira.update_issue", "jira.add_comment"]

def linearMutationActions : List String :=
  ["linear.create_issue", "linear.update_issue", "linear.add_comment"]

def hubspotMutationActions : List String :=
  ["hubspot.update_contact", "hubspot.create_note", "hubspot.send_email"]

def salesforceMutationActions : List String :=
  ["salesforce.update_contact", "salesforce.create_task", "salesforce.send_email"]

/-- The projections an effect may be normalized by. `whole` keeps every argument. -/
inductive Shape where
  | gmail | outlook | githubComment | jira | linear | hubspot | salesforce | whole
deriving DecidableEq, Repr

def provider (arguments : Dict Json) : String := (arguments.get "provider").strOrEmpty

/-- The branches of `normalize_proposed_effect`, in their order. -/
def normalizedShape (canonicalKey : String) (arguments : Dict Json) : Shape :=
  let named := provider arguments
  if canonicalKey ∈ gmailActions ∨ named = "gmail" then .gmail
  else if canonicalKey ∈ outlookActions ∨ named = "outlook" then .outlook
  else if canonicalKey ∈ githubCommentActions then .githubComment
  else if (canonicalKey ∈ jiraMutationActions ∨ named = "jira") ∧ Text.startsWith "jira." canonicalKey then
    .jira
  else if (canonicalKey ∈ linearMutationActions ∨ named = "linear") ∧
      Text.startsWith "linear." canonicalKey then .linear
  else if (canonicalKey ∈ hubspotMutationActions ∨ named = "hubspot") ∧
      Text.startsWith "hubspot." canonicalKey then .hubspot
  else if (canonicalKey ∈ salesforceMutationActions ∨ named = "salesforce") ∧
      Text.startsWith "salesforce." canonicalKey then .salesforce
  else .whole

/-- The branches of `compute_effect_hash`: no comment shape, and no key prefix is asked for. -/
def hashedShape (canonicalKey : String) (normalizedEffect : Dict Json) : Shape :=
  let named := provider normalizedEffect
  if canonicalKey ∈ gmailActions ∨ named = "gmail" then .gmail
  else if canonicalKey ∈ outlookActions ∨ named = "outlook" then .outlook
  else if canonicalKey ∈ jiraMutationActions ∨ named = "jira" then .jira
  else if canonicalKey ∈ linearMutationActions ∨ named = "linear" then .linear
  else if canonicalKey ∈ hubspotMutationActions ∨ named = "hubspot" then .hubspot
  else if canonicalKey ∈ salesforceMutationActions ∨ named = "salesforce" then .salesforce
  else .whole

def bindingKeys : List String :=
  ["connector_installation_id", "resource_id", "repository_id", "issue_link_id", "thread_id",
    "gmail_draft_id", "outlook_draft_id", "draft_id", "path"]

def bindingFirst (arguments : Dict Json) : Dict Json :=
  let bound : Dict Json := bindingKeys.filterMap fun key => (arguments.get? key).map fun value => (key, value)
  bound ++ arguments.filter fun entry => (Dict.get? bound entry.1).isNone

def Shape.project (shape : Shape) (arguments : Dict Json) : Except PyError (Dict Json) :=
  match shape with
  | .gmail => canonicalEmailActionArguments arguments
  | .outlook => canonicalOutlookEmailActionArguments arguments
  | .githubComment => normalizeGithubCommentEffect arguments
  | .jira => .ok (canonicalJiraIssueArguments arguments)
  | .linear => .ok (canonicalLinearIssueArguments arguments)
  | .hubspot => canonicalHubspotCrmArguments arguments
  | .salesforce => canonicalSalesforceCrmArguments arguments
  | .whole => .ok (bindingFirst arguments)

def normalizeProposedEffect (actionKey : String) (rawArguments : Dict Json) : Except PyError (Dict Json) :=
  (normalizedShape (stripToolPrefix actionKey) rawArguments).project rawArguments

def Shape.hash (env : Env) (shape : Shape) (effect : Dict Json) : Except PyError String :=
  match shape with
  | .whole | .githubComment => .ok (env.argumentsHash effect)
  | shape => (shape.project effect).map env.argumentsHash

def computeEffectHash (env : Env) (normalizedEffect : Dict Json) (actionKey : String) :
    Except PyError String :=
  (hashedShape (stripToolPrefix actionKey) normalizedEffect).hash env normalizedEffect

end Troop.Approvals
