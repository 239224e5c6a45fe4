import Troop.Approvals.Readings

namespace Troop.Approvals

open Workflow (Env stripToolPrefix)
open List
open Json (num str truthy)

variable {env : Env}

def boundReadings : Shape → List (String × Reading)
  | .gmail =>
    [("connector_installation_id", .text ["connector_installation_id"] ""),
      ("gmail_draft_id", .text ["gmail_draft_id", "draft_id"] ""), ("thread_id", .text ["thread_id"] ""),
      ("in_reply_to", .text ["in_reply_to"] ""), ("from", .sender "from"), ("to", .recipients "to"),
      ("cc", .recipients "cc"), ("bcc", .recipients "bcc"), ("subject", .text ["subject"] ""),
      ("body", .text ["body", "body_text"] "")]
  | .outlook =>
    [("connector_installation_id", .text ["connector_installation_id"] ""),
      ("outlook_draft_id", .text ["outlook_draft_id", "draft_id"] ""), ("thread_id", .text ["thread_id"] ""),
      ("in_reply_to", .text ["in_reply_to"] ""), ("from", .sender "from"), ("to", .recipients "to"),
      ("cc", .recipients "cc"), ("bcc", .recipients "bcc"), ("subject", .text ["subject"] ""),
      ("body", .text ["body", "body_text"] "")]
  | .githubComment =>
    [("issue_link_id", .text ["issue_link_id"] ""), ("repository_id", .text ["repository_id"] ""),
      ("issue_number", .number "issue_number"), ("body", .stripped ["body", "draft_comment"]),
      ("close_issue", .flag "close_issue")]
  | .jira =>
    [("connector_installation_id", .text ["connector_installation_id"] ""), ("cloud_id", .text ["cloud_id"] ""),
      ("issue_id", .text ["issue_id"] ""), ("issue_key", .text ["issue_key"] ""),
      ("project_key", .text ["project_key"] ""), ("issue_type", .text ["issue_type"] "Task"),
      ("summary", .text ["summary"] ""), ("description", .text ["description", "body"] ""),
      ("comment_body", .text ["comment_body", "comment"] ""), ("priority", .text ["priority"] ""),
      ("assignee_account_id", .text ["assignee_account_id"] "")]
  | .linear =>
    [("connector_installation_id", .text ["connector_installation_id"] ""), ("team_id", .text ["team_id"] ""),
      ("issue_id", .text ["issue_id", "issue_key"] ""), ("issue_key", .text ["issue_key"] ""),
      ("title", .text ["title", "summary"] ""), ("description", .text ["description", "body"] ""),
      ("comment_body", .text ["comment_body", "comment"] ""), ("state_id", .text ["state_id"] ""),
      ("priority", .text ["priority"] ""), ("assignee_id", .text ["assignee_id"] "")]
  | .hubspot =>
    [("connector_installation_id", .text ["connector_installation_id"] ""),
      ("record_id", .text ["record_id", "contact_id", "company_id"] ""),
      ("record_type", .text ["record_type"] "contact"), ("query", .text ["query"] ""),
      ("note_body", .text ["note_body", "body"] ""), ("email_to", .text ["email_to", "to"] ""),
      ("email_subject", .text ["email_subject", "subject"] ""), ("email_body", .text ["email_body", "message"] ""),
      ("email_id", .text ["email_id"] "")]
  | .salesforce =>
    [("connector_installation_id", .text ["connector_installation_id"] ""),
      ("record_id", .text ["record_id", "contact_id", "account_id"] ""),
      ("record_type", .text ["record_type"] "contact"), ("query", .text ["query", "soql"] ""),
      ("task_subject", .text ["task_subject", "subject"] ""),
      ("task_description", .text ["task_description", "description"] ""), ("email_to", .text ["email_to", "to"] ""),
      ("email_subject", .text ["email_subject", "subject"] ""), ("email_body", .text ["email_body", "message"] "")]
  | .whole => []

def Shape.rehash (shape : Shape) (normalized : Dict Json) : Except PyError (Dict Json) :=
  match shape with
  | .whole | .githubComment => .ok normalized
  | shape => shape.project normalized

def hashedContent (actionKey : String) (arguments : Dict Json) : Except PyError (Dict Json) := do
  let normalized ← normalizeProposedEffect actionKey arguments
  (hashedShape (stripToolPrefix actionKey) normalized).rehash normalized

theorem Shape.hash_eq (shape : Shape) (normalized : Dict Json) :
    shape.hash env normalized = (shape.rehash normalized).map env.argumentsHash := by
  cases shape <;> rfl

theorem computeEffectHash_eq (actionKey : String) (normalized : Dict Json) :
    computeEffectHash env normalized actionKey =
      ((hashedShape (stripToolPrefix actionKey) normalized).rehash normalized).map env.argumentsHash :=
  Shape.hash_eq _ normalized

theorem computeEffectHash_content {actionKey hash : String} {arguments normalized : Dict Json}
    (read : normalizeProposedEffect actionKey arguments = .ok normalized)
    (hashed : computeEffectHash env normalized actionKey = .ok hash) :
    ∃ content, hashedContent actionKey arguments = .ok content ∧ hash = env.argumentsHash content := by
  rw [computeEffectHash_eq] at hashed
  unfold hashedContent
  rw [read]
  simp only [bind, Except.bind]
  cases projected : (hashedShape (stripToolPrefix actionKey) normalized).rehash normalized with
  | error error =>
    rw [projected] at hashed
    cases hashed
  | ok content =>
    rw [projected] at hashed
    exact ⟨content, rfl, (Except.ok.inj hashed).symm⟩

section Contents

theorem textChain_rewritten {c arguments : Dict Json} {key : String} {rest : List String} {fallback : String}
    (written : c.get key = .str (textChain arguments (key :: rest) fallback))
    (blank : textChain arguments (key :: rest) fallback = "" → textChain c rest fallback = "") :
    textChain c (key :: rest) fallback = textChain arguments (key :: rest) fallback := by
  by_cases empty : textChain arguments (key :: rest) fallback = ""
  · have absent : ¬ (c.get key).truthy = true := by simp [written, empty, truthy]
    rw [textChain_skipped c absent, blank empty, empty]
  · have given : (c.get key).truthy = true := by simp [written, empty, truthy]
    rw [textChain_given c given, written]
    rfl

theorem textChain_ne_empty (arguments : Dict Json) (aliases : List String) {fallback : String}
    (named : fallback ≠ "") : textChain arguments aliases fallback ≠ "" := by
  rw [textChain_fallback]
  split
  · exact named
  · assumption

section Rows

variable {c arguments : Dict Json} {key first second third fallback : String}

theorem textOf_rewritten (written : c.get key = textOf arguments key) :
    textOf c key = (Reading.text [key] "").read arguments := by
  rw [textOf_eq] at written ⊢
  exact congrArg str (textChain_rewritten written fun _ => rfl)

theorem textOfEither_rewritten (written : c.get first = textOfEither arguments first second)
    (blank : textOf c second = .str "") :
    textOfEither c first second = (Reading.text [first, second] "").read arguments := by
  rw [textOfEither_eq]
  rw [textOfEither_eq] at written
  exact congrArg str (textChain_rewritten written fun _ => str.inj blank)

theorem textOrElse_rewritten (named : fallback ≠ "") (written : c.get key = textOrElse arguments key fallback) :
    textOrElse c key fallback = (Reading.text [key] fallback).read arguments := by
  rw [textOrElse_eq]
  rw [textOrElse_eq] at written
  apply congrArg str (textChain_rewritten written _)
  intro empty
  exact absurd empty (textChain_ne_empty _ _ named)

theorem textOfThree_rewritten
    (written : c.get first = .str (((arguments.get first).pyOr (arguments.get second)).pyOr (arguments.get third)).strOrEmpty)
    (blank : textOf c second = .str "") (blank' : textOf c third = .str "") :
    Json.str (((c.get first).pyOr (c.get second)).pyOr (c.get third)).strOrEmpty =
      (Reading.text [first, second, third] "").read arguments := by
  rw [strOrEmpty_three]
  rw [strOrEmpty_three] at written
  apply congrArg str (textChain_rewritten written _)
  intro _
  have none : textChain c [second] "" = "" := str.inj blank
  rw [← singleton_append, textChain_append, if_pos none]
  exact str.inj blank'

end Rows

theorem jira_content (arguments : Dict Json) :
    ∀ entry ∈ boundReadings .jira,
      (canonicalJiraIssueArguments (canonicalJiraIssueArguments arguments)).get entry.1 =
        entry.2.read arguments := by
  intro entry member
  simp only [boundReadings, mem_cons, not_mem_nil, or_false] at member
  rcases member with rfl | rfl | rfl | rfl | rfl | rfl | rfl | rfl | rfl | rfl | rfl
  all_goals
    first
    | exact textOf_rewritten rfl
    | exact textOfEither_rewritten rfl rfl
    | exact textOrElse_rewritten (by decide) rfl

theorem linear_issue (arguments : Dict Json) :
    (canonicalLinearIssueArguments arguments).get "issue_id" = .str (textChain arguments ["issue_id", "issue_key"] "") := by
  exact congrArg str (textChain_append arguments ["issue_id"] ["issue_key"] "").symm

theorem linear_content (arguments : Dict Json) :
    ∀ entry ∈ boundReadings .linear,
      (canonicalLinearIssueArguments (canonicalLinearIssueArguments arguments)).get entry.1 =
        entry.2.read arguments := by
  intro entry member
  simp only [boundReadings, mem_cons, not_mem_nil, or_false] at member
  rcases member with rfl | rfl | rfl | rfl | rfl | rfl | rfl | rfl | rfl | rfl
  case inr.inr.inl =>
    rw [linear_issue]
    apply congrArg str (textChain_rewritten (linear_issue arguments) _)
    intro empty
    have key : (canonicalLinearIssueArguments arguments).get "issue_key" = .str (textChain arguments ["issue_key"] "") :=
      rfl
    have none : textChain arguments ["issue_key"] "" = "" := by
      rw [← singleton_append, textChain_append] at empty
      split at empty
      · exact empty
      · simp_all
    rwa [textChain_rewritten key fun _ => rfl]
  all_goals
    first
    | exact textOf_rewritten rfl
    | exact textOfEither_rewritten rfl rfl

theorem hubspot_content (arguments fields again : Dict Json) :
    ∀ entry ∈ boundReadings .hubspot,
      (hubspotForm (hubspotForm arguments fields) again).get entry.1 = entry.2.read arguments := by
  intro entry member
  simp only [boundReadings, mem_cons, not_mem_nil, or_false] at member
  rcases member with rfl | rfl | rfl | rfl | rfl | rfl | rfl | rfl | rfl
  all_goals
    first
    | exact textOf_rewritten rfl
    | exact textOfEither_rewritten rfl rfl
    | exact textOrElse_rewritten (by decide) rfl
    | exact textOfThree_rewritten rfl rfl rfl

theorem salesforce_content (arguments fields again : Dict Json) :
    ∀ entry ∈ boundReadings .salesforce,
      (salesforceForm (salesforceForm arguments fields) again).get entry.1 = entry.2.read arguments := by
  intro entry member
  simp only [boundReadings, mem_cons, not_mem_nil, or_false] at member
  rcases member with rfl | rfl | rfl | rfl | rfl | rfl | rfl | rfl | rfl
  all_goals
    first
    | exact textOf_rewritten rfl
    | exact textOfEither_rewritten rfl rfl
    | exact textOrElse_rewritten (by decide) rfl
    | exact textOfThree_rewritten rfl rfl rfl

theorem gmail_content (arguments : Dict Json) (attachments again : List Attachment) :
    ∀ entry ∈ boundReadings .gmail,
      (emailForm (emailForm arguments attachments) again).get entry.1 = entry.2.read arguments := by
  intro entry member
  simp only [boundReadings, mem_cons, not_mem_nil, or_false] at member
  rcases member with rfl | rfl | rfl | rfl | rfl | rfl | rfl | rfl | rfl | rfl
  case inr.inr.inr.inr.inl =>
    show str (senderText (str (senderText (arguments.get "from").strOrEmpty)).strOrEmpty) = _
    rw [Json.strOrEmpty_str]
    rfl
  all_goals
    first
    | exact textOf_rewritten rfl
    | exact textOfEither_rewritten rfl rfl
    | rfl

section Outlook

variable (arguments canonical : Dict Json)

theorem asEmail_get {key : String} (other : key ≠ "provider") (draft : key ≠ "gmail_draft_id") :
    (asEmail arguments).get key = arguments.get key := by
  unfold asEmail
  rw [Dict.get_update]
  simp [Dict.get?_cons, Dict.get, Ne.symm other, Ne.symm draft]

theorem outlookForm_get {key : String} (other : key ≠ "provider") (draft : key ≠ "outlook_draft_id") :
    (outlookForm arguments canonical).get key = canonical.get key := by
  unfold outlookForm
  rw [Dict.get_update]
  simp [Dict.get?_cons, Dict.get, Ne.symm other, Ne.symm draft]

theorem outlookForm_draft :
    (outlookForm arguments canonical).get "outlook_draft_id" =
      textOfEither arguments "outlook_draft_id" "draft_id" := by
  unfold outlookForm
  rw [Dict.get_update]
  simp [Dict.get?_cons]

theorem asEmail_textOf {key : String} (other : key ≠ "provider") (draft : key ≠ "gmail_draft_id") :
    textOf (asEmail arguments) key = textOf arguments key := by
  unfold textOf
  rw [asEmail_get arguments other draft]

end Outlook

theorem outlook_content (arguments : Dict Json) (attachments again : List Attachment) :
    ∀ entry ∈ boundReadings .outlook,
      (outlookForm (outlookForm arguments (emailForm (asEmail arguments) attachments))
        (emailForm (asEmail (outlookForm arguments (emailForm (asEmail arguments) attachments))) again)).get entry.1 =
        entry.2.read arguments := by
  intro entry member
  generalize first : outlookForm arguments (emailForm (asEmail arguments) attachments) = c
  have kept {key : String} (other : key ≠ "provider") (draft : key ≠ "gmail_draft_id") (draft' : key ≠ "outlook_draft_id") :
      (asEmail c).get key = (emailForm (asEmail arguments) attachments).get key := by
    rw [asEmail_get c other draft, ← first, outlookForm_get _ _ other draft']
  have text {key : String} (other : key ≠ "provider") (draft : key ≠ "gmail_draft_id") (draft' : key ≠ "outlook_draft_id")
      (written : (emailForm (asEmail arguments) attachments).get key = textOf (asEmail arguments) key) :
      textOf (asEmail c) key = (Reading.text [key] "").read arguments := by
    apply textOf_rewritten
    rw [kept other draft draft', written, asEmail_textOf arguments other draft]
  have recipients {key : String} (other : key ≠ "provider") (draft : key ≠ "gmail_draft_id")
      (draft' : key ≠ "outlook_draft_id")
      (written : (emailForm (asEmail arguments) attachments).get key = normalizeAddresses ((asEmail arguments).get key)) :
      normalizeAddresses ((asEmail c).get key) = (Reading.recipients key).read arguments := by
    rw [kept other draft draft', written, asEmail_get arguments other draft]
    rfl
  simp only [boundReadings, mem_cons, not_mem_nil, or_false] at member
  rcases member with rfl | rfl | rfl | rfl | rfl | rfl | rfl | rfl | rfl | rfl
  case inr.inl =>
    apply textOfEither_rewritten
    · rw [← first, outlookForm_draft]
    · unfold textOf
      rw [← first, outlookForm_get _ _ (by decide) (by decide)]
      rfl
  all_goals rw [outlookForm_get _ _ (by decide) (by decide)]
  case inr.inr.inr.inr.inl =>
    show str (senderText ((asEmail c).get "from").strOrEmpty) = _
    rw [kept (by decide) (by decide) (by decide)]
    show str (senderText (str (senderText ((asEmail arguments).get "from").strOrEmpty)).strOrEmpty) = _
    rw [asEmail_get arguments (by decide) (by decide), Json.strOrEmpty_str]
    rfl
  case inr.inr.inr.inr.inr.inr.inr.inr.inr =>
    apply textOfEither_rewritten
    · rw [kept (by decide) (by decide) (by decide)]
      show textOfEither (asEmail arguments) "body" "body_text" = _
      unfold textOfEither
      rw [asEmail_get arguments (by decide) (by decide), asEmail_get arguments (by decide) (by decide)]
    · unfold textOf
      rw [kept (by decide) (by decide) (by decide)]
      rfl
  all_goals
    first
    | exact text (by decide) (by decide) (by decide) rfl
    | exact recipients (by decide) (by decide) (by decide) rfl

theorem github_content (arguments : Dict Json) {number : Int}
    (read : ((arguments.get "issue_number").pyOr (.num 0)).toInt = .ok number) :
    ∀ entry ∈ boundReadings .githubComment,
      (githubCommentForm arguments number).get entry.1 = entry.2.read arguments := by
  intro entry member
  simp only [boundReadings, mem_cons, not_mem_nil, or_false] at member
  rcases member with rfl | rfl | rfl | rfl | rfl
  case inr.inr.inl =>
    show num number = Reading.read arguments (.number "issue_number")
    rw [Reading.read, read]
  case inr.inr.inr.inl =>
    exact congrArg (fun text => str (Text.strip text)) (str.inj (textOfEither_eq arguments "body" "draft_comment"))
  all_goals rfl

end Contents

end Troop.Approvals
