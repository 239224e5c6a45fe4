import Troop.Approvals.Commit
import Troop.Approvals.Chains

namespace Troop.Approvals

open Workflow (Env stripToolPrefix)
open List
open Json (arr obj pyOr sortKeys str truthy)

section Determined

variable {key name : String} {a b c d : Dict Json} {shape : Shape}

theorem Shape.provider_inj {one other : Shape} (first : one.provider = some name) (second : other.provider = some name) :
    one = other := by
  cases one <;> cases other <;> grind [Shape.provider]

theorem hashedShape_named (named : shape.provider = some name) (given : provider a = name) :
    hashedShape key a ≠ .whole := by
  unfold hashedShape
  dsimp only
  cases shape <;> simp only [Shape.provider, Option.some.injEq, reduceCtorEq] at named
  all_goals
    split_ifs <;> simp_all

theorem effectShape_whole (whole : effectShape key a = .whole) : hashedShape key a = .whole := by
  unfold effectShape at whole
  split at whole
  · exact whole
  · simp_all

theorem effectShape_comment : effectShape key a = .githubComment → key ∈ githubCommentActions := by
  unfold effectShape
  split
  · rename_i whole
    intro comment
    exact absurd comment (hashedShape_whole whole).2.2
  · unfold normalizedShape
    dsimp only
    split_ifs with gmail outlook github <;> simp_all

theorem effectShape_not_comment (whole : effectShape key a = .whole) : key ∉ githubCommentActions := by
  intro listed
  unfold effectShape at whole
  have notWhole : normalizedShape key a ≠ .whole := by
    unfold normalizedShape
    dsimp only
    split_ifs <;> simp_all
  split at whole
  · exact absurd ‹_› notWhole
  · exact absurd whole notWhole

theorem Hashed.unnamed (hashed : Hashed a (effectShape key a) c) (none : (effectShape key a).provider = none)
    (named : shape.provider = some name) : c.get "provider" ≠ .str name := by
  cases chosen : effectShape key a with
  | githubComment =>
    rw [chosen] at hashed
    cases hashed with
    | comment number read =>
      show Json.null ≠ _
      simp
  | whole =>
    rw [chosen] at hashed
    cases hashed with
    | whole =>
      rw [get_bindingFirst]
      intro given
      have read : Approvals.provider a = name := by simp_all [Approvals.provider, Json.strOrEmpty_str]
      exact hashedShape_named named read (effectShape_whole chosen)
  | _ =>
    rw [chosen] at none
    cases none

theorem sortKeys_eq_str {value : Json} {text : String} (same : value.sortKeys = .str text) : value = .str text := by
  cases value with
  | str other => simpa using same
  | _ => simp [sortKeys] at same

theorem effectShape_same (left : Hashed a (effectShape key a) c) (right : Hashed b (effectShape key b) d)
    (same : c.SameContent d) : effectShape key b = effectShape key a := by
  have providers : (c.get "provider").sortKeys = (d.get "provider").sortKeys := same.get "provider"
  cases one : (effectShape key a).provider with
  | some name =>
    rw [left.provider one, Json.sortKeys_str] at providers
    have given := sortKeys_eq_str providers.symm
    cases other : (effectShape key b).provider with
    | none => exact absurd given (right.unnamed other one)
    | some named =>
      rw [right.provider other] at given
      rw [← str.inj given] at one
      exact Shape.provider_inj other one
  | none =>
    cases other : (effectShape key b).provider with
    | some named =>
      rw [right.provider other, Json.sortKeys_str] at providers
      exact absurd (sortKeys_eq_str providers) (left.unnamed one other)
    | none =>
      cases first : effectShape key a with
      | githubComment =>
        cases second : effectShape key b with
        | githubComment => rfl
        | whole => exact absurd (effectShape_comment first) (effectShape_not_comment second)
        | _ => rw [second] at other; cases other
      | whole =>
        cases second : effectShape key b with
        | githubComment => exact absurd (effectShape_comment second) (effectShape_not_comment first)
        | whole => rfl
        | _ => rw [second] at other; cases other
      | _ => rw [first] at one; cases one

end Determined

section Tables

/-- What the adapter of an action reads of its arguments for the provider, the installation
    included. The keys of other adapters are those of `other`. -/
def sentReadings (other : String → List Reading) : String → List Reading
  | "gmail.send_draft" => [.text ["connector_installation_id"] "", .text ["gmail_draft_id"] ""]
  | "gmail.create_draft" =>
    [.text ["connector_installation_id"] "", .header "to" (.str ""), .header "cc" .null, .header "bcc" .null,
      .text ["from"] "", .text ["subject"] "", .text ["in_reply_to"] "",
      .textWith "in_reply_to" ["references", "in_reply_to"], .text ["body", "body_text"] "", .raw ["thread_id"]]
  | "gmail.update_draft" =>
    [.text ["connector_installation_id"] "", .text ["gmail_draft_id"] "", .header "to" (.str ""),
      .header "cc" .null, .header "bcc" .null, .text ["from"] "", .text ["subject"] "", .text ["in_reply_to"] "",
      .textWith "in_reply_to" ["references", "in_reply_to"], .text ["body", "body_text"] "", .raw ["thread_id"]]
  | "outlook.send_draft" => [.text ["connector_installation_id"] "", .text ["outlook_draft_id"] ""]
  | "outlook.create_draft" =>
    [.text ["connector_installation_id"] "", .text ["thread_id"] "", .text ["subject"] "",
      .text ["body", "body_text"] "", .named "to", .named "cc", .named "bcc"]
  | "outlook.update_draft" =>
    [.text ["connector_installation_id"] "", .text ["outlook_draft_id"] "", .text ["subject"] "",
      .text ["body", "body_text"] "", .named "to", .named "cc", .named "bcc"]
  | "slack.post_message" =>
    [.text ["connector_installation_id"] "", .text ["channel"] "", .text ["text"] "", .text ["thread_ts"] ""]
  | "teams.post_message" =>
    [.text ["connector_installation_id"] "", .text ["conversation_id"] "", .text ["text"] "",
      .text ["reply_to_id"] "", .raw ["attachments"]]
  | "jira.create_issue" =>
    [.text ["connector_installation_id"] "", .text ["cloud_id"] "", .text ["project_key"] "",
      .text ["summary"] "", .text ["issue_type"] "Task", .text ["description"] "", .text ["priority"] "",
      .text ["assignee_account_id"] ""]
  | "jira.update_issue" =>
    [.text ["connector_installation_id"] "", .text ["cloud_id"] "", .text ["issue_key", "issue_id"] "",
      .text ["summary"] "", .text ["description"] "", .text ["priority"] ""]
  | "jira.add_comment" =>
    [.text ["connector_installation_id"] "", .text ["cloud_id"] "", .text ["issue_key", "issue_id"] "",
      .text ["comment_body", "comment"] ""]
  | "linear.create_issue" =>
    [.text ["connector_installation_id"] "", .text ["team_id"] "", .text ["title", "summary"] "",
      .text ["description"] "", .text ["priority"] ""]
  | "linear.update_issue" =>
    [.text ["connector_installation_id"] "", .text ["issue_id", "issue_key"] "", .text ["title", "summary"] "",
      .text ["description"] "", .text ["state_id"] "", .text ["priority"] ""]
  | "linear.add_comment" =>
    [.text ["connector_installation_id"] "", .text ["issue_id", "issue_key"] "",
      .text ["comment_body", "comment"] ""]
  | "hubspot.update_contact" =>
    [.text ["connector_installation_id"] "", .text ["contact_id", "record_id"] "",
      .fields ["firstname", "lastname", "email", "phone", "jobtitle", "company", "website", "lifecyclestage",
        "hs_lead_status"]]
  | "hubspot.create_note" =>
    [.text ["connector_installation_id"] "", .text ["contact_id", "record_id"] "", .text ["note_body", "body"] ""]
  | "hubspot.send_email" =>
    [.text ["connector_installation_id"] "", .text ["email_id"] "", .text ["email_to", "to"] "", .raw ["cc"],
      .raw ["bcc"], .text ["email_subject", "subject"] "", .text ["email_body", "message"] ""]
  | "salesforce.update_contact" =>
    [.text ["connector_installation_id"] "", .text ["contact_id", "record_id"] "",
      .fields ["FirstName", "LastName", "Email", "Phone", "Title", "Department", "MailingCity", "MailingState",
        "MailingCountry", "LeadSource"]]
  | "salesforce.create_task" =>
    [.text ["connector_installation_id"] "", .text ["task_subject", "subject"] "Follow up",
      .text ["task_description", "description"] "", .text ["priority"] "Normal",
      .text ["contact_id", "record_id"] "", .text ["account_id"] ""]
  | "salesforce.send_email" =>
    [.text ["connector_installation_id"] "", .text ["contact_id", "record_id"] "",
      .text ["email_subject", "subject"] "", .text ["email_body", "message"] ""]
  | "github_comment" | "github_progress_comment" | "github_manager_closure" =>
    [.text ["issue_link_id"] "", .text ["repository_id"] "", .number "issue_number",
      .raw ["body", "draft_comment"], .flag "close_issue"]
  | key => other key

def scalar : Json → Bool
  | .arr _ | .obj _ => false
  | _ => true

def textual : Json → Bool
  | .null | .str _ => true
  | _ => false

def startsChain (aliases : List String) : Reading → Bool
  | .text long fallback => aliases.isPrefixOf long && fallback = ""
  | _ => false

def Reading.settled (kept : List Reading) (a b : Dict Json) : Reading → Bool
  | .text aliases fallback =>
    .text aliases "" ∈ kept || .text aliases fallback ∈ kept || aliases.all (fun key => .text [key] "" ∈ kept) ||
      (kept.any (startsChain aliases) && (textChain a aliases "" = "") == (textChain b aliases "" = ""))
  | .raw [key] => .text [key] "" ∈ kept && textual (a.get key) && textual (b.get key)
  | reading => reading ∈ kept

/-- Whether what is hashed of `a` by the shape fixes the reading of `b`. -/
def Shape.covers (shape : Shape) (a b : Dict Json) (reading : Reading) : Bool :=
  match shape, reading with
  | .whole, .raw _ => !a.isEmpty
  | .whole, reading => !a.isEmpty && reading.keys.all fun key => scalar (a.get key)
  | .hubspot, .fields _ | .salesforce, .fields _ => true
  | shape, reading => reading.settled ((boundReadings shape).map Prod.snd) a b

end Tables

section Soundness

variable {a b c d : Dict Json} {shape : Shape}

theorem firstGiven_same (same : ∀ key, (a.get key).sortKeys = (b.get key).sortKeys) (aliases : List String) :
    (firstGiven a aliases).sortKeys = (firstGiven b aliases).sortKeys := by
  induction aliases with
  | nil => rfl
  | cons key rest ih =>
    have given : (a.get key).truthy = (b.get key).truthy := by
      rw [← Json.truthy_sortKeys, same key, Json.truthy_sortKeys]
    unfold firstGiven pyOr
    rw [given]
    split
    · exact same key
    · exact ih

variable {reading : Reading} {v w : Json}

theorem scalar_same (plain : scalar v = true) (same : v.sortKeys = w.sortKeys) : v = w := by
  cases v with
  | arr items => cases plain
  | obj members => cases plain
  | _ => cases w <;> simp_all [sortKeys]

theorem whole_covers (same : (bindingFirst a).SameContent (bindingFirst b))
    (covered : Shape.whole.covers a b reading = true) : reading.read a = reading.read b := by
  have values (key : String) : (a.get key).sortKeys = (b.get key).sortKeys := by
    rw [← get_bindingFirst a, ← get_bindingFirst b]
    exact same.get key
  cases reading with
  | raw aliases => exact firstGiven_same values aliases
  | _ =>
    apply Reading.read_congr
    intro key member
    have plain := all_eq_true.mp (Bool.and_eq_true_iff.mp covered).2 key member
    exact scalar_same plain (values key)

theorem textual_same (left : textual v = true) (right : textual w = true)
    (same : (if v.truthy then v.pyStr else "") = if w.truthy then w.pyStr else "") :
    ((v.pyOr .null).sortKeys) = (w.pyOr .null).sortKeys := by
  cases v <;> cases w <;> simp_all [textual, pyOr, truthy, Json.pyStr]
  all_goals grind

theorem startsChain_eq {aliases : List String} (starts : startsChain aliases reading = true) :
    ∃ rest, reading = .text (aliases ++ rest) "" := by
  cases reading with
  | text long fallback =>
    have parts : aliases.isPrefixOf long = true ∧ fallback = "" := by simpa [startsChain] using starts
    obtain ⟨rest, whole⟩ := isPrefixOf_iff_prefix.mp parts.1
    exact ⟨rest, by rw [whole, parts.2]⟩
  | _ => cases starts

theorem settled_same {kept : List Reading} (agree : ∀ r ∈ kept, r.read a = r.read b)
    (settled : reading.settled kept a b = true) : reading.read a = reading.read b := by
  have text {aliases : List String} {fallback : String} (member : Reading.text aliases fallback ∈ kept) :
      textChain a aliases fallback = textChain b aliases fallback := str.inj (agree _ member)
  have filled {aliases : List String} (fallback : String) (same : textChain a aliases "" = textChain b aliases "") :
      (Reading.text aliases fallback).read a = (Reading.text aliases fallback).read b := by
    show str _ = str _
    rw [textChain_fallback a, textChain_fallback b, same]
  unfold Reading.settled at settled
  split at settled
  · rename_i aliases fallback
    simp only [Bool.or_eq_true, decide_eq_true_eq, all_eq_true, Bool.and_eq_true, any_eq_true] at settled
    rcases settled with ((whole | exact) | each) | ⟨⟨long, member, starts⟩, given⟩
    · exact filled fallback (text whole)
    · exact agree _ exact
    · exact congrArg str (textChain_each fallback fun key member => text (each key member))
    · obtain ⟨rest, rfl⟩ := startsChain_eq starts
      have blank : textChain a aliases "" = "" ↔ textChain b aliases "" = "" := by simpa using given
      exact filled fallback (textChain_start (text member) blank)
  · simp only [Bool.and_eq_true, decide_eq_true_eq] at settled
    obtain ⟨⟨member, left⟩, right⟩ := settled
    exact textual_same left right (text member)
  · exact agree _ (of_decide_eq_true settled)

def Reading.flat : Reading → Bool
  | .text _ _ | .recipients _ | .sender _ | .number _ | .stripped _ | .flag _ => true
  | _ => false

theorem boundReadings_flat (shape : Shape) : ∀ entry ∈ boundReadings shape, entry.2.flat = true := by
  cases shape <;> decide

theorem sortKeys_read (flat : reading.flat = true) (a : Dict Json) :
    (reading.read a).sortKeys = reading.read a := by
  cases reading with
  | recipients key =>
    have sorted (value : Json) : (normalizeAddresses value).sortKeys = normalizeAddresses value := by
      unfold normalizeAddresses
      rw [sortKeys, Json.sortItems_map_str]
    simp only [Reading.read, sorted]
  | number key => grind [Reading.read, sortKeys]
  | text | sender | stripped | flag => simp [Reading.read, sortKeys]
  | _ => cases flat

theorem kept_same (left : Hashed a shape c) (right : Hashed b shape d) (same : c.SameContent d) :
    ∀ r ∈ (boundReadings shape).map Prod.snd, r.read a = r.read b := by
  intro r member
  obtain ⟨entry, listed, rfl⟩ := mem_map.mp member
  have values := same.get entry.1
  have flat := boundReadings_flat shape entry listed
  rwa [left.content entry listed, right.content entry listed, sortKeys_read flat, sortKeys_read flat] at values

theorem fields_same (left : Hashed a shape c) (right : Hashed b shape d) (same : c.SameContent d)
    (crm : shape = .hubspot ∨ shape = .salesforce) (allowed : List String) :
    (Reading.fields allowed).read a = (Reading.fields allowed).read b := by
  obtain ⟨f, held, members, given, texts⟩ := left.fields crm
  obtain ⟨g, held', members', given', texts'⟩ := right.fields crm
  have values := same.get "fields"
  rw [held, held', sortKeys, sortKeys] at values
  have contents : Dict.SameContent f g := obj.inj values
  have each (key : String) : (members.get? key).bind fieldText = (members'.get? key).bind fieldText := by
    have found := contents.get? key
    rw [texts, texts'] at found
    cases one : (members.get? key).bind fieldText <;> cases other : (members'.get? key).bind fieldText <;>
      simp_all
  unfold Reading.read
  rw [given, given']
  show arr _ = arr _
  congr 1
  apply map_congr_left
  intro key _
  unfold allowedText
  rw [each key]

theorem covers_same (left : Hashed a shape c) (right : Hashed b shape d) (same : c.SameContent d)
    (covered : shape.covers a b reading = true) : reading.read a = reading.read b := by
  cases shape with
  | whole =>
    cases left with
    | whole =>
      cases right with
      | whole => exact whole_covers same covered
  | hubspot | salesforce =>
    cases reading with
    | fields allowed => exact fields_same left right same (by simp) allowed
    | _ => exact settled_same (kept_same left right same) covered
  | _ => exact settled_same (kept_same left right same) covered

end Soundness

section Effects

variable {env : Env}

theorem normalizeProposedEffect_nil {actionKey : String} {a : Dict Json}
    (nothing : normalizeProposedEffect actionKey a = .ok []) :
    a = [] ∧ effectShape (stripToolPrefix actionKey) a = .whole := by
  unfold normalizeProposedEffect at nothing
  cases shaped : normalizedShape (stripToolPrefix actionKey) a with
  | whole =>
    rw [shaped] at nothing
    have none := Except.ok.inj nothing
    have empty : a = [] := by
      cases a with
      | nil => rfl
      | cons entry rest =>
        obtain ⟨key, value⟩ := entry
        have found := get?_bindingFirst ((key, value) :: rest) key
        simp [none, Dict.get?_cons, if_pos rfl] at found
    refine ⟨empty, ?_⟩
    unfold effectShape
    rw [shaped]
    unfold normalizedShape at shaped
    dsimp only at shaped
    unfold hashedShape
    split_ifs at shaped
    grind [jira_key, linear_key, hubspot_key, salesforce_key, provider, Json.strOrEmpty, Json.truthy_null, Dict.get_nil]
  | gmail =>
    rw [shaped] at nothing
    obtain ⟨_, _, nothing⟩ := except_bind_ok nothing
    obtain ⟨_, _, nothing⟩ := except_bind_ok nothing
    cases Except.ok.inj nothing
  | outlook =>
    rw [shaped] at nothing
    obtain ⟨canonical, _, nothing⟩ := except_bind_ok nothing
    have written : (outlookForm a canonical).get "provider" = .null := by
      rw [Except.ok.inj nothing]
      rfl
    unfold outlookForm at written
    rw [Dict.get_update] at written
    simp [Dict.get?_cons] at written
  | githubComment | hubspot | salesforce =>
    rw [shaped] at nothing
    obtain ⟨_, _, nothing⟩ := except_bind_ok nothing
    cases Except.ok.inj nothing
  | jira | linear =>
    rw [shaped] at nothing
    cases Except.ok.inj nothing

/-- An accepted commit sends what was approved if and only if the arguments agree where the hashed
    content says nothing. -/
theorem approval_authorizes_effect (hashes : HashesContent env) (other : String → List Reading) {actionKey : String}
    {a : Dict Json} {fingerprint : Json} {version now : Int} {effect bound : ProposedEffect}
    {approval : BoundApproval} {request : CommitRequest}
    (built : buildProposedEffect env actionKey a fingerprint version now = .ok effect)
    (carries : Carries approval effect) (keyed : request.actionKey = actionKey)
    (accepted : validateCommittedEffect env approval request = .ok bound) :
    (∀ r ∈ sentReadings other (stripToolPrefix actionKey), r.read request.rawArguments = r.read a) ↔
      ∀ r ∈ sentReadings other (stripToolPrefix actionKey),
        (effectShape (stripToolPrefix actionKey) a).covers a request.rawArguments r = false →
          r.read request.rawArguments = r.read a := by
  constructor
  · simp_all
  intro rest r member
  by_cases covered : (effectShape (stripToolPrefix actionKey) a).covers a request.rawArguments r = true
  · by_cases given : effect.normalizedEffect = []
    · have made := (buildProposedEffect_ok built).normalized
      rw [given] at made
      obtain ⟨rfl, whole⟩ := normalizeProposedEffect_nil made
      rw [whole] at covered
      cases r <;> cases covered
    · obtain ⟨c, d, left, right, same⟩ := accepted_content hashes built carries given keyed accepted
      have first := hashedContent_hashed left
      have second := hashedContent_hashed right
      have shapes := effectShape_same first second same
      rw [shapes] at second
      exact (covers_same first second same covered).symm
  · exact rest r member (by simpa using covered)

end Effects

section Examples

def updateIssue : Dict Json := [("issue_key", .str "T-1"), ("summary", .str "Crash on start"), ("priority", .str "High")]

def grantOf (effect : ProposedEffect) : BoundApproval :=
  { applyProposedEffectToApproval deskEnv default effect with status := .approved }

def Passes (actionKey : String) (a b : Dict Json) : Prop :=
  ∃ effect bound, buildProposedEffect deskEnv actionKey a .null 1 0 = .ok effect ∧
    validateCommittedEffect deskEnv (grantOf effect) { actionKey, rawArguments := b, now := 0 } = .ok bound

theorem passes_of {actionKey : String} {a b : Dict Json} (given : a ≠ []) (named : stripToolPrefix actionKey ≠ "")
    (again : stripToolPrefix (stripToolPrefix actionKey) = stripToolPrefix actionKey)
    (same : (match hashedContent actionKey a, hashedContent actionKey b with
      | .ok c, .ok d => decide (c.SameContent d)
      | _, _ => false) = true) : Passes actionKey a b := by
  cases left : hashedContent actionKey a with
  | error error => simp [left] at same
  | ok c =>
    cases right : hashedContent actionKey b with
    | error error => simp [left, right] at same
    | ok d =>
      rw [left, right] at same
      have content : c.SameContent d := of_decide_eq_true same
      obtain ⟨normalized, projected, hashed⟩ := hashedContent_ok left
      have built : ∃ effect, buildProposedEffect deskEnv actionKey a .null 1 0 = .ok effect := by
        unfold buildProposedEffect
        rw [projected]
        simp only [bind, Except.bind]
        rw [hashed]
        exact ⟨_, rfl⟩
      obtain ⟨effect, built⟩ := built
      have made := buildProposedEffect_ok built
      have hashes : HashesContent deskEnv := ⟨Json.digest_eq_iff, Json.digest_nonempty⟩
      have kept : effect.normalizedEffect ≠ [] := by
        intro nothing
        have none := made.normalized
        rw [nothing] at none
        exact given (normalizeProposedEffect_nil none).1
      have checked : Checked (grantOf effect) { actionKey, rawArguments := b, now := 0 } := by
        constructor
        · rfl
        · refine ⟨0 + Workflow.approvalTtl, made.expires, ?_⟩
          show (0 : Int) < 0 + Workflow.approvalTtl
          decide
        · show effect.effectVersion ≠ 0
          simp [made.version]
        · rfl
      have carries : Carries (applyProposedEffectToApproval deskEnv default effect) effect :=
        applyProposedEffect_carries default effect
      have granted : Carries (grantOf effect) effect := ⟨carries.column, carries.key⟩
      obtain ⟨bound, accepted⟩ := (validateCommittedEffect_iff hashes made granted kept checked named again rfl).mpr
        ⟨c, d, left, right, content⟩
      exact ⟨effect, bound, built, accepted⟩

theorem issue_update_authorized :
    Passes "jira.update_issue" updateIssue (updateIssue ++ [("workflow_run_id", .str "run")]) ∧
      ∀ r ∈ sentReadings (fun _ => []) "jira.update_issue",
        r.read (updateIssue ++ [("workflow_run_id", .str "run")]) = r.read updateIssue := by
  have passes : Passes "jira.update_issue" updateIssue (updateIssue ++ [("workflow_run_id", .str "run")]) :=
    passes_of (by decide) (by decide) (by decide) (by decide)
  refine ⟨passes, ?_⟩
  obtain ⟨effect, bound, built, accepted⟩ := passes
  have hashes : HashesContent deskEnv := ⟨Json.digest_eq_iff, Json.digest_nonempty⟩
  have carries : Carries (applyProposedEffectToApproval deskEnv default effect) effect :=
    applyProposedEffect_carries default effect
  have granted : Carries (grantOf effect) effect := ⟨carries.column, carries.key⟩
  have sends := approval_authorizes_effect hashes (fun _ => []) built granted rfl accepted
  exact sends.mpr (by decide)

def mailing : Dict Json := [("email_id", .str "7"), ("email_to", .str "ann@example.com")]

def newIssue (summary : String) : Dict Json :=
  [("provider", .str "gmail"), ("project_key", .str "T"), ("summary", .str summary)]

theorem approval_lets_copies_pass :
    (Passes "hubspot.send_email" mailing (mailing ++ [("cc", .arr [.str "eve@example.com"])]) ∧
      Reading.raw ["cc"] ∈ sentReadings (fun _ => []) "hubspot.send_email" ∧
      (Reading.raw ["cc"]).read (mailing ++ [("cc", .arr [.str "eve@example.com"])]) ≠ (Reading.raw ["cc"]).read mailing) ∧
    (Passes "jira.create_issue" (newIssue "Crash on start") (newIssue "Grant access") ∧
      Reading.text ["summary"] "" ∈ sentReadings (fun _ => []) "jira.create_issue" ∧
      (Reading.text ["summary"] "").read (newIssue "Grant access") ≠
        (Reading.text ["summary"] "").read (newIssue "Crash on start")) :=
  ⟨⟨passes_of (by decide) (by decide) (by decide) (by decide), by decide, by decide⟩,
    passes_of (by decide) (by decide) (by decide) (by decide), by decide, by decide⟩

end Examples

end Troop.Approvals
