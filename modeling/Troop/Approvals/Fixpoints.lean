import Troop.Approvals.Commit

namespace Troop.Approvals

open Workflow (Env stripToolPrefix)
open List
open Option (some)
open Except (ok)
open Json (arr num pyOr str)

/-! Normal forms under their own projection. -/

section Recipients

variable {texts : List String}

theorem sortTexts_sorted (texts : List String) :
    (sortTexts texts).Pairwise fun a b => ¬ b.toList < a.toList := by
  have total : Std.Total fun a b : String => ¬ b.toList < a.toList := by
    constructor
    intro a b
    rcases List.le_total a.toList b.toList with low | low
    · exact .inl (List.not_lt.mpr low)
    · exact .inr (List.not_lt.mpr low)
  exact pairwise_insertionSort _ texts

theorem sortTexts_again (sorted : texts.Pairwise fun a b => ¬ b.toList < a.toList) : sortTexts texts = texts :=
  sorted.insertionSort_eq

variable {text : String} {value : Json}

theorem mem_sortTexts : text ∈ sortTexts texts ↔ text ∈ texts := mem_insertionSort _

def rawRecipients (value : Json) : List Json :=
  match value with
  | .arr items => items
  | other => if other.truthy then [other] else []

def Addressed (value : Json) : Prop :=
  ∀ item ∈ rawRecipients value, (address item).truthy = true → Text.strip (address item).pyStr ≠ ""

theorem normalizeAddress_eq (item : Json) :
    normalizeAddress item =
      if (address item).truthy then some (Text.lower (Text.strip (address item).pyStr)) else none := by
  cases item <;> rfl

def recipientTexts (value : Json) : List String := sortTexts ((rawRecipients value).filterMap normalizeAddress)

theorem normalizeAddresses_eq (value : Json) : normalizeAddresses value = .arr ((recipientTexts value).map .str) := rfl

theorem mem_recipientTexts :
    text ∈ recipientTexts value ↔ ∃ item ∈ rawRecipients value, normalizeAddress item = some text := by
  unfold recipientTexts
  rw [mem_sortTexts, mem_filterMap]

theorem senderText_again (text : String) : senderText (senderText text) = senderText text := by
  unfold senderText
  rw [Text.strip_lower, Text.strip_strip, Text.lower_lower]

theorem recipientTexts_normal (member : text ∈ recipientTexts value) :
    senderText text = text := by
  obtain ⟨item, _, kept⟩ := mem_recipientTexts.mp member
  rw [normalizeAddress_eq] at kept
  split at kept
  · rw [← some.inj kept]
    exact senderText_again _
  · cases kept

theorem addressed_iff (value : Json) : Addressed value ↔ "" ∉ recipientTexts value := by
  constructor
  · intro addressed member
    obtain ⟨item, raw, kept⟩ := mem_recipientTexts.mp member
    rw [normalizeAddress_eq] at kept
    split at kept
    · rename_i given
      exact addressed item raw given (Text.lower_eq_empty.mp (some.inj kept))
    · cases kept
  · intro absent item raw given blank
    apply absent
    apply mem_recipientTexts.mpr ⟨item, raw, _⟩
    rw [normalizeAddress_eq, if_pos given, Text.lower_eq_empty.mpr blank]

theorem recipientTexts_again (value : Json) :
    recipientTexts (normalizeAddresses value) = (recipientTexts value).filter (· ≠ "") := by
  have kept : ((recipientTexts value).map str).filterMap normalizeAddress = (recipientTexts value).filter (· ≠ "") := by
    rw [filterMap_map, ← filterMap_eq_filter]
    apply filterMap_congr
    intro text member
    have normal : Text.lower (Text.strip text) = text := recipientTexts_normal member
    by_cases empty : text = ""
    · subst empty
      rfl
    · rw [Function.comp_apply, normalizeAddress_eq]
      simp [address, Json.truthy, Json.pyStr, empty, normal, Option.guard]
  have sorted := (sortTexts_sorted ((rawRecipients value).filterMap normalizeAddress)).filter (· ≠ "")
  show sortTexts (((recipientTexts value).map str).filterMap normalizeAddress) = _
  rw [kept]
  exact sortTexts_again sorted

theorem normalizeAddresses_again_iff (value : Json) :
    normalizeAddresses (normalizeAddresses value) = normalizeAddresses value ↔ Addressed value := by
  rw [addressed_iff, normalizeAddresses_eq, recipientTexts_again]
  constructor
  · intro same member
    rw [normalizeAddresses_eq] at same
    have texts := map_injective_iff.mpr (fun _ _ => str.inj) (arr.inj same)
    rw [← texts] at member
    simp at member
  · intro absent
    have all : ∀ text ∈ recipientTexts value, (decide (text ≠ "")) = true := by grind
    rw [filter_eq_self.mpr all]
    rfl

end Recipients

section Attachments

theorem text_trichotomy (a b : String) : a.toList < b.toList ∨ a = b ∨ b.toList < a.toList := by
  by_cases low : a.toList < b.toList
  · exact .inl low
  · by_cases high : b.toList < a.toList
    · exact .inr (.inr high)
    · have same : a.toList = b.toList := List.le_antisymm (List.not_lt.mp high) (List.not_lt.mp low)
      exact .inr (.inl (String.toList_inj.mp same))

theorem toInt_num (number : Int) : ((Json.num number).pyOr (.num 0)).toInt = .ok number := by
  unfold pyOr
  by_cases zero : number = 0 <;> simp [zero, Json.truthy, Json.toInt]

theorem readAttachments_json (attachments : List Attachment) :
    readAttachments (attachments.map Attachment.json) = .ok attachments := by
  induction attachments with
  | nil => rfl
  | cons first rest ih =>
    obtain ⟨id, filename, size⟩ := first
    show (do
      let size ← ((num size).pyOr (.num 0)).toInt
      let others ← readAttachments (rest.map Attachment.json)
      return (⟨((str id).pyOr .null).strOrEmpty, (str filename).strOrEmpty, size⟩ : Attachment) :: others) = _
    rw [toInt_num, ih, Json.strOrEmpty_or_null, Json.strOrEmpty_str]
    rfl

theorem Attachment.before_iff (a b : Attachment) :
    a.before b = true ↔ a.attachmentId.toList < b.attachmentId.toList ∨
      a.attachmentId = b.attachmentId ∧ (a.filename.toList < b.filename.toList ∨
        a.filename = b.filename ∧ a.size ≤ b.size) := by
  unfold Attachment.before
  by_cases id : a.attachmentId = b.attachmentId
  · by_cases name : a.filename = b.filename <;> simp [id, name, List.lt_irrefl]
  · simp [id]

theorem Attachment.before_total (a b : Attachment) : a.before b = true ∨ b.before a = true := by
  rw [before_iff, before_iff]
  rcases text_trichotomy a.attachmentId b.attachmentId with low | same | high
  · exact .inl (.inl low)
  · rcases text_trichotomy a.filename b.filename with low | name | high
    · exact .inl (.inr ⟨same, .inl low⟩)
    · rcases Int.le_total a.size b.size with small | large
      · exact .inl (.inr ⟨same, .inr ⟨name, small⟩⟩)
      · exact .inr (.inr ⟨same.symm, .inr ⟨name.symm, large⟩⟩)
    · exact .inr (.inr ⟨same.symm, .inl high⟩)
  · exact .inr (.inl high)

theorem Attachment.before_trans {a b c : Attachment} (first : a.before b = true) (second : b.before c = true) :
    a.before c = true := by
  rw [before_iff] at first second ⊢
  rcases first with id | ⟨id, first⟩
  · rcases second with id' | ⟨id', _⟩
    · exact .inl (List.lt_trans id id')
    · exact .inl (id' ▸ id)
  · rw [id]
    rcases second with id' | ⟨id', second⟩
    · exact .inl id'
    refine .inr ⟨id', ?_⟩
    rcases first with name | ⟨name, first⟩
    · rcases second with name' | ⟨name', _⟩
      · exact .inl (List.lt_trans name name')
      · exact .inl (name' ▸ name)
    · rw [name]
      rcases second with name' | ⟨name', second⟩
      · exact .inl name'
      · exact .inr ⟨name', Int.le_trans first second⟩

theorem attachments_again (attachments : List Attachment) :
    (attachments.insertionSort fun a b => a.before b).insertionSort (fun a b => a.before b) =
      attachments.insertionSort fun a b => a.before b := by
  have total : Std.Total fun a b : Attachment => a.before b = true := ⟨Attachment.before_total⟩
  have trans : IsTrans Attachment fun a b => a.before b = true := ⟨fun _ _ _ => Attachment.before_trans⟩
  exact (pairwise_insertionSort _ attachments).insertionSort_eq

end Attachments

section Fields

theorem sortedFields_again {value : Json} {fields : Dict Json} (read : sortedFields value = .ok fields) :
    sortedFields (.obj fields) = .ok fields := by
  obtain ⟨members, given, texts⟩ := sortedFields_of read
  obtain ⟨source, given', made⟩ := except_bind_ok read
  obtain rfl := ok.inj (given.symm.trans given')
  have made := ok.inj made
  have kept : (fields.filterMap fun entry =>
      ((fields.get? entry.1).bind fieldText).map fun text => (entry.1, str text)) = fields.filterMap some := by
    apply filterMap_congr
    intro entry member
    rw [← made] at member
    obtain ⟨_, _, kept⟩ := mem_filterMap.mp (Dict.mem_sortByKey member)
    obtain ⟨text, found, rfl⟩ := Option.map_eq_some_iff.mp kept
    rw [texts, found]
    rfl
  have sorted : Dict.Sorted fields := made ▸ Dict.sortByKey_sorted _
  show ok (Dict.sortByKey _) = _
  rw [kept, filterMap_some, sorted.sortByKey]

end Fields

section Forms

variable {a c d : Dict Json} {shape : Shape}

theorem exists_get? {key : String} (present : key ∈ c.keys) : ∃ value, c.get? key = some value := by
  induction c with
  | nil => cases present
  | cons entry rest ih =>
    obtain ⟨k, value⟩ := entry
    rw [Dict.get?_cons]
    by_cases same : k = key
    · exact ⟨value, if_pos same⟩
    · rw [if_neg same]
      rcases mem_cons.mp present with rfl | later
      · exact absurd rfl same
      · exact ih later

theorem get?_of_get {key : String} (present : key ∈ c.keys) (present' : key ∈ d.keys) (same : c.get key = d.get key) :
    c.get? key = d.get? key := by
  obtain ⟨value, found⟩ := exists_get? present
  obtain ⟨value', found'⟩ := exists_get? present'
  unfold Dict.get at same
  simp_all

theorem form_again (others : List String) (distinct : d.keys.Nodup)
    (listed : d.keys ⊆ others ++ (boundReadings shape).map Prod.fst)
    (twice : ∀ entry ∈ boundReadings shape, c.get entry.1 = entry.2.read a)
    (once : ∀ entry ∈ boundReadings shape, d.get entry.1 = entry.2.read a)
    (named : c.keys = d.keys) (same : ∀ key ∈ others, c.get key = d.get key) : c = d := by
  apply Dict.eq_of_keys named distinct
  intro key member
  apply get?_of_get (named ▸ member) member
  rcases mem_append.mp (listed member) with other | reading
  · exact same key other
  · grind

theorem jira_again (a : Dict Json) :
    canonicalJiraIssueArguments (canonicalJiraIssueArguments a) = canonicalJiraIssueArguments a := by
  have distinct : (canonicalJiraIssueArguments a).keys.Nodup := by simp [canonicalJiraIssueArguments, Dict.keys]
  have listed : (canonicalJiraIssueArguments a).keys ⊆ ["provider"] ++ (boundReadings .jira).map Prod.fst := by
    simp [canonicalJiraIssueArguments, Dict.keys, boundReadings]
  apply form_again ["provider"] distinct listed (jira_content a) (jira_once a) rfl
  intro key member
  obtain rfl := mem_singleton.mp member
  rfl

theorem linear_again (a : Dict Json) :
    canonicalLinearIssueArguments (canonicalLinearIssueArguments a) = canonicalLinearIssueArguments a := by
  have distinct : (canonicalLinearIssueArguments a).keys.Nodup := by simp [canonicalLinearIssueArguments, Dict.keys]
  have listed : (canonicalLinearIssueArguments a).keys ⊆ ["provider"] ++ (boundReadings .linear).map Prod.fst := by
    simp [canonicalLinearIssueArguments, Dict.keys, boundReadings]
  apply form_again ["provider"] distinct listed (linear_content a) (linear_once a) rfl
  intro key member
  obtain rfl := mem_singleton.mp member
  rfl

theorem hubspot_again (a fields : Dict Json) :
    hubspotForm (hubspotForm a fields) fields = hubspotForm a fields := by
  have distinct : (hubspotForm a fields).keys.Nodup := by simp [hubspotForm, Dict.keys]
  have listed : (hubspotForm a fields).keys ⊆ ["provider", "fields"] ++ (boundReadings .hubspot).map Prod.fst := by
    simp [hubspotForm, Dict.keys, boundReadings]
  apply form_again ["provider", "fields"] distinct listed (hubspot_content a fields fields) (hubspot_once a fields) rfl
  intro key member
  simp only [mem_cons, not_mem_nil, or_false] at member
  rcases member with rfl | rfl
  all_goals rfl

theorem salesforce_again (a fields : Dict Json) :
    salesforceForm (salesforceForm a fields) fields = salesforceForm a fields := by
  have distinct : (salesforceForm a fields).keys.Nodup := by simp [salesforceForm, Dict.keys]
  have listed : (salesforceForm a fields).keys ⊆ ["provider", "fields"] ++ (boundReadings .salesforce).map Prod.fst := by
    simp [salesforceForm, Dict.keys, boundReadings]
  apply form_again ["provider", "fields"] distinct listed (salesforce_content a fields fields) (salesforce_once a fields) rfl
  intro key member
  simp only [mem_cons, not_mem_nil, or_false] at member
  rcases member with rfl | rfl
  all_goals rfl

def recipientKeys : List String := ["to", "cc", "bcc"]

theorem gmail_once (attachments : List Attachment) (addressed : ∀ key ∈ recipientKeys, Addressed (a.get key)) :
    ∀ entry ∈ boundReadings .gmail, (emailForm a attachments).get entry.1 = entry.2.read a := by
  have recipients : ∀ key ∈ recipientKeys, normalizeAddresses (a.get key) = (Reading.recipients key).read a :=
    fun key member => ((normalizeAddresses_again_iff _).mpr (addressed key member)).symm
  intro entry member
  simp only [boundReadings, mem_cons, not_mem_nil, or_false] at member
  rcases member with rfl | rfl | rfl | rfl | rfl | rfl | rfl | rfl | rfl | rfl
  case inr.inr.inr.inr.inl => exact congrArg str (senderText_again _).symm
  case inr.inr.inr.inr.inr.inl => exact recipients "to" (by decide)
  case inr.inr.inr.inr.inr.inr.inl => exact recipients "cc" (by decide)
  case inr.inr.inr.inr.inr.inr.inr.inl => exact recipients "bcc" (by decide)
  all_goals
    first
    | rfl
    | exact textOfEither_eq a _ _

theorem emailForm_provider (a : Dict Json) (attachments : List Attachment) :
    (emailForm a attachments).get "provider" = .str "gmail" := rfl

theorem emailForm_attachments (a : Dict Json) (attachments : List Attachment) :
    (emailForm a attachments).get "attachments" =
      .arr ((attachments.insertionSort fun a b => a.before b).map Attachment.json) := rfl

theorem gmail_again {attachments : List Attachment} (addressed : ∀ key ∈ recipientKeys, Addressed (a.get key)) :
    emailForm (emailForm a attachments) (attachments.insertionSort fun a b => a.before b) = emailForm a attachments := by
  have distinct : (emailForm a attachments).keys.Nodup := by simp [emailForm, Dict.keys]
  have listed : (emailForm a attachments).keys ⊆ ["provider", "attachments"] ++ (boundReadings .gmail).map Prod.fst := by
    simp [emailForm, Dict.keys, boundReadings]
  have named : (emailForm (emailForm a attachments) (attachments.insertionSort fun a b => a.before b)).keys =
      (emailForm a attachments).keys := by simp [emailForm, Dict.keys]
  apply form_again ["provider", "attachments"] distinct listed (gmail_content a attachments _)
    (gmail_once attachments addressed) named
  intro key member
  simp only [mem_cons, not_mem_nil, or_false] at member
  rcases member with rfl | rfl
  · rw [emailForm_provider, emailForm_provider]
  · rw [emailForm_attachments, emailForm_attachments, attachments_again]

theorem outlookForm_keys (a b : Dict Json) (x : List Attachment) :
    (outlookForm a (emailForm b x)).keys = (emailForm b x).keys ++ ["outlook_draft_id"] := by
  rfl

section Outlook

variable {attachments again : List Attachment}

def outlookMail (a : Dict Json) (attachments : List Attachment) : Dict Json :=
  outlookForm a (emailForm (asEmail a) attachments)

theorem outlookMail_get {key : String} (other : key ≠ "provider") (draft : key ≠ "outlook_draft_id") :
    (outlookMail a attachments).get key = (emailForm (asEmail a) attachments).get key :=
  outlookForm_get a _ other draft

theorem outlook_once (addressed : ∀ key ∈ recipientKeys, Addressed (a.get key)) :
    ∀ entry ∈ boundReadings .outlook, (outlookMail a attachments).get entry.1 = entry.2.read a := by
  have recipients : ∀ key ∈ recipientKeys, normalizeAddresses (a.get key) = (Reading.recipients key).read a :=
    fun key member => ((normalizeAddresses_again_iff _).mpr (addressed key member)).symm
  have kept {key : String} (other : key ≠ "provider") (draft : key ≠ "gmail_draft_id") :
      (asEmail a).get key = a.get key := asEmail_get a other draft
  intro entry member
  simp only [boundReadings, mem_cons, not_mem_nil, or_false] at member
  rcases member with rfl | rfl | rfl | rfl | rfl | rfl | rfl | rfl | rfl | rfl
  case inr.inl =>
    exact (outlookForm_draft a _).trans (textOfEither_eq a _ _)
  all_goals rw [outlookMail_get (by decide) (by decide)]
  case inr.inr.inr.inr.inl =>
    show str (senderText ((asEmail a).get "from").strOrEmpty) = _
    rw [kept (by decide) (by decide)]
    exact congrArg str (senderText_again _).symm
  case inr.inr.inr.inr.inr.inl =>
    show normalizeAddresses ((asEmail a).get "to") = _
    rw [kept (by decide) (by decide)]
    exact recipients "to" (by decide)
  case inr.inr.inr.inr.inr.inr.inl =>
    show normalizeAddresses ((asEmail a).get "cc") = _
    rw [kept (by decide) (by decide)]
    exact recipients "cc" (by decide)
  case inr.inr.inr.inr.inr.inr.inr.inl =>
    show normalizeAddresses ((asEmail a).get "bcc") = _
    rw [kept (by decide) (by decide)]
    exact recipients "bcc" (by decide)
  case inr.inr.inr.inr.inr.inr.inr.inr.inr =>
    show textOfEither (asEmail a) "body" "body_text" = _
    unfold textOfEither
    rw [kept (by decide) (by decide), kept (by decide) (by decide)]
    exact textOfEither_eq a _ _
  all_goals exact asEmail_textOf a (by decide) (by decide)

theorem outlookMail_provider : (outlookMail a attachments).get "provider" = .str "outlook" := by
  unfold outlookMail outlookForm
  rw [Dict.get_update]
  simp [Dict.get?_cons]

theorem outlookMail_draft :
    (outlookMail a attachments).get "gmail_draft_id" = textOfEither a "outlook_draft_id" "draft_id" := by
  have drafted : (asEmail a).get "gmail_draft_id" = (a.get "outlook_draft_id").pyOr (a.get "draft_id") := by
    unfold asEmail
    rw [Dict.get_update]
    simp [Dict.get?_cons]
  show textOfEither (asEmail a) "gmail_draft_id" "draft_id" = _
  unfold textOfEither
  rw [drafted, asEmail_get a (by decide) (by decide)]
  unfold pyOr
  by_cases given : (a.get "outlook_draft_id").truthy = true <;> simp [given]

theorem outlook_again (addressed : ∀ key ∈ recipientKeys, Addressed (a.get key)) :
    outlookMail (outlookMail a attachments) (attachments.insertionSort fun a b => a.before b) =
      outlookMail a attachments := by
  generalize more : (attachments.insertionSort fun a b => a.before b) = further
  have keys : (outlookMail a attachments).keys = (emailForm (asEmail a) attachments).keys ++ ["outlook_draft_id"] :=
    outlookForm_keys _ _ _
  have named : (outlookMail (outlookMail a attachments) further).keys = (outlookMail a attachments).keys := by
    exact outlookForm_keys _ _ _
  have distinct : (outlookMail a attachments).keys.Nodup := by
    rw [keys]
    simp [emailForm, Dict.keys]
  have listed : (outlookMail a attachments).keys ⊆
      ["provider", "gmail_draft_id", "attachments"] ++ (boundReadings .outlook).map Prod.fst := by
    rw [keys]
    simp [emailForm, Dict.keys, boundReadings]
  have twice : ∀ entry ∈ boundReadings .outlook,
      (outlookMail (outlookMail a attachments) further).get entry.1 = entry.2.read a :=
    outlook_content a attachments further
  apply form_again ["provider", "gmail_draft_id", "attachments"] distinct listed twice (outlook_once addressed) named
  intro key member
  simp only [mem_cons, not_mem_nil, or_false] at member
  rcases member with rfl | rfl | rfl
  · rw [outlookMail_provider, outlookMail_provider]
  · rw [outlookMail_draft, outlookMail_draft, textOfEither_eq a]
    apply textOfEither_rewritten
    · exact outlookForm_draft a _
    · rfl
  · rw [outlookMail_get (by decide) (by decide), outlookMail_get (by decide) (by decide), emailForm_attachments,
      emailForm_attachments, ← more, attachments_again]

end Outlook

theorem githubComment_again (a : Dict Json) (number : Int) :
    githubCommentForm (githubCommentForm a number) number = githubCommentForm a number := by
  have link : textOf (githubCommentForm a number) "issue_link_id" = textOf a "issue_link_id" := textOf_rewritten rfl
  have repository : textOf (githubCommentForm a number) "repository_id" = textOf a "repository_id" :=
    textOf_rewritten rfl
  show [("issue_link_id", textOf (githubCommentForm a number) "issue_link_id"),
    ("repository_id", textOf (githubCommentForm a number) "repository_id"), ("issue_number", .num number),
    ("body", .str (Text.strip ((str (Text.strip _)).pyOr .null).strOrEmpty)), ("close_issue", .bool _)] = _
  rw [link, repository, Json.strOrEmpty_or_null, Text.strip_strip]
  rfl

theorem bindingFirst_again (a : Dict Json) : bindingFirst (bindingFirst a) = bindingFirst a := by
  have same : (bindingKeys.filterMap fun key => ((bindingFirst a).get? key).map fun value => (key, value)) =
      bindingKeys.filterMap fun key => (a.get? key).map fun value => (key, value) := by
    apply filterMap_congr
    intro key _
    rw [get?_bindingFirst]
  rw [bindingFirst, same]
  unfold bindingFirst
  generalize listed : (bindingKeys.filterMap fun key => (a.get? key).map fun value => (key, value)) = bound
  have found : ∀ entry ∈ bound, ¬ (Dict.get? bound entry.1).isNone = true := by
    intro entry member
    rw [← listed] at member ⊢
    obtain ⟨key, among, kept⟩ := mem_filterMap.mp member
    obtain ⟨value, given, rfl⟩ := Option.map_eq_some_iff.mp kept
    rw [get?_listed a.get?, if_pos among, given]
    simp
  rw [filter_append, filter_eq_nil_iff.mpr found, nil_append, filter_filter]
  simp only [Bool.and_self]

end Forms

section Projections

variable {a n : Dict Json} {shape : Shape}

theorem emailForm_recipients (a : Dict Json) (attachments : List Attachment) :
    ∀ key ∈ recipientKeys, (emailForm a attachments).get key = normalizeAddresses (a.get key) := by
  intro key member
  simp only [recipientKeys, mem_cons, not_mem_nil, or_false] at member
  rcases member with rfl | rfl | rfl
  all_goals rfl

theorem outlookMail_recipients (a : Dict Json) (attachments : List Attachment) :
    ∀ key ∈ recipientKeys, (outlookMail a attachments).get key = normalizeAddresses (a.get key) := by
  intro key member
  have apart : key ≠ "provider" ∧ key ≠ "outlook_draft_id" ∧ key ≠ "gmail_draft_id" :=
    (by decide : ∀ key ∈ recipientKeys, key ≠ "provider" ∧ key ≠ "outlook_draft_id" ∧ key ≠ "gmail_draft_id") key member
  rw [outlookMail_get apart.1 apart.2.1, emailForm_recipients _ _ key member, asEmail_get a apart.1 apart.2.2]

theorem canonicalEmail_listed {a : Dict Json} {attachments : List Attachment}
    (listed : a.get "attachments" = .arr (attachments.map Attachment.json)) :
    canonicalEmailActionArguments a = .ok (emailForm a attachments) := by
  unfold canonicalEmailActionArguments
  rw [listed]
  simp only [Json.toList, bind, Except.bind, readAttachments_json]
  rfl

theorem canonicalOutlook_listed {a : Dict Json} {attachments : List Attachment}
    (listed : a.get "attachments" = .arr (attachments.map Attachment.json)) :
    canonicalOutlookEmailActionArguments a = .ok (outlookMail a attachments) := by
  have kept : (asEmail a).get "attachments" = .arr (attachments.map Attachment.json) := by
    rw [asEmail_get a (by decide) (by decide), listed]
  unfold canonicalOutlookEmailActionArguments
  rw [canonicalEmail_listed kept]
  rfl

theorem mail_fixed_iff {form again : Dict Json} (kept : ∀ key ∈ recipientKeys, form.get key = normalizeAddresses (a.get key))
    (twice : ∀ key ∈ recipientKeys, again.get key = normalizeAddresses (form.get key))
    (same : (∀ key ∈ recipientKeys, Addressed (a.get key)) → again = form) :
    again = form ↔ ∀ key ∈ recipientKeys, Addressed (a.get key) := by
  constructor
  · intro fixed key member
    have read := twice key member
    rw [fixed, kept key member] at read
    exact (normalizeAddresses_again_iff _).mp read.symm
  · exact same

theorem gmail_fixed_iff (read : Shape.gmail.project a = .ok n) :
    Shape.gmail.project n = .ok n ↔ ∀ key ∈ recipientKeys, Addressed (a.get key) := by
  obtain ⟨items, _, read⟩ := except_bind_ok read
  obtain ⟨attachments, _, read⟩ := except_bind_ok read
  obtain rfl := ok.inj read
  have again := canonicalEmail_listed (emailForm_attachments a attachments)
  show canonicalEmailActionArguments _ = _ ↔ _
  rw [again, ok.injEq]
  exact mail_fixed_iff (emailForm_recipients a attachments) (emailForm_recipients _ _) gmail_again

theorem outlook_fixed_iff (read : Shape.outlook.project a = .ok n) :
    Shape.outlook.project n = .ok n ↔ ∀ key ∈ recipientKeys, Addressed (a.get key) := by
  obtain ⟨canonical, mail, read⟩ := except_bind_ok read
  obtain ⟨items, _, mail⟩ := except_bind_ok mail
  obtain ⟨attachments, _, mail⟩ := except_bind_ok mail
  obtain rfl := ok.inj mail
  obtain rfl : outlookMail a attachments = n := ok.inj read
  have listed : (outlookMail a attachments).get "attachments" =
      .arr ((attachments.insertionSort fun a b => a.before b).map Attachment.json) := by
    rw [outlookMail_get (by decide) (by decide), emailForm_attachments]
  have again := canonicalOutlook_listed listed
  show canonicalOutlookEmailActionArguments _ = _ ↔ _
  rw [again, ok.injEq]
  exact mail_fixed_iff (outlookMail_recipients a attachments) (outlookMail_recipients _ _) outlook_again

def Shape.Mail (shape : Shape) : Prop := shape = .gmail ∨ shape = .outlook

theorem project_again (read : shape.project a = .ok n) (other : ¬ shape.Mail) : shape.project n = .ok n := by
  cases shape with
  | gmail => exact absurd (.inl rfl) other
  | outlook => exact absurd (.inr rfl) other
  | githubComment =>
    obtain ⟨number, _, read⟩ := except_bind_ok read
    obtain rfl := ok.inj read
    show ((num number).pyOr (.num 0)).toInt >>= _ = _
    rw [toInt_num]
    exact congrArg ok (githubComment_again a number)
  | jira =>
    obtain rfl := ok.inj read
    exact congrArg ok (jira_again a)
  | linear =>
    obtain rfl := ok.inj read
    exact congrArg ok (linear_again a)
  | hubspot =>
    obtain ⟨fields, sorted, read⟩ := except_bind_ok read
    obtain rfl := ok.inj read
    show sortedFields (.obj fields) >>= _ = _
    rw [sortedFields_again sorted]
    exact congrArg ok (hubspot_again a fields)
  | salesforce =>
    obtain ⟨fields, sorted, read⟩ := except_bind_ok read
    obtain rfl := ok.inj read
    show sortedFields (.obj fields) >>= _ = _
    rw [sortedFields_again sorted]
    exact congrArg ok (salesforce_again a fields)
  | whole =>
    obtain rfl := ok.inj read
    exact congrArg ok (bindingFirst_again a)

theorem project_fixed_iff (read : shape.project a = .ok n) :
    shape.project n = .ok n ↔ (shape.Mail → ∀ key ∈ recipientKeys, Addressed (a.get key)) := by
  by_cases mail : shape.Mail
  · have fixed : shape.project n = .ok n ↔ ∀ key ∈ recipientKeys, Addressed (a.get key) := by
      rcases mail with rfl | rfl
      · exact gmail_fixed_iff read
      · exact outlook_fixed_iff read
    constructor <;> simp_all
  · apply iff_of_true (project_again read mail)
    simp_all

theorem project_provider {name : String} (read : shape.project a = .ok n) (named : shape.provider = some name) :
    n.get "provider" = .str name := by
  cases shape with
  | gmail =>
    obtain ⟨items, _, read⟩ := except_bind_ok read
    obtain ⟨attachments, _, read⟩ := except_bind_ok read
    obtain rfl := ok.inj read
    exact congrArg str (some.inj named)
  | outlook =>
    obtain ⟨canonical, mail, read⟩ := except_bind_ok read
    obtain ⟨items, _, mail⟩ := except_bind_ok mail
    obtain ⟨attachments, _, mail⟩ := except_bind_ok mail
    obtain rfl := ok.inj mail
    obtain rfl : outlookMail a attachments = n := ok.inj read
    exact congrArg str (some.inj named)
  | jira | linear =>
    obtain rfl := ok.inj read
    exact congrArg str (some.inj named)
  | hubspot | salesforce =>
    obtain ⟨fields, _, read⟩ := except_bind_ok read
    obtain rfl := ok.inj read
    exact congrArg str (some.inj named)
  | githubComment | whole => cases named

theorem project_nameless (read : Shape.githubComment.project a = .ok n) : n.get "provider" = .null := by
  obtain ⟨number, _, read⟩ := except_bind_ok read
  obtain rfl := ok.inj read
  rfl

theorem normalizedShape_again {key : String} (shaped : normalizedShape key a = shape) (read : shape.project a = .ok n) :
    normalizedShape key n = shape := by
  cases named : shape.provider with
  | some name =>
    have reread : provider n = name := by
      unfold provider
      rw [project_provider read named, Json.strOrEmpty_str]
    unfold normalizedShape at shaped ⊢
    dsimp only at shaped
    split_ifs at shaped with gmail outlook github jira linear hubspot salesforce
    all_goals
      subst shaped
      first
      | (obtain rfl := some.inj named
         grind [jira_key, linear_key, hubspot_key, salesforce_key])
      | cases named
  | none =>
    cases shape with
    | whole =>
      obtain rfl := ok.inj read
      rw [← shaped]
      unfold normalizedShape provider
      rw [get_bindingFirst]
    | githubComment =>
      have reread : provider n = "" := by
        unfold provider
        rw [project_nameless read]
        rfl
      unfold normalizedShape at shaped ⊢
      dsimp only at shaped
      split_ifs at shaped with gmail outlook github
      grind
    | _ => cases named

theorem normalizeProposedEffect_again_iff {actionKey : String} (read : normalizeProposedEffect actionKey a = .ok n) :
    normalizeProposedEffect actionKey n = .ok n ↔
      ((normalizedShape (stripToolPrefix actionKey) a).Mail → ∀ key ∈ recipientKeys, Addressed (a.get key)) := by
  have shaped := normalizedShape_again rfl read
  unfold normalizeProposedEffect
  rw [shaped]
  exact project_fixed_iff read

end Projections

end Troop.Approvals
