import Troop.Approvals.Binding

namespace Troop.Approvals

open Workflow (Env stripToolPrefix)
open List
open Except (ok)

/-- The value of `provider` that stands for a shape. -/
def Shape.provider : Shape → Option String
  | .gmail => some "gmail"
  | .outlook => some "outlook"
  | .jira => some "jira"
  | .linear => some "linear"
  | .hubspot => some "hubspot"
  | .salesforce => some "salesforce"
  | .githubComment | .whole => none

def effectShape (canonicalKey : String) (arguments : Dict Json) : Shape :=
  match normalizedShape canonicalKey arguments with
  | .whole => hashedShape canonicalKey arguments
  | shape => shape

section Shapes

variable {key name : String} {a normalized : Dict Json} {shape : Shape}

theorem jira_key (listed : key ∈ jiraMutationActions) : Text.startsWith "jira." key = true :=
  (by decide : ∀ key ∈ jiraMutationActions, Text.startsWith "jira." key = true) key listed

theorem linear_key (listed : key ∈ linearMutationActions) : Text.startsWith "linear." key = true :=
  (by decide : ∀ key ∈ linearMutationActions, Text.startsWith "linear." key = true) key listed

theorem hubspot_key (listed : key ∈ hubspotMutationActions) : Text.startsWith "hubspot." key = true :=
  (by decide : ∀ key ∈ hubspotMutationActions, Text.startsWith "hubspot." key = true) key listed

theorem salesforce_key (listed : key ∈ salesforceMutationActions) : Text.startsWith "salesforce." key = true :=
  (by decide : ∀ key ∈ salesforceMutationActions, Text.startsWith "salesforce." key = true) key listed

theorem github_key (listed : key ∈ githubCommentActions) :
    key ∉ jiraMutationActions ∧ key ∉ linearMutationActions ∧ key ∉ hubspotMutationActions ∧
      key ∉ salesforceMutationActions :=
  (by decide : ∀ key ∈ githubCommentActions, key ∉ jiraMutationActions ∧ key ∉ linearMutationActions ∧
    key ∉ hubspotMutationActions ∧ key ∉ salesforceMutationActions) key listed

/-- A projection writes its own name under `provider`, so the hash chooses it again. -/
theorem hashedShape_again (shaped : normalizedShape key a = shape) (named : shape.provider = some name)
    (written : normalized.get "provider" = .str name) : hashedShape key normalized = shape := by
  have read : provider normalized = name := by
    unfold provider
    rw [written, Json.strOrEmpty_str]
  unfold normalizedShape at shaped
  dsimp only at shaped
  unfold hashedShape
  split_ifs at shaped with gmail outlook github jira linear hubspot salesforce
  all_goals
    subst shaped
    first
    | (obtain rfl := Option.some.inj named
       grind [jira_key, linear_key, hubspot_key, salesforce_key])
    | cases named

theorem hashedShape_comment (shaped : normalizedShape key a = .githubComment)
    (written : normalized.get "provider" = .null) : hashedShape key normalized = .whole := by
  have read : provider normalized = "" := by
    unfold provider
    rw [written]
    rfl
  unfold normalizedShape at shaped
  dsimp only at shaped
  unfold hashedShape
  split_ifs at shaped with gmail outlook github
  grind [github_key]

end Shapes

theorem get?_listed (value : String → Option Json) (keys : List String) (key : String) :
    Dict.get? (keys.filterMap fun key => (value key).map fun item => (key, item)) key =
      if key ∈ keys then value key else none := by
  induction keys with
  | nil => rfl
  | cons first rest ih =>
    rw [filterMap_cons]
    cases given : value first with
    | none =>
      show Dict.get? (filterMap _ rest) key = _
      rw [ih]
      by_cases same : key = first
      · simp_all
      · simp [same]
    | some item =>
      show Dict.get? ((first, item) :: filterMap _ rest) key = _
      rw [Dict.get?_cons, ih]
      by_cases same : first = key
      · simp_all
      · simp [same, Ne.symm same]

theorem get?_bindingFirst (a : Dict Json) (key : String) : (bindingFirst a).get? key = a.get? key := by
  unfold bindingFirst
  rw [Dict.get?_append, Dict.get?_filter_key a key fun other => (Dict.get? _ other).isNone, get?_listed a.get?]
  by_cases listed : key ∈ bindingKeys
  · cases a.get? key <;> simp [listed]
  · simp [listed]

theorem get_bindingFirst (a : Dict Json) (key : String) : (bindingFirst a).get key = a.get key := by
  unfold Dict.get
  rw [get?_bindingFirst]

theorem read_bindingFirst (a : Dict Json) (reading : Reading) : reading.read (bindingFirst a) = reading.read a :=
  reading.read_congr fun key _ => get_bindingFirst a key

inductive Hashed (a : Dict Json) : Shape → Dict Json → Prop
  | gmail (x y : List Attachment) : Hashed a .gmail (emailForm (emailForm a x) y)
  | outlook (x y : List Attachment) : Hashed a .outlook
      (outlookForm (outlookForm a (emailForm (asEmail a) x)) (emailForm (asEmail (outlookForm a (emailForm (asEmail a) x))) y))
  | comment (number : Int) (read : ((a.get "issue_number").pyOr (.num 0)).toInt = .ok number) :
      Hashed a .githubComment (githubCommentForm a number)
  | jira : Hashed a .jira (canonicalJiraIssueArguments (canonicalJiraIssueArguments a))
  | jiraOnce : Hashed a .jira (canonicalJiraIssueArguments (bindingFirst a))
  | linear : Hashed a .linear (canonicalLinearIssueArguments (canonicalLinearIssueArguments a))
  | linearOnce : Hashed a .linear (canonicalLinearIssueArguments (bindingFirst a))
  | hubspot (fields again : Dict Json) (read : sortedFields (a.get "fields") = .ok fields)
      (reread : sortedFields (.obj fields) = .ok again) : Hashed a .hubspot (hubspotForm (hubspotForm a fields) again)
  | hubspotOnce (fields : Dict Json) (read : sortedFields (a.get "fields") = .ok fields) :
      Hashed a .hubspot (hubspotForm (bindingFirst a) fields)
  | salesforce (fields again : Dict Json) (read : sortedFields (a.get "fields") = .ok fields)
      (reread : sortedFields (.obj fields) = .ok again) :
      Hashed a .salesforce (salesforceForm (salesforceForm a fields) again)
  | salesforceOnce (fields : Dict Json) (read : sortedFields (a.get "fields") = .ok fields) :
      Hashed a .salesforce (salesforceForm (bindingFirst a) fields)
  | whole : Hashed a .whole (bindingFirst a)

theorem hashedShape_whole {key : String} {a : Dict Json} (whole : normalizedShape key a = .whole) :
    hashedShape key a ≠ .gmail ∧ hashedShape key a ≠ .outlook ∧ hashedShape key a ≠ .githubComment := by
  unfold normalizedShape at whole
  dsimp only at whole
  unfold hashedShape
  dsimp only
  split_ifs at whole with gmail outlook
  split_ifs
  all_goals simp

theorem hashedContent_hashed {actionKey : String} {a c : Dict Json} (read : hashedContent actionKey a = .ok c) :
    Hashed a (effectShape (stripToolPrefix actionKey) a) c := by
  unfold hashedContent normalizeProposedEffect at read
  obtain ⟨normalized, projected, read⟩ := except_bind_ok read
  unfold effectShape
  cases shaped : normalizedShape (stripToolPrefix actionKey) a with
  | gmail =>
    rw [shaped] at projected
    obtain ⟨items, listed, projected⟩ := except_bind_ok projected
    obtain ⟨x, attached, projected⟩ := except_bind_ok projected
    obtain rfl := ok.inj projected
    rw [hashedShape_again shaped rfl rfl] at read
    obtain ⟨items, listed, read⟩ := except_bind_ok read
    obtain ⟨y, attached, read⟩ := except_bind_ok read
    obtain rfl := ok.inj read
    exact .gmail x y
  | outlook =>
    rw [shaped] at projected
    obtain ⟨canonical, mail, projected⟩ := except_bind_ok projected
    obtain ⟨items, listed, mail⟩ := except_bind_ok mail
    obtain ⟨x, attached, mail⟩ := except_bind_ok mail
    obtain rfl := ok.inj mail
    obtain rfl := ok.inj projected
    have named : (outlookForm a (emailForm (asEmail a) x)).get "provider" = .str "outlook" := by
      unfold outlookForm
      rw [Dict.get_update]
      simp [Dict.get?_cons]
    rw [hashedShape_again shaped rfl named] at read
    obtain ⟨canonical, mail, read⟩ := except_bind_ok read
    obtain ⟨items, listed, mail⟩ := except_bind_ok mail
    obtain ⟨y, attached, mail⟩ := except_bind_ok mail
    obtain rfl := ok.inj mail
    obtain rfl := ok.inj read
    exact .outlook x y
  | githubComment =>
    rw [shaped] at projected
    obtain ⟨number, numbered, projected⟩ := except_bind_ok projected
    obtain rfl := ok.inj projected
    rw [hashedShape_comment shaped rfl] at read
    obtain rfl := ok.inj read
    exact .comment number numbered
  | jira =>
    rw [shaped] at projected
    obtain rfl := ok.inj projected
    rw [hashedShape_again shaped rfl rfl] at read
    obtain rfl := ok.inj read
    exact .jira
  | linear =>
    rw [shaped] at projected
    obtain rfl := ok.inj projected
    rw [hashedShape_again shaped rfl rfl] at read
    obtain rfl := ok.inj read
    exact .linear
  | hubspot =>
    rw [shaped] at projected
    obtain ⟨fields, sorted, projected⟩ := except_bind_ok projected
    obtain rfl := ok.inj projected
    rw [hashedShape_again shaped rfl rfl] at read
    obtain ⟨again, resorted, read⟩ := except_bind_ok read
    obtain rfl := ok.inj read
    exact .hubspot fields again sorted resorted
  | salesforce =>
    rw [shaped] at projected
    obtain ⟨fields, sorted, projected⟩ := except_bind_ok projected
    obtain rfl := ok.inj projected
    rw [hashedShape_again shaped rfl rfl] at read
    obtain ⟨again, resorted, read⟩ := except_bind_ok read
    obtain rfl := ok.inj read
    exact .salesforce fields again sorted resorted
  | whole =>
    rw [shaped] at projected
    obtain rfl := ok.inj projected
    have same : hashedShape (stripToolPrefix actionKey) (bindingFirst a) = hashedShape (stripToolPrefix actionKey) a := by
      unfold hashedShape provider
      rw [get_bindingFirst]
    rw [same] at read
    obtain ⟨notGmail, notOutlook, notComment⟩ := hashedShape_whole shaped
    cases chosen : hashedShape (stripToolPrefix actionKey) a with
    | gmail => exact absurd chosen notGmail
    | outlook => exact absurd chosen notOutlook
    | githubComment => exact absurd chosen notComment
    | jira =>
      rw [chosen] at read
      obtain rfl := ok.inj read
      exact .jiraOnce
    | linear =>
      rw [chosen] at read
      obtain rfl := ok.inj read
      exact .linearOnce
    | hubspot =>
      rw [chosen] at read
      obtain ⟨fields, sorted, read⟩ := except_bind_ok read
      obtain rfl := ok.inj read
      rw [get_bindingFirst] at sorted
      exact .hubspotOnce fields sorted
    | salesforce =>
      rw [chosen] at read
      obtain ⟨fields, sorted, read⟩ := except_bind_ok read
      obtain rfl := ok.inj read
      rw [get_bindingFirst] at sorted
      exact .salesforceOnce fields sorted
    | whole =>
      rw [chosen] at read
      obtain rfl := ok.inj read
      exact .whole

section Once

variable (x fields : Dict Json)

theorem jira_once : ∀ entry ∈ boundReadings .jira, (canonicalJiraIssueArguments x).get entry.1 = entry.2.read x := by
  intro entry member
  simp only [boundReadings, mem_cons, not_mem_nil, or_false] at member
  rcases member with rfl | rfl | rfl | rfl | rfl | rfl | rfl | rfl | rfl | rfl | rfl
  all_goals
    first
    | rfl
    | exact textOfEither_eq x _ _
    | exact textOrElse_eq x _ _

theorem linear_once :
    ∀ entry ∈ boundReadings .linear, (canonicalLinearIssueArguments x).get entry.1 = entry.2.read x := by
  intro entry member
  simp only [boundReadings, mem_cons, not_mem_nil, or_false] at member
  rcases member with rfl | rfl | rfl | rfl | rfl | rfl | rfl | rfl | rfl | rfl
  all_goals
    first
    | rfl
    | exact textOfEither_eq x _ _
    | exact linear_issue x

theorem hubspot_once : ∀ entry ∈ boundReadings .hubspot, (hubspotForm x fields).get entry.1 = entry.2.read x := by
  intro entry member
  simp only [boundReadings, mem_cons, not_mem_nil, or_false] at member
  rcases member with rfl | rfl | rfl | rfl | rfl | rfl | rfl | rfl | rfl
  all_goals
    first
    | rfl
    | exact textOfEither_eq x _ _
    | exact textOrElse_eq x _ _
    | exact congrArg Json.str (strOrEmpty_three x _ _ _)

theorem salesforce_once :
    ∀ entry ∈ boundReadings .salesforce, (salesforceForm x fields).get entry.1 = entry.2.read x := by
  intro entry member
  simp only [boundReadings, mem_cons, not_mem_nil, or_false] at member
  rcases member with rfl | rfl | rfl | rfl | rfl | rfl | rfl | rfl | rfl
  all_goals
    first
    | rfl
    | exact textOfEither_eq x _ _
    | exact textOrElse_eq x _ _
    | exact congrArg Json.str (strOrEmpty_three x _ _ _)

end Once

section Contents

variable {a b c d : Dict Json} {shape : Shape}

theorem Hashed.content (hashed : Hashed a shape c) : ∀ entry ∈ boundReadings shape, c.get entry.1 = entry.2.read a := by
  intro entry member
  cases hashed with
  | gmail x y => exact gmail_content a x y entry member
  | outlook x y => exact outlook_content a x y entry member
  | comment number read => exact github_content a read entry member
  | jira => exact jira_content a entry member
  | linear => exact linear_content a entry member
  | hubspot fields again => exact hubspot_content a fields again entry member
  | salesforce fields again => exact salesforce_content a fields again entry member
  | jiraOnce =>
    rw [jira_once _ entry member]
    exact read_bindingFirst a entry.2
  | linearOnce =>
    rw [linear_once _ entry member]
    exact read_bindingFirst a entry.2
  | hubspotOnce fields =>
    rw [hubspot_once _ fields entry member]
    exact read_bindingFirst a entry.2
  | salesforceOnce fields =>
    rw [salesforce_once _ fields entry member]
    exact read_bindingFirst a entry.2
  | whole => cases member

def FieldsOf (v : Json) (fields : Dict Json) : Prop :=
  ∃ members, v.toDict = .ok members ∧
    ∀ key, fields.get? key = ((members.get? key).bind fieldText).map Json.str

theorem sortedFields_of {v : Json} {fields : Dict Json} (read : sortedFields v = .ok fields) : FieldsOf v fields := by
  obtain ⟨members, given, read⟩ := except_bind_ok read
  obtain rfl := ok.inj read
  refine ⟨members, given, fun key => ?_⟩
  have listed := get?_listed (fun key => ((members.get? key).bind fieldText).map Json.str) (members.map Prod.fst) key
  rw [filterMap_map] at listed
  rw [Dict.get?_sortByKey]
  have entries : (members.filterMap fun entry =>
      ((members.get? entry.1).bind fieldText).map fun text => (entry.1, Json.str text)) =
      members.filterMap ((fun key => (((members.get? key).bind fieldText).map Json.str).map fun item => (key, item)) ∘ Prod.fst) := by
    apply filterMap_congr
    simp [Function.comp_def]
  rw [entries, listed]
  split
  · rfl
  · rename_i absent
    cases found : members.get? key with
    | none => rfl
    | some value => exact absurd (mem_map_of_mem (f := Prod.fst) (Dict.mem_of_get? found)) absent

theorem FieldsOf.again {v : Json} {fields again : Dict Json} (once : FieldsOf v fields)
    (reread : sortedFields (.obj fields) = .ok again) : FieldsOf v again := by
  obtain ⟨members, given, texts⟩ := once
  obtain ⟨same, kept, others⟩ := sortedFields_of reread
  obtain rfl := ok.inj kept
  refine ⟨members, given, fun key => ?_⟩
  rw [others, texts]
  cases (members.get? key).bind fieldText <;> rfl

theorem Hashed.fields (hashed : Hashed a shape c) (crm : shape = .hubspot ∨ shape = .salesforce) :
    ∃ fields, c.get "fields" = .obj fields ∧ FieldsOf (a.get "fields") fields := by
  cases hashed with
  | hubspot fields again read reread => exact ⟨again, rfl, (sortedFields_of read).again reread⟩
  | salesforce fields again read reread => exact ⟨again, rfl, (sortedFields_of read).again reread⟩
  | hubspotOnce fields read => exact ⟨fields, rfl, sortedFields_of read⟩
  | salesforceOnce fields read => exact ⟨fields, rfl, sortedFields_of read⟩
  | _ => simp at crm

theorem Hashed.provider {name : String} (hashed : Hashed a shape c) (named : shape.provider = some name) :
    c.get "provider" = .str name := by
  cases hashed with
  | outlook x y =>
    unfold outlookForm
    rw [Dict.get_update]
    simpa [Dict.get?_cons] using Option.some.inj named
  | comment | whole => cases named
  | _ => exact congrArg Json.str (Option.some.inj named)

end Contents

end Troop.Approvals
