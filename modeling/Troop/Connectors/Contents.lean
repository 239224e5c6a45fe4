import Troop.Approvals.Authority
import Troop.Connectors.Resumed

namespace Troop.Connectors

open Approvals
open Workflow (WorkflowRun stripToolPrefix freshToolContext)
open List

section Congruence

variable {a b : Dict Json}

theorem email_congr (same : ∀ key, key ∉ "cloud_id" :: ambientKeys → a.get key = b.get key) :
    canonicalEmailActionArguments a = canonicalEmailActionArguments b := by
  unfold canonicalEmailActionArguments emailForm textOf textOfEither
  simp (disch := decide) only [same]

theorem outlook_congr (same : ∀ key, key ∉ "cloud_id" :: ambientKeys → a.get key = b.get key) :
    canonicalOutlookEmailActionArguments a = canonicalOutlookEmailActionArguments b := by
  have mail : canonicalEmailActionArguments (asEmail a) = canonicalEmailActionArguments (asEmail b) := by
    apply email_congr
    intro key plain
    unfold asEmail
    rw [same "outlook_draft_id" (by decide), same "draft_id" (by decide)]
    have read := same key plain
    unfold Dict.get at read ⊢
    rw [Dict.get?_update, Dict.get?_update]
    by_cases named : "provider" = key
    · simp_all
    · by_cases draft : "gmail_draft_id" = key
      · simp_all
      · simpa [Dict.get?_cons, named, draft] using read
  unfold canonicalOutlookEmailActionArguments outlookForm textOfEither
  rw [mail, same "outlook_draft_id" (by decide), same "draft_id" (by decide)]

theorem jira_congr (same : ∀ key, key ∉ "cloud_id" :: ambientKeys → a.get key = b.get key)
    (cloud : textOf a "cloud_id" = textOf b "cloud_id") :
    canonicalJiraIssueArguments a = canonicalJiraIssueArguments b := by
  unfold canonicalJiraIssueArguments
  rw [cloud]
  unfold textOf textOfEither textOrElse
  simp (disch := decide) only [same]

variable {key : String} {shape : Shape}

theorem project_congr (other : shape ≠ .jira) (named : shape ≠ .whole)
    (same : ∀ key, key ∉ "cloud_id" :: ambientKeys → a.get key = b.get key) : shape.project a = shape.project b := by
  cases shape with
  | gmail => exact email_congr same
  | outlook => exact outlook_congr same
  | githubComment =>
    show normalizeGithubCommentEffect a = normalizeGithubCommentEffect b
    unfold normalizeGithubCommentEffect githubCommentForm textOf
    simp (disch := decide) only [same]
  | jira => exact absurd rfl other
  | linear =>
    show Except.ok (canonicalLinearIssueArguments a) = .ok (canonicalLinearIssueArguments b)
    unfold canonicalLinearIssueArguments textOf textOfEither
    simp (disch := decide) only [same]
  | hubspot =>
    show canonicalHubspotCrmArguments a = canonicalHubspotCrmArguments b
    unfold canonicalHubspotCrmArguments hubspotForm textOf textOfEither textOrElse
    simp (disch := decide) only [same]
  | salesforce =>
    show canonicalSalesforceCrmArguments a = canonicalSalesforceCrmArguments b
    unfold canonicalSalesforceCrmArguments salesforceForm textOf textOfEither textOrElse
    simp (disch := decide) only [same]
  | whole => exact absurd rfl named

theorem normalizedShape_congr (same : a.get "provider" = b.get "provider") :
    normalizedShape key a = normalizedShape key b := by
  unfold normalizedShape provider
  rw [same]

theorem hashedShape_congr (same : a.get "provider" = b.get "provider") :
    hashedShape key a = hashedShape key b := by
  unfold hashedShape provider
  rw [same]

theorem effectShape_congr (same : a.get "provider" = b.get "provider") :
    effectShape key a = effectShape key b := by
  unfold effectShape
  rw [normalizedShape_congr same, hashedShape_congr same]

theorem whole_bind (next : Dict Json → Except PyError (Dict Json)) :
    Shape.whole.project a >>= next = next (bindingFirst a) := rfl

theorem rehash_congr (named : shape ≠ .whole) (other : shape ≠ .githubComment)
    (same : shape.project a = shape.project b) : shape.rehash a = shape.rehash b := by
  cases shape with
  | whole => exact absurd rfl named
  | githubComment => exact absurd rfl other
  | _ => exact same

theorem effectShape_normalized (other : normalizedShape key a ≠ .whole) :
    effectShape key a = normalizedShape key a := by
  unfold effectShape
  split
  · simp_all
  · rfl

theorem effectShape_hashed (whole : normalizedShape key a = .whole) :
    effectShape key a = hashedShape key a := by
  unfold effectShape
  rw [whole]

theorem hashedContent_same {actionKey : String} (named : effectShape (stripToolPrefix actionKey) a ≠ .whole)
    (same : ∀ key, key ∉ "cloud_id" :: ambientKeys → a.get key = b.get key)
    (cloud : effectShape (stripToolPrefix actionKey) a = .jira → textOf a "cloud_id" = textOf b "cloud_id") :
    hashedContent actionKey a = hashedContent actionKey b := by
  have provider := same "provider" (by decide)
  have projected {x y : Dict Json} {shape : Shape} (reads : ∀ key, key ∉ "cloud_id" :: ambientKeys → x.get key = y.get key)
      (left : textOf x "cloud_id" = textOf a "cloud_id") (right : textOf y "cloud_id" = textOf b "cloud_id")
      (chosen : effectShape (stripToolPrefix actionKey) a = shape) : shape.project x = shape.project y := by
    by_cases jira : shape = .jira
    · have agreed := cloud (chosen.trans jira)
      subst jira
      exact congrArg Except.ok (jira_congr reads (left.trans (agreed.trans right.symm)))
    · exact project_congr jira (fun whole => named (chosen.trans whole)) reads
  unfold hashedContent normalizeProposedEffect
  rw [← normalizedShape_congr provider]
  by_cases shaped : normalizedShape (stripToolPrefix actionKey) a = .whole
  · have chosen := effectShape_hashed shaped
    rw [shaped, whole_bind, whole_bind]
    have left : hashedShape (stripToolPrefix actionKey) (bindingFirst a) = hashedShape (stripToolPrefix actionKey) a :=
      hashedShape_congr (get_bindingFirst a "provider")
    have right : hashedShape (stripToolPrefix actionKey) (bindingFirst b) = hashedShape (stripToolPrefix actionKey) a :=
      hashedShape_congr ((get_bindingFirst b "provider").trans provider.symm)
    have reads : ∀ key, key ∉ "cloud_id" :: ambientKeys → (bindingFirst a).get key = (bindingFirst b).get key := by
      intro key plain
      rw [get_bindingFirst, get_bindingFirst]
      exact same key plain
    have cloudOf (x : Dict Json) : textOf (bindingFirst x) "cloud_id" = textOf x "cloud_id" := by
      unfold textOf
      rw [get_bindingFirst]
    rw [left, right]
    rw [chosen] at named
    exact rehash_congr named (hashedShape_whole shaped).2.2 (projected reads (cloudOf a) (cloudOf b) chosen)
  · rw [projected same rfl rfl (effectShape_normalized shaped)]

end Congruence

section Contents

variable {run : WorkflowRun} {id nodeId toolSlug : String} {params : Dict Json} {installation : ConnectorInstallation}

def effectArguments (params : Dict Json) : Dict Json :=
  if params.isEmpty then [("draft_arguments", .obj [])] else params

variable {key : String} {actionKey : String}

theorem effectArguments_get (plain : key ≠ "draft_arguments") :
    (effectArguments params).get key = params.get key := by
  cases params with
  | nil =>
    have absent : Dict.get? [("draft_arguments", Json.obj [])] key = none := by
      rw [Dict.get?_cons, if_neg (Ne.symm plain)]
      rfl
    show (Dict.get? [("draft_arguments", Json.obj [])] key).getD .null = _
    simp_all
  | cons entry rest => rfl

theorem effectArguments_ne_nil (params : Dict Json) : effectArguments params ≠ [] := by
  unfold effectArguments
  cases params <;> simp

theorem adapterArguments_get {arguments : Dict Json} (plain : key ≠ "cloud_id") :
    (adapterArguments toolSlug installation arguments).get key = arguments.get key := by
  unfold adapterArguments
  split
  · exact Dict.get_set_of_ne _ _ (Ne.symm plain)
  · rfl

theorem handed_get (plain : key ∉ "cloud_id" :: ambientKeys) :
    (effectArguments params).get key = (adapterArguments toolSlug installation
      (mergedArguments params (handedContext run nodeId params id))).get key := by
  rw [mem_cons, not_or] at plain
  have draft : key ≠ "draft_arguments" := by
    rintro rfl
    exact plain.2 (by decide)
  rw [adapterArguments_get plain.1, merged_get plain.2, effectArguments_get draft]

theorem handed_cloud : textOf (adapterArguments toolSlug installation
    (mergedArguments params (handedContext run nodeId params id))) "cloud_id" =
    if toolSlug ∈ jiraOperations ∧ ¬ (params.get "cloud_id").truthy = true then .str installation.cloudId
    else textOf params "cloud_id" := by
  have cloud : (mergedArguments params (handedContext run nodeId params id)).get "cloud_id" = params.get "cloud_id" :=
    merged_get (by decide)
  unfold adapterArguments textOf
  by_cases jira : toolSlug ∈ jiraOperations
  · rw [if_pos jira, Dict.get_set_self, cloud]
    by_cases given : (params.get "cloud_id").truthy = true
    · grind [Json.strOrEmpty_str, Json.strOrEmpty]
    · rw [if_neg given, if_pos ⟨jira, given⟩, Json.strOrEmpty_str]
  · rw [if_neg jira, if_neg (fun other => jira other.1), cloud]

theorem committing_jira (listed : toolSlug ∈ committingTools) :
    toolSlug ∈ jiraOperations ↔ toolSlug ∈ jiraMutationActions :=
  (by decide : ∀ slug ∈ committingTools, slug ∈ jiraOperations ↔ slug ∈ jiraMutationActions) toolSlug listed

theorem whole_not_jira {a : Dict Json} (whole : effectShape toolSlug a = .whole) : toolSlug ∉ jiraMutationActions := by
  have hashed := effectShape_whole whole
  unfold hashedShape at hashed
  dsimp only at hashed
  split_ifs at hashed
  simp_all

theorem hashedContent_whole {a : Dict Json}
    (whole : effectShape (stripToolPrefix actionKey) a = .whole) : hashedContent actionKey a = .ok (bindingFirst a) := by
  have normalized : normalizedShape (stripToolPrefix actionKey) a = .whole := by
    by_contra other
    exact other ((effectShape_normalized other).symm.trans whole)
  have hashed : hashedShape (stripToolPrefix actionKey) (bindingFirst a) = .whole :=
    (hashedShape_congr (get_bindingFirst a "provider")).trans (effectShape_whole whole)
  unfold hashedContent normalizeProposedEffect
  rw [normalized, whole_bind, hashed]
  rfl

theorem handedContext_keys {entry : String × Json} (member : entry ∈ handedContext run nodeId params id) :
    entry.1 ∈ handedKeys := by
  have resumed {entry : String × Json} (member : entry ∈ resumedContext run nodeId params id) : entry.1 ∈ handedKeys := by
    rcases Dict.mem_set member with rfl | member
    · simp [handedKeys]
    rcases Dict.mem_set member with rfl | member
    · simp [handedKeys]
    have fresh := (mem_filter.mp member).1
    unfold freshToolContext at fresh
    simp only [mem_cons, not_mem_nil, or_false] at fresh
    rcases fresh with rfl | rfl | rfl | rfl | rfl | rfl <;> simp [handedKeys]
  unfold handedContext authContext at member
  rcases Dict.mem_set member with rfl | member
  · simp [handedKeys]
  split at member
  · rcases Dict.mem_set member with rfl | member
    · simp [handedKeys]
    · exact resumed member
  · exact resumed member

theorem whole_same : (bindingFirst (effectArguments params)).SameContent
      (bindingFirst (mergedArguments params (handedContext run nodeId params id))) ↔
    ∀ key ∈ handedKeys, (params.get? key).isSome = true := by
  constructor
  · intro same key handed
    have both := same.isSome key
    rw [get?_bindingFirst, get?_bindingFirst] at both
    cases found : params.get? key with
    | some value => rfl
    | none =>
      have merged : (mergedArguments params (handedContext run nodeId params id)).get? key =
          (handedContext run nodeId params id).get? key := by
        unfold mergedArguments
        rw [Dict.get?_append, found, Dict.get?_filter_key _ _ fun other => (params.get? other).isNone]
        simp [found]
      rw [merged, handedContext_isSome handed] at both
      have draft : key ≠ "draft_arguments" := by
        rintro rfl
        exact absurd handed (by decide)
      unfold effectArguments at both
      cases params with
      | nil => simp [Dict.get?_cons, Ne.symm draft] at both
      | cons entry rest => simp [found] at both
  · intro carried
    have nothing : (handedContext run nodeId params id).filter (fun entry => (params.get? entry.1).isNone) = [] := by
      apply filter_eq_nil_iff.mpr
      intro entry member
      have given := carried entry.1 (handedContext_keys member)
      simp [Option.isSome_iff_ne_none.mp given]
    have merged : mergedArguments params (handedContext run nodeId params id) = params := by
      unfold mergedArguments
      rw [nothing, append_nil]
    have kept : effectArguments params = params := by
      cases params with
      | nil => exact absurd (carried "owner_id" (by decide)) (by simp)
      | cons entry rest => rfl
    rw [merged, kept]
    exact Dict.SameContent.refl _

theorem contents_same (listed : toolSlug ∈ committingTools) (keyed : stripToolPrefix actionKey = toolSlug)
    {c : Dict Json} (approved : hashedContent actionKey (effectArguments params) = .ok c) :
    (∃ c d, hashedContent actionKey (effectArguments params) = .ok c ∧
        hashedContent actionKey (adapterArguments toolSlug installation
          (mergedArguments params (handedContext run nodeId params id))) = .ok d ∧ c.SameContent d) ↔
      (effectShape toolSlug params = .whole → ∀ key ∈ handedKeys, (params.get? key).isSome = true) ∧
        (toolSlug ∈ jiraMutationActions → effectShape toolSlug params = .jira →
          (params.get "cloud_id").truthy = true ∨ installation.cloudId = "") := by
  have provider : (effectArguments params).get "provider" = params.get "provider" := effectArguments_get (by decide)
  have shapes : effectShape toolSlug (effectArguments params) = effectShape toolSlug params := effectShape_congr provider
  generalize made : adapterArguments toolSlug installation
    (mergedArguments params (handedContext run nodeId params id)) = arguments
  have same : ∀ key, key ∉ "cloud_id" :: ambientKeys → (effectArguments params).get key = arguments.get key := by
    intro key plain
    rw [← made]
    exact handed_get plain
  have clouds : textOf arguments "cloud_id" = if toolSlug ∈ jiraOperations ∧ ¬ (params.get "cloud_id").truthy = true then
      .str installation.cloudId else textOf params "cloud_id" := by
    rw [← made]
    exact handed_cloud
  have given : textOf (effectArguments params) "cloud_id" = textOf params "cloud_id" := by
    unfold textOf
    rw [effectArguments_get (by decide)]
  have iffCloud : textOf (effectArguments params) "cloud_id" = textOf arguments "cloud_id" ↔
      (toolSlug ∈ jiraMutationActions → (params.get "cloud_id").truthy = true ∨ installation.cloudId = "") := by
    rw [given, clouds, ← committing_jira listed]
    by_cases jira : toolSlug ∈ jiraOperations ∧ ¬ (params.get "cloud_id").truthy = true
    · rw [if_pos jira]
      have blank : textOf params "cloud_id" = .str "" := by
        unfold textOf Json.strOrEmpty
        rw [if_neg jira.2]
      rw [blank]
      constructor
      · simp_all
      · intro holds
        rcases holds jira.1 with filled | none
        · exact absurd filled jira.2
        · rw [none]
    · simp_all
  by_cases whole : effectShape toolSlug params = .whole
  · have plain : arguments = mergedArguments params (handedContext run nodeId params id) := by
      have other : toolSlug ∉ jiraOperations := fun member =>
        whole_not_jira whole ((committing_jira listed).mp member)
      rw [← made]
      exact if_neg other
    have left : hashedContent actionKey (effectArguments params) = .ok (bindingFirst (effectArguments params)) := by
      apply hashedContent_whole
      rw [keyed, shapes, whole]
    have right : hashedContent actionKey arguments = .ok (bindingFirst arguments) := by
      apply hashedContent_whole
      rw [keyed, ← effectShape_congr (same "provider" (by decide)), shapes, whole]
    rw [left, right, plain]
    constructor
    · rintro ⟨c, d, first, second, content⟩
      obtain rfl := Except.ok.inj first
      obtain rfl := Except.ok.inj second
      refine ⟨fun _ => whole_same.mp content, fun _ jira => ?_⟩
      simp [whole] at jira
    · intro conditions
      exact ⟨_, _, rfl, rfl, whole_same.mpr (conditions.1 whole)⟩
  · have named : effectShape (stripToolPrefix actionKey) (effectArguments params) ≠ .whole := by
      rwa [keyed, shapes]
    constructor
    · rintro ⟨c, d, first, second, content⟩
      refine ⟨fun other => absurd other whole, fun member jira => ?_⟩
      have left := hashedContent_hashed first
      have right := hashedContent_hashed second
      rw [keyed, shapes, jira] at left
      rw [keyed, ← effectShape_congr (same "provider" (by decide)), shapes, jira] at right
      have texts := kept_same left right content (.text ["cloud_id"] "") (by decide)
      exact iffCloud.mp texts member
    · intro conditions
      have agreed : hashedContent actionKey (effectArguments params) = hashedContent actionKey arguments := by
        apply hashedContent_same named same
        intro jira
        rw [keyed, shapes] at jira
        exact iffCloud.mpr fun member => conditions.2 member jira
      exact ⟨c, c, approved, agreed ▸ approved, Dict.SameContent.refl c⟩

end Contents

end Troop.Connectors
