import Troop.Approvals.Chains
import Troop.Approvals.Fixpoints

namespace Troop.Approvals

open Workflow (Env stripToolPrefix)
open List
open Except (ok)
open Dict (get? get?_append get?_cons get_update)
open Json (num ofOption pyOr str toDict truthy)

section Prefixes

def toolPrefixes : List String := ["tool:", "execute:", "tool_execution:"]

structure Settled (key : String) : Prop where
  stripped : Text.strip key = key
  plain : ∀ start ∈ toolPrefixes, ¬ Text.startsWith start key = true

theorem length_strip_le (text : String) : (Text.strip text).toList.length ≤ text.toList.length := by
  have back := (dropWhile_sublist Char.isWhitespace (l := (text.toList.dropWhile Char.isWhitespace).reverse)).length_le
  have front := (dropWhile_sublist Char.isWhitespace (l := text.toList)).length_le
  unfold Text.strip
  rw [String.toList_ofList, length_reverse]
  rw [length_reverse] at back
  exact back.trans front

theorem stripToolPrefix_eq_self_iff (key : String) : stripToolPrefix key = key ↔ Settled key := by
  have positive : ∀ start ∈ toolPrefixes, 0 < start.length := by decide
  constructor
  · intro same
    unfold stripToolPrefix at same
    dsimp only at same
    split at same
    · rename_i start found
      have among : start ∈ toolPrefixes := mem_of_find?_eq_some found
      have starts := find?_some found
      have long := ( isPrefixOf_iff_prefix.mp starts).length_le
      have shorter := length_strip_le key
      have chars := congrArg (fun text => text.toList.length) same
      simp only [String.toList_ofList, length_drop] at chars
      have some_ := positive start among
      rw [String.length_toList] at long
      omega
    · rename_i absent
      refine ⟨same, fun start among starts => ?_⟩
      have none_ := find?_eq_none.mp absent start among
      rw [same] at none_
      exact none_ starts
  · intro settled
    have absent : toolPrefixes.find? (fun start => Text.startsWith start (Text.strip key)) = none := by
      apply find?_eq_none.mpr
      rw [settled.stripped]
      exact settled.plain
    unfold stripToolPrefix
    dsimp only
    rw [show ["tool:", "execute:", "tool_execution:"] = toolPrefixes from rfl, absent]
    exact settled.stripped

end Prefixes

def effectKeys : List String :=
  ["action_key", "action", "proposed_effect", "draft_arguments", "body", "arguments", "effect_hash", "arguments_hash",
    "effect_version", "precondition_fingerprint", "expires_at"]

structure SameBinding (bound row : BoundApproval) : Prop where
  approvalType : row.approvalType = bound.approvalType
  effectHash : row.effectHash = bound.effectHash
  effectVersion : row.effectVersion = bound.effectVersion
  preconditionFingerprint : row.preconditionFingerprint = bound.preconditionFingerprint
  expiresAt : row.expiresAt = bound.expiresAt
  proposedEffectJson : row.proposedEffectJson = bound.proposedEffectJson
  payload : ∀ key ∈ effectKeys, row.payloadJson.get key = bound.payloadJson.get key

theorem SameBinding.refl (bound : BoundApproval) : SameBinding bound bound := by
  constructor
  all_goals first | rfl | exact fun _ _ => rfl

def otherKey (approval : BoundApproval) : String :=
  ((approval.payloadJson.get "action").pyOr (.str approval.approvalType)).strOrEmpty

structure Bare (payload : Dict Json) : Prop where
  drafted : (payload.get "draft_arguments").toDict = .ok []
  body : payload.get "body" = .null
  arguments : ¬ (payload.get "arguments").truthy = true

structure Stable (env : Env) (approval : BoundApproval) (actionKey : String) (a : Dict Json) (effect : ProposedEffect) :
    Prop where
  again : normalizeProposedEffect actionKey effect.normalizedEffect = .ok effect.normalizedEffect
  rehashed : ∀ normalized, normalizeProposedEffect actionKey effect.normalizedEffect = .ok normalized →
    computeEffectHash env normalized actionKey = .ok effect.effectHash
  kept : ∀ row, SameBinding (applyProposedEffectToApproval env approval effect) row →
    ∃ bound, readProposedEffect env row = .ok (some bound) ∧ bound.actionKey = effect.actionKey ∧
      bound.normalizedEffect = effect.normalizedEffect ∧ bound.effectHash = effect.effectHash
  accepted : ∀ row request, SameBinding (applyProposedEffectToApproval env approval effect) row →
    request.actionKey = actionKey →
    request.rawArguments = a ∨ request.rawArguments = effect.normalizedEffect →
    request.preconditionFingerprint = .null ∨ request.preconditionFingerprint = effect.preconditionFingerprint →
    checkGrant row request = .ok () → (∀ time, effect.expiresAt = some time → request.now < time) →
    ∃ bound, validateCommittedEffect env row request = .ok bound

/-- What keeps an effect the same: no blank recipient of a mail, no key that is cut twice, and for an
    effect without arguments nothing else to read. -/
structure Steady (approval : BoundApproval) (actionKey : String) (a : Dict Json) : Prop where
  addressed : (normalizedShape (stripToolPrefix actionKey) a).Mail → ∀ key ∈ recipientKeys, Addressed (a.get key)
  named : stripToolPrefix actionKey ≠ "" → Settled (stripToolPrefix actionKey)
  unnamed : stripToolPrefix actionKey = "" → otherKey approval ≠ "" ∧ stripToolPrefix (otherKey approval) = ""
  given : normalizedShape (stripToolPrefix actionKey) a = .whole → a = [] → Bare approval.payloadJson

section Payload

theorem toDict_ne_nil {value : Json} (given : value.truthy = true) : value.toDict ≠ .ok [] := by
  cases value with
  | null => cases given
  | arr items =>
    intro read
    cases items with
    | nil => simp [truthy] at given
    | cons first rest =>
      have read : toDict.pairs (first :: rest) = .ok [] := read
      unfold toDict.pairs at read
      split at read
      · simp_all
      · rename_i more _
        cases listed : toDict.pairs more with
        | _ =>
          rw [listed] at read
          cases read
      · cases read
  | obj members =>
    intro read
    obtain rfl := ok.inj read
    simp [truthy] at given
  | _ => simp_all [truthy, toDict]

theorem normalizeGithub_ne_nil (a : Dict Json) : normalizeGithubCommentEffect a ≠ .ok [] := by
  intro read
  obtain ⟨number, _, read⟩ := except_bind_ok read
  cases ok.inj read

variable {env : Env} {effect : ProposedEffect} {approval row : BoundApproval}

theorem effectPayload_get? {key : String}
    (apart : key ∉ ["action_key", "arguments_hash", "effect_hash", "effect_version", "precondition_fingerprint",
      "expires_at", "replaces_approval_request_id"]) :
    Dict.get? (effectPayload env effect) key =
      if "proposed_effect" = key then some (.obj effect.normalizedEffect) else none := by
  simp only [mem_cons, not_mem_nil, or_false, not_or] at apart
  obtain ⟨named, hash, hash', version, fingerprint, expires, replaces⟩ := apart
  have bound : get? [("action_key", str effect.actionKey), ("arguments_hash", .str effect.effectHash),
      ("effect_hash", .str effect.effectHash), ("effect_version", .num effect.effectVersion),
      ("precondition_fingerprint", effect.preconditionFingerprint)] key = none := by
    simp [get?_cons, Ne.symm named, Ne.symm hash, Ne.symm hash', Ne.symm version, Ne.symm fingerprint]
  have expiring (time : Int) : get? [("expires_at", str (env.isoformat time))] key = none := by
    simp [get?_cons, Ne.symm expires]
  have replacing (id : String) : get? [("replaces_approval_request_id", str id)] key = none := by
    simp [get?_cons, Ne.symm replaces]
  unfold effectPayload
  rw [get?_append, get?_append, get?_append, bound]
  split
  · split
    · split
      · simp [get?_cons, expiring]
      · simp [get?_cons, expiring, replacing]
    · simp [get?_cons, expiring]
  · split
    · split
      · simp [get?_cons]
      · simp [get?_cons, replacing]
    · simp [get?_cons]

theorem applied_other {key : String} (other : key ∈ ["action", "draft_arguments", "body", "arguments"]) :
    (applyProposedEffectToApproval env approval effect).payloadJson.get key = approval.payloadJson.get key := by
  have apart : key ∉ ["action_key", "arguments_hash", "effect_hash", "effect_version", "precondition_fingerprint",
      "expires_at", "replaces_approval_request_id"] ∧ "proposed_effect" ≠ key :=
    (by decide : ∀ key ∈ ["action", "draft_arguments", "body", "arguments"], key ∉ ["action_key", "arguments_hash",
      "effect_hash", "effect_version", "precondition_fingerprint", "expires_at", "replaces_approval_request_id"] ∧
      "proposed_effect" ≠ key) key other
  show (approval.payloadJson.update _).get key = _
  rw [get_update, effectPayload_get? apart.1, if_neg apart.2, Option.none_or]
  rfl

theorem applied_proposed :
    (applyProposedEffectToApproval env approval effect).payloadJson.get "proposed_effect" =
      .obj effect.normalizedEffect := by
  show (approval.payloadJson.update _).get "proposed_effect" = _
  rw [get_update, effectPayload_get? (by decide)]
  rfl

theorem applied_fingerprint :
    (applyProposedEffectToApproval env approval effect).payloadJson.get "precondition_fingerprint" =
      effect.preconditionFingerprint := by
  show (approval.payloadJson.update _).get "precondition_fingerprint" = _
  rw [get_update]
  simp [effectPayload, get?_cons]

variable (same : SameBinding (applyProposedEffectToApproval env approval effect) row)

include same

theorem SameBinding.carries : Carries row effect := by
  have applied : Carries (applyProposedEffectToApproval env approval effect) effect :=
    applyProposedEffect_carries approval effect
  constructor
  · rw [same.proposedEffectJson, applied.column]
  · rw [same.payload _ (by decide), applied.key]

theorem SameBinding.key : actionKeyOf row = if effect.actionKey = "" then otherKey approval else effect.actionKey := by
  unfold actionKeyOf otherKey
  rw [same.carries.key, same.payload _ (by decide), applied_other (by decide), same.approvalType]
  show (((str effect.actionKey).pyOr _).pyOr (.str approval.approvalType)).strOrEmpty = _
  by_cases empty : effect.actionKey = ""
  · simp [empty, pyOr, truthy]
  · simp [empty, pyOr, truthy, Json.strOrEmpty, Json.pyStr]

theorem SameBinding.bare_iff (empty : effect.normalizedEffect = []) :
    boundArguments row = .ok [] ↔ Bare approval.payloadJson := by
  have drafted : (row.payloadJson.get "proposed_effect").pyOr (row.payloadJson.get "draft_arguments") =
      approval.payloadJson.get "draft_arguments" := by
    rw [same.payload _ (by decide), same.payload _ (by decide), applied_proposed, applied_other (by decide), empty]
    rfl
  have body : row.payloadJson.get "body" = approval.payloadJson.get "body" := by
    rw [same.payload _ (by decide), applied_other (by decide)]
  have arguments : row.payloadJson.get "arguments" = approval.payloadJson.get "arguments" := by
    rw [same.payload _ (by decide), applied_other (by decide)]
  unfold boundArguments
  rw [same.carries.column, empty]
  dsimp only [Option.getD]
  rw [drafted, body, arguments, if_neg (by simp)]
  constructor
  · intro read
    obtain ⟨members, listed, read⟩ := except_bind_ok read
    cases members with
    | cons first rest =>
      cases ok.inj read
    | nil =>
      rw [if_neg (by simp)] at read
      split at read
      · exact absurd read (normalizeGithub_ne_nil _)
      rename_i absent
      split at read
      · rename_i given
        exact absurd read (toDict_ne_nil given)
      · rename_i ungiven
        exact ⟨listed, not_not.mp absent, ungiven⟩
  · intro bare
    rw [bare.drafted]
    simp only [bind, Except.bind]
    rw [if_neg (by simp), if_neg (not_not_intro bare.body), if_neg bare.arguments]
    rfl

end Payload

section Committing

variable {env : Env} {actionKey : String} {a : Dict Json} {fingerprint : Json} {version now : Int}
  {effect bound : ProposedEffect} {approval row : BoundApproval} {request : CommitRequest}

theorem readProposedEffect_parts (read : readProposedEffect env row = .ok (some bound)) :
    actionKeyOf row ≠ "" ∧ boundArguments row = .ok bound.normalizedEffect ∧
      bound.actionKey = stripToolPrefix (actionKeyOf row) ∧ bound.preconditionFingerprint =
        (row.preconditionFingerprint.pyOr (row.payloadJson.get "precondition_fingerprint")).pyOr .null := by
  unfold readProposedEffect at read
  split at read
  · cases read
  rename_i named
  obtain ⟨normalized, given, read⟩ := except_bind_ok read
  obtain ⟨hash, hashed, read⟩ := except_bind_ok read
  split at read
  · cases read
  obtain ⟨version, _, read⟩ := except_bind_ok read
  have made := Option.some.inj (ok.inj read)
  refine ⟨named, ?_, ?_, ?_⟩
  · rwa [← made]
  · rw [← made]
  · rw [← made]

theorem effectHash_ne_empty (filled : ∀ content, env.argumentsHash content ≠ "")
    (made : Built env actionKey a fingerprint version now effect) : effect.effectHash ≠ "" := by
  obtain ⟨content, _, hash⟩ := computeEffectHash_content made.normalized made.hash
  rw [hash]
  exact filled content

theorem SameBinding.read (same : SameBinding (applyProposedEffectToApproval env approval effect) row)
    (filled : ∀ content, env.argumentsHash content ≠ "") (made : Built env actionKey a fingerprint version now effect)
    (named : actionKeyOf row ≠ "") (cut : stripToolPrefix (actionKeyOf row) = effect.actionKey)
    (given : boundArguments row = .ok effect.normalizedEffect) :
    ∃ bound, readProposedEffect env row = .ok (some bound) ∧ bound.actionKey = effect.actionKey ∧
      bound.normalizedEffect = effect.normalizedEffect ∧ bound.effectHash = effect.effectHash ∧
      bound.expiresAt = effect.expiresAt := by
  have column : row.effectHash = some effect.effectHash := same.effectHash
  have nonempty := effectHash_ne_empty filled made
  have hash : readEffectHash env row effect.normalizedEffect = .ok effect.effectHash := by
    unfold readEffectHash
    by_cases empty : effect.normalizedEffect = []
    · have text : (ofOption row.effectHash).truthy = true := by
        rw [column]
        simp [ofOption, truthy, nonempty]
      rw [if_pos (by simp [empty])]
      unfold pyOr
      rw [if_pos text, if_pos text, column]
      exact congrArg ok (Json.strOrEmpty_str _)
    · rw [if_neg (by simp [empty])]
      have hashed := made.hash
      unfold computeEffectHash at hashed ⊢
      rwa [cut, made.key]
  have versioned : readVersion row = .ok effect.effectVersion := by
    have column : row.effectVersion = effect.effectVersion := same.effectVersion
    have positive : effect.effectVersion ≠ 0 := by
      have read := made.version
      omega
    have given : (num effect.effectVersion).truthy = true := by simp [truthy, positive]
    unfold readVersion pyOr
    rw [column, if_pos given, if_pos given]
    rfl
  have expiry : readExpiry env row = effect.expiresAt := by
    have column : row.expiresAt = effect.expiresAt := same.expiresAt
    unfold readExpiry
    rw [column, made.expires]
  obtain ⟨_, _, read⟩ := readProposedEffect_eq named given hash nonempty versioned
  simp_all

theorem SameBinding.validates (same : SameBinding (applyProposedEffectToApproval env approval effect) row)
    (made : Built env actionKey a fingerprint version now effect) {normalized : Dict Json}
    (read : readProposedEffect env row = .ok (some bound)) (keyed : bound.actionKey = effect.actionKey)
    (hash : bound.effectHash = effect.effectHash) (expires : bound.expiresAt = effect.expiresAt)
    (asked : request.actionKey = actionKey)
    (projected : normalizeProposedEffect actionKey request.rawArguments = .ok normalized)
    (hashed : computeEffectHash env normalized actionKey = .ok effect.effectHash)
    (unchanged : request.preconditionFingerprint = .null ∨ request.preconditionFingerprint = effect.preconditionFingerprint)
    (granted : checkGrant row request = .ok ()) (early : ∀ time, effect.expiresAt = some time → request.now < time) :
    validateCommittedEffect env row request = .ok bound := by
  have unexpired : isApprovalExpired env row request.now = .ok false := by
    have later := early _ made.expires
    unfold isApprovalExpired
    rw [read]
    simp only [bind, Except.bind]
    rw [expires, made.expires]
    simp [pure, Except.pure, later]
  have printed : ¬ (request.preconditionFingerprint ≠ .null ∧ bound.preconditionFingerprint.truthy = true ∧
      request.preconditionFingerprint ≠ bound.preconditionFingerprint) := by
    rintro ⟨asked, kept, other⟩
    have column : row.preconditionFingerprint = effect.preconditionFingerprint := same.preconditionFingerprint
    have print : bound.preconditionFingerprint = effect.preconditionFingerprint.pyOr .null := by
      rw [(readProposedEffect_parts read).2.2.2, column, same.payload _ (by decide), applied_fingerprint]
      unfold pyOr
      by_cases given : effect.preconditionFingerprint.truthy = true <;> simp [given]
    rcases unchanged with absent | same
    · exact asked absent
    · by_cases given : effect.preconditionFingerprint.truthy = true <;> simp_all [pyOr]
  unfold validateCommittedEffect
  rw [granted]
  simp only [bind, Except.bind]
  rw [unexpired]
  rw [read]
  dsimp only
  rw [asked, if_neg (not_not_intro (keyed.trans made.key)), projected]
  dsimp only
  rw [hashed]
  dsimp only
  rw [if_neg (not_not_intro hash.symm), if_neg printed]
  rfl

end Committing

section Stable

variable {env : Env} {actionKey : String} {a : Dict Json} {fingerprint : Json} {version now : Int}
  {effect : ProposedEffect} {approval : BoundApproval}

theorem bindingFirst_eq_nil_iff (a : Dict Json) : bindingFirst a = [] ↔ a = [] := by
  constructor
  · intro empty
    cases a with
    | nil => rfl
    | cons entry rest =>
      have found := get?_bindingFirst (entry :: rest) entry.1
      rw [empty, get?_cons, if_pos rfl] at found
      cases found
  · rintro rfl
    rfl

theorem normalized_empty_iff {n : Dict Json} (read : normalizeProposedEffect actionKey a = .ok n) :
    n = [] ↔ normalizedShape (stripToolPrefix actionKey) a = .whole ∧ a = [] := by
  unfold normalizeProposedEffect at read
  cases shaped : normalizedShape (stripToolPrefix actionKey) a with
  | whole =>
    rw [shaped] at read
    obtain rfl := ok.inj read
    rw [bindingFirst_eq_nil_iff]
    simp
  | githubComment =>
    rw [shaped] at read
    have other := normalizeGithub_ne_nil a
    have filled : n ≠ [] := by
      rintro rfl
      exact other read
    simp [filled]
  | _ =>
    rw [shaped] at read
    have named := project_provider read rfl
    have filled : n ≠ [] := by
      rintro rfl
      cases named
    simp [filled]

theorem effect_key_again (made : Built env actionKey a fingerprint version now effect) (steady : Steady approval actionKey a) :
    (if effect.actionKey = "" then otherKey approval else effect.actionKey) ≠ "" ∧
      stripToolPrefix (if effect.actionKey = "" then otherKey approval else effect.actionKey) = effect.actionKey := by
  rw [made.key]
  by_cases empty : stripToolPrefix actionKey = ""
  · rw [if_pos empty]
    obtain ⟨named, cut⟩ := steady.unnamed empty
    exact ⟨named, cut.trans empty.symm⟩
  · rw [if_neg empty]
    exact ⟨empty, (stripToolPrefix_eq_self_iff _).mpr (steady.named empty)⟩

def blankMail : Dict Json := mailArguments.set "to" (.arr [.str " "])

def searchArguments : Dict Json := [("query", .str "offer")]

def searchCommit : CommitRequest := { actionKey := "tool:tool:search", rawArguments := searchArguments, now := 0 }

end Stable

end Troop.Approvals
