import Troop.Approvals.Shapes

namespace Troop.Approvals

open Workflow (Env stripToolPrefix)

section Commit

variable {env : Env}

structure Carries (approval : BoundApproval) (effect : ProposedEffect) : Prop where
  column : approval.proposedEffectJson = some effect.normalizedEffect
  key : approval.payloadJson.get "action_key" = .str effect.actionKey

theorem applyProposedEffect_carries (row : BoundApproval) (effect : ProposedEffect) :
    Carries (applyProposedEffectToApproval env row effect) effect := by
  constructor
  · rfl
  · show (row.payloadJson.update _).get "action_key" = _
    rw [Dict.get_update]
    simp [effectPayload, Dict.get?_cons]

variable {approval : BoundApproval} {request : CommitRequest} {actionKey : String} {effect : ProposedEffect}
  {bound : ProposedEffect} {version now : Int} {fingerprint : Json} {a : Dict Json}

theorem readProposedEffect_some (read : readProposedEffect env approval = .ok (some bound)) :
    ∃ normalized, boundArguments approval = .ok normalized ∧
      readEffectHash env approval normalized = .ok bound.effectHash ∧
      bound.actionKey = stripToolPrefix (actionKeyOf approval) := by
  unfold readProposedEffect at read
  split at read
  · cases read
  obtain ⟨normalized, given, read⟩ := except_bind_ok read
  obtain ⟨hash, hashed, read⟩ := except_bind_ok read
  split at read
  · cases read
  obtain ⟨version, _, read⟩ := except_bind_ok read
  have made := Option.some.inj (Except.ok.inj read)
  refine ⟨normalized, given, ?_, ?_⟩
  · rwa [← made]
  · rw [← made]

theorem validateCommittedEffect_ok (accepted : validateCommittedEffect env approval request = .ok bound) :
    readProposedEffect env approval = .ok (some bound) ∧ bound.actionKey = stripToolPrefix request.actionKey ∧
      ∃ normalized, normalizeProposedEffect request.actionKey request.rawArguments = .ok normalized ∧
        computeEffectHash env normalized request.actionKey = .ok bound.effectHash := by
  obtain ⟨_, _, accepted⟩ := except_bind_ok accepted
  obtain ⟨expired, _, accepted⟩ := except_bind_ok accepted
  split at accepted
  · cases accepted
  obtain ⟨found, read, accepted⟩ := except_bind_ok accepted
  cases found with
  | none => cases accepted
  | some effect =>
    dsimp only at accepted
    by_cases key : effect.actionKey = stripToolPrefix request.actionKey
    · rw [if_neg (not_not_intro key)] at accepted
      obtain ⟨normalized, projected, accepted⟩ := except_bind_ok accepted
      obtain ⟨hash, hashed, accepted⟩ := except_bind_ok accepted
      by_cases agreed : hash = effect.effectHash
      · rw [if_neg (not_not_intro agreed)] at accepted
        split at accepted
        · cases accepted
        · obtain rfl := Except.ok.inj accepted
          exact ⟨read, key, normalized, projected, agreed ▸ hashed⟩
      · simp [if_pos agreed] at accepted
    · simp [if_pos key] at accepted

theorem validateCommittedEffect_granted
    (accepted : validateCommittedEffect env approval request = .ok bound) : checkGrant approval request = .ok () := by
  obtain ⟨_, grant, _⟩ := except_bind_ok accepted
  exact grant

theorem boundArguments_carried (carries : Carries approval effect)
    (given : effect.normalizedEffect ≠ []) : boundArguments approval = .ok effect.normalizedEffect := by
  have column : ¬ effect.normalizedEffect.isEmpty = true := by simpa using given
  unfold boundArguments
  rw [carries.column]
  dsimp only [Option.getD]
  rw [if_pos column]
  rfl

theorem accepted_content (hashes : HashesContent env) {effect bound : ProposedEffect}
    (built : buildProposedEffect env actionKey a fingerprint version now = .ok effect)
    (carries : Carries approval effect) (given : effect.normalizedEffect ≠ []) (keyed : request.actionKey = actionKey)
    (accepted : validateCommittedEffect env approval request = .ok bound) :
    ∃ c d, hashedContent actionKey a = .ok c ∧ hashedContent actionKey request.rawArguments = .ok d ∧
      c.SameContent d := by
  subst keyed
  have made := buildProposedEffect_ok built
  obtain ⟨read, key, normalized, projected, hashed⟩ := validateCommittedEffect_ok accepted
  obtain ⟨kept, found, rehashed, keyRead⟩ := readProposedEffect_some read
  rw [boundArguments_carried carries given] at found
  obtain rfl := Except.ok.inj found
  have nonempty : ¬ effect.normalizedEffect.isEmpty = true := by simpa using given
  unfold readEffectHash at rehashed
  rw [if_neg nonempty] at rehashed
  have sameKey : stripToolPrefix (actionKeyOf approval) = stripToolPrefix request.actionKey := keyRead.symm.trans key
  unfold computeEffectHash at rehashed
  rw [sameKey] at rehashed
  obtain ⟨c, left, hash⟩ := computeEffectHash_content made.normalized rehashed
  obtain ⟨d, right, hash'⟩ := computeEffectHash_content projected hashed
  exact ⟨c, d, left, right, (hashes.same_iff c d).mp (hash.symm.trans hash')⟩

theorem hashedContent_ok {a c : Dict Json} (read : hashedContent actionKey a = .ok c) :
    ∃ normalized, normalizeProposedEffect actionKey a = .ok normalized ∧
      computeEffectHash env normalized actionKey = .ok (env.argumentsHash c) := by
  obtain ⟨normalized, projected, read⟩ := except_bind_ok read
  refine ⟨normalized, projected, ?_⟩
  rw [computeEffectHash_eq, read]
  rfl

theorem hashedContent_congr {one other : String} (same : stripToolPrefix one = stripToolPrefix other) (a : Dict Json) :
    hashedContent one a = hashedContent other a := by
  unfold hashedContent normalizeProposedEffect
  rw [same]

structure Checked (approval : BoundApproval) (request : CommitRequest) : Prop where
  grant : checkGrant approval request = .ok ()
  expires : ∃ time, approval.expiresAt = some time ∧ request.now < time
  version : approval.effectVersion ≠ 0
  unprinted : request.preconditionFingerprint = .null

theorem readProposedEffect_eq {normalized : Dict Json} {hash : String} {version : Int}
    (named : actionKeyOf approval ≠ "") (bound : boundArguments approval = .ok normalized)
    (hashed : readEffectHash env approval normalized = .ok hash) (filled : hash ≠ "")
    (read : readVersion approval = .ok version) :
    ∃ fingerprint replaces, readProposedEffect env approval = .ok (some
      ⟨stripToolPrefix (actionKeyOf approval), normalized, hash, fingerprint, version, readExpiry env approval,
        replaces⟩) := by
  unfold readProposedEffect
  rw [if_neg named, bound]
  simp only [bind, Except.bind, hashed, read, if_neg filled]
  exact ⟨_, _, rfl⟩

theorem readProposedEffect_carried (hashes : HashesContent env)
    (made : Built env actionKey a fingerprint version now effect) (carries : Carries approval effect)
    (given : effect.normalizedEffect ≠ []) (checked : Checked approval request) (named : stripToolPrefix actionKey ≠ "")
    (again : stripToolPrefix (stripToolPrefix actionKey) = stripToolPrefix actionKey) :
    ∃ bound, readProposedEffect env approval = .ok (some bound) ∧ bound.actionKey = stripToolPrefix actionKey ∧
      bound.effectHash = effect.effectHash ∧ bound.expiresAt = approval.expiresAt := by
  have key : actionKeyOf approval = stripToolPrefix actionKey := by
    unfold actionKeyOf
    rw [carries.key, made.key]
    simp [Json.pyOr, Json.truthy, named]
  have nonempty : ¬ effect.normalizedEffect.isEmpty = true := by simpa using given
  have hash : readEffectHash env approval effect.normalizedEffect = .ok effect.effectHash := by
    unfold readEffectHash
    rw [if_neg nonempty]
    have hashed := made.hash
    unfold computeEffectHash at hashed ⊢
    rwa [key, again]
  have filled : effect.effectHash ≠ "" := by
    obtain ⟨c, _, same⟩ := computeEffectHash_content made.normalized made.hash
    rw [same]
    exact hashes.nonempty c
  obtain ⟨time, expires, _⟩ := checked.expires
  have read : readVersion approval = .ok approval.effectVersion := by
    have given : (Json.num approval.effectVersion).truthy = true := by simp [Json.truthy, checked.version]
    unfold readVersion Json.pyOr
    rw [if_pos given, if_pos given]
    rfl
  have expiry : readExpiry env approval = approval.expiresAt := by
    unfold readExpiry
    rw [expires]
  have keyed : actionKeyOf approval ≠ "" := fun empty => named (key.symm.trans empty)
  obtain ⟨fingerprint, replaces, bound⟩ :=
    readProposedEffect_eq keyed (boundArguments_carried carries given) hash filled read
  rw [key, again, expiry] at bound
  refine ⟨_, bound, ?_, ?_, ?_⟩
  all_goals dsimp only

theorem validateCommittedEffect_iff (hashes : HashesContent env) (made : Built env actionKey a fingerprint version now effect)
    (carries : Carries approval effect) (given : effect.normalizedEffect ≠ []) (checked : Checked approval request)
    (named : stripToolPrefix actionKey ≠ "")
    (again : stripToolPrefix (stripToolPrefix actionKey) = stripToolPrefix actionKey)
    (keyed : stripToolPrefix request.actionKey = stripToolPrefix actionKey) :
    (∃ bound, validateCommittedEffect env approval request = .ok bound) ↔
      ∃ c d, hashedContent actionKey a = .ok c ∧ hashedContent actionKey request.rawArguments = .ok d ∧
        c.SameContent d := by
  obtain ⟨bound, read, key, hash, expiry⟩ := readProposedEffect_carried hashes made carries given checked named again
  obtain ⟨c, left, same⟩ := computeEffectHash_content made.normalized made.hash
  constructor
  · rintro ⟨accepted, validated⟩
    obtain ⟨reread, _, normalized, projected, hashed⟩ := validateCommittedEffect_ok validated
    rw [read] at reread
    obtain rfl := Option.some.inj (Except.ok.inj reread)
    obtain ⟨d, right, same'⟩ := computeEffectHash_content projected hashed
    rw [hashedContent_congr keyed] at right
    rw [hash, same] at same'
    exact ⟨c, d, left, right, (hashes.same_iff c d).mp same'⟩
  · rintro ⟨c', d, left', right, content⟩
    rw [left] at left'
    obtain rfl := Except.ok.inj left'
    rw [← hashedContent_congr keyed] at right
    obtain ⟨normalized, projected, hashed⟩ := hashedContent_ok right
    have unexpired : isApprovalExpired env approval request.now = .ok false := by
      obtain ⟨time, expires, early⟩ := checked.expires
      unfold isApprovalExpired
      rw [read]
      simp only [bind, Except.bind]
      rw [expiry, expires]
      simp [pure, Except.pure, early]
    have agreed : env.argumentsHash d = bound.effectHash := by
      rw [hash, same]
      exact ((hashes.same_iff c d).mpr content).symm
    refine ⟨bound, ?_⟩
    unfold validateCommittedEffect
    rw [checked.grant]
    simp only [bind, Except.bind]
    rw [unexpired]
    rw [read]
    dsimp only
    rw [if_neg (not_not_intro (key.trans keyed.symm)), projected]
    dsimp only
    rw [hashed]
    dsimp only
    rw [if_neg (not_not_intro agreed), checked.unprinted]
    simp [pure, Except.pure]

end Commit

end Troop.Approvals
