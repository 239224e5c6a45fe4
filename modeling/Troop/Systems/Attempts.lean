import Mathlib.Data.List.Basic

namespace Troop.Systems

open List

variable {α : Type}

def attemptAll (fails : Nat → Bool) (budget : Nat) : List α → List α → Bool × List α
  | [], made => (false, made)
  | attempt :: rest, made =>
    if budget ≤ made.length then (false, made)
    else if fails made.length then attemptAll fails budget rest (made ++ [attempt])
    else (true, made ++ [attempt])

variable {fails : Nat → Bool} {budget : Nat}

theorem attemptAll_cons (attempt : α) (rest made : List α) :
    attemptAll fails budget (attempt :: rest) made =
      if budget ≤ made.length then (false, made)
      else if fails made.length then attemptAll fails budget rest (made ++ [attempt])
      else (true, made ++ [attempt]) := rfl

theorem attemptAll_used (plan made : List α) (used : budget ≤ made.length) :
    attemptAll fails budget plan made = (false, made) := by
  cases plan with
  | nil => rfl
  | cons attempt rest => exact if_pos used

theorem attemptAll_append (first second made : List α) :
    attemptAll fails budget (first ++ second) made =
      if (attemptAll fails budget first made).1 then attemptAll fails budget first made
      else attemptAll fails budget second (attemptAll fails budget first made).2 := by
  induction first generalizing made with
  | nil => rfl
  | cons attempt rest ih =>
    rw [cons_append, attemptAll_cons, attemptAll_cons]
    by_cases used : budget ≤ made.length
    · rw [if_pos used, if_pos used]
      exact (attemptAll_used second made used).symm
    · rw [if_neg used, if_neg used]
      by_cases failed : fails made.length = true
      · simp_all
      · simp [if_neg failed, if_neg failed]

theorem attemptAll_begins (plan made : List α) :
    (attemptAll fails budget plan made).2 <+: made ++ plan.take (budget - made.length) := by
  induction plan generalizing made with
  | nil =>
    rw [take_nil, append_nil]
    exact prefix_refl _
  | cons attempt rest ih =>
    rw [attemptAll_cons]
    by_cases used : budget ≤ made.length
    · simp_all
    rw [if_neg used]
    have left : budget - made.length = budget - (made ++ [attempt]).length + 1 := by grind
    split
    · grind
    · simp_all

theorem attemptAll_failing (failing : ∀ n, fails n = true) (plan made : List α) :
    (attemptAll fails budget plan made).2 = made ++ plan.take (budget - made.length) := by
  induction plan generalizing made with
  | nil => simp [attemptAll]
  | cons attempt rest ih =>
    rw [attemptAll_cons]
    by_cases used : budget ≤ made.length
    · simp_all
    · rw [if_neg used, if_pos (failing _), ih]
      have left : budget - made.length = budget - (made ++ [attempt]).length + 1 := by grind
      rw [left, take_succ_cons, append_assoc, singleton_append]

theorem attemptAll_forall_iff {holds : α → Prop} (plan : List α) :
    (∀ fails : Nat → Bool, ∀ attempt ∈ (attemptAll fails budget plan []).2, holds attempt) ↔
      ∀ attempt ∈ plan.take budget, holds attempt := by
  constructor
  · intro always attempt member
    apply always (fun _ => true)
    rwa [attemptAll_failing fun _ => rfl]
  · intro planned fails attempt member
    exact planned attempt ((attemptAll_begins plan []).subset member)

theorem length_attemptAll (plan : List α) : (attemptAll fails budget plan []).2.length ≤ budget := by
  have begun := (@attemptAll_begins α fails budget plan []).length_le
  rw [nil_append, length_take, length_nil] at begun
  omega

theorem attemptAll_failed {plan made after : List α} (ran : attemptAll fails budget plan made = (false, after)) :
    (∀ n, made.length ≤ n → n < after.length → fails n = true) ∧ (budget ≤ after.length ∨ after = made ++ plan) := by
  induction plan generalizing made with
  | nil =>
    cases ran
    exact ⟨fun n from_ below => absurd from_ (Nat.not_le.mpr below), .inr (append_nil _).symm⟩
  | cons attempt rest ih =>
    rw [attemptAll_cons] at ran
    split at ran
    · grind
    split at ran
    · rename_i failed
      obtain ⟨raised, ended⟩ := ih ran
      rw [length_append, length_singleton] at raised
      rw [append_assoc, singleton_append] at ended
      refine ⟨fun n from_ below => ?_, ended⟩
      rcases Nat.eq_or_lt_of_le from_ with rfl | later
      · exact failed
      · exact raised n later below
    · cases ran

theorem attemptAll_succeeded {plan made after : List α} (ran : attemptAll fails budget plan made = (true, after)) :
    ∃ before attempt, after = before ++ [attempt] ∧ fails before.length = false ∧
      ∀ n, made.length ≤ n → n < before.length → fails n = true := by
  induction plan generalizing made with
  | nil => cases ran
  | cons attempt rest ih =>
    rw [attemptAll_cons] at ran
    split at ran
    · cases ran
    split at ran
    · rename_i failed
      obtain ⟨before, last, same, answered, raised⟩ := ih ran
      rw [length_append, length_singleton] at raised
      refine ⟨before, last, same, answered, fun n from_ below => ?_⟩
      rcases Nat.eq_or_lt_of_le from_ with rfl | later
      · exact failed
      · exact raised n later below
    · grind

/-- At most `times` calls of each of the attempts, in their order. -/
def Repeated (times : Nat) (slots made : List α) : Prop :=
  ∃ counts : List Nat, counts.length = slots.length ∧ (∀ n ∈ counts, n ≤ times) ∧
    made = (List.zipWith List.replicate counts slots).flatten

theorem repeated_take (times : Nat) (slots : List α) (n : Nat) :
    Repeated times slots ((slots.flatMap (List.replicate times)).take n) := by
  induction slots generalizing n with
  | nil => exact ⟨[], rfl, fun _ isThere => absurd isThere not_mem_nil, take_nil⟩
  | cons slot rest ih =>
    obtain ⟨counts, each, bounded, same⟩ := ih (n - times)
    refine ⟨min n times :: counts, congrArg Nat.succ each, ?_, ?_⟩
    · intro count isThere
      rcases mem_cons.mp isThere with rfl | later
      · exact Nat.min_le_right n times
      · exact bounded count later
    · rw [flatMap_cons, take_append, take_replicate, length_replicate, same]
      rfl

end Troop.Systems
