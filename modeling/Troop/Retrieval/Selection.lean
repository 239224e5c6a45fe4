import Mathlib.Data.List.Perm.Subperm
import Troop.Retrieval.Matches

namespace Troop.Retrieval

open List

section Rounds

variable {α : Type}

theorem served_perm (queues : List (List α)) :
    (served queues ++ (waiting queues).flatten).Perm queues.flatten := by
  induction queues with
  | nil => rfl
  | cons queue rest ih =>
    cases queue with
    | nil => simpa [served, waiting, filterMap_cons] using ih
    | cons item queue =>
      refine .cons item ?_
      exact perm_append_comm_assoc .. |>.trans (ih.append_left queue)

theorem flatten_of_served {queues : List (List α)} (nothing : served queues = []) : queues.flatten = [] := by
  rw [flatten_eq_nil_iff]
  intro queue isThere
  rw [← head?_eq_none_iff]
  exact filterMap_eq_nil_iff.mp nothing queue isThere

theorem roundRobin_perm (total : Nat) (queues : List (List α)) (done : List α)
    (all : total = done.length + queues.flatten.length) :
    (roundRobin total queues done).Perm (done ++ queues.flatten) := by
  fun_induction roundRobin total queues done with
  | case1 queues done going nothing => simp [flatten_of_served nothing]
  | case2 queues done going some_ ih =>
    have moved := served_perm queues
    have counted := moved.length_eq
    rw [length_append] at counted
    have left : total = (done ++ served queues).length + (waiting queues).flatten.length := by
      rw [length_append]
      omega
    refine (ih left).trans ?_
    rw [append_assoc]
    exact moved.append_left done
  | case3 queues done full =>
    have nothing : queues.flatten.length = 0 := by omega
    simp [length_eq_zero_iff.mp nothing]

theorem partition_perm {β : Type} [DecidableEq β] (key : α → β) (keys : List β) (once : keys.Nodup) (items : List α)
    (all : ∀ item ∈ items, key item ∈ keys) :
    (keys.map fun k => items.filter (key · = k)).flatten.Perm items := by
  induction keys generalizing items with
  | nil =>
    have nothing : items = [] := eq_nil_iff_forall_not_mem.mpr fun item isThere => not_mem_nil (all item isThere)
    rw [nothing]
    rfl
  | cons first keys ih =>
    obtain ⟨fresh, once⟩ := nodup_cons.mp once
    have others : (keys.map fun k => items.filter (key · = k)) =
        keys.map fun k => (items.filter (! key · = first)).filter (key · = k) := by
      refine map_congr_left fun k isThere => ?_
      rw [filter_filter]
      exact filter_congr fun item _ => by grind
    rw [map_cons, flatten_cons, others]
    refine ((ih once _ ?_).append_left _).trans (filter_append_perm _ items)
    grind

theorem diversified_perm (items : List RagChunkMatch) : (diversified items).Perm items := by
  have parts := partition_perm sourceKey (items.map sourceKey).reverse.dedup.reverse
    (nodup_reverse.mpr (nodup_dedup _)) items fun item isThere => by
      simpa using ⟨item, isThere, rfl⟩
  refine (roundRobin_perm items.length _ [] ?_).trans ?_
  · rw [parts.length_eq, length_nil, Nat.zero_add]
  · exact parts

end Rounds

section Budget

variable (cost : RagChunkMatch → Nat)

theorem withinBudget_spec (limit tokens : Nat) (items : List RagChunkMatch) : ∃ left,
    items.Perm (withinBudget cost limit tokens items ++ left) ∧ (withinBudget cost limit tokens items).length ≤ limit ∧
      ((withinBudget cost limit tokens items).map cost).sum ≤ tokens ∧
      ∀ item ∈ left, limit ≤ (withinBudget cost limit tokens items).length ∨
        tokens < ((withinBudget cost limit tokens items).map cost).sum + cost item := by
  induction items generalizing limit tokens with
  | nil => exact ⟨[], by simp [withinBudget]⟩
  | cons item rest ih =>
    cases limit with
    | zero => exact ⟨item :: rest, by simp [withinBudget]⟩
    | succ limit =>
      by_cases beyond : tokens < cost item
      · obtain ⟨left, all, short, cheap, why⟩ := ih (limit + 1) tokens
        rw [withinBudget, if_pos beyond]
        refine ⟨item :: left, (all.cons item).trans perm_middle.symm, short, cheap, ?_⟩
        simp only [forall_mem_cons]
        exact ⟨.inr (by omega), why⟩
      · obtain ⟨left, all, short, cheap, why⟩ := ih limit (tokens - cost item)
        rw [withinBudget, if_neg beyond]
        refine ⟨left, all.cons item, Nat.succ_le_succ short, ?_, ?_⟩
        · rw [map_cons, sum_cons]
          omega
        · intro other isLeft
          have reason := why other isLeft
          rw [length_cons, map_cons, sum_cons]
          omega

end Budget

section Unique

variable {perDocument perSource : Int} {threshold : ℚ}

theorem nearDuplicate_any (item : RagChunkMatch) (selected : List RagChunkMatch) (threshold : ℚ) :
    nearDuplicate item selected threshold = selected.any fun other => nearDuplicate item [other] threshold := by
  unfold nearDuplicate
  split
  · simp
  · dsimp only
    split <;> simp

/-- Why the first pass leaves an item out, when it has kept these. -/
def Refused (perDocument perSource : Int) (threshold : ℚ) (kept : List RagChunkMatch) (item : RagChunkMatch) : Prop :=
  max 1 perDocument ≤ kept.countP (·.documentId = item.documentId) ∨
    max 1 perSource ≤ kept.countP (sourceKey · = sourceKey item) ∨ nearDuplicate item kept threshold = true

variable {kept : List RagChunkMatch} {item : RagChunkMatch}

theorem Refused.append (refused : Refused perDocument perSource threshold kept item) (more : List RagChunkMatch) :
    Refused perDocument perSource threshold (kept ++ more) item := by
  unfold Refused at refused ⊢
  rw [countP_append, countP_append]
  rcases refused with full | full | twin
  · exact .inl (by omega)
  · exact .inr (.inl (by omega))
  · rw [nearDuplicate_any] at twin ⊢
    exact .inr (.inr (by rw [any_append, twin, Bool.true_or]))

structure Kept (perDocument perSource : Int) (threshold : ℚ) (kept : List RagChunkMatch) : Prop where
  documents : ∀ documentId, (kept.countP (·.documentId = documentId) : Int) ≤ max 1 perDocument
  sources : ∀ source, (kept.countP (sourceKey · = source) : Int) ≤ max 1 perSource
  apart : kept.Pairwise fun early late => nearDuplicate late [early] threshold = false

theorem Kept.add (sound : Kept perDocument perSource threshold kept)
    (fits : ¬ Refused perDocument perSource threshold kept item) : Kept perDocument perSource threshold (kept ++ [item]) := by
  unfold Refused at fits
  refine ⟨?_, ?_, ?_⟩
  · intro documentId
    have before := sound.documents documentId
    rw [countP_append, countP_singleton]
    push Not at fits
    split
    · rename_i same
      have room := of_decide_eq_true same ▸ fits.1
      omega
    · omega
  · intro source
    have before := sound.sources source
    rw [countP_append, countP_singleton]
    push Not at fits
    split
    · rename_i same
      have room := of_decide_eq_true same ▸ fits.2.1
      omega
    · omega
  · rw [pairwise_append]
    rw [nearDuplicate_any] at fits
    refine ⟨sound.apart, pairwise_singleton _ _, ?_⟩
    simp_all

theorem uniqueMatches_spec (sound : Kept perDocument perSource threshold kept)
    (items : List RagChunkMatch) : ∃ more refused, uniqueMatches perDocument perSource threshold kept items = kept ++ more ∧
      more.Sublist items ∧ items.Perm (more ++ refused) ∧ Kept perDocument perSource threshold (kept ++ more) ∧
      ∀ item ∈ refused, Refused perDocument perSource threshold (kept ++ more) item := by
  induction items generalizing kept with
  | nil => exact ⟨[], [], by simpa [uniqueMatches] using sound⟩
  | cons item rest ih =>
    by_cases why : Refused perDocument perSource threshold kept item
    · have same : uniqueMatches perDocument perSource threshold kept (item :: rest) =
          uniqueMatches perDocument perSource threshold kept rest := by
        unfold Refused at why
        rw [uniqueMatches]
        grind
      obtain ⟨more, refused, made, sub, all, sound, reasons⟩ := ih sound
      refine ⟨more, item :: refused, same.trans made, sub.cons item, (all.cons item).trans perm_middle.symm, sound, ?_⟩
      exact forall_mem_cons.mpr ⟨why.append more, reasons⟩
    · have same : uniqueMatches perDocument perSource threshold kept (item :: rest) =
          uniqueMatches perDocument perSource threshold (kept ++ [item]) rest := by
        unfold Refused at why
        rw [uniqueMatches]
        grind
      obtain ⟨more, refused, made, sub, all, sound, reasons⟩ := ih (sound.add why)
      rw [append_assoc, singleton_append] at made sound reasons
      exact ⟨item :: more, refused, same.trans made, sub.cons_cons item, all.cons item, sound, reasons⟩

end Unique

/-- Why the last pass leaves an item out, when it has selected these. -/
def Full (limit maxContextTokens : Int) (estimate : String → Nat) (selected : List RagChunkMatch) (item : RagChunkMatch) : Prop :=
  limit ≤ selected.length ∨
    maxContextTokens < ((selected.map fun item => max 1 (estimate item.content)).sum + max 1 (estimate item.content) : Nat)

/-- Every match is selected, dropped by the last pass because of what is selected, or refused by the first pass because of
    what that has kept, be it dropped later on. -/
theorem selection_accounted (items : List RagChunkMatch) (limit maxContextTokens perDocument perSource : Int) (threshold : ℚ)
    (estimate : String → Nat) : ∃ kept chosen dropped refused selected : List RagChunkMatch,
      selected = selectContextMatches items limit maxContextTokens perDocument perSource threshold estimate ∧
      items.Perm (kept ++ refused) ∧ kept.Perm (selected ++ dropped) ∧
      selected.length ≤ limit.toNat ∧
      (selected.map fun item => max 1 (estimate item.content)).sum ≤ maxContextTokens.toNat ∧
      (∀ documentId, (selected.countP (·.documentId = documentId) : Int) ≤ max 1 perDocument) ∧
      (∀ source, (selected.countP (sourceKey · = source) : Int) ≤ max 1 perSource) ∧
      (chosen.Perm selected ∧ chosen.Sublist items ∧
        chosen.Pairwise fun early late => nearDuplicate late [early] threshold = false) ∧
      (∀ item ∈ dropped, Full limit maxContextTokens estimate selected item) ∧
      ∀ item ∈ refused, Refused perDocument perSource threshold kept item := by
  have empty : Kept perDocument perSource threshold [] := ⟨by simp, by simp, Pairwise.nil⟩
  obtain ⟨kept, refused, made, sub, all, sound, reasons⟩ := uniqueMatches_spec empty items
  rw [nil_append] at made sound reasons
  have last : ∃ dropped selected, selected = selectContextMatches items limit maxContextTokens perDocument perSource threshold estimate ∧
      kept.Perm (selected ++ dropped) ∧ selected.length ≤ limit.toNat ∧
      (selected.map fun item => max 1 (estimate item.content)).sum ≤ maxContextTokens.toNat ∧
      ∀ item ∈ dropped, Full limit maxContextTokens estimate selected item := by
    unfold selectContextMatches Full
    rw [made]
    split
    · refine ⟨kept, [], rfl, Perm.refl _, Nat.zero_le _, Nat.zero_le _, ?_⟩
      omega
    · obtain ⟨dropped, parts, short, cheap, why⟩ := withinBudget_spec (fun item => max 1 (estimate item.content)) limit.toNat
        maxContextTokens.toNat (diversified kept)
      refine ⟨dropped, _, rfl, (diversified_perm kept).symm.trans parts, short, cheap, ?_⟩
      intro item isDropped
      have reason := why item isDropped
      omega
  obtain ⟨dropped, selected, same, parts, short, cheap, why⟩ := last
  have among : selected.Subperm kept := (sublist_append_left selected dropped).subperm.trans parts.symm.subperm
  obtain ⟨chosen, order, chosen_sub⟩ := among
  refine ⟨kept, chosen, dropped, refused, selected, same, all, parts, short, cheap, ?_, ?_,
    ⟨order, chosen_sub.trans sub, sound.apart.sublist chosen_sub⟩, why, reasons⟩
  · intro documentId
    have more := chosen_sub.countP_le (p := fun item => decide (item.documentId = documentId))
    rw [order.countP_eq] at more
    have bound := sound.documents documentId
    omega
  · intro source
    have more := chosen_sub.countP_le (p := fun item => decide (sourceKey item = source))
    rw [order.countP_eq] at more
    have bound := sound.sources source
    omega

def longChunk : RagChunkMatch := ⟨"1", "guide", "", "x x x x x x", 0, 1, "text", [], "chunk"⟩

def shortChunk : RagChunkMatch := ⟨"2", "notes", "", "x", 0, 1, "text", [], "chunk"⟩

theorem repeated_of_dropped : selectContextMatches [longChunk, shortChunk] 5 1 5 5 1 estimateTokens = [] ∧
    ¬ Full 5 1 estimateTokens [] shortChunk ∧ ¬ Refused 5 5 1 [] shortChunk := by
  have twin : nearDuplicate shortChunk [longChunk] 1 = true := by decide +kernel
  have first : nearDuplicate longChunk [] 1 = false := by decide +kernel
  have unique : uniqueMatches 5 5 1 [] [longChunk, shortChunk] = [longChunk] := by
    simp [uniqueMatches, first, twin]
  have alone : diversified [longChunk] = [longChunk] := by
    simp [diversified, roundRobin, served]
  refine ⟨?_, ?_, ?_⟩
  · rw [selectContextMatches, unique, alone]
    decide
  · unfold Full
    decide
  · unfold Refused
    decide +kernel

end Troop.Retrieval
