import Mathlib.Algebra.Order.BigOperators.Group.List
import Mathlib.Algebra.Order.Field.Basic
import Troop.Retrieval.Matches

/-! What the fusion of rankings keeps of their order. -/

namespace Troop.Retrieval.Ranking

open List

/-- `reciprocal_rank_fusion` -/
def reciprocalRankFusion (rankings : List (List RagChunkMatch)) (limit rankConstant : Int) : List RagChunkMatch :=
  if limit ≤ 0 then [] else Retrieval.reciprocalRankFusion rankings limit.toNat rankConstant.toNat

def ids (ranking : List RagChunkMatch) : List String := ranking.map (·.chunkId)

def share (rankConstant rank : Nat) (seen : List String) (ranking : List RagChunkMatch) (id : String) : ℚ :=
  if id ∈ seen ∨ id ∉ ids ranking then 0 else 1 / (max 1 rankConstant + (rank + (ids ranking).idxOf id : Nat))

def total (rankConstant : Nat) (rankings : List (List RagChunkMatch)) (id : String) : ℚ :=
  (rankings.map fun ranking => share rankConstant 1 [] ranking id).sum

structure Tallied (candidates : Fused) (read : List RagChunkMatch) (score : String → ℚ) : Prop where
  distinct : (candidates.map (·.1.chunkId)).Nodup
  scored : ∀ candidate ∈ candidates, candidate.2 = score candidate.1.chunkId
  listed : ∀ id, id ∈ candidates.map (·.1.chunkId) ↔ id ∈ ids read
  found : ∀ candidate ∈ candidates, candidate.1 ∈ read
  absent : ∀ id, id ∉ ids read → score id = 0

section Tally

variable {rankConstant : Nat} {candidates : Fused} {read : List RagChunkMatch} {score : String → ℚ}

theorem divisor_pos (rankConstant place : Nat) : (0 : ℚ) < (max 1 rankConstant : Nat) + (place : Nat) := by
  have one : (0 : ℚ) < (max 1 rankConstant : Nat) := Nat.cast_pos.mpr (Nat.lt_of_lt_of_le Nat.one_pos (Nat.le_max_left _ _))
  exact add_pos_of_pos_of_nonneg one (Nat.cast_nonneg _)

theorem share_pos (rankConstant place : Nat) : (0 : ℚ) < 1 / (max 1 rankConstant + (place : Nat)) :=
  one_div_pos.mpr (divisor_pos rankConstant place)

theorem share_nonneg (rank : Nat) (seen : List String) (ranking : List RagChunkMatch) (id : String) :
    0 ≤ share rankConstant rank seen ranking id := by
  unfold share
  split
  · exact le_refl _
  · exact (share_pos rankConstant _).le

theorem map_addScore (item : RagChunkMatch) (added : ℚ) (isThere : candidates.any (fun other => other.1.chunkId = item.chunkId)) :
    (addScore candidates item added).map (·.1.chunkId) = candidates.map (·.1.chunkId) := by
  unfold addScore
  rw [if_pos isThere, map_map]
  rfl

theorem Tallied.addScore (tallied : Tallied candidates read score) (item : RagChunkMatch) (added : ℚ) :
    Tallied (addScore candidates item added) (read ++ [item])
      fun id => score id + if id = item.chunkId then added else 0 := by
  have extended (id : String) : id ∈ ids (read ++ [item]) ↔ id ∈ ids read ∨ id = item.chunkId := by simp [ids, eq_comm]
  have absent (id : String) (new : id ∉ ids (read ++ [item])) : (score id + if id = item.chunkId then added else 0) = 0 := by
    rw [extended, not_or] at new
    rw [tallied.absent id new.1, if_neg new.2, add_zero]
  by_cases isThere : candidates.any fun other => other.1.chunkId = item.chunkId
  · have same := map_addScore item added isThere
    have known : item.chunkId ∈ ids read := by
      rw [← tallied.listed]
      simpa using isThere
    refine ⟨same ▸ tallied.distinct, ?_, ?_, ?_, absent⟩
    · intro candidate member
      unfold Retrieval.addScore at member
      rw [if_pos isThere] at member
      obtain ⟨old, before, rfl⟩ := mem_map.mp member
      dsimp only
      rw [← tallied.scored old before]
      split <;> simp
    · intro id
      rw [same, tallied.listed, extended]
      constructor
      · exact Or.inl
      · rintro (old | rfl)
        · exact old
        · exact known
    · intro candidate member
      unfold Retrieval.addScore at member
      rw [if_pos isThere] at member
      obtain ⟨old, before, rfl⟩ := mem_map.mp member
      exact mem_append_left _ (tallied.found old before)
  · have fresh : item.chunkId ∉ ids read := by
      rw [← tallied.listed]
      simpa using isThere
    have appended : Retrieval.addScore candidates item added = candidates ++ [(item, added)] := if_neg isThere
    rw [appended]
    refine ⟨?_, ?_, ?_, ?_, absent⟩
    · rw [map_append, nodup_append]
      refine ⟨tallied.distinct, nodup_singleton _, ?_⟩
      intro id old other last
      rw [map_singleton, mem_singleton] at last
      rintro rfl
      exact fresh (last ▸ (tallied.listed id).mp old)
    · intro candidate member
      rcases mem_append.mp member with old | last
      · have known := (tallied.listed _).mp (mem_map_of_mem old)
        have apart : candidate.1.chunkId ≠ item.chunkId := by
          intro same
          exact fresh (same ▸ known)
        rw [if_neg apart, add_zero]
        exact tallied.scored candidate old
      · rw [mem_singleton.mp last, if_pos rfl, tallied.absent _ fresh, zero_add]
    · intro id
      rw [extended, map_append, mem_append, tallied.listed]
      simp
    · intro candidate member
      rcases mem_append.mp member with old | last
      · exact mem_append_left _ (tallied.found candidate old)
      · rw [mem_singleton.mp last]
        exact mem_append_right _ mem_cons_self

theorem share_skip {rank : Nat} {seen : List String} {item : RagChunkMatch} (rest : List RagChunkMatch) (id : String)
    (skipped : item.chunkId ∈ seen) :
    share rankConstant (rank + 1) seen rest id = share rankConstant rank seen (item :: rest) id := by
  unfold share
  by_cases before : id ∈ seen
  · simp [before]
  · have apart : item.chunkId ≠ id := by
      rintro rfl
      exact before skipped
    simp [before, ids, idxOf_cons_ne _ apart, apart.symm, Nat.add_assoc, Nat.add_comm 1]

theorem share_take {rank : Nat} {seen : List String} {item : RagChunkMatch} (rest : List RagChunkMatch) (id : String)
    (new : item.chunkId ∉ seen) :
    (if id = item.chunkId then 1 / (((max 1 rankConstant : Nat) : ℚ) + rank) else 0) +
        share rankConstant (rank + 1) (item.chunkId :: seen) rest id =
      share rankConstant rank seen (item :: rest) id := by
  unfold share
  by_cases same : id = item.chunkId
  · subst same
    simp [new, ids]
  · simp [same, ids, idxOf_cons_ne _ (Ne.symm same), Nat.add_assoc, Nat.add_comm 1]

theorem Tallied.skip (tallied : Tallied candidates read score) {item : RagChunkMatch} (known : item.chunkId ∈ ids read) :
    Tallied candidates (read ++ [item]) score := by
  have extended (id : String) : id ∈ ids (read ++ [item]) ↔ id ∈ ids read := by
    unfold ids at known ⊢
    rw [map_append, mem_append, map_singleton, mem_singleton]
    constructor
    · rintro (old | rfl)
      · exact old
      · exact known
    · exact Or.inl
  exact ⟨tallied.distinct, tallied.scored, fun id => (tallied.listed id).trans (extended id).symm,
    fun candidate member => mem_append_left _ (tallied.found candidate member),
    fun id new => tallied.absent id fun old => new ((extended id).mpr old)⟩

theorem Tallied.addRanking (tallied : Tallied candidates read score) (rank : Nat) {seen : List String}
    (old : ∀ id ∈ seen, id ∈ ids read) (ranking : List RagChunkMatch) :
    Tallied (addRanking rankConstant candidates rank seen ranking) (read ++ ranking)
      fun id => score id + share rankConstant rank seen ranking id := by
  induction ranking generalizing candidates read score rank seen with
  | nil => simpa [Retrieval.addRanking, share, ids] using tallied
  | cons item rest ih =>
    have grown {id : String} (before : id ∈ ids read) : id ∈ ids (read ++ [item]) := by
      unfold ids at before ⊢
      rw [map_append]
      exact mem_append_left _ before
    unfold Retrieval.addRanking
    rw [append_cons]
    split
    · rename_i skipped
      have later := ih (tallied.skip (old _ skipped)) (rank + 1) fun id before => grown (old id before)
      simpa only [share_skip rest _ skipped] using later
    · rename_i new
      have seen_read : ∀ id ∈ item.chunkId :: seen, id ∈ ids (read ++ [item]) := by
        intro id before
        rcases mem_cons.mp before with rfl | before
        · simp [ids]
        · exact grown (old id before)
      have later := ih (tallied.addScore item (1 / (max 1 rankConstant + rank))) (rank + 1) seen_read
      simpa only [add_assoc, share_take rest _ new] using later

theorem tallied_rankings (rankings : List (List RagChunkMatch)) (tallied : Tallied candidates read score) :
    Tallied (rankings.foldl (fun candidates ranking => addRanking rankConstant candidates 1 [] ranking) candidates)
      (read ++ rankings.flatten) fun id => score id + total rankConstant rankings id := by
  induction rankings generalizing candidates read score with
  | nil => simpa [total] using tallied
  | cons ranking rest ih =>
    have first := @Tallied.addRanking rankConstant _ _ _ tallied 1 [] (by simp) ranking
    have later := ih first
    simpa only [foldl_cons, flatten_cons, total, map_cons, sum_cons, append_assoc, add_assoc] using later

theorem total_lt {rankings : List (List RagChunkMatch)} {a b : String}
    (before : ∀ ranking ∈ rankings, b ∈ ids ranking → (ids ranking).idxOf a < (ids ranking).idxOf b)
    (isThere : ∃ ranking ∈ rankings, b ∈ ids ranking) : total rankConstant rankings b < total rankConstant rankings a := by
  have more (ranking : List RagChunkMatch) (member : ranking ∈ rankings) (inside : b ∈ ids ranking) :
      share rankConstant 1 [] ranking b < share rankConstant 1 [] ranking a := by
    have first := before ranking member inside
    have there : a ∈ ids ranking := idxOf_lt_length_iff.mp (first.trans (idxOf_lt_length_of_mem inside))
    simp only [share, not_mem_nil, inside, there, not_true_eq_false, or_self, if_false]
    apply one_div_lt_one_div_of_lt (divisor_pos rankConstant _)
    have less : ((1 + (ids ranking).idxOf a : Nat) : ℚ) < (1 + (ids ranking).idxOf b : Nat) := Nat.cast_lt.mpr (by omega)
    simpa using less
  apply sum_lt_sum
  · intro ranking member
    by_cases inside : b ∈ ids ranking
    · exact (more ranking member inside).le
    · rw [share, if_pos (.inr inside)]
      exact share_nonneg _ _ _ _
  · obtain ⟨ranking, member, inside⟩ := isThere
    exact ⟨ranking, member, more ranking member inside⟩

theorem total_pos {rankings : List (List RagChunkMatch)} {id : String} (isThere : id ∈ ids rankings.flatten) :
    0 < total rankConstant rankings id := by
  obtain ⟨item, inside, rfl⟩ := mem_map.mp isThere
  obtain ⟨ranking, member, inside⟩ := mem_flatten.mp inside
  have positive : 0 < share rankConstant 1 [] ranking item.chunkId := by
    have there : item.chunkId ∈ ids ranking := mem_map_of_mem inside
    rw [share, if_neg (by simp [there])]
    exact share_pos rankConstant _
  have sum := single_le_sum (fun added isAdded => ?_) (share rankConstant 1 [] ranking item.chunkId)
    (mem_map_of_mem (f := fun ranking => share rankConstant 1 [] ranking item.chunkId) member)
  · exact positive.trans_le sum
  · obtain ⟨other, _, rfl⟩ := mem_map.mp isAdded
    exact share_nonneg _ _ _ _

end Tally

section Fused

variable {rankings : List (List RagChunkMatch)} {limit rankConstant : Int}

def ranked (rankings : List (List RagChunkMatch)) (rankConstant : Nat) : Fused :=
  (rankings.foldl (fun candidates ranking => addRanking rankConstant candidates 1 [] ranking) []).mergeSort fun a b => b.2 ≤ a.2

theorem tallied_ranked (rankings : List (List RagChunkMatch)) (rankConstant : Nat) :
    Tallied (ranked rankings rankConstant) rankings.flatten (total rankConstant rankings) := by
  have start : Tallied [] [] fun _ => 0 := ⟨nodup_nil, by simp, by simp [ids], by simp, fun _ _ => rfl⟩
  have tallied := @tallied_rankings rankConstant _ _ _ rankings start
  simp only [nil_append, zero_add] at tallied
  have perm := mergeSort_perm (rankings.foldl (fun candidates ranking => addRanking rankConstant candidates 1 [] ranking) [])
    fun a b => b.2 ≤ a.2
  exact ⟨(perm.map _).nodup_iff.mpr tallied.distinct, fun candidate member => tallied.scored candidate (perm.mem_iff.mp member),
    fun id => (perm.map _).mem_iff.trans (tallied.listed id), fun candidate member => tallied.found candidate (perm.mem_iff.mp member),
    tallied.absent⟩

theorem ranked_sorted (rankings : List (List RagChunkMatch)) (rankConstant : Nat) :
    (ranked rankings rankConstant).Pairwise fun a b => b.2 ≤ a.2 := by
  have sorted := @List.pairwise_mergeSort (RagChunkMatch × ℚ) (fun a b => b.2 ≤ a.2) (fun a b c => by simpa using fun x y => y.trans x)
    (fun a b => by simpa using le_total b.2 a.2)
    (rankings.foldl (fun candidates ranking => addRanking rankConstant candidates 1 [] ranking) [])
  exact sorted.imp of_decide_eq_true

theorem fused_eq (positive : 0 < limit) : ∃ best,
    reciprocalRankFusion rankings limit rankConstant =
      ((ranked rankings rankConstant.toNat).take limit.toNat).map (fun candidate => { candidate.1 with score := candidate.2 / best }) ∧
      ∀ first ∈ (ranked rankings rankConstant.toNat).head?, first.2 = best := by
  rw [reciprocalRankFusion, if_neg (by omega)]
  obtain ⟨n, count⟩ := Nat.exists_eq_succ_of_ne_zero (show limit.toNat ≠ 0 by omega)
  unfold Retrieval.reciprocalRankFusion
  cases shape : ranked rankings rankConstant.toNat with
  | nil =>
    refine ⟨0, ?_, by simp⟩
    unfold ranked at shape
    simp [shape]
  | cons first rest =>
    refine ⟨first.2, ?_, by simp⟩
    unfold ranked at shape
    simp [shape, count]

theorem ranked_score {best : ℚ} {rankConstant : Nat} (first : ∀ head ∈ (ranked rankings rankConstant).head?, head.2 = best)
    {candidate : RagChunkMatch × ℚ} (member : candidate ∈ ranked rankings rankConstant) :
    0 < candidate.2 ∧ candidate.2 ≤ best := by
  have tallied := tallied_ranked rankings rankConstant
  have sorted := ranked_sorted rankings rankConstant
  constructor
  · rw [tallied.scored candidate member]
    exact total_pos ((tallied.listed _).mp (mem_map_of_mem member))
  · cases shape : ranked rankings rankConstant with
    | nil =>
      rw [shape] at member
      cases member
    | cons head rest =>
      rw [shape] at member sorted first
      rw [← first head rfl]
      rcases mem_cons.mp member with rfl | later
      · exact le_refl _
      · exact (pairwise_cons.mp sorted).1 candidate later

theorem ranked_before {rankConstant : Nat} {a b : String} {place : Nat}
    (isThere : (ids ((ranked rankings rankConstant).map Prod.fst))[place]? = some b)
    (more : total rankConstant rankings b < total rankConstant rankings a) :
    ∃ earlier < place, (ids ((ranked rankings rankConstant).map Prod.fst))[earlier]? = some a := by
  have tallied := tallied_ranked rankings rankConstant
  have read {n : Nat} {id : String} (here : (ids ((ranked rankings rankConstant).map Prod.fst))[n]? = some id) :
      ∃ candidate, (ranked rankings rankConstant)[n]? = some candidate ∧ candidate.2 = total rankConstant rankings id := by
    unfold ids at here
    rw [getElem?_map, getElem?_map] at here
    obtain ⟨chunk, found, rfl⟩ := Option.map_eq_some_iff.mp here
    obtain ⟨candidate, there, rfl⟩ := Option.map_eq_some_iff.mp found
    exact ⟨candidate, there, tallied.scored candidate (mem_of_getElem? there)⟩
  have listed : a ∈ ids ((ranked rankings rankConstant).map Prod.fst) := by
    by_contra missing
    have none := tallied.absent a fun old => missing (by simpa [ids] using (tallied.listed a).mpr old)
    obtain ⟨candidate, found, score⟩ := read isThere
    have known := (tallied.listed _).mp (mem_map_of_mem (mem_of_getElem? found))
    have positive := @total_pos rankConstant rankings _ known
    rw [← tallied.scored candidate (mem_of_getElem? found), score] at positive
    rw [none] at more
    exact lt_asymm more positive
  obtain ⟨earlier, here⟩ := mem_iff_getElem?.mp listed
  refine ⟨earlier, ?_, here⟩
  by_contra late
  obtain ⟨first, found, score⟩ := read isThere
  obtain ⟨second, found', score'⟩ := read here
  rcases Nat.lt_or_eq_of_le (Nat.not_lt.mp late) with later | same
  · obtain ⟨short, rfl⟩ := List.getElem?_eq_some_iff.mp found
    obtain ⟨short', rfl⟩ := List.getElem?_eq_some_iff.mp found'
    have below := pairwise_iff_getElem.mp (ranked_sorted rankings rankConstant) place earlier short short' later
    rw [score, score'] at below
    exact absurd more (not_lt.mpr below)
  · rw [same, here] at isThere
    cases isThere
    exact lt_irrefl _ more

/-- Fusion returns distinct chunks of the rankings, at most `limit`, by scores from one down that are positive, and no chunk
    without each one that stands before it in every ranking that has it. -/
theorem fusion_respects_order (rankings : List (List RagChunkMatch)) (limit rankConstant : Int) :
    let fused := reciprocalRankFusion rankings limit rankConstant
    (ids fused).Nodup ∧ (fused.length : Int) ≤ max 0 limit ∧
    (∀ item ∈ fused, ∃ ranking ∈ rankings, ∃ source ∈ ranking, item = { source with score := item.score }) ∧
    (∀ item ∈ fused, 0 < item.score ∧ item.score ≤ 1) ∧ fused.Pairwise (fun item later => later.score ≤ item.score) ∧
    (∀ first ∈ fused.head?, first.score = 1) ∧
    ∀ a b : String, (∀ ranking ∈ rankings, b ∈ ids ranking → (ids ranking).idxOf a < (ids ranking).idxOf b) →
      ∀ place : Nat, (ids fused)[place]? = some b → ∃ earlier < place, (ids fused)[earlier]? = some a := by
  by_cases positive : 0 < limit
  · obtain ⟨best, same, first⟩ := @fused_eq rankings limit rankConstant positive
    have tallied := tallied_ranked rankings rankConstant.toNat
    have kept := take_sublist limit.toNat (ranked rankings rankConstant.toNat)
    have named : ids (reciprocalRankFusion rankings limit rankConstant) =
        (ids ((ranked rankings rankConstant.toNat).map Prod.fst)).take limit.toNat := by
      simp [same, ids, Function.comp_def, map_take]
    have scores {item : RagChunkMatch} (isThere : item ∈ reciprocalRankFusion rankings limit rankConstant) :
        ∃ candidate ∈ ranked rankings rankConstant.toNat, item = { candidate.1 with score := candidate.2 / best } := by
      rw [same] at isThere
      obtain ⟨candidate, member, rfl⟩ := mem_map.mp isThere
      exact ⟨candidate, kept.subset member, rfl⟩
    refine ⟨?_, ?_, ?_, ?_, ?_, ?_, ?_⟩
    · rw [named]
      exact (take_sublist _ _).nodup (by simpa [ids, Function.comp_def] using tallied.distinct)
    · simp only [same, length_map, length_take]
      omega
    · intro item isThere
      obtain ⟨candidate, member, rfl⟩ := scores isThere
      obtain ⟨ranking, listed, inside⟩ := mem_flatten.mp (tallied.found candidate member)
      exact ⟨ranking, listed, candidate.1, inside, rfl⟩
    · intro item isThere
      obtain ⟨candidate, member, rfl⟩ := scores isThere
      obtain ⟨above, below⟩ := ranked_score first member
      have some_ := above.trans_le below
      exact ⟨div_pos above some_, (div_le_one some_).mpr below⟩
    · rw [same, pairwise_map]
      refine ((ranked_sorted rankings rankConstant.toNat).sublist kept).imp_of_mem ?_
      intro candidate later member _ below
      obtain ⟨above, most⟩ := ranked_score first (kept.subset member)
      exact div_le_div_of_nonneg_right below (above.trans_le most).le
    · intro head isThere
      rw [same, head?_map, head?_take, if_neg (by omega)] at isThere
      obtain ⟨candidate, top, rfl⟩ := Option.map_eq_some_iff.mp isThere
      obtain ⟨above, _⟩ := ranked_score first (mem_of_mem_head? top)
      have best_eq := first candidate top
      rw [← best_eq]
      exact div_self above.ne'
    · intro a b before place isThere
      rw [named, getElem?_take] at isThere
      split at isThere
      · rename_i short
        have listed : b ∈ ids rankings.flatten := by
          rw [← tallied.listed]
          simpa [ids] using mem_of_getElem? isThere
        obtain ⟨item, inside, rfl⟩ := mem_map.mp listed
        obtain ⟨ranking, member, inside⟩ := mem_flatten.mp inside
        have more := @total_lt rankConstant.toNat _ a _ before ⟨ranking, member, mem_map_of_mem inside⟩
        obtain ⟨earlier, less, here⟩ := ranked_before isThere more
        exact ⟨earlier, less, by rw [named, getElem?_take, if_pos (less.trans short), here]⟩
      · cases isThere
  · have none : reciprocalRankFusion rankings limit rankConstant = [] := if_pos (not_lt.mp positive)
    rw [none]
    simp [ids]

end Fused

end Troop.Retrieval.Ranking
