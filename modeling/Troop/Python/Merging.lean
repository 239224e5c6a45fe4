import Mathlib.Data.List.Dedup

namespace Troop

open List

variable {α κ : Type} [DecidableEq κ]

/-- `for row in rows: if row.key not in seen: seen.add(row.key); out.append(row)`, with the keys of `out` seen -/
def mergeUnique (key : α → κ) (out rows : List α) : List α :=
  rows.foldl (fun out row => if key row ∈ out.map key then out else out ++ [row]) out

variable {key : α → κ} {out rows : List α}

theorem mergeUnique_cons_seen {row : α} (seen : key row ∈ out.map key) :
    mergeUnique key out (row :: rows) = mergeUnique key out rows := by
  rw [mergeUnique, foldl_cons, if_pos seen, mergeUnique]

theorem mergeUnique_cons_new {row : α} (unseen : key row ∉ out.map key) :
    mergeUnique key out (row :: rows) = mergeUnique key (out ++ [row]) rows := by
  rw [mergeUnique, foldl_cons, if_neg unseen, mergeUnique]

theorem mergeUnique_append {more : List α} :
    mergeUnique key out (rows ++ more) = mergeUnique key (mergeUnique key out rows) more := foldl_append

theorem nodup_mergeUnique (distinct : (out.map key).Nodup) : ((mergeUnique key out rows).map key).Nodup := by
  induction rows generalizing out with
  | nil => exact distinct
  | cons row rest ih =>
    by_cases seen : key row ∈ out.map key
    · rw [mergeUnique_cons_seen seen]
      exact ih distinct
    · rw [mergeUnique_cons_new seen]
      apply ih
      rw [map_append, map_singleton]
      exact nodup_append'.mpr ⟨distinct, nodup_singleton _, by simpa using seen⟩

theorem mergeUnique_eq (distinct : (rows.map key).Nodup) :
    mergeUnique key out rows = out ++ rows.filter fun row => key row ∉ out.map key := by
  induction rows generalizing out with
  | nil => exact (append_nil out).symm
  | cons row rest ih =>
    rw [map_cons, nodup_cons] at distinct
    obtain ⟨absent, apart⟩ := distinct
    by_cases seen : key row ∈ out.map key
    · rw [mergeUnique_cons_seen seen, ih apart, filter_cons_of_neg (by simpa using seen)]
    have unchanged : (rest.filter fun other => key other ∉ (out ++ [row]).map key) =
        rest.filter fun other => key other ∉ out.map key := by
      apply filter_congr
      intro other member
      have different : key other ≠ key row := fun same => absent (same ▸ mem_map_of_mem member)
      simp [different]
    rw [mergeUnique_cons_new seen, ih apart, unchanged, filter_cons_of_pos (by simpa using seen), append_assoc]
    rfl

theorem of_mem_mergeUnique {row : α} (member : row ∈ mergeUnique key out rows) : row ∈ out ∨ row ∈ rows := by
  induction rows generalizing out with
  | nil => exact .inl member
  | cons head rest ih =>
    by_cases seen : key head ∈ out.map key
    · rw [mergeUnique_cons_seen seen] at member
      exact (ih member).imp_right (mem_cons_of_mem _)
    · rw [mergeUnique_cons_new seen] at member
      rcases ih member with old | later
      · rcases mem_append.mp old with first | same
        · exact .inl first
        · exact .inr (mem_singleton.mp same ▸ mem_cons_self)
      · exact .inr (mem_cons_of_mem _ later)

theorem mem_keys_mergeUnique {name : κ} :
    name ∈ (mergeUnique key out rows).map key ↔ name ∈ out.map key ∨ name ∈ rows.map key := by
  induction rows generalizing out with
  | nil => simp [mergeUnique]
  | cons row rest ih =>
    rw [map_cons, mem_cons]
    by_cases seen : key row ∈ out.map key
    · rw [mergeUnique_cons_seen seen, ih]
      constructor
      · exact Or.imp_right Or.inr
      intro either
      rcases either with first | same | later
      · exact .inl first
      · exact .inl (same ▸ seen)
      · exact .inr later
    · rw [mergeUnique_cons_new seen, ih, map_append, map_singleton, mem_append, mem_singleton, or_assoc]

theorem length_mergeUnique (distinct : (out.map key).Nodup) :
    (mergeUnique key out rows).length = ((out ++ rows).map key).dedup.length := by
  have same : ((mergeUnique key out rows).map key).Perm ((out ++ rows).map key).dedup := by
    rw [perm_ext_iff_of_nodup (nodup_mergeUnique distinct) (nodup_dedup _)]
    intro name
    rw [mem_keys_mergeUnique, mem_dedup, map_append, mem_append]
  rw [← length_map (f := key), same.length_eq]

end Troop
