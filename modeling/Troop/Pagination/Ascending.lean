import Mathlib.Data.List.Nodup
import Mathlib.Data.List.Sort

/-! Rows read page by page in ascending order of a key, each page from the last row of the one before. -/

namespace Troop.Pagination

open List

variable {α κ τ : Type}

/-- A page of at most `limit` of the rows fetched, and the token of its last row where there are more. -/
def pageOf (tokenFromRow : α → τ) (rows : List α) (limit : Nat) : List α × Option τ :=
  if limit < rows.length then (rows.take limit, (rows.take limit).getLast?.map tokenFromRow) else (rows, none)

inductive Reads (fetch : Option τ → List α × Option τ) : Option τ → List (List α) → Prop
  | last {cursor : Option τ} {page : List α} (fetched : fetch cursor = (page, none)) : Reads fetch cursor [page]
  | next {cursor : Option τ} {page : List α} {token : τ} {pages : List (List α)} (fetched : fetch cursor = (page, some token))
      (rest : Reads fetch (some token) pages) : Reads fetch cursor (page :: pages)

section Order

variable [LinearOrder κ] {key : α → κ}

/-- `ORDER BY key ASC` -/
def ascending (key : α → κ) (rows : List α) : List α := rows.insertionSort fun a b => key a ≤ key b

def Rising (key : α → κ) (rows : List α) : Prop := rows.Pairwise fun a b => key a < key b

instance ascendingTrans : IsTrans α fun a b => key a ≤ key b := ⟨fun _ _ _ up more => le_trans up more⟩

instance ascendingTotal : Std.Total fun a b : α => key a ≤ key b := ⟨fun _ _ => le_total _ _⟩

instance risingAntisymm : Std.Antisymm fun a b : α => key a < key b := ⟨fun _ _ up down => absurd up (lt_asymm down)⟩

instance risingIrrefl : Std.Irrefl fun a b : α => key a < key b := ⟨fun _ => lt_irrefl _⟩

theorem pairwise_ascending (rows : List α) : (ascending key rows).Pairwise fun a b => key a ≤ key b :=
  pairwise_insertionSort _ rows

theorem mem_ascending {rows : List α} {row : α} : row ∈ ascending key rows ↔ row ∈ rows := mem_insertionSort _

theorem Rising.ascending_eq {rows : List α} (rising : Rising key rows) : ascending key rows = rows :=
  Pairwise.insertionSort_eq (rising.imp le_of_lt)

theorem Rising.sublist {rows kept : List α} (rising : Rising key rows) (sub : kept.Sublist rows) : Rising key kept :=
  Pairwise.sublist sub rising

theorem Rising.ext {rows others : List α} (rising : Rising key rows) (same : Rising key others)
    (members : ∀ row, row ∈ rows ↔ row ∈ others) : rows = others :=
  Pairwise.eq_of_mem_iff rising same members

theorem Rising.eq {rows : List α} (rising : Rising key rows) {a b : α} (first : a ∈ rows) (second : b ∈ rows)
    (same : key a = key b) : a = b := by
  have distinct : (rows.map key).Nodup := pairwise_map.mpr (rising.imp ne_of_lt)
  exact inj_on_of_nodup_map distinct first second same

theorem Rising.beyond {seen rest : List α} {last : α} (rising : Rising key (seen ++ last :: rest)) :
    (seen ++ last :: rest).filter (fun row => key last < key row) = rest := by
  obtain ⟨_, tail, below⟩ := pairwise_append.mp rising
  have none_ : (seen ++ [last]).filter (fun row => decide (key last < key row)) = [] := by
    rw [filter_eq_nil_iff]
    intro row member
    rw [decide_eq_true_eq]
    rcases mem_append.mp member with before | same
    · exact lt_asymm (below row before last mem_cons_self)
    · simp_all
  have all : rest.filter (fun row => decide (key last < key row)) = rest := by simp_all
  have split : seen ++ last :: rest = (seen ++ [last]) ++ rest := by simp
  rw [split, filter_append, none_, all, nil_append]

theorem rising_of_nodup {rows : List α} (sorted : rows.Pairwise fun a b => key a ≤ key b) (distinct : (rows.map key).Nodup) :
    Rising key rows := by
  have apart : rows.Pairwise fun a b => key a ≠ key b := pairwise_map.mp distinct
  exact Pairwise.imp (fun both => lt_of_le_of_ne both.1 both.2) (sorted.and apart)

theorem Rising.ascending_perm {rows others : List α} (rising : Rising key rows) (perm : others.Perm rows) :
    ascending key others = rows := by
  have distinct : (rows.map key).Nodup := pairwise_map.mpr (rising.imp ne_of_lt)
  have whole := (perm_insertionSort (fun a b => key a ≤ key b) others).trans perm
  have again : Rising key (ascending key others) :=
    rising_of_nodup (pairwise_ascending others) ((whole.map key).nodup_iff.mpr distinct)
  exact again.ext rising fun _ => whole.mem_iff

end Order

section Pages

variable {tokenFromRow : α → τ} {rows : List α} {limit : Nat} {fetch : Option τ → List α × Option τ}

theorem pageOf_take (rows : List α) : pageOf tokenFromRow (rows.take (limit + 1)) limit = pageOf tokenFromRow rows limit := by
  unfold pageOf
  rw [length_take, take_take]
  by_cases more : limit < rows.length
  · rw [if_pos (by omega), if_pos more, Nat.min_eq_left (Nat.le_succ limit)]
  · rw [if_neg (by omega), if_neg more, take_of_length_le (by omega)]

/-- Pages that go on where the last one ended are the rows in order. `seen` are the rows of the pages so far. -/
theorem reads_rest (positive : 1 ≤ limit)
    (fetches : ∀ seen rest, rows = seen ++ rest → fetch (seen.getLast?.map tokenFromRow) = pageOf tokenFromRow rest limit)
    (seen rest : List α) (whole : rows = seen ++ rest) :
    ∃ pages, Reads fetch (seen.getLast?.map tokenFromRow) pages ∧ pages.flatten = rest := by
  have fetched := fetches seen rest whole
  by_cases more : limit < rest.length
  · obtain ⟨page, last, taken⟩ : ∃ page last, rest.take limit = page ++ [last] := by
      rcases eq_nil_or_concat (rest.take limit) with empty | ⟨page, last, same⟩
      · grind [length, length_take, length_nil]
      · exact ⟨page, last, by rw [same, concat_eq_append]⟩
    have further : rows = (seen ++ rest.take limit) ++ rest.drop limit := by
      rw [append_assoc, take_append_drop, whole]
    obtain ⟨pages, reads, flat⟩ := reads_rest positive fetches _ _ further
    rw [taken, ← append_assoc, getLast?_concat, Option.map_some] at reads
    rw [pageOf, if_pos more, taken, getLast?_concat, Option.map_some] at fetched
    refine ⟨(page ++ [last]) :: pages, .next fetched reads, ?_⟩
    rw [flatten_cons, flat, ← taken, take_append_drop]
  · rw [pageOf, if_neg more] at fetched
    exact ⟨[rest], .last fetched, by simp⟩
termination_by rest.length
decreasing_by
  rw [length_drop]
  omega

theorem reads_all (positive : 1 ≤ limit)
    (fetches : ∀ seen rest, rows = seen ++ rest → fetch (seen.getLast?.map tokenFromRow) = pageOf tokenFromRow rest limit) :
    ∃ pages, Reads fetch none pages ∧ pages.flatten = rows := reads_rest positive fetches [] rows rfl

end Pages

end Troop.Pagination
