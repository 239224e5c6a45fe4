import Mathlib.Data.List.Sort

/-! Rows read in descending order of a key that no two of them share. -/

namespace Troop.Pagination

open List

variable {α κ : Type}

def Keyed (key : α → κ) (rows : List α) : Prop := (rows.map key).Nodup

section Keys

variable {key : α → κ}

theorem Keyed.filter {rows : List α} (keyed : Keyed key rows) (kept : α → Bool) : Keyed key (rows.filter kept) :=
  keyed.sublist (filter_sublist.map key)

theorem Keyed.perm {rows others : List α} (keyed : Keyed key rows) (same : others.Perm rows) : Keyed key others :=
  (same.map key).nodup_iff.mpr keyed

end Keys

variable [LinearOrder κ]

/-- `ORDER BY key DESC` -/
def descending (key : α → κ) (rows : List α) : List α := rows.insertionSort fun a b => key b ≤ key a

def Falling (key : α → κ) (rows : List α) : Prop := rows.Pairwise fun a b => key b < key a

variable {key : α → κ}

instance fallingIrrefl : Std.Irrefl fun a b : α => key b < key a := ⟨fun _ => lt_irrefl _⟩

variable {rows : List α} {row : α} {n : Nat}

@[simp] theorem mem_descending : row ∈ descending key rows ↔ row ∈ rows :=
  mem_insertionSort _

theorem descending_perm (rows : List α) : (descending key rows).Perm rows := perm_insertionSort _ rows

@[simp] theorem length_descending (rows : List α) : (descending key rows).length = rows.length :=
  (descending_perm rows).length_eq

theorem falling_descending (keyed : Keyed key rows) : Falling key (descending key rows) := by
  have sorted : (descending key rows).Pairwise fun a b => key b ≤ key a := pairwise_insertionSort _ rows
  have distinct : (descending key rows).Pairwise fun a b => key a ≠ key b :=
    pairwise_map.mp (keyed.perm (descending_perm rows))
  apply (sorted.and distinct).imp
  intro a b ⟨below, apart⟩
  exact lt_of_le_of_ne below (Ne.symm apart)

theorem Falling.sublist {rows kept : List α} (falling : Falling key rows) (sub : kept.Sublist rows) : Falling key kept :=
  Pairwise.sublist sub falling

theorem Falling.nodup (falling : Falling key rows) : rows.Nodup := by
  apply Pairwise.imp _ falling
  intro a b below same
  exact absurd below (same ▸ lt_irrefl _)

theorem Falling.ext {rows others : List α} (falling : Falling key rows) (same : Falling key others)
    (members : ∀ row, row ∈ rows ↔ row ∈ others) : rows = others := by
  exact Pairwise.eq_of_mem_iff falling same members

theorem descending_filter (keyed : Keyed key rows) (kept : α → Bool) :
    descending key (rows.filter kept) = (descending key rows).filter kept := by
  apply Falling.ext (falling_descending (keyed.filter kept)) ((falling_descending keyed).sublist filter_sublist)
  simp_all

theorem mem_take_filter {kept : α → Bool} (first : row ∈ rows.take n)
    (keeps : kept row = true) : row ∈ (rows.filter kept).take n := by
  induction rows generalizing n with
  | nil => simp at first
  | cons head rest ih =>
    cases n with
    | zero => simp at first
    | succ n =>
      rw [take_succ_cons, mem_cons] at first
      rcases first with rfl | later
      · simp_all
      · by_cases also : kept head = true
        · simp_all
        · grind

theorem take_of_sublist {rows kept : List α} (distinct : rows.Nodup) (sub : kept.Sublist rows)
    (first : ∀ row ∈ rows.take n, row ∈ kept) : kept.take n = rows.take n := by
  induction rows generalizing n kept with
  | nil => rw [sublist_nil.mp sub]
  | cons head rest ih =>
    obtain ⟨absent, apart⟩ := nodup_cons.mp distinct
    cases n with
    | zero => rfl
    | succ n =>
      have there : head ∈ kept := first head (by simp)
      cases sub with
      | cons _ later => exact absurd (later.subset there) absent
      | @cons_cons others _ _ later =>
        rw [take_succ_cons, take_succ_cons]
        congr 1
        apply ih apart later
        intro row member
        have kept := first row (mem_cons_of_mem _ member)
        rcases mem_cons.mp kept with rfl | found
        · exact absurd (mem_of_mem_take member) absent
        · exact found

end Troop.Pagination
