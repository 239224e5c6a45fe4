import Mathlib.Data.List.Sort

namespace Troop

open List

/-! Python's `sort` is stable: equal elements keep their order. -/

variable {α : Type} {le : α → α → Bool}

structure Preordered (le : α → α → Bool) : Prop where
  trans : ∀ a b c, le a b = true → le b c = true → le a c = true
  total : ∀ a b, (le a b || le b a) = true

variable {items : List α} {left right : List α} {κ μ : Type}

theorem Preordered.ofPair [LinearOrder κ] [LinearOrder μ] (first : α → κ) (second : α → μ) :
    Preordered fun a b => decide (first a < first b ∨ first a = first b ∧ second a ≤ second b) where
  trans a b c below above := by
    simp only [decide_eq_true_eq] at *
    rcases below with less | ⟨same, le⟩
    · rcases above with further | ⟨equal, _⟩
      · exact .inl (lt_trans less further)
      · exact .inl (equal ▸ less)
    · rcases above with further | ⟨equal, up⟩
      · exact .inl (same ▸ further)
      · exact .inr ⟨same.trans equal, le_trans le up⟩
  total a b := by
    simp only [Bool.or_eq_true, decide_eq_true_eq]
    rcases lt_trichotomy (first a) (first b) with less | same | more
    · exact .inl (.inl less)
    · rcases le_total (second a) (second b) with up | down
      · exact .inl (.inr ⟨same, up⟩)
      · exact .inr (.inr ⟨same.symm, down⟩)
    · exact .inr (.inl more)

theorem pair_antisymm [LinearOrder κ] [LinearOrder μ] {a b : κ × μ}
    (below : a.1 < b.1 ∨ a.1 = b.1 ∧ a.2 ≤ b.2) (above : b.1 < a.1 ∨ b.1 = a.1 ∧ b.2 ≤ a.2) : a = b := by
  rcases below with less | ⟨same, le⟩
  · rcases above with more | ⟨same, _⟩
    · exact absurd more (lt_asymm less)
    · exact absurd same (ne_of_gt less)
  · rcases above with more | ⟨_, ge⟩
    · exact absurd same (ne_of_gt more)
    · exact Prod.ext same (le_antisymm le ge)

theorem Preordered.refl (ordered : Preordered le) (a : α) : le a a = true := by
  simpa using ordered.total a a

theorem Preordered.filter_mergeSort (ordered : Preordered le) {kept : α → Bool}
    (tied : ∀ a ∈ items, ∀ b ∈ items, kept a = true → kept b = true → le a b = true) :
    (items.mergeSort le).filter kept = items.filter kept := by
  have sorted : (items.filter kept).Pairwise fun a b => le a b = true := by
    apply Pairwise.imp_of_mem (R := fun _ _ => True)
    · simp_all
    · exact pairwise_of_forall fun _ _ => trivial
  have within : (items.filter kept).Sublist (items.mergeSort le) :=
    sublist_mergeSort ordered.trans ordered.total sorted filter_sublist
  have again := within.filter kept
  rw [filter_filter] at again
  simp only [Bool.and_self] at again
  have same := ((mergeSort_perm items le).filter kept).length_eq
  exact (again.eq_of_length same.symm).symm

theorem Preordered.pairwise_filter (ordered : Preordered le) (kept : α → Bool) (items : List α) :
    ((items.mergeSort le).filter kept).Pairwise fun a b => le a b = true :=
  (pairwise_mergeSort ordered.trans ordered.total items).filter kept

theorem Preordered.mergeSort_eq_of_perm (ordered : Preordered le) (perm : left.Perm right)
    (tied : ∀ a ∈ left, ∀ b ∈ left, le a b = true → le b a = true → a = b) : left.mergeSort le = right.mergeSort le := by
  have sorted := pairwise_mergeSort ordered.trans ordered.total
  have same : (left.mergeSort le).Perm (right.mergeSort le) :=
    (mergeSort_perm left le).trans (perm.trans (mergeSort_perm right le).symm)
  refine Perm.eq_of_pairwise ?_ (sorted left) (sorted right) same
  intro a b first second below above
  have among : b ∈ left := perm.mem_iff.mpr (mem_mergeSort.mp second)
  exact tied a (mem_mergeSort.mp first) b among below above

theorem eq_of_fibers {κ : Type} [DecidableEq κ] {key : α → κ} {below : κ → κ → Prop}
    (antisymm : ∀ a b, below a b → below b a → a = b) (sorted : left.Pairwise fun a b => below (key a) (key b))
    (sorted' : right.Pairwise fun a b => below (key a) (key b))
    (same : ∀ k, left.filter (fun item => key item = k) = right.filter (fun item => key item = k)) : left = right := by
  induction left generalizing right with
  | nil =>
    cases right with
    | nil => rfl
    | cons b others =>
      have head := same (key b)
      simp at head
  | cons a rest ih =>
    cases right with
    | nil =>
      have head := same (key a)
      simp at head
    | cons b others =>
      obtain ⟨first, tail⟩ := pairwise_cons.mp sorted
      obtain ⟨first', tail'⟩ := pairwise_cons.mp sorted'
      have atA := same (key a)
      have atB := same (key b)
      have keys : key a = key b := by
        by_contra apart
        rw [filter_cons_of_pos (by simp), filter_cons_of_neg (by simpa using Ne.symm apart)] at atA
        rw [filter_cons_of_neg (by simpa using apart), filter_cons_of_pos (by simp)] at atB
        have later : a ∈ others := (mem_filter.mp (atA ▸ mem_cons_self)).1
        have later' : b ∈ rest := (mem_filter.mp (atB ▸ mem_cons_self)).1
        exact apart (antisymm _ _ (first b later') (first' a later))
      rw [filter_cons_of_pos (by simp), filter_cons_of_pos (by simp [keys])] at atA
      obtain rfl := (cons.inj atA).1
      congr 1
      apply ih tail tail'
      intro k
      have there := same k
      rw [filter_cons, filter_cons] at there
      split at there
      · exact (cons.inj there).2
      · exact there

def leastFirst (le : α → α → Bool) (items : List α) : Option α :=
  items.find? fun item => items.all (le item)

theorem find?_congr_mem {kept other : α → Bool} (same : ∀ item ∈ items, kept item = other item) :
    items.find? kept = items.find? other := by
  rw [← head?_filter, ← head?_filter, filter_congr same]

theorem leastFirst_congr {le other : α → α → Bool}
    (same : ∀ a ∈ items, ∀ b ∈ items, le a b = other a b) : leastFirst le items = leastFirst other items := by
  apply find?_congr_mem
  intro item member
  rw [Bool.eq_iff_iff, all_eq_true, all_eq_true]
  constructor <;> simp_all

theorem leastFirst_map {β : Type} (le : α → α → Bool) (f : β → α) (items : List β) :
    leastFirst le (items.map f) = (leastFirst (fun a b => le (f a) (f b)) items).map f := by
  unfold leastFirst
  rw [find?_map]
  congr 1
  apply find?_congr_mem
  grind

theorem leastFirst_spec {le : α → α → Bool} {least : α} (found : leastFirst le items = some least) :
    least ∈ items ∧ ∀ item ∈ items, le least item = true := by
  have all := find?_some found
  exact ⟨mem_of_find?_eq_some found, all_eq_true.mp all⟩

theorem Preordered.find?_mergeSort (ordered : Preordered le) (kept : α → Bool) (items : List α) :
    (items.mergeSort le).find? kept = leastFirst le (items.filter kept) := by
  have perm := (mergeSort_perm items le).filter kept
  rw [← head?_filter]
  cases shape : (items.mergeSort le).filter kept with
  | nil =>
    rw [shape] at perm
    rw [← perm.nil_eq]
    rfl
  | cons first rest =>
    have sorted := ordered.pairwise_filter kept items
    rw [shape] at perm sorted
    have least : (items.filter kept).all (le first) = true := by
      rw [all_eq_true]
      intro item member
      rcases mem_cons.mp (perm.mem_iff.mpr member) with rfl | later
      · exact ordered.refl item
      · exact rel_of_pairwise_cons sorted later
    let minimal := fun item => kept item && (items.filter kept).all (le item)
    have tied : ∀ a ∈ items, ∀ b ∈ items, minimal a = true → minimal b = true → le a b = true := by grind
    have stable := ordered.filter_mergeSort tied
    have split (list : List α) :
        list.filter minimal = (list.filter kept).filter fun item => (items.filter kept).all (le item) := by
      rw [filter_filter]
      apply filter_congr
      intro item _
      exact Bool.and_comm _ _
    rw [split, split, shape] at stable
    rw [leastFirst, ← head?_filter, ← stable, filter_cons, if_pos least]
    rfl

end Troop
