import Mathlib.Data.List.Basic

namespace Troop

open List

abbrev Dict (α : Type) := List (String × α)

namespace Dict

variable {α : Type}

def get? (d : Dict α) (key : String) : Option α :=
  match d with
  | [] => none
  | (k, v) :: rest => if k = key then some v else get? rest key

def set (d : Dict α) (key : String) (value : α) : Dict α :=
  match d with
  | [] => [(key, value)]
  | (k, v) :: rest => if k = key then (key, value) :: rest else (k, v) :: set rest key value

def pop (d : Dict α) (key : String) : Dict α :=
  d.filter (fun entry => entry.1 ≠ key)

def update (d other : Dict α) : Dict α :=
  d.map (fun entry => (entry.1, (get? other entry.1).getD entry.2)) ++
    other.filter (fun entry => (get? d entry.1).isNone)

def modify (d : Dict α) (key : String) (change : α → α) : Dict α :=
  d.map (fun entry => if entry.1 = key then (entry.1, change entry.2) else entry)

def values (d : Dict α) : List α := d.map Prod.snd

def keys (d : Dict α) : List String := d.map Prod.fst

@[simp] theorem get?_nil (key : String) : get? ([] : Dict α) key = none := rfl

theorem get?_cons (k key : String) (v : α) (rest : Dict α) :
    get? ((k, v) :: rest) key = if k = key then some v else get? rest key := rfl

@[simp] theorem get?_set_self (d : Dict α) (key : String) (value : α) :
    (d.set key value).get? key = some value := by
  induction d with
  | nil => simp [set, get?]
  | cons entry rest ih =>
    obtain ⟨k, v⟩ := entry
    by_cases same : k = key
    · simp [set, same, get?]
    · simp [set, same, get?, ih]

theorem get?_set_of_ne (d : Dict α) {key other : String} (value : α) (different : key ≠ other) :
    (d.set key value).get? other = d.get? other := by
  induction d with
  | nil => simp [set, get?, different]
  | cons entry rest ih =>
    obtain ⟨k, v⟩ := entry
    by_cases same : k = key
    · subst same
      simp [set, get?, different]
    · simp [set, same, get?, ih]

theorem get?_set (d : Dict α) (key other : String) (value : α) :
    (d.set key value).get? other = if key = other then some value else d.get? other := by
  split
  · simp_all
  · rename_i different
    exact get?_set_of_ne d value different

theorem get?_append (d other : Dict α) (key : String) :
    get? (d ++ other) key = (d.get? key).or (other.get? key) := by
  induction d with
  | nil => rfl
  | cons entry rest ih =>
    obtain ⟨k, v⟩ := entry
    by_cases same : k = key
    · simp [get?, same]
    · simpa [get?, same] using ih

theorem get?_map_value (d : Dict α) (key : String) (change : String → α → α) :
    get? (d.map (fun entry => (entry.1, change entry.1 entry.2))) key =
      (d.get? key).map (change key) := by
  induction d with
  | nil => rfl
  | cons entry rest ih =>
    obtain ⟨k, v⟩ := entry
    by_cases same : k = key
    · simp [get?, same]
    · simpa [get?, same] using ih

theorem get?_filter_key (d : Dict α) (key : String) (keep : String → Bool) :
    get? (d.filter (fun entry => keep entry.1)) key = if keep key then d.get? key else none := by
  induction d with
  | nil => simp
  | cons entry rest ih =>
    obtain ⟨k, v⟩ := entry
    by_cases kept : keep k
    · by_cases same : k = key
      · subst same
        simp [kept, get?]
      · simpa [kept, get?, same] using ih
    · by_cases same : k = key
      · simp_all
      · simpa [kept, get?, same] using ih

theorem get?_pop (d : Dict α) (key other : String) :
    (d.pop key).get? other = if key = other then none else d.get? other := by
  have filtered := get?_filter_key d other (fun k => decide (k ≠ key))
  by_cases same : key = other
  · simpa [pop, same] using filtered
  · simpa [pop, same, Ne.symm same] using filtered

@[simp] theorem get?_pop_self (d : Dict α) (key : String) : (d.pop key).get? key = none := by
  simp [get?_pop]

theorem get?_update (d other : Dict α) (key : String) :
    (d.update other).get? key = (other.get? key).or (d.get? key) := by
  rw [update, get?_append, get?_map_value d key (fun k v => (get? other k).getD v),
    get?_filter_key other key (fun k => (get? d k).isNone)]
  cases found : d.get? key <;> cases overwritten : other.get? key <;> simp

variable {key : String} {d : Dict α} {value : α}

theorem mem_of_get? (found : d.get? key = some value) :
    (key, value) ∈ d := by
  induction d with
  | nil => cases found
  | cons entry rest ih =>
    obtain ⟨k, v⟩ := entry
    rw [get?_cons] at found
    split at found
    · simp_all
    · exact mem_cons_of_mem _ (ih found)

theorem mem_set {entry : String × α} (member : entry ∈ d.set key value) : entry = (key, value) ∨ entry ∈ d := by
  induction d with
  | nil => exact Or.inl (by simpa [set] using member)
  | cons head rest ih =>
    simp only [set] at member
    split at member
    · rcases mem_cons.mp member with rfl | member
      · exact Or.inl rfl
      · exact Or.inr (mem_cons_of_mem _ member)
    · rcases mem_cons.mp member with rfl | member
      · exact Or.inr (by simp)
      · exact (ih member).imp_right (mem_cons_of_mem _)

theorem get?_modify (d : Dict α) (key other : String) (change : α → α) :
    (d.modify key change).get? other =
      if key = other then (d.get? other).map change else d.get? other := by
  induction d with
  | nil => simp [modify]
  | cons entry rest ih =>
    obtain ⟨k, v⟩ := entry
    simp only [modify, map_cons] at ih ⊢
    by_cases same : k = key
    · subst same
      by_cases found : k = other
      · simp [get?, found]
      · simp only [if_true, get?_cons, found, if_false] at ih ⊢
        exact ih
    · simp only [same, if_false, get?_cons]
      by_cases found : k = other
      · grind
      · simp_all

theorem keys_set_of_mem (value : α) (member : key ∈ d.keys) : (d.set key value).keys = d.keys := by
  induction d with
  | nil => simp [Dict.keys] at member
  | cons entry rest ih =>
    obtain ⟨k, v⟩ := entry
    by_cases same : k = key
    · simp [Dict.set, Dict.keys, same]
    · grind [Dict.set, Dict.keys]

theorem keys_set_of_not_mem (value : α) (absent : key ∉ d.keys) :
    (d.set key value).keys = d.keys ++ [key] := by
  induction d with
  | nil => rfl
  | cons entry rest ih =>
    simp only [Dict.keys, map_cons, mem_cons, not_or] at absent ih
    have later := ih absent.2
    simp [Dict.set, Dict.keys, Ne.symm absent.1, later]

theorem eq_of_keys {c d : Dict α} (named : c.keys = d.keys) (distinct : d.keys.Nodup)
    (same : ∀ key ∈ d.keys, c.get? key = d.get? key) : c = d := by
  induction d generalizing c with
  | nil => exact map_eq_nil_iff.mp named
  | cons entry rest ih =>
    cases c with
    | nil => cases named
    | cons first others =>
      obtain ⟨k, v⟩ := entry
      obtain ⟨k', v'⟩ := first
      obtain ⟨head, tail⟩ := cons.inj named
      obtain ⟨absent, apart⟩ := nodup_cons.mp distinct
      subst head
      have value := same k' mem_cons_self
      rw [get?_cons, get?_cons, if_pos rfl, if_pos rfl] at value
      have later : others = rest := by
        apply ih tail apart
        intro key member
        have apart : k' ≠ key := by
          rintro rfl
          exact absent member
        have found := same key (mem_cons_of_mem _ member)
        rwa [get?_cons, get?_cons, if_neg apart, if_neg apart] at found
      rw [Option.some.inj value, later]

end Dict

end Troop
