import Mathlib.Data.List.Basic
import Mathlib.Logic.Function.Basic

/-! Values queued under keys, and drawn from the front of their key's queue. -/

namespace Troop.Systems

open List

variable {α κ β : Type} [DecidableEq κ] {key : α → κ}

def queues (key : α → κ) (items : List α) : κ → List α :=
  items.foldl (fun queue item => Function.update queue (key item) (queue (key item) ++ [item])) fun _ => []

def draw (queue : κ → List β) : List κ → List (Option β)
  | [] => []
  | k :: keys =>
    match queue k with
    | [] => none :: draw queue keys
    | first :: rest => some first :: draw (Function.update queue k rest) keys

theorem foldl_queues (items : List α) (queue : κ → List α) (k : κ) :
    items.foldl (fun queue item => Function.update queue (key item) (queue (key item) ++ [item])) queue k =
      queue k ++ items.filter (key · = k) := by
  induction items generalizing queue with
  | nil => simp
  | cons item rest ih =>
    rw [foldl_cons, ih]
    by_cases same : key item = k
    · simp_all
    · rw [Function.update_of_ne (Ne.symm same), filter_cons_of_neg (by simpa using same)]

theorem queues_eq (items : List α) (k : κ) : queues key items k = items.filter (key · = k) := by
  unfold queues
  rw [foldl_queues, nil_append]

@[simp] theorem length_draw (queue : κ → List β) (keys : List κ) : (draw queue keys).length = keys.length := by
  induction keys generalizing queue with
  | nil => rfl
  | cons k keys ih =>
    unfold draw
    split <;> rw [length_cons, ih, length_cons]

theorem getElem?_draw (queue : κ → List β) (keys : List κ) {i : Nat} {k : κ} (isThere : keys[i]? = some k) :
    (draw queue keys)[i]? = some (queue k)[(keys.take i).count k]? := by
  induction keys generalizing queue i with
  | nil => cases isThere
  | cons front keys ih =>
    cases i with
    | zero =>
      unfold draw
      split <;> simp_all
    | succ i =>
      rw [take_succ_cons]
      unfold draw
      split
      · rw [getElem?_cons_succ, ih queue isThere, count_cons]
        by_cases same : front = k
        · simp_all
        · simp [same]
      · rw [getElem?_cons_succ, ih _ isThere, count_cons]
        by_cases same : front = k
        · simp_all
        · simp [Function.update_of_ne (Ne.symm same), same]

end Troop.Systems
