import Mathlib.Data.List.Basic
import Mathlib.Logic.Relation

namespace Troop.Graphs

open Relation
open List

variable {α : Type} [DecidableEq α]

def search (next : α → List α) (target : α) : Nat → List α → List α → Bool
  | 0, _, _ => false
  | _ + 1, [], _ => false
  | fuel + 1, current :: stack, seen =>
    if current = target then true
    else if current ∈ seen then search next target fuel stack seen
    else search next target fuel ((next current).reverse ++ stack) (current :: seen)

section Fuel

variable (next : α → List α)

def pending : List α → List α → Nat
  | [], _ => 0
  | node :: nodes, seen => (if node ∈ seen then 0 else (next node).length) + pending nodes seen

variable {next} {nodes seen : List α} {current : α}

theorem pending_cons_le (nodes : List α) : pending next nodes (current :: seen) ≤ pending next nodes seen := by
  induction nodes with
  | nil => exact Nat.le_refl 0
  | cons node rest ih =>
    unfold pending
    by_cases old : node ∈ seen
    · simp [old, ih]
    · by_cases same : node = current
      · grind
      · simp_all

theorem pending_expand (bounded : next current ≠ [] → current ∈ nodes) (fresh : current ∉ seen) :
    pending next nodes (current :: seen) + (next current).length ≤ pending next nodes seen := by
  by_cases leaf : next current = []
  · rw [leaf]
    exact pending_cons_le nodes
  have member := bounded leaf
  clear bounded
  induction nodes with
  | nil => cases member
  | cons node rest ih =>
    unfold pending
    by_cases same : node = current
    · have rest_le : pending next rest (current :: seen) ≤ pending next rest seen := pending_cons_le rest
      simp only [same, mem_cons_self, if_true, fresh, if_false]
      omega
    · have later := ih ((mem_cons.mp member).resolve_left fun equal => same equal.symm)
      by_cases old : node ∈ seen
      · simp_all
      · grind

end Fuel

section Correct

variable {next : α → List α} {target : α} {nodes stack seen : List α} {fuel : Nat}

theorem reaches_of_search (found : search next target fuel stack seen = true) :
    ∃ node ∈ stack, ReflTransGen (fun a b => b ∈ next a) node target := by
  induction fuel generalizing stack seen with
  | zero => cases found
  | succ fuel ih =>
    cases stack with
    | nil => cases found
    | cons current stack =>
      unfold search at found
      split at found
      · rename_i same
        exact ⟨current, by simp, same ▸ .refl⟩
      · split at found
        · grind
        · obtain ⟨node, member, path⟩ := ih found
          rcases mem_append.mp member with pushed | member
          · exact ⟨current, by simp, .head (mem_reverse.mp pushed) path⟩
          · exact ⟨node, by simp [member], path⟩

theorem closed_of_search (bounded : ∀ node, next node ≠ [] → node ∈ nodes)
    (enough : stack.length + pending next nodes seen < fuel)
    (expanded : ∀ node ∈ seen, node ≠ target ∧ ∀ other ∈ next node, other ∈ seen ∨ other ∈ stack)
    (missed : search next target fuel stack seen = false) :
    ∃ closed : α → Prop, (∀ node, node ∈ seen ∨ node ∈ stack → closed node) ∧
      ∀ node, closed node → node ≠ target ∧ ∀ other ∈ next node, closed other := by
  induction fuel generalizing stack seen with
  | zero => omega
  | succ fuel ih =>
    cases stack with
    | nil =>
      refine ⟨(· ∈ seen), by simp, ?_⟩
      intro node member
      exact ⟨(expanded node member).1, fun other edge => ((expanded node member).2 other edge).resolve_right (by simp)⟩
    | cons current stack =>
      unfold search at missed
      split at missed
      · cases missed
      rename_i apart
      split at missed
      · rename_i old
        have shorter : stack.length + pending next nodes seen < fuel := by grind
        have kept : ∀ node ∈ seen, node ≠ target ∧ ∀ other ∈ next node, other ∈ seen ∨ other ∈ stack := by
          intro node member
          refine ⟨(expanded node member).1, fun other edge => ?_⟩
          rcases (expanded node member).2 other edge with present | present
          · exact .inl present
          · rcases mem_cons.mp present with rfl | present
            · exact .inl old
            · exact .inr present
        obtain ⟨closed, covers, shut⟩ := ih shorter kept missed
        refine ⟨closed, fun node member => ?_, shut⟩
        rcases member with member | member
        · exact covers node (.inl member)
        · rcases mem_cons.mp member with rfl | member
          · exact covers node (.inl old)
          · exact covers node (.inr member)
      · rename_i fresh
        have used := pending_expand (bounded current) fresh
        have shorter : ((next current).reverse ++ stack).length + pending next nodes (current :: seen) < fuel := by
          grind
        have kept : ∀ node ∈ current :: seen, node ≠ target ∧ ∀ other ∈ next node,
            other ∈ current :: seen ∨ other ∈ (next current).reverse ++ stack := by
          intro node member
          rcases mem_cons.mp member with rfl | member
          · exact ⟨apart, fun other edge => .inr (by simp [edge])⟩
          refine ⟨(expanded node member).1, fun other edge => ?_⟩
          rcases (expanded node member).2 other edge with present | present
          · exact .inl (by simp [present])
          · rcases mem_cons.mp present with rfl | present
            · exact .inl (by simp)
            · exact .inr (by simp [present])
        obtain ⟨closed, covers, shut⟩ := ih shorter kept missed
        refine ⟨closed, fun node member => ?_, shut⟩
        rcases member with member | member
        · exact covers node (.inl (by simp [member]))
        · rcases mem_cons.mp member with rfl | member
          · exact covers node (.inl (by simp))
          · exact covers node (.inr (by simp [member]))

theorem search_iff (bounded : ∀ node, next node ≠ [] → node ∈ nodes) (enough : 1 + pending next nodes [] < fuel)
    (start : α) : search next target fuel [start] [] = true ↔ ReflTransGen (fun a b => b ∈ next a) start target := by
  constructor
  · intro found
    obtain ⟨node, member, path⟩ := reaches_of_search found
    rwa [mem_singleton.mp member] at path
  · intro path
    cases missed : search next target fuel [start] [] with
    | true => rfl
    | false =>
      obtain ⟨closed, covers, shut⟩ := closed_of_search bounded enough (by simp) missed
      have inside (other : α) (walk : ReflTransGen (fun a b => b ∈ next a) start other) : closed other := by
        induction walk with
        | refl => exact covers start (by simp)
        | tail _ edge ih => exact (shut _ ih).2 _ edge
      exact absurd rfl (shut target (inside target path)).1

end Correct

section Acyclic

variable {r : α → α → Prop} {node : α} {successors : List α}

def Acyclic (r : α → α → Prop) : Prop := ∀ a, ¬ TransGen r a a

omit [DecidableEq α] in
theorem Acyclic.mono {s : α → α → Prop} (acyclic : Acyclic r) (fewer : ∀ a b, s a b → r a b) : Acyclic s :=
  fun a cycle => acyclic a (TransGen.mono fewer _ _ cycle)

def replaceEdges (r : α → α → Prop) (node : α) (successors : List α) (a b : α) : Prop :=
  if a = node then b ∈ successors else r a b

theorem transGen_replaceEdges {a b : α} (walk : TransGen (replaceEdges r node successors) a b) :
    TransGen r a b ∨ (ReflTransGen (replaceEdges r node successors) a node ∧
      TransGen (replaceEdges r node successors) node b) := by
  induction walk with
  | single edge =>
    by_cases same : a = node
    · grind
    · exact .inl (.single (by rwa [replaceEdges, if_neg same] at edge))
  | tail walk edge ih =>
    rename_i b c
    rcases ih with old | ⟨arrives, leaves⟩
    · by_cases same : b = node
      · grind
      · exact .inl (old.tail (by rwa [replaceEdges, if_neg same] at edge))
    · exact .inr ⟨arrives, leaves.tail edge⟩

theorem Acyclic.replaceEdges (acyclic : Acyclic r)
    (free : ∀ successor ∈ successors, ¬ ReflTransGen (replaceEdges r node successors) successor node) :
    Acyclic (replaceEdges r node successors) := by
  intro a cycle
  have loop : TransGen (Graphs.replaceEdges r node successors) node node := by
    rcases transGen_replaceEdges cycle with old | ⟨arrives, leaves⟩
    · exact absurd old (acyclic a)
    · exact leaves.trans_left arrives
  obtain ⟨successor, edge, back⟩ := TransGen.head'_iff.mp loop
  rw [Graphs.replaceEdges, if_pos rfl] at edge
  exact free successor edge back

end Acyclic

end Troop.Graphs
