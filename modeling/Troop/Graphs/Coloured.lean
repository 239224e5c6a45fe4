import Mathlib.Data.List.Nodup
import Mathlib.Logic.Relation

namespace Troop.Graphs

open Relation
open List

variable {α : Type}

structure Colours (α : Type) where
  visiting : List α
  visited : List α
  backEdges : Nat

variable {next : α → List α}

def Edge (next : α → List α) (source target : α) : Prop := target ∈ next source

def Ordered (next : α → List α) : List α → Prop
  | [] => True
  | node :: rest => (∀ child ∈ next node, child ∈ rest) ∧ Ordered next rest

variable {nodes : List α} {node : α} {seen reached : Colours α} {depth : Nat}

theorem Ordered.closed (ordered : Ordered next nodes) {node child : α} (member : node ∈ nodes)
    (edge : Edge next node child) : child ∈ nodes := by
  induction nodes with
  | nil => cases member
  | cons first rest ih =>
    apply mem_cons_of_mem
    rcases mem_cons.mp member with rfl | later
    · exact ordered.1 child edge
    · exact ih ordered.2 later

theorem Ordered.reaches (ordered : Ordered next nodes) {node other : α} (member : node ∈ nodes)
    (reaches : ReflTransGen (Edge next) node other) : other ∈ nodes := by
  induction reaches with
  | refl => exact member
  | tail _ edge ih => exact ordered.closed ih edge

theorem Ordered.acyclic (ordered : Ordered next nodes) (member : node ∈ nodes) :
    ¬ TransGen (Edge next) node node := by
  intro cycle
  induction nodes with
  | nil => cases member
  | cons first rest ih =>
    rcases mem_cons.mp member with rfl | later
    · obtain ⟨child, edge, back⟩ := TransGen.head'_iff.mp cycle
      exact ih ordered.2 (ordered.2.reaches (ordered.1 child edge) back)
    · exact ih ordered.2 later

def Trail (next : α → List α) : List α → Prop
  | [] => True
  | [_] => True
  | node :: parent :: rest => Edge next parent node ∧ Trail next (parent :: rest)

theorem Trail.reaches {node other : α} {rest : List α} (trail : Trail next (node :: rest)) (member : other ∈ node :: rest) :
    ReflTransGen (Edge next) other node := by
  induction rest generalizing node with
  | nil =>
    rw [mem_singleton.mp member]
  | cons parent rest ih =>
    rcases mem_cons.mp member with rfl | later
    · exact .refl
    · exact (ih trail.2 later).tail trail.1

def Enters (next : α → List α) (node : α) (visiting : List α) : Prop := ∀ parent ∈ visiting.head?, Edge next parent node

theorem Trail.enter {visiting : List α} (trail : Trail next visiting) (enters : Enters next node visiting) :
    Trail next (node :: visiting) := by
  cases visiting with
  | nil => trivial
  | cons parent rest => exact ⟨enters parent rfl, trail⟩

structure Explored (next : α → List α) (before after : Colours α) : Prop where
  visiting : after.visiting = before.visiting
  cycle : after.backEdges ≠ before.backEdges → ∃ node, TransGen (Edge next) node node
  grows : before.backEdges ≤ after.backEdges
  kept : before.visited ⊆ after.visited
  ordered : after.backEdges = before.backEdges → Ordered next before.visited → Ordered next after.visited

theorem Explored.refl (seen : Colours α) : Explored next seen seen where
  visiting := rfl
  cycle changed := absurd rfl changed
  grows := Nat.le_refl _
  kept := Subset.refl _
  ordered _ given := given

theorem Explored.trans {first second third : Colours α} (one : Explored next first second)
    (two : Explored next second third) : Explored next first third where
  visiting := two.visiting.trans one.visiting
  cycle changed := by
    by_cases same : second.backEdges = first.backEdges
    · exact two.cycle (same ▸ changed)
    · exact one.cycle same
  grows := Nat.le_trans one.grows two.grows
  kept := Subset.trans one.kept two.kept
  ordered same given := by
    have still : second.backEdges = first.backEdges := Nat.le_antisymm (same ▸ two.grows) one.grows
    exact two.ordered (same.trans still.symm) (one.ordered still given)

variable (step : Colours α → α → Option (Colours α))

theorem explored_all
    (trail : Trail next seen.visiting) (enters : ∀ node ∈ nodes, Enters next node seen.visiting)
    (each : ∀ node seen' after, Trail next seen'.visiting → Enters next node seen'.visiting →
      step seen' node = some after → Explored next seen' after ∧ (after.backEdges = seen'.backEdges → node ∈ after.visited))
    (ran : nodes.foldlM step seen = some reached) :
    Explored next seen reached ∧ (reached.backEdges = seen.backEdges → ∀ node ∈ nodes, node ∈ reached.visited) := by
  induction nodes generalizing seen with
  | nil =>
    cases ran
    exact ⟨.refl _, fun _ node member => by cases member⟩
  | cons first rest ih =>
    obtain ⟨middle, began, ran⟩ := Option.bind_eq_some_iff.mp ran
    obtain ⟨explored, done⟩ := each first seen middle trail (enters first mem_cons_self) began
    have later := ih (explored.visiting ▸ trail)
      (fun node member => explored.visiting ▸ enters node (mem_cons_of_mem _ member)) ran
    refine ⟨explored.trans later.1, fun same node member => ?_⟩
    have still : middle.backEdges = seen.backEdges := Nat.le_antisymm (same ▸ later.1.grows) explored.grows
    rcases mem_cons.mp member with rfl | among
    · exact later.1.kept (done still)
    · exact later.2 (same.trans still.symm) node among

theorem ends_all (nodes : List α) (seen : Colours α)
    (each : ∀ node ∈ nodes, ∀ seen', seen'.visiting = seen.visiting →
      ∃ reached, step seen' node = some reached ∧ reached.visiting = seen.visiting) :
    ∃ reached, nodes.foldlM step seen = some reached ∧ reached.visiting = seen.visiting := by
  suffices ends : ∀ start : Colours α, start.visiting = seen.visiting →
      ∃ reached, nodes.foldlM step start = some reached ∧ reached.visiting = seen.visiting from ends seen rfl
  induction nodes with
  | nil => exact fun start same => ⟨start, rfl, same⟩
  | cons first rest ih =>
    intro start same
    obtain ⟨middle, began, still⟩ := each first mem_cons_self start same
    obtain ⟨reached, ran, left⟩ := ih (fun node member => each node (mem_cons_of_mem _ member)) middle still
    exact ⟨reached, Option.bind_eq_some_iff.mpr ⟨middle, began, ran⟩, left⟩

variable [DecidableEq α]

def visit (next : α → List α) : Nat → α → Colours α → Option (Colours α)
  | 0, _, _ => none
  | depth + 1, node, seen =>
    if node ∈ seen.visiting then some { seen with backEdges := seen.backEdges + 1 }
    else if node ∈ seen.visited then some seen
    else do
      let entered := { seen with visiting := node :: seen.visiting }
      let reached ← (next node).foldlM (fun seen child => visit next depth child seen) entered
      return { reached with visiting := reached.visiting.erase node, visited := node :: reached.visited }

def visitAll (next : α → List α) (depth : Nat) (nodes : List α) (seen : Colours α) : Option (Colours α) :=
  nodes.foldlM (fun seen node => visit next depth node seen) seen

theorem visit_explores (trail : Trail next seen.visiting)
    (enters : Enters next node seen.visiting) (ran : visit next depth node seen = some reached) :
    Explored next seen reached ∧ (reached.backEdges = seen.backEdges → node ∈ reached.visited) := by
  induction depth generalizing node seen reached with
  | zero => cases ran
  | succ depth ih =>
    unfold visit at ran
    split at ran
    · rename_i under
      cases ran
      -- the node is on the path that leads to it
      have cycle : ∃ node, TransGen (Edge next) node node := by
        cases shape : seen.visiting with
        | nil => simp [shape] at under
        | cons parent rest =>
          rw [shape] at trail enters under
          exact ⟨node, TransGen.tail' (trail.reaches under) (enters parent rfl)⟩
      refine ⟨⟨rfl, fun _ => cycle, Nat.le_succ _, Subset.refl _, fun same => ?_⟩, fun same => ?_⟩
      · exact absurd same (Nat.succ_ne_self _)
      · exact absurd same (Nat.succ_ne_self _)
    · split at ran
      · rename_i done
        cases ran
        exact ⟨.refl seen, fun _ => done⟩
      · obtain ⟨inner, searched, ran⟩ := Option.bind_eq_some_iff.mp ran
        cases ran
        have entered : Trail next (node :: seen.visiting) := trail.enter enters
        obtain ⟨explored, children⟩ := explored_all (fun seen child => visit next depth child seen) entered
          (fun child member parent head => by cases head; exact member) (fun _ _ _ => ih) searched
        have under : inner.visiting = node :: seen.visiting := explored.visiting
        refine ⟨⟨?_, explored.cycle, explored.grows, ?_, fun same given => ?_⟩, fun _ => mem_cons_self⟩
        · simp_all
        · exact Subset.trans explored.kept (subset_cons_self _ _)
        · exact ⟨fun child member => children same child member, explored.ordered same given⟩

theorem visit_ends (closed : ∀ node ∈ nodes, ∀ child ∈ next node, child ∈ nodes)
    {seen : Colours α} (within : seen.visiting ⊆ nodes) (distinct : seen.visiting.Nodup) (member : node ∈ nodes)
    (deep : nodes.length < depth + seen.visiting.length) :
    ∃ reached, visit next depth node seen = some reached ∧ reached.visiting = seen.visiting := by
  induction depth generalizing node seen with
  | zero =>
    have short : seen.visiting.length ≤ nodes.length := distinct.length_le_of_subset within
    omega
  | succ depth ih =>
    unfold visit
    split
    · exact ⟨_, rfl, rfl⟩
    split
    · exact ⟨_, rfl, rfl⟩
    obtain ⟨inner, searched, under⟩ := ends_all (fun seen child => visit next depth child seen) (next node)
      ⟨node :: seen.visiting, seen.visited, seen.backEdges⟩ fun child edge seen' same => by
        rw [← same]
        refine ih ?_ ?_ (closed node member child edge) ?_
        · simp_all
        · simp_all
        · grind
    refine ⟨_, Option.bind_eq_some_iff.mpr ⟨inner, searched, rfl⟩, ?_⟩
    rw [under, erase_cons_head]

theorem visitAll_cycle (edges : ∀ source target, Edge next source target → source ∈ nodes ∧ target ∈ nodes) :
    ∃ reached, visitAll next (nodes.length + 1) nodes ⟨[], [], 0⟩ = some reached ∧
      (reached.backEdges ≠ 0 ↔ ∃ node, TransGen (Edge next) node node) := by
  obtain ⟨reached, ran, _⟩ := ends_all (fun seen node => visit next (nodes.length + 1) node seen) nodes ⟨[], [], 0⟩
    fun node member seen' same => by
      rw [← same]
      refine visit_ends (fun source _ child edge => (edges source child edge).2) ?_ ?_ member ?_ <;> rw [same]
      · exact nil_subset _
      · exact nodup_nil
      · exact Nat.lt_succ_self _
  have start : Trail next ([] : List α) := trivial
  have explored := explored_all (fun seen node => visit next (nodes.length + 1) node seen) start
    (fun _ _ parent head => by cases head) (fun _ _ _ => visit_explores) ran
  refine ⟨reached, ran, explored.1.cycle, ?_⟩
  rintro ⟨node, cycle⟩ none_
  obtain ⟨child, edge, _⟩ := TransGen.head'_iff.mp cycle
  have done := explored.2 none_ node (edges node child edge).1
  exact (explored.1.ordered none_ trivial).acyclic done cycle

end Troop.Graphs
