import Mathlib.Logic.Function.Basic

namespace Troop

structure Keyed (κ σ ρ : Type) where
  committed : κ → Option ρ
  pending : κ → Option (σ × ρ)

namespace Keyed

variable {κ σ ρ : Type} {table : Keyed κ σ ρ} {session other : σ} {key : κ} {row : ρ}

def empty : Keyed κ σ ρ := ⟨fun _ => none, fun _ => none⟩

section Sessions

variable [DecidableEq σ]

def read (table : Keyed κ σ ρ) (session : σ) (key : κ) : Option ρ :=
  match table.pending key with
  | some (writer, row) => if writer = session then some row else table.committed key
  | none => table.committed key

def free (table : Keyed κ σ ρ) (session : σ) (key : κ) : Bool :=
  match table.pending key with
  | some (writer, _) => writer = session
  | none => true

def released (table : Keyed κ σ ρ) (session : σ) (key : κ) : Option (σ × ρ) :=
  match table.pending key with
  | some (writer, row) => if writer = session then none else some (writer, row)
  | none => none

def commit (table : Keyed κ σ ρ) (session : σ) : Keyed κ σ ρ := ⟨table.read session, table.released session⟩

def rollback (table : Keyed κ σ ρ) (session : σ) : Keyed κ σ ρ :=
  { table with pending := table.released session }

@[simp] theorem committed_commit : (table.commit session).committed = table.read session := rfl

@[simp] theorem pending_commit : (table.commit session).pending = table.released session := rfl

@[simp] theorem committed_rollback : (table.rollback session).committed = table.committed := rfl

@[simp] theorem pending_rollback : (table.rollback session).pending = table.released session := rfl

theorem read_own (held : table.pending key = some (session, row)) : table.read session key = some row := by
  simp [read, held]

theorem read_committed (unheld : ∀ row, table.pending key ≠ some (session, row)) :
    table.read session key = table.committed key := by
  unfold read
  split
  · simp_all
  · rfl

theorem free_iff : table.free session key = true ↔
    table.pending key = none ∨ ∃ row, table.pending key = some (session, row) := by
  unfold free
  cases held : table.pending key with
  | none => simp
  | some entry => grind

theorem released_some {entry : σ × ρ} :
    table.released session key = some entry ↔ table.pending key = some entry ∧ entry.1 ≠ session := by
  unfold released
  cases held : table.pending key with
  | none => simp
  | some found =>
    obtain ⟨writer, row⟩ := found
    by_cases own : writer = session
    · grind
    · constructor
      · grind
      · simp_all

theorem released_none (free : table.pending key = none) : table.released session key = none := by
  simp [released, free]

theorem released_own (held : table.pending key = some (session, row)) : table.released session key = none := by
  simp [released, held]

theorem released_other (held : table.pending key = some (other, row)) (different : other ≠ session) :
    table.released session key = some (other, row) :=
  released_some.mpr ⟨held, different⟩

end Sessions

section Writes

variable [DecidableEq κ]

def write (table : Keyed κ σ ρ) (session : σ) (key : κ) (row : ρ) : Keyed κ σ ρ :=
  { table with pending := Function.update table.pending key (some (session, row)) }

@[simp] theorem committed_write : (table.write session key row).committed = table.committed := rfl

@[simp] theorem pending_write_self : (table.write session key row).pending key = some (session, row) := by
  simp [write]

theorem pending_write_other {another : κ} (different : another ≠ key) :
    (table.write session key row).pending another = table.pending another := by
  simp [write, different]

@[simp] theorem read_write_self [DecidableEq σ] : (table.write session key row).read session key = some row :=
  read_own pending_write_self

@[simp] theorem free_write_self [DecidableEq σ] : (table.write session key row).free session key = true :=
  free_iff.mpr (.inr ⟨row, pending_write_self⟩)

@[simp] theorem write_write {again : ρ} : (table.write session key row).write session key again =
    table.write session key again := by
  simp [write]

end Writes

end Keyed

end Troop
