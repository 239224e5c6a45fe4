namespace Troop

/-- What a service does in one database session. A `send` waits for an answer and may never get one, be it
    from the database or from another service; a `commit` is such a wait as well. -/
inductive Transaction (σ ε α : Type) where
  | done (value : α)
  | raise (error : ε)
  | look (next : σ → Transaction σ ε α)
  | assign (change : σ → σ) (next : Transaction σ ε α)
  | send (next : Transaction σ ε α)
  | commit (next : Transaction σ ε α)

structure Held (σ : Type) where
  staged : σ
  committed : σ

inductive Failure (ε : Type) where
  | lost
  | raised (error : ε)
deriving DecidableEq

/-- How a session ends; `left` is how many answers it can still get, if there is a bound. -/
structure Ended (σ ε α : Type) where
  result : Except (Failure ε) α
  left : Option Nat
  held : Held σ

namespace Transaction

variable {σ ε α β γ δ : Type}

def bind : Transaction σ ε α → (α → Transaction σ ε β) → Transaction σ ε β
  | .done value, next => next value
  | .raise error, _ => .raise error
  | .look rest, next => .look fun state => (rest state).bind next
  | .assign change rest, next => .assign change (rest.bind next)
  | .send rest, next => .send (rest.bind next)
  | .commit rest, next => .commit (rest.bind next)

instance : Monad (Transaction σ ε) where
  pure := .done
  bind := bind

def loaded (read : σ → α) : Transaction σ ε α := .look fun state => .done (read state)

def rows (read : σ → α) : Transaction σ ε α := .send (loaded read)

def change (change : σ → σ) : Transaction σ ε PUnit := .assign change (.done ⟨⟩)

def insert (change : σ → σ) : Transaction σ ε PUnit := .send (.assign change (.done ⟨⟩))

def statement : Transaction σ ε PUnit := .send (.done ⟨⟩)

def commits : Transaction σ ε PUnit := .commit (.done ⟨⟩)

def run : Transaction σ ε α → Option Nat → Held σ → Ended σ ε α
  | .done value, left, held => ⟨.ok value, left, held⟩
  | .raise error, left, held => ⟨.error (.raised error), left, held⟩
  | .look next, left, held => (next held.staged).run left held
  | .assign change next, left, held => next.run left { held with staged := change held.staged }
  | .send next, left, held =>
    if left = some 0 then ⟨.error .lost, left, held⟩ else next.run (left.map Nat.pred) held
  | .commit next, left, held =>
    if left = some 0 then ⟨.error .lost, left, held⟩
    else next.run (left.map Nat.pred) { held with committed := held.staged }

def outcome : Transaction σ ε α → σ → Except ε α × σ
  | .done value, state => (.ok value, state)
  | .raise error, state => (.error error, state)
  | .look next, state => (next state).outcome state
  | .assign change next, state => next.outcome (change state)
  | .send next, state => next.outcome state
  | .commit next, state => next.outcome state

def reachesCommit : Transaction σ ε α → σ → Bool
  | .done _, _ => false
  | .raise _, _ => false
  | .look next, state => (next state).reachesCommit state
  | .assign change next, state => next.reachesCommit (change state)
  | .send next, state => next.reachesCommit state
  | .commit _, _ => true

def waits : Transaction σ ε α → σ → Nat
  | .done _, _ => 0
  | .raise _, _ => 0
  | .look next, state => (next state).waits state
  | .assign change next, state => next.waits (change state)
  | .send next, state => next.waits state + 1
  | .commit next, state => next.waits state + 1

section Bind

variable {program : Transaction σ ε α} {next : α → Transaction σ ε β}

theorem bind_eq : program >>= next = program.bind next := rfl

theorem assoc (last : β → Transaction σ ε γ) :
    (program >>= next) >>= last = program >>= fun value => next value >>= last := by
  simp only [bind_eq]
  induction program with
  | done value => rfl
  | raise error => rfl
  | look rest ih =>
    simp only [bind]
    congr 1
    funext state
    exact ih state
  | assign change rest ih =>
    simp only [bind]
    rw [ih]
  | send rest ih =>
    simp only [bind]
    rw [ih]
  | commit rest ih =>
    simp only [bind]
    rw [ih]

theorem outcome_bind (state : σ) : (program >>= next).outcome state =
    match program.outcome state with
    | (.ok value, after) => (next value).outcome after
    | (.error error, after) => (.error error, after) := by
  induction program generalizing state with
  | done value => rfl
  | raise error => rfl
  | look rest ih => exact ih state state
  | assign change rest ih => exact ih (change state)
  | send rest ih => exact ih state
  | commit rest ih => exact ih state

theorem reachesCommit_bind (state : σ) : (program >>= next).reachesCommit state =
    (program.reachesCommit state ||
      match program.outcome state with
      | (.ok value, after) => (next value).reachesCommit after
      | (.error _, _) => false) := by
  induction program generalizing state with
  | look rest ih => exact ih state state
  | assign change rest ih => exact ih (change state)
  | send rest ih => exact ih state
  | _ => rfl

theorem run_bind (left : Option Nat) (held : Held σ) : (program >>= next).run left held =
    match program.run left held with
    | ⟨.ok value, left, held⟩ => (next value).run left held
    | ⟨.error failure, left, held⟩ => ⟨.error failure, left, held⟩ := by
  rw [bind_eq]
  induction program generalizing left held with
  | done value => rfl
  | raise error => rfl
  | look rest ih => exact ih held.staged left held
  | assign change rest ih => exact ih left _
  | _ =>
    simp only [bind, run]
    by_cases gone : left = some 0
    · simp only [gone, if_true]
    · simp_all

end Bind

inductive Verdict where
  | refused | quiet | committed
deriving DecidableEq

def verdict (program : Transaction σ ε α) (state : σ) : Verdict :=
  if program.reachesCommit state then .committed
  else match (program.outcome state).1 with
    | .ok _ => .quiet
    | .error _ => .refused

theorem verdict_committed {program : Transaction σ ε α} {state : σ} :
    program.verdict state = .committed ↔ program.reachesCommit state = true := by
  unfold verdict
  cases program.reachesCommit state with
  | true => simp
  | false =>
    cases (program.outcome state).1 <;> simp

theorem verdict_quiet {program : Transaction σ ε α} {state : σ} : program.verdict state = .quiet ↔
    program.reachesCommit state = false ∧ ∃ value, (program.outcome state).1 = .ok value := by
  unfold verdict
  cases program.reachesCommit state with
  | true => simp
  | false =>
    cases (program.outcome state).1 <;> simp

section Primitives

variable (state : σ) (value : α) (error : ε) (read : σ → α) (step : σ → σ)

@[simp] theorem outcome_rows : (rows read : Transaction σ ε α).outcome state = (.ok (read state), state) := rfl
@[simp] theorem outcome_change : (change step : Transaction σ ε PUnit).outcome state = (.ok ⟨⟩, step state) := rfl
@[simp] theorem outcome_statement : (statement : Transaction σ ε PUnit).outcome state = (.ok ⟨⟩, state) := rfl
@[simp] theorem reachesCommit_pure : (pure value : Transaction σ ε α).reachesCommit state = false := rfl
@[simp] theorem reachesCommit_raise : (raise error : Transaction σ ε α).reachesCommit state = false := rfl
@[simp] theorem reachesCommit_rows : (rows read : Transaction σ ε α).reachesCommit state = false := rfl
@[simp] theorem reachesCommit_change : (change step : Transaction σ ε PUnit).reachesCommit state = false := rfl
@[simp] theorem reachesCommit_statement : (statement : Transaction σ ε PUnit).reachesCommit state = false := rfl
variable (next : α → Transaction σ ε β) (then_ : PUnit → Transaction σ ε β)

@[simp] theorem verdict_pure : (pure value : Transaction σ ε α).verdict state = .quiet := rfl
@[simp] theorem verdict_raise : (raise error : Transaction σ ε α).verdict state = .refused := rfl
@[simp] theorem verdict_raise_bind : ((raise error : Transaction σ ε α) >>= next).verdict state = .refused := rfl
@[simp] theorem verdict_pure_bind : ((pure value : Transaction σ ε α) >>= next).verdict state = (next value).verdict state := rfl
@[simp] theorem verdict_loaded_bind : (loaded read >>= next).verdict state = (next (read state)).verdict state := rfl
@[simp] theorem verdict_rows_bind : (rows read >>= next).verdict state = (next (read state)).verdict state := rfl
@[simp] theorem verdict_change : (change step : Transaction σ ε PUnit).verdict state = .quiet := rfl
@[simp] theorem verdict_change_bind : (change step >>= then_).verdict state = (then_ ⟨⟩).verdict (step state) := rfl
@[simp] theorem verdict_insert : (insert step : Transaction σ ε PUnit).verdict state = .quiet := rfl
@[simp] theorem verdict_insert_bind : (insert step >>= then_).verdict state = (then_ ⟨⟩).verdict (step state) := rfl
@[simp] theorem verdict_statement : (statement : Transaction σ ε PUnit).verdict state = .quiet := rfl
@[simp] theorem verdict_statement_bind : (statement >>= then_).verdict state = (then_ ⟨⟩).verdict state := rfl
@[simp] theorem verdict_commits : (commits : Transaction σ ε PUnit).verdict state = .committed := rfl
@[simp] theorem verdict_commits_bind : (commits >>= then_).verdict state = .committed := rfl

theorem run_rows_bind (held : Held σ) : (rows read >>= next).run none held = (next (read held.staged)).run none held := rfl

theorem verdict_bind {program : Transaction σ ε α} : (program >>= next).verdict state =
    match program.verdict state, program.outcome state with
    | .quiet, (.ok value, after) => (next value).verdict after
    | verdict, _ => verdict := by
  unfold verdict
  rw [reachesCommit_bind, outcome_bind]
  cases program.reachesCommit state with
  | true => simp
  | false =>
    cases program.outcome state with
    | mk result after => cases result <;> simp

end Primitives

variable {program : Transaction σ ε α}

theorem run_none (held : Held σ) : ∃ committed, program.run none held =
    ⟨(program.outcome held.staged).1.mapError .raised, none, ⟨(program.outcome held.staged).2, committed⟩⟩ := by
  induction program generalizing held with
  | look rest ih => exact ih held.staged held
  | assign change rest ih => exact ih _
  | send rest ih => exact ih held
  | commit rest ih => exact ih _
  | _ => exact ⟨held.committed, rfl⟩

theorem committed_of_quiet {held : Held σ} (quiet : program.reachesCommit held.staged = false) (left : Option Nat) :
    (program.run left held).held.committed = held.committed := by
  induction program generalizing left held with
  | look rest ih => exact ih held.staged quiet left
  | assign change rest ih =>
    have next : rest.reachesCommit (change held.staged) = false := quiet
    exact @ih { held with staged := change held.staged } next left
  | send rest ih =>
    rw [run]
    by_cases gone : left = some 0
    · simp only [gone, if_true]
    · simp only [gone, if_false]
      exact ih quiet _
  | commit rest ih => cases quiet
  | _ => rfl

theorem run_waits (held : Held σ) (spare : Nat) :
    program.run (some (program.waits held.staged + spare)) held = { program.run none held with left := some spare } := by
  induction program generalizing held with
  | look rest ih => exact ih held.staged held
  | assign change rest ih => exact ih { held with staged := change held.staged }
  | send rest ih =>
    have more : (send rest : Transaction σ ε α).waits held.staged + spare = rest.waits held.staged + spare + 1 := by
      simp only [waits]
      omega
    simp only [run, more, Option.some.injEq, Nat.add_eq_zero_iff, Nat.one_ne_zero, and_false, if_false,
      Option.map_some, Option.map_none, Nat.pred_succ, reduceCtorEq]
    exact ih held
  | commit rest ih =>
    have more : (commit rest : Transaction σ ε α).waits held.staged + spare = rest.waits held.staged + spare + 1 := by
      simp only [waits]
      omega
    simp only [run, more, Option.some.injEq, Nat.add_eq_zero_iff, Nat.one_ne_zero, and_false, if_false,
      Option.map_some, Option.map_none, Nat.pred_succ, reduceCtorEq]
    exact ih { held with committed := held.staged }
  | _ => simp [run, waits]

def Keeps (view : σ → γ) : Transaction σ ε α → Prop
  | .done _ => True
  | .raise _ => True
  | .look next => ∀ state, (next state).Keeps view
  | .assign change next => (∀ state, view (change state) = view state) ∧ next.Keeps view
  | .send next => next.Keeps view
  | .commit next => next.Keeps view

section Keeps

variable {view : σ → γ}

theorem Keeps.bind {next : α → Transaction σ ε β} (first : program.Keeps view)
    (rest : ∀ value, (next value).Keeps view) : (program >>= next).Keeps view := by
  induction program with
  | done value => exact rest value
  | raise error => trivial
  | look following ih => exact fun state => ih state (first state)
  | assign change following ih => exact ⟨first.1, ih first.2⟩
  | send following ih => exact ih first
  | commit following ih => exact ih first

theorem Keeps.ite {condition : Prop} [Decidable condition] {first second : Transaction σ ε α}
    (left : first.Keeps view) (right : second.Keeps view) : (if condition then first else second).Keeps view := by
  split
  · exact left
  · exact right

theorem Keeps.map {shown : γ → δ} (keeps : program.Keeps view) : program.Keeps (shown ∘ view) := by
  induction program with
  | done value => trivial
  | raise error => trivial
  | look rest ih => exact fun state => ih state (keeps state)
  | assign change rest ih => exact ⟨fun state => congrArg shown (keeps.1 state), ih keeps.2⟩
  | send rest ih => exact ih keeps
  | commit rest ih => exact ih keeps

theorem Keeps.loaded (read : σ → α) : (loaded read : Transaction σ ε α).Keeps view := fun _ => trivial

theorem Keeps.rows (read : σ → α) : (rows read : Transaction σ ε α).Keeps view := fun _ => trivial

theorem Keeps.change {change : σ → σ} (same : ∀ state, view (change state) = view state) :
    (Transaction.change change : Transaction σ ε PUnit).Keeps view := ⟨same, trivial⟩

theorem Keeps.insert {change : σ → σ} (same : ∀ state, view (change state) = view state) :
    (Transaction.insert change : Transaction σ ε PUnit).Keeps view := ⟨same, trivial⟩

theorem Keeps.outcome (keeps : program.Keeps view) (state : σ) : view (program.outcome state).2 = view state := by
  induction program generalizing state with
  | done value => rfl
  | raise error => rfl
  | look rest ih => exact ih state (keeps state) state
  | assign change rest ih => exact (ih keeps.2 (change state)).trans (keeps.1 state)
  | send rest ih => exact ih keeps state
  | commit rest ih => exact ih keeps state

theorem Keeps.committed (keeps : program.Keeps view) {held : Held σ} :
    view (program.run none held).held.committed = view held.committed ∨
      view (program.run none held).held.committed = view held.staged := by
  induction program generalizing held with
  | look rest ih => exact ih held.staged (keeps held.staged)
  | assign change rest ih =>
    have followed := @ih keeps.2 { held with staged := change held.staged }
    rwa [keeps.1 held.staged] at followed
  | send rest ih => exact ih keeps
  | commit rest ih =>
    have followed := @ih keeps { held with committed := held.staged }
    exact .inr (followed.elim id id)
  | _ => exact .inl rfl

theorem Keeps.committed_of_reachesCommit (keeps : program.Keeps view) {held : Held σ}
    (reaches : program.reachesCommit held.staged = true) :
    view (program.run none held).held.committed = view held.staged := by
  induction program generalizing held with
  | look rest ih => exact ih held.staged (keeps held.staged) reaches
  | assign change rest ih =>
    have followed := @ih keeps.2 { held with staged := change held.staged } reaches
    rwa [keeps.1 held.staged] at followed
  | send rest ih => exact ih keeps reaches
  | commit rest ih =>
    have followed := @committed _ _ _ _ rest view keeps { held with committed := held.staged }
    exact followed.elim id id
  | _ => cases reaches

end Keeps

theorem run_of_ok {left rest : Option Nat} {held after : Held σ} {value : α}
    (ran : program.run left held = ⟨.ok value, rest, after⟩) : program.run none held = ⟨.ok value, none, after⟩ := by
  induction program generalizing left held with
  | done found =>
    cases ran
    rfl
  | raise error => cases ran
  | look next ih => exact ih held.staged ran
  | assign change next ih => exact ih ran
  | send next ih =>
    rw [run] at ran
    by_cases gone : left = some 0
    · simp [if_pos gone] at ran
    · rw [if_neg gone] at ran
      exact ih ran
  | commit next ih =>
    rw [run] at ran
    by_cases gone : left = some 0
    · simp [if_pos gone] at ran
    · rw [if_neg gone] at ran
      exact ih ran

/-- Whatever is committed when the answers run out: nothing, or what the program commits when it returns
    undisturbed. -/
def AllOrNothing (program : Transaction σ ε α) (state : σ) (left : Option Nat) : Prop :=
  (program.run left ⟨state, state⟩).held.committed = state ∨
    (∃ value, (program.outcome state).1 = .ok value) ∧
      (program.run left ⟨state, state⟩).held.committed = (program.run none ⟨state, state⟩).held.committed

section Atomic

variable {state : σ}

theorem allOrNothing_of_quiet (quiet : program.reachesCommit state = false) (left : Option Nat) :
    program.AllOrNothing state left :=
  .inl (committed_of_quiet quiet left)

theorem allOrNothing_bind {next : α → Transaction σ ε β} {value : α} (reads : program.outcome state = (.ok value, state))
    (quiet : program.reachesCommit state = false) :
    (∀ left, (program >>= next).AllOrNothing state left) ↔ ∀ left, (next value).AllOrNothing state left := by
  obtain ⟨committed, undisturbed⟩ := @run_none _ _ _ program ⟨state, state⟩
  have kept := @committed_of_quiet _ _ _ program ⟨state, state⟩ quiet none
  rw [undisturbed] at kept
  have kept : committed = state := kept
  rw [reads, kept] at undisturbed
  have undisturbed : program.run none ⟨state, state⟩ = ⟨.ok value, none, ⟨state, state⟩⟩ := undisturbed
  have ending : ((program >>= next).outcome state).1 = ((next value).outcome state).1 := by
    rw [outcome_bind, reads]
  have whole : (program >>= next).run none ⟨state, state⟩ = (next value).run none ⟨state, state⟩ := by
    rw [run_bind, undisturbed]
  constructor
  · intro holds left
    have bounded : (program >>= next).run (left.map (program.waits state + ·)) ⟨state, state⟩ =
        (next value).run left ⟨state, state⟩ := by
      cases left with
      | none => exact whole
      | some left =>
        rw [run_bind, Option.map_some, @run_waits _ _ _ program ⟨state, state⟩ left, undisturbed]
    have given := holds (left.map (program.waits state + ·))
    rwa [AllOrNothing, bounded, ending, whole] at given
  · intro holds left
    cases ran : program.run left ⟨state, state⟩ with
    | mk result rest after =>
      cases result with
      | ok found =>
        have same := run_of_ok ran
        rw [undisturbed] at same
        cases same
        have bounded : (program >>= next).run left ⟨state, state⟩ = (next value).run rest ⟨state, state⟩ := by
          rw [run_bind, ran]
        rw [AllOrNothing, bounded, ending, whole]
        exact holds rest
      | error failure =>
        have nothing := @committed_of_quiet _ _ _ program ⟨state, state⟩ quiet left
        rw [ran] at nothing
        refine .inl ?_
        rwa [run_bind, ran]

variable {change : σ → σ} {record : α → σ → σ} {tail : α → Transaction σ ε β}

def recorded (change : σ → σ) (program : Transaction σ ε α) (record : α → σ → σ) (tail : α → Transaction σ ε β) :
    Transaction σ ε β :=
  .assign change (program >>= fun value => .send (.assign (record value) (.commit (tail value))))

theorem recorded_allOrNothing_iff {seen : σ → γ} {trail : σ → δ} (decides : seen (change state) ≠ seen state)
    (records : ∀ value after, trail (record value after) ≠ trail after) (keepsSeen : program.Keeps seen)
    (keepsTrail : program.Keeps trail) (quiet : ∀ value after, (tail value).reachesCommit after = false)
    (returns : ∀ value after, ∃ answer, ((tail value).outcome after).1 = .ok answer) :
    (∀ left, (recorded change program record tail).AllOrNothing state left) ↔
      program.reachesCommit (change state) = false := by
  obtain ⟨committed, undisturbed⟩ := @run_none _ _ _ program ⟨change state, state⟩
  constructor
  · intro holds
    refine Bool.eq_false_iff.mpr fun reaches => ?_
    have shown := @Keeps.committed_of_reachesCommit _ _ _ _ program seen keepsSeen ⟨change state, state⟩ reaches
    have traced := @Keeps.committed_of_reachesCommit _ _ _ _ program trail keepsTrail ⟨change state, state⟩ reaches
    have stopped := @run_waits _ _ _ program ⟨change state, state⟩ 0
    rw [undisturbed] at shown traced stopped
    have torn := holds (some (program.waits (change state) + 0))
    unfold AllOrNothing recorded at torn
    simp only [run, run_bind, outcome, outcome_bind, stopped, undisturbed] at torn
    cases ended : program.outcome (change state) with
    | mk result after =>
      rw [ended] at torn
      cases result with
      | error error =>
        rcases torn with nothing | ⟨⟨_, returned⟩, _⟩
        · grind
        · cases returned
      | ok value =>
        have last := @committed_of_quiet _ _ _ (tail value) ⟨record value after, record value after⟩ (quiet value _) none
        have kept := keepsTrail.outcome (change state)
        rw [ended] at kept
        rcases torn with nothing | ⟨_, everything⟩
        · grind
        · have everything : committed = record value after := everything.trans last
          exact records value after (by rw [← everything, traced, ← kept])
  · intro calm left
    unfold AllOrNothing recorded
    simp only [run, run_bind, outcome, outcome_bind]
    have nothing := @committed_of_quiet _ _ _ program ⟨change state, state⟩ calm left
    cases ran : program.run left ⟨change state, state⟩ with
    | mk result rest held =>
      rw [ran] at nothing
      cases result with
      | error failure => exact .inl nothing
      | ok value =>
        have whole := run_of_ok ran
        have same := whole
        rw [undisturbed] at same
        cases ended : program.outcome (change state) with
        | mk ending after =>
          rw [ended] at same
          cases ending with
          | error error => cases same
          | ok found =>
            cases same
            dsimp only
            by_cases gone : rest = some 0
            · simp_all
            rw [if_neg gone]
            by_cases lost : rest.map Nat.pred = some 0
            · simp_all
            rw [if_neg lost]
            have last := fun left => @committed_of_quiet _ _ _ (tail value)
              ⟨record value after, record value after⟩ (quiet value _) left
            rw [whole]
            exact .inr ⟨returns value _, (last _).trans (last none).symm⟩

end Atomic

end Transaction
end Troop
