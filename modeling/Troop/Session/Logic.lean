import Mathlib.Order.Basic

namespace Troop

abbrev Prog (σ ε α : Type) := ExceptT ε (StateM σ) α

namespace Prog

variable {σ ε α β : Type}

def exec (program : Prog σ ε α) (state : σ) : Except ε α × σ := program state

@[simp] theorem exec_pure (value : α) (state : σ) :
    exec (pure value : Prog σ ε α) state = (.ok value, state) := rfl

@[simp] theorem exec_throw (error : ε) (state : σ) :
    exec (throw error : Prog σ ε α) state = (.error error, state) := rfl

@[simp] theorem exec_get (state : σ) : exec (get : Prog σ ε σ) state = (.ok state, state) := rfl

@[simp] theorem exec_modify (change : σ → σ) (state : σ) :
    exec (modify change : Prog σ ε PUnit) state = (.ok ⟨⟩, change state) := rfl

theorem exec_bind (first : Prog σ ε α) (next : α → Prog σ ε β) (state : σ) :
    exec (first >>= next) state =
      match exec first state with
      | (.ok value, middle) => exec (next value) middle
      | (.error error, middle) => (.error error, middle) := by
  simp only [ExceptT.bind, ExceptT.mk, bind, StateT.bind, exec]
  cases first state with
  | mk result middle => cases result <;> rfl

theorem exec_bind_ok {first : Prog σ ε α} {next : α → Prog σ ε β} {state middle : σ} {value : α}
    (ran : exec first state = (.ok value, middle)) :
    exec (first >>= next) state = exec (next value) middle := by
  rw [exec_bind, ran]

theorem exec_bind_error {first : Prog σ ε α} {next : α → Prog σ ε β} {state middle : σ} {error : ε}
    (ran : exec first state = (.error error, middle)) :
    exec (first >>= next) state = (.error error, middle) := by
  rw [exec_bind, ran]

theorem exec_bind_split {first : Prog σ ε α} {next : α → Prog σ ε β} {state after : σ} {value : β}
    (ran : exec (first >>= next) state = (.ok value, after)) :
    ∃ read middle, exec first state = (.ok read, middle) ∧ exec (next read) middle = (.ok value, after) := by
  rw [exec_bind] at ran
  cases started : exec first state with
  | mk result middle =>
    rw [started] at ran
    cases result with
    | ok read => exact ⟨read, middle, rfl, ran⟩
    | error error => cases ran

/-- `try program except: recover`. -/
def catching (program : Prog σ ε α) (recover : ε → Prog σ ε α) : Prog σ ε α :=
  fun state =>
    match exec program state with
    | (.ok value, after) => (.ok value, after)
    | (.error error, after) => exec (recover error) after

theorem exec_catching (program : Prog σ ε α) (recover : ε → Prog σ ε α) (state : σ) :
    exec (catching program recover) state =
      match exec program state with
      | (.ok value, after) => (.ok value, after)
      | (.error error, after) => exec (recover error) after := rfl

def ofExcept (result : Except ε α) : Prog σ ε α :=
  match result with
  | .ok value => pure value
  | .error error => throw error

@[simp] theorem exec_ofExcept (result : Except ε α) (state : σ) :
    exec (ofExcept result : Prog σ ε α) state = (result, state) := by
  cases result <;> rfl

theorem exec_ofExcept_split {result : Except ε α} {next : α → Prog σ ε β} {state after : σ} {value : β}
    (ran : exec (ofExcept result >>= next) state = (.ok value, after)) :
    ∃ read, result = .ok read ∧ exec (next read) state = (.ok value, after) := by
  obtain ⟨read, middle, first, rest⟩ := exec_bind_split ran
  simp_all

end Prog

theorem except_bind_ok {ε α β : Type} {first : Except ε α} {next : α → Except ε β} {value : β}
    (ran : (first >>= next) = .ok value) : ∃ read, first = .ok read ∧ next read = .ok value := by
  cases first with
  | error error => cases ran
  | ok read => exact ⟨read, rfl, ran⟩

/-- From `pre` the program ends in `Q` or, when it raises, in `raised`. -/
structure Triple {σ ε α : Type} (pre : σ → Prop) (program : Prog σ ε α) (Q : α → σ → Prop)
    (raised : σ → Prop) : Prop where
  run : ∀ state, pre state →
    match (program.exec state).1 with
    | .ok value => Q value (program.exec state).2
    | .error _ => raised (program.exec state).2

namespace Triple

variable {σ ε α β : Type} {pre : σ → Prop} {raised : σ → Prop}

variable {program : Prog σ ε α} {Q : α → σ → Prop}

theorem pure {value : α} (holds : ∀ state, pre state → Q value state) :
    Triple pre (Pure.pure value : Prog σ ε α) Q raised :=
  ⟨fun state given => holds state given⟩

theorem throw {error : ε} (holds : ∀ state, pre state → raised state) :
    Triple pre (MonadExcept.throw error : Prog σ ε α) Q raised :=
  ⟨fun state given => holds state given⟩

theorem of_exec
    (ends : ∀ state, pre state → ∃ result after, program.exec state = (result, after) ∧
      match result with
      | .ok value => Q value after
      | .error _ => raised after) : Triple pre program Q raised := by
  apply Triple.mk
  intro state given
  obtain ⟨result, after, ran, holds⟩ := ends state given
  rwa [ran]

theorem get {Q : σ → σ → Prop} (holds : ∀ state, pre state → Q state state) :
    Triple pre (MonadState.get : Prog σ ε σ) Q raised :=
  ⟨fun state given => holds state given⟩

theorem modify {change : σ → σ} {Q : PUnit → σ → Prop} (holds : ∀ state, pre state → Q ⟨⟩ (change state)) :
    Triple pre (MonadState.modifyGet (fun s => (PUnit.unit, change s)) : Prog σ ε PUnit) Q raised :=
  ⟨fun state given => holds state given⟩

theorem bind {first : Prog σ ε α} {k : α → Prog σ ε β} {R : α → σ → Prop} {Q : β → σ → Prop}
    (head : Triple pre first R raised) (tail : ∀ value, Triple (R value) (k value) Q raised) :
    Triple pre (first >>= k) Q raised := by
  refine ⟨fun state given => ?_⟩
  have started := head.run state given
  rw [Prog.exec_bind]
  cases ran : first.exec state with
  | mk result after =>
    rw [ran] at started
    cases result with
    | ok value => exact (tail value).run after started
    | error error => exact started

theorem weaken {P : σ → Prop} {Q stronger : α → σ → Prop} {worse : σ → Prop} (valid : Triple P program stronger worse)
    (before : ∀ state, pre state → P state) (after : ∀ value state, stronger value state → Q value state)
    (failed : ∀ state, worse state → raised state) :
    Triple pre program Q raised := by
  refine ⟨fun state given => ?_⟩
  have ran := valid.run state (before state given)
  revert ran
  cases (program.exec state).1 with
  | ok value => exact fun ran => after _ _ ran
  | error error => exact fun ran => failed _ ran

theorem before {P : σ → Prop} (valid : Triple P program Q raised) (entails : ∀ state, pre state → P state) :
    Triple pre program Q raised :=
  valid.weaken entails (fun _ _ h => h) (fun _ h => h)

theorem after {Q stronger : α → σ → Prop} (valid : Triple pre program stronger raised)
    (entails : ∀ value state, stronger value state → Q value state) :
    Triple pre program Q raised :=
  valid.weaken (fun _ h => h) entails (fun _ h => h)

theorem both {P failed : σ → Prop} {Q R : α → σ → Prop} (one : Triple pre program Q raised)
    (other : Triple P program R failed) :
    Triple (fun state => pre state ∧ P state) program (fun value state => Q value state ∧ R value state)
      (fun state => raised state ∧ failed state) := by
  refine ⟨fun state given => ?_⟩
  have first := one.run state given.1
  have second := other.run state given.2
  revert first second
  cases (program.exec state).1 with
  | _ => exact fun first second => ⟨first, second⟩

theorem assuming (valid : ∀ start, pre start → Triple (fun state => state = start) program Q raised) :
    Triple pre program Q raised :=
  ⟨fun state given => (valid state given).run state rfl⟩

theorem with_fact {fact : Prop} (valid : fact → Triple pre program Q raised) :
    Triple (fun state => pre state ∧ fact) program Q raised :=
  ⟨fun state given => (valid given.2).run state given.1⟩

theorem ite {condition : Prop} [Decidable condition] {yes no : Prog σ ε α}
    (whenTrue : condition → Triple pre yes Q raised) (whenFalse : ¬ condition → Triple pre no Q raised) :
    Triple pre (if condition then yes else no) Q raised := by
  split
  · exact whenTrue ‹_›
  · exact whenFalse ‹_›

theorem ofExcept {result : Except ε α} (good : ∀ value, result = .ok value → ∀ state, pre state → Q value state)
    (bad : ∀ state, pre state → raised state) :
    Triple pre (Prog.ofExcept result : Prog σ ε α) Q raised := by
  cases result with
  | ok value => exact pure (good value rfl)
  | error error => exact throw bad

theorem catching {recover : ε → Prog σ ε α} {failed : σ → Prop} (valid : Triple pre program Q failed)
    (handler : ∀ error, Triple failed (recover error) Q raised) :
    Triple pre (Prog.catching program recover) Q raised := by
  refine ⟨fun state given => ?_⟩
  have ran := valid.run state given
  rw [Prog.exec_catching]
  cases outcome : program.exec state with
  | mk result after =>
    rw [outcome] at ran
    cases result with
    | ok value => exact ran
    | error error => exact (handler error).run after ran

theorem forEach {ι : Type} {visit : ι → Prog σ ε PUnit} {items : List ι}
    (step : ∀ item ∈ items, Triple pre (visit item) (fun _ => pre) raised) :
    Triple pre (items.forM visit) (fun _ => pre) raised := by
  induction items with
  | nil => exact pure (fun _ given => given)
  | cons item rest ih =>
    refine bind (k := fun _ => rest.forM visit) (step item (by simp)) (fun _ => ih ?_)
    exact fun other member => step other (List.mem_cons_of_mem _ member)

theorem result (valid : Triple pre program Q raised) {state after : σ} {value : α} (given : pre state)
    (ran : program.exec state = (.ok value, after)) : Q value after := by
  have outcome := valid.run state given
  rwa [ran] at outcome

theorem always {left : σ → Prop} (valid : Triple pre program (fun _ => left) left) {state : σ}
    (given : pre state) : left (program.exec state).2 := by
  have outcome := valid.run state given
  revert outcome
  cases (program.exec state).1 with
  | _ => exact fun holds => holds

end Triple

structure Yields {σ ε α : Type} (program : Prog σ ε α) (holds : α → Prop) : Prop where
  run : ∀ state value after, program.exec state = (.ok value, after) → holds value

namespace Yields

variable {σ ε α β : Type} {holds : α → Prop}

theorem pure {value : α} (given : holds value) : Yields (Pure.pure value : Prog σ ε α) holds := by
  refine ⟨fun state other after ran => ?_⟩
  simp_all

theorem throw {error : ε} : Yields (MonadExcept.throw error : Prog σ ε α) holds := by
  refine ⟨fun state other after ran => ?_⟩
  cases ran

theorem ofExcept {result : Except ε α} (good : ∀ value, result = .ok value → holds value) :
    Yields (Prog.ofExcept result : Prog σ ε α) holds := by
  refine ⟨fun state value after ran => ?_⟩
  rw [Prog.exec_ofExcept, Prod.mk.injEq] at ran
  exact good value ran.1

theorem bind {first : Prog σ ε α} {next : α → Prog σ ε β} {P : β → Prop} (head : Yields first holds)
    (tail : ∀ value, holds value → Yields (next value) P) : Yields (first >>= next) P := by
  refine ⟨fun state value after ran => ?_⟩
  rw [Prog.exec_bind] at ran
  cases started : first.exec state with
  | mk result middle =>
    rw [started] at ran
    cases result with
    | ok read => exact (tail read (head.run _ _ _ started)).run _ _ _ ran
    | error error => cases ran

theorem next {first : Prog σ ε α} {next : α → Prog σ ε β} {P : β → Prop} (tail : ∀ value, Yields (next value) P) :
    Yields (first >>= next) P :=
  have anything : Yields first fun _ => True := ⟨fun _ _ _ _ => trivial⟩
  bind anything fun value _ => tail value

theorem ite {condition : Prop} [Decidable condition] {yes no : Prog σ ε α}
    (whenTrue : condition → Yields yes holds) (whenFalse : ¬ condition → Yields no holds) :
    Yields (if condition then yes else no) holds := by
  split
  · exact whenTrue ‹_›
  · exact whenFalse ‹_›

end Yields

def ReadOnly {σ ε α : Type} (program : Prog σ ε α) : Prop := ∀ state, (program.exec state).2 = state

namespace ReadOnly

variable {σ ε α β : Type}

theorem pure {value : α} : ReadOnly (Pure.pure value : Prog σ ε α) := fun _ => rfl

theorem throw {error : ε} : ReadOnly (MonadExcept.throw error : Prog σ ε α) := fun _ => rfl

theorem get : ReadOnly (MonadState.get : Prog σ ε σ) := fun _ => rfl

theorem ofExcept {attempt : Except ε α} : ReadOnly (Prog.ofExcept attempt : Prog σ ε α) := by
  intro state
  simp

theorem bind {first : Prog σ ε α} {next : α → Prog σ ε β} (head : ReadOnly first) (tail : ∀ value, ReadOnly (next value)) :
    ReadOnly (first >>= next) := by
  intro state
  have same := head state
  rw [Prog.exec_bind]
  cases ran : first.exec state with
  | mk result after =>
    rw [ran] at same
    cases result with
    | ok value =>
      cases same
      exact tail value _
    | error error => exact same

theorem ite {condition : Prop} [Decidable condition] {yes no : Prog σ ε α} (whenTrue : ReadOnly yes)
    (whenFalse : ReadOnly no) : ReadOnly (if condition then yes else no) := by
  split
  · exact whenTrue
  · exact whenFalse

theorem exec {program : Prog σ ε α} (reads : ReadOnly program) (state : σ) :
    program.exec state = ((program.exec state).1, state) := Prod.ext rfl (reads state)

theorem triple {program : Prog σ ε α} {pre raised : σ → Prop} (reads : ReadOnly program)
    (failed : ∀ state, pre state → raised state) :
    Triple pre program (fun value state => pre state ∧ program.exec state = (.ok value, state)) raised := by
  refine ⟨fun state given => ?_⟩
  have same := reads state
  cases ran : program.exec state with
  | mk result after =>
    rw [ran] at same
    cases same
    cases result with
    | ok value => exact ⟨given, ran⟩
    | error error => exact failed after given

end ReadOnly

end Troop
