import Mathlib.Logic.Function.Basic
import Troop.Execution.Lifecycle

namespace Troop.Runs.Absorbing

open Execution (RunStatus)
open Systems (Reaches runWhere)

/-- What a request does to the status of a run: `cancel_run`, `resume_run`, the two outcomes of `decide_approval`, and
    `recover_stale_in_progress_runs`. -/
inductive Request where
  | cancel | resume | approve | reject | recover
deriving DecidableEq

namespace Request

def accepts : Request → RunStatus → Bool
  | cancel, _ => true
  | resume, status => status ∈ [RunStatus.failed, .blocked]
  | approve, status => status = .blocked
  | reject, status => status ∉ [RunStatus.completed, .failed, .cancelled]
  | recover, status => status = .inProgress

def target : Request → RunStatus
  | cancel => .cancelled
  | resume | approve => .queued
  | reject | recover => .failed

end Request

/-- What `execute_run` can commit at its end. -/
inductive Ending where
  | completed | failed | blocked
deriving DecidableEq

def Ending.status : Ending → RunStatus
  | completed => .completed
  | failed => .failed
  | blocked => .blocked

inductive Session where
  | asking (request : Request) (read : RunStatus)
  /-- `execute_run` before its first commit: it holds the lock of the row -/
  | claiming
  | executing
  /-- `execute_run` after a commit of its ending -/
  | closing (ending : Ending)
deriving DecidableEq

def Session.base : Session → RunStatus
  | asking _ read => read
  | claiming | executing => .inProgress
  | closing ending => ending.status

def Session.mayFinish (ending : Ending) : Session → Bool
  | executing => true
  -- what raises after the run is completed still ends in its handlers
  | closing .completed => ending ≠ .completed
  | _ => false

inductive Action where
  | ask (session : Nat) (request : Request)
  | decide (session : Nat)
  | claim (session : Nat)
  | begin (session : Nat)
  /-- the soft time limit before the first commit -/
  | timeLimit (session : Nat)
  | finish (session : Nat) (ending : Ending)
  /-- the session returns, raises or crashes -/
  | leave (session : Nat)
deriving DecidableEq

/-- One run with the lock of its row, its sessions, and how often it was resumed. -/
structure World where
  status : RunStatus
  lock : Option Nat
  sessions : Nat → Option Session
  resumes : Nat

namespace World

def created : World := { status := .queued, lock := none, sessions := fun _ => none, resumes := 0 }

variable (w : World)

def setSession (session : Nat) (held : Option Session) : World :=
  { w with sessions := Function.update w.sessions session held }

def step : Action → Option World
  | .ask session request =>
    if request.accepts w.status ∧ w.sessions session = none then some (w.setSession session (some (.asking request w.status)))
    else none
  | .decide session =>
    match w.sessions session with
    | some (.asking request _) =>
      if w.lock = none then
        some { w.setSession session none with
          status := request.target
          resumes := if request = .resume then w.resumes + 1 else w.resumes }
      else none
    | _ => none
  | .claim session =>
    if w.status.isExecutionClaimable ∧ w.lock = none ∧ w.sessions session = none then
      some { w.setSession session (some .claiming) with lock := some session }
    else none
  | .begin session =>
    if w.sessions session = some .claiming then
      some { w.setSession session (some .executing) with status := .inProgress, lock := none }
    else none
  | .timeLimit session =>
    if w.sessions session = some .claiming then some { w.setSession session none with status := .failed, lock := none }
    else none
  | .finish session ending =>
    match w.sessions session with
    | some held =>
      if held.mayFinish ending ∧ w.lock = none then
        some { w.setSession session (some (.closing ending)) with status := ending.status }
      else none
    | none => none
  | .leave session =>
    match w.sessions session with
    | some held =>
      some { w.setSession session none with lock := if held = .claiming then none else w.lock }
    | none => none

def Overtaken (base target : RunStatus) : Prop :=
  (w.status = .completed ∨ w.status = .cancelled) ∧ w.status ≠ base ∧ w.status ≠ target

/-- No session commits where it has been overtaken, but a resume over a cancellation; no cancellation is asked of a completed
    run, and nothing raises once `execute_run` has committed the run as completed. -/
def Careful : Action → Prop
  | .decide session => ∀ request read, w.sessions session = some (.asking request read) →
      (w.Overtaken read request.target → request = .resume ∧ w.status = .cancelled) ∧
        (request = .cancel → read ≠ .completed)
  | .finish session ending => ∀ held, w.sessions session = some held →
      ¬ w.Overtaken held.base ending.status ∧ held ≠ .closing .completed
  | _ => True

variable {w} {after : World}

structure Grounded (w : World) : Prop where
  asked : ∀ session request read, w.sessions session = some (.asking request read) → request.accepts read = true
  claimed : ∀ session, w.sessions session = some .claiming →
    w.lock = some session ∧ w.status.isExecutionClaimable = true

variable {held : Option Session} {session other : Nat} {action : Action}

theorem setSession_cases {found : Session} (mine : (w.setSession session held).sessions other = some found) :
    (other = session ∧ held = some found) ∨ (other ≠ session ∧ w.sessions other = some found) := by
  by_cases same : other = session
  · have updated : (w.setSession session held).sessions other = held := by
      rw [same]
      exact Function.update_self _ _ _
    exact .inl ⟨same, updated.symm.trans mine⟩
  · have kept : (w.setSession session held).sessions other = w.sessions other := Function.update_of_ne same _ _
    exact .inr ⟨same, kept.symm.trans mine⟩

theorem Grounded.unclaimed (grounded : w.Grounded) (free : w.lock = none) (session : Nat) :
    w.sessions session ≠ some .claiming := by
  intro mine
  have locked := (grounded.claimed session mine).1
  simp [free] at locked

theorem Grounded.alone (grounded : w.Grounded) (mine : w.sessions session = some .claiming)
    (theirs : w.sessions other = some .claiming) : other = session := by
  have first := (grounded.claimed session mine).1
  have second := (grounded.claimed other theirs).1
  exact Option.some.inj (second.symm.trans first)

theorem Grounded.goOn {session : Nat} (grounded : w.Grounded)
    (sessions : after.sessions = Function.update w.sessions session held)
    (asks : ∀ request read, held = some (.asking request read) → request.accepts read = true)
    (claims : held = some .claiming → after.lock = some session ∧ after.status.isExecutionClaimable = true)
    (others : ∀ other, other ≠ session → w.sessions other = some .claiming →
      after.lock = some other ∧ after.status.isExecutionClaimable = true) : after.Grounded := by
  have cases : ∀ other found, after.sessions other = some found →
      (other = session ∧ held = some found) ∨ (other ≠ session ∧ w.sessions other = some found) := by
    intro other found mine
    rw [sessions] at mine
    exact setSession_cases mine
  refine ⟨?_, ?_⟩
  · intro other request read mine
    rcases cases other _ mine with ⟨_, shape⟩ | ⟨_, before⟩
    · exact asks request read shape
    · exact grounded.asked other request read before
  · intro other mine
    rcases cases other _ mine with ⟨same, shape⟩ | ⟨different, before⟩
    · simp_all
    · exact others other different before

theorem Grounded.step (grounded : w.Grounded) (stepped : w.step action = some after) : after.Grounded := by
  cases action with
  | ask session request =>
    dsimp only [World.step] at stepped
    split at stepped
    · cases stepped
      apply grounded.goOn rfl
      · simp_all
      · simp
      · intro other _ claiming
        exact grounded.claimed other claiming
    · cases stepped
  | decide session =>
    dsimp only [World.step] at stepped
    split at stepped
    · split at stepped
      · rename_i free
        cases stepped
        apply grounded.goOn rfl
        · simp
        · simp
        · intro other _ claiming
          exact absurd claiming (grounded.unclaimed free other)
      · cases stepped
    · cases stepped
  | claim session =>
    dsimp only [World.step] at stepped
    split at stepped
    · rename_i ready
      cases stepped
      apply grounded.goOn rfl
      · simp
      · intro _
        exact ⟨rfl, ready.1⟩
      · intro other _ claiming
        exact absurd claiming (grounded.unclaimed ready.2.1 other)
    · cases stepped
  | finish session ending =>
    dsimp only [World.step] at stepped
    split at stepped
    · split at stepped
      · rename_i allowed
        cases stepped
        apply grounded.goOn rfl
        · simp
        · simp
        · intro other _ claiming
          exact absurd claiming (grounded.unclaimed allowed.2 other)
      · cases stepped
    · cases stepped
  | leave session =>
    dsimp only [World.step] at stepped
    split at stepped
    · rename_i held mine
      cases stepped
      apply grounded.goOn rfl
      · simp
      · simp
      intro other different claiming
      have idle : held ≠ .claiming := by
        intro same
        rw [same] at mine
        exact different (grounded.alone mine claiming)
      have locks := grounded.claimed other claiming
      exact ⟨(if_neg idle).trans locks.1, locks.2⟩
    · cases stepped
  | _ =>
    dsimp only [World.step] at stepped
    split at stepped
    · rename_i mine
      cases stepped
      apply grounded.goOn rfl
      · simp
      · simp
      · intro other different claiming
        exact absurd (grounded.alone mine claiming) different
    · cases stepped

structure Absorbs (w after : World) : Prop where
  completed : w.status = .completed → after.status = .completed
  cancelled : w.status = .cancelled → after.status = .cancelled ∨ w.resumes < after.resumes
  resumes : w.resumes ≤ after.resumes

theorem Absorbs.quiet (status : after.status = w.status) (resumes : after.resumes = w.resumes) : w.Absorbs after := by
  refine ⟨?_, ?_, Nat.le_of_eq resumes.symm⟩
  · exact fun completed => status.trans completed
  · exact fun cancelled => .inl (status.trans cancelled)

theorem Absorbs.claimed (claimable : w.status.isExecutionClaimable = true) (resumes : after.resumes = w.resumes) :
    w.Absorbs after := by
  refine ⟨?_, ?_, Nat.le_of_eq resumes.symm⟩
  · intro completed
    rw [completed] at claimable
    cases claimable
  · intro cancelled
    rw [cancelled] at claimable
    cases claimable

theorem seen {base target : RunStatus} (final : w.status = .completed ∨ w.status = .cancelled)
    (current : ¬ w.Overtaken base target) : base = w.status ∨ target = w.status := by
  by_cases same : base = w.status
  · exact .inl same
  · by_cases written : target = w.status
    · exact .inr written
    · exact absurd ⟨final, Ne.symm same, Ne.symm written⟩ current

theorem Absorbs.decided {request : Request} {read : RunStatus} (accepted : request.accepts read = true)
    (careful : (w.Overtaken read request.target → request = .resume ∧ w.status = .cancelled) ∧
      (request = .cancel → read ≠ .completed))
    (status : after.status = request.target)
    (resumes : after.resumes = if request = .resume then w.resumes + 1 else w.resumes) : w.Absorbs after := by
  refine ⟨?_, ?_, ?_⟩
  · intro completed
    have current : ¬ w.Overtaken read request.target := by simp_all
    rcases seen (.inl completed) current with same | same <;> rw [completed] at same
    · rw [same] at accepted
      have cancel : request = .cancel := by
        cases request <;> first | rfl | cases accepted
      exact absurd same (careful.2 cancel)
    · cases request <;> cases same
  · intro cancelled
    by_cases overtaken : w.Overtaken read request.target
    · simp_all
    left
    rw [status]
    rcases seen (.inr cancelled) overtaken with same | same <;> rw [cancelled] at same
    · rw [same] at accepted
      cases request <;> first | rfl | cases accepted
    · exact same
  · split at resumes <;> omega

theorem Absorbs.finished {held : Session} {ending : Ending} (finishes : held.mayFinish ending = true)
    (careful : ¬ w.Overtaken held.base ending.status ∧ held ≠ .closing .completed)
    (status : after.status = ending.status) (resumes : after.resumes = w.resumes) : w.Absorbs after := by
  have based : held.base = .completed ∨ held.base = .cancelled → False := by
    intro final
    cases held with
    | executing => cases final <;> contradiction
    | closing old =>
      cases old with
      | completed => exact careful.2 rfl
      | _ => cases finishes
    | _ => cases finishes
  refine ⟨?_, ?_, Nat.le_of_eq resumes.symm⟩
  · intro completed
    rcases seen (.inl completed) careful.1 with same | same
    · exact absurd (.inl (same.trans completed)) based
    · exact status.trans (same.trans completed)
  · intro cancelled
    rcases seen (.inr cancelled) careful.1 with same | same
    · exact absurd (.inr (same.trans cancelled)) based
    · simp_all

theorem Absorbs.of_step (grounded : w.Grounded) (careful : w.Careful action)
    (stepped : w.step action = some after) : w.Absorbs after := by
  cases action with
  | decide session =>
    dsimp only [World.step] at stepped
    split at stepped
    · rename_i request read mine
      split at stepped
      · cases stepped
        exact .decided (grounded.asked session request read mine) (careful request read mine) rfl rfl
      · cases stepped
    · cases stepped
  | begin session =>
    dsimp only [World.step] at stepped
    split at stepped
    · rename_i mine
      cases stepped
      exact .claimed (grounded.claimed session mine).2 rfl
    · cases stepped
  | timeLimit session =>
    dsimp only [World.step] at stepped
    split at stepped
    · rename_i mine
      cases stepped
      exact .claimed (grounded.claimed session mine).2 rfl
    · cases stepped
  | finish session ending =>
    dsimp only [World.step] at stepped
    split at stepped
    · rename_i held mine
      split at stepped
      · rename_i allowed
        cases stepped
        exact .finished allowed.1 (careful held mine) rfl rfl
      · cases stepped
    · cases stepped
  | _ =>
    dsimp only [World.step] at stepped
    split at stepped
    · cases stepped
      exact .quiet rfl rfl
    · cases stepped

theorem Grounded.created : World.created.Grounded := by
  refine ⟨?_, ?_⟩
  · intro session request read mine
    cases mine
  · intro session mine
    cases mine

theorem Grounded.reached (grounded : w.Grounded) (reached : Reaches World.step World.Careful w after) : after.Grounded := by
  apply reached.invariant grounded
  intro state next action holds _ stepped
  exact holds.step stepped

end World

/-- In careful runs a completed run stays completed, and a cancelled run stays cancelled until it is resumed. -/
theorem terminal_statuses_absorbing (w later : World) (reached : Reaches World.step World.Careful World.created w)
    (further : Reaches World.step World.Careful w later) :
    (w.status = .completed → later.status = .completed) ∧
      (w.status = .cancelled → later.resumes = w.resumes → later.status = .cancelled) := by
  have grounded := World.Grounded.created.reached reached
  have absorbed : later.Grounded ∧ w.Absorbs later := by
    apply further.invariant ⟨grounded, .quiet rfl rfl⟩
    intro state after action holds careful stepped
    have next := World.Absorbs.of_step holds.1 careful stepped
    refine ⟨holds.1.step stepped, ?_, ?_, ?_⟩
    · exact fun completed => next.completed (holds.2.completed completed)
    · intro cancelled
      rcases holds.2.cancelled cancelled with still | resumed
      · rcases next.cancelled still with kept | again
        · exact .inl kept
        · exact .inr (Nat.lt_of_le_of_lt holds.2.resumes again)
      · exact .inr (Nat.lt_of_lt_of_le resumed next.resumes)
    · exact Nat.le_trans holds.2.resumes next.resumes
  refine ⟨absorbed.2.completed, ?_⟩
  intro cancelled same
  rcases absorbed.2.cancelled cancelled with kept | resumed
  · exact kept
  · omega

def isCareful (w : World) : Action → Bool
  | .decide session =>
    match w.sessions session with
    | some (.asking request read) => w.status = read ∧ (request = .cancel → read ≠ .completed)
    | _ => true
  | .finish session _ =>
    match w.sessions session with
    | some held => w.status = held.base ∧ held ≠ .closing .completed
    | none => true
  | _ => true

theorem isCareful_careful (w : World) (action : Action) (checked : isCareful w action = true) : w.Careful action := by
  cases action with
  | decide session =>
    intro request read mine
    simp only [isCareful, mine, decide_eq_true_eq] at checked
    exact ⟨fun overtaken => absurd checked.1 overtaken.2.1, checked.2⟩
  | finish session ending =>
    intro held mine
    simp only [isCareful, mine, decide_eq_true_eq] at checked
    exact ⟨fun overtaken => overtaken.2.1 checked.1, checked.2⟩
  | _ => trivial

def cancelledActions : List Action :=
  [.claim 0, .begin 0, .finish 0 .failed, .leave 0, .ask 1 .resume, .decide 1, .ask 1 .cancel, .decide 1]

def cancelledAgain : List Action := [.ask 2 .cancel, .decide 2]

theorem cancelled_run_stays :
    ∃ w later, runWhere World.step isCareful World.created cancelledActions = some w ∧ w.status = .cancelled ∧
      runWhere World.step isCareful w cancelledAgain = some later ∧ later.resumes = w.resumes ∧ later.status = .cancelled := by
  obtain ⟨w, later, ran, cancelled, again, resumes⟩ : ∃ w later,
      runWhere World.step isCareful World.created cancelledActions = some w ∧ w.status = .cancelled ∧
        runWhere World.step isCareful w cancelledAgain = some later ∧ later.resumes = w.resumes :=
    ⟨_, _, rfl, rfl, rfl, rfl⟩
  have reached : Reaches World.step World.Careful World.created w := Reaches.start.runs isCareful_careful ran
  have further : Reaches World.step World.Careful w later := Reaches.start.runs isCareful_careful again
  exact ⟨w, later, ran, cancelled, again, resumes,
    (terminal_statuses_absorbing w later reached further).2 cancelled resumes⟩

def overtakenActions : List Action := [.claim 0, .begin 0, .ask 1 .cancel, .decide 1]

theorem cancelled_run_completes_and_completed_run_cancelled :
    (∃ w later, runWhere World.step (fun _ _ => true) World.created overtakenActions = some w ∧ w.status = .cancelled ∧
      runWhere World.step (fun _ _ => true) w [.finish 0 .completed] = some later ∧ later.resumes = w.resumes ∧
        later.status = .completed) ∧
    ∃ w later, runWhere World.step (fun _ _ => true) World.created [.claim 0, .begin 0, .finish 0 .completed] = some w ∧
      w.status = .completed ∧ runWhere World.step (fun _ _ => true) w [.ask 1 .cancel, .decide 1] = some later ∧
        later.status = .cancelled :=
  ⟨⟨_, _, rfl, rfl, rfl, rfl, rfl⟩, ⟨_, _, rfl, rfl, rfl, rfl⟩⟩

end Troop.Runs.Absorbing
