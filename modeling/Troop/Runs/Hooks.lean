import Troop.Runs.Absorbing

namespace Troop.Runs.Hooks

open Execution (RunStatus)
open Absorbing (Request Ending)
open Systems (Reaches runWhere)
open List
open Function (update update_of_ne update_self)

/-- The statuses that `on_task_run_terminal` reacts to. -/
def isTerminal : RunStatus → Bool
  | .completed | .failed | .cancelled => true
  | _ => false

inductive Session where
  /-- what a request has read of a run and of its children -/
  | asking (request : Request) (run : String) (read : RunStatus) (children : List (String × RunStatus))
  | claiming (run : String)
  | executing (run : String)
  /-- `execute_run` after a commit of its ending, and the hooks that it is still to call -/
  | closing (run : String) (ending : Ending) (owed : List String)
  /-- `cancel_run` after its commit -/
  | waking (owed : List String)
deriving DecidableEq

def Session.owed : Session → List String
  | asking _ _ _ _ | claiming _ | executing _ => []
  | closing _ _ owed | waking owed => owed

def Session.called : Session → Session
  | closing run ending owed => closing run ending owed.tail
  | waking owed => waking owed.tail
  | held => held

/-- The run that `execute_run` may commit this ending for. -/
def Session.finishes (ending : Ending) : Session → Option String
  | executing run => some run
  -- what raises after the run is completed still ends in the handlers
  | closing run .completed [] => if ending = .completed then none else some run
  | _ => none

def writes (request : Request) (run : String) (children : List (String × RunStatus)) : List (String × RunStatus) :=
  let among (statuses : List RunStatus) := children.filter fun child => child.2 ∈ statuses
  match request with
  | .cancel => (run, .cancelled) :: (among [.queued, .inProgress, .blocked]).map fun child => (child.1, .cancelled)
  | .resume => (run, .queued) :: (among [.blocked, .failed]).map fun child => (child.1, .queued)
  | .approve | .reject | .recover => [(run, request.target)]

/-- The hooks that a request calls after its commit: `cancel_run` for the run and each cancelled child. -/
def hooksOf (request : Request) (run : String) (children : List (String × RunStatus)) : List String :=
  match request with
  | .cancel =>
    run :: (children.filter fun child => child.2 ∈ [RunStatus.queued, .inProgress, .blocked, .cancelled]).map Prod.fst
  | _ => []

def Ending.hooks (run : String) : Ending → List String
  | .completed | .failed => [run]
  | .blocked => []

inductive Action where
  | create (run : String) (parent : Option String)
  /-- every other writer of a status: planned runs, and a manager that settles a branch -/
  | move (run : String) (status : RunStatus)
  | ask (session : Nat) (request : Request) (run : String)
  | decide (session : Nat)
  | claim (session : Nat) (run : String)
  | begin (session : Nat)
  | timeLimit (session : Nat)
  | finish (session : Nat) (ending : Ending)
  /-- `on_task_run_terminal`; it resumes the workflows or raises -/
  | hook (session : Nat) (resumes : Bool)
  | leave (session : Nat)
  /-- a workflow run is committed as paused at an agent node that waits for the run -/
  | pause (workflow run : String)
deriving DecidableEq

/-- The task runs with the locks of their rows, the sessions, and the paused workflow runs. A run is unanswered from when it is
    moved to a terminal status until a hook is called for it. -/
structure World where
  rows : String → Option RunStatus
  children : String → List String
  locks : String → Option Nat
  sessions : Nat → Option Session
  waiting : String → Option String
  unanswered : String → Bool

namespace World

def empty : World :=
  { rows := fun _ => none, children := fun _ => [], locks := fun _ => none, sessions := fun _ => none
    waiting := fun _ => none, unanswered := fun _ => false }

variable (w : World)

def setSession (session : Nat) (held : Option Session) : World :=
  { w with sessions := Function.update w.sessions session held }

def setLock (run : String) (holder : Option Nat) : World := { w with locks := Function.update w.locks run holder }

def setStatus (run : String) (status : RunStatus) : World :=
  { w with
    rows := Function.update w.rows run ((w.rows run).map fun _ => status)
    unanswered := if isTerminal status then Function.update w.unanswered run true else w.unanswered }

def commit (changes : List (String × RunStatus)) : World :=
  changes.foldl (fun state change => state.setStatus change.1 change.2) w

def isTerminalRun (run : String) : Bool := (w.rows run).any isTerminal

def resumeWaiting (run : String) : World :=
  { w with
    waiting := fun workflow => if w.waiting workflow = some run ∧ w.isTerminalRun run then none else w.waiting workflow
    unanswered := Function.update w.unanswered run false }

def step : Action → Option World
  | .create run parent =>
    if w.rows run = none then
      some { w with
        rows := Function.update w.rows run (some .queued)
        children := fun other => if parent = some other then w.children other ++ [run] else w.children other }
    else none
  | .move run status => if w.locks run = none then some (w.setStatus run status) else none
  | .ask session request run =>
    match w.rows run with
    | some read =>
      if request.accepts read ∧ w.sessions session = none then
        let children := (w.children run).filterMap fun child => (w.rows child).map fun status => (child, status)
        some (w.setSession session (some (.asking request run read children)))
      else none
    | none => none
  | .decide session =>
    match w.sessions session with
    | some (.asking request run _ children) =>
      if ∀ change ∈ writes request run children, w.locks change.1 = none then
        let later := if hooksOf request run children = [] then none else some (.waking (hooksOf request run children))
        some ((w.commit (writes request run children)).setSession session later)
      else none
    | _ => none
  | .claim session run =>
    if (w.rows run).any RunStatus.isExecutionClaimable ∧ w.locks run = none ∧ w.sessions session = none then
      some ((w.setSession session (some (.claiming run))).setLock run (some session))
    else none
  | .begin session =>
    match w.sessions session with
    | some (.claiming run) =>
      some (((w.setStatus run .inProgress).setSession session (some (.executing run))).setLock run none)
    | _ => none
  | .timeLimit session =>
    match w.sessions session with
    | some (.claiming run) => some (((w.setStatus run .failed).setSession session none).setLock run none)
    | _ => none
  | .finish session ending =>
    match (w.sessions session).bind (Session.finishes ending) with
    | some run =>
      if w.locks run = none then
        some ((w.setStatus run ending.status).setSession session (some (.closing run ending (Ending.hooks run ending))))
      else none
    | none => none
  | .hook session resumes =>
    match w.sessions session with
    | some held =>
      match held.owed with
      | run :: _ =>
        let next := w.setSession session (some held.called)
        some (if resumes then next.resumeWaiting run else next)
      | [] => none
    | none => none
  | .leave session =>
    match w.sessions session with
    | some (.claiming run) => some ((w.setSession session none).setLock run none)
    | some _ => some (w.setSession session none)
    | none => none
  | .pause workflow run => some { w with waiting := Function.update w.waiting workflow (some run) }

def Owed (run : String) : Prop := ∃ session held, w.sessions session = some held ∧ run ∈ held.owed

def Spared (session : Nat) (run : String) : Prop :=
  (∃ other held, other ≠ session ∧ w.sessions other = some held ∧ run ∈ held.owed) ∨
    (w.unanswered run = false ∧ ∀ workflow, w.waiting workflow = some run → w.isTerminalRun run = false)

/-- No run is moved to a terminal status by a rejection, by the recovery, by the soft time limit or by another writer, and no
    workflow pauses at a terminal run, unless a hook is still to be called for it; and no session goes, and no hook raises,
    before the hooks that it owes, unless the runs are spared. -/
def Careful : Action → Prop
  | .move run status => isTerminal status = true → w.Owed run
  | .decide session => ∀ request run read children, w.sessions session = some (.asking request run read children) →
      request = .reject ∨ request = .recover → w.Owed run
  | .timeLimit session => ∀ run, w.sessions session = some (.claiming run) → w.Owed run
  | .hook session resumes => ∀ held run, w.sessions session = some held → held.owed.head? = some run →
      resumes = true ∨ run ∈ held.owed.tail ∨ w.Spared session run
  | .leave session => ∀ held, w.sessions session = some held → ∀ run ∈ held.owed, w.Spared session run
  | .pause _ run => w.isTerminalRun run = true → w.Owed run
  | _ => True

structure Answered (w : World) : Prop where
  moved : ∀ run, w.unanswered run = true → w.Owed run
  awaited : ∀ workflow run, w.waiting workflow = some run → w.isTerminalRun run = true → w.Owed run

variable {w} {after : World} {run other : String} {session : Nat}

variable {held : Option Session} {changes : List (String × RunStatus)} {status : RunStatus} {rest : List String}

theorem setStatus_unanswered (marked : (w.setStatus run status).unanswered other = true) :
    w.unanswered other = true ∨ (run = other ∧ isTerminal status = true) := by
  unfold setStatus at marked
  split at marked
  · rename_i terminal
    by_cases same : other = run
    · exact .inr ⟨same.symm, terminal⟩
    · simp_all
  · exact .inl marked

theorem setStatus_terminal (terminal : (w.setStatus run status).isTerminalRun other = true) :
    w.isTerminalRun other = true ∨ (run = other ∧ isTerminal status = true) := by
  unfold isTerminalRun setStatus at terminal
  dsimp only at terminal
  by_cases same : other = run
  · rw [same, update_self] at terminal
    cases found : w.rows run with
    | none => simp [found] at terminal
    | some old => simp_all
  · rw [update_of_ne same] at terminal
    exact .inl terminal

theorem commit_unanswered (marked : (w.commit changes).unanswered other = true) :
    w.unanswered other = true ∨ ∃ change ∈ changes, change.1 = other ∧ isTerminal change.2 = true := by
  induction changes generalizing w with
  | nil => exact .inl marked
  | cons change rest ih =>
    rcases ih marked with before | ⟨later, member, moved⟩
    · rcases setStatus_unanswered before with old | moved
      · exact .inl old
      · exact .inr ⟨change, mem_cons_self, moved⟩
    · exact .inr ⟨later, mem_cons_of_mem _ member, moved⟩

theorem commit_terminal (terminal : (w.commit changes).isTerminalRun other = true) :
    w.isTerminalRun other = true ∨ ∃ change ∈ changes, change.1 = other ∧ isTerminal change.2 = true := by
  induction changes generalizing w with
  | nil => exact .inl terminal
  | cons change rest ih =>
    rcases ih terminal with before | ⟨later, member, moved⟩
    · rcases setStatus_terminal before with old | moved
      · exact .inl old
      · exact .inr ⟨change, mem_cons_self, moved⟩
    · exact .inr ⟨later, mem_cons_of_mem _ member, moved⟩

@[simp] theorem commit_sessions (changes : List (String × RunStatus)) : (w.commit changes).sessions = w.sessions := by
  induction changes generalizing w with
  | nil => rfl
  | cons change rest ih => exact ih

@[simp] theorem commit_waiting (changes : List (String × RunStatus)) : (w.commit changes).waiting = w.waiting := by
  induction changes generalizing w with
  | nil => rfl
  | cons change rest ih => exact ih

theorem Owed.goOn (owed : w.Owed run) (sessions : after.sessions = Function.update w.sessions session held)
    (keeps : ∀ old, w.sessions session = some old → run ∈ old.owed → ∃ new, held = some new ∧ run ∈ new.owed) :
    after.Owed run := by
  obtain ⟨other, old, mine, listed⟩ := owed
  by_cases same : other = session
  · rw [same] at mine
    obtain ⟨new, here, still⟩ := keeps old mine listed
    refine ⟨session, new, ?_, still⟩
    rwa [sessions, update_self]
  · refine ⟨other, old, ?_, listed⟩
    rwa [sessions, update_of_ne same]

theorem Owed.idle (owed : w.Owed run) (sessions : after.sessions = Function.update w.sessions session held)
    (free : ∀ old, w.sessions session = some old → old.owed = []) : after.Owed run := by
  apply owed.goOn sessions
  simp_all

theorem Answered.later (answered : w.Answered) (owed : ∀ run, w.Owed run → after.Owed run)
    (moved : ∀ run, after.unanswered run = true → w.unanswered run = true ∨ after.Owed run)
    (waiting : ∀ workflow run, after.waiting workflow = some run → w.waiting workflow = some run ∨ after.Owed run)
    (terminal : ∀ run, after.isTerminalRun run = true → w.isTerminalRun run = true ∨ after.Owed run) : after.Answered := by
  refine ⟨?_, ?_⟩
  · intro run marked
    rcases moved run marked with before | here
    · exact owed run (answered.moved run before)
    · exact here
  · intro workflow run paused ended
    rcases waiting workflow run paused with before | here
    · rcases terminal run ended with old | here
      · exact owed run (answered.awaited workflow run before old)
      · exact here
    · exact here

theorem writes_hooked {request : Request} {children : List (String × RunStatus)} {change : String × RunStatus}
    (member : change ∈ writes request run children) (terminal : isTerminal change.2 = true) :
    change.1 ∈ hooksOf request run children ∨ ((request = .reject ∨ request = .recover) ∧ change.1 = run) := by
  cases request with
  | cancel =>
    left
    rcases mem_cons.mp member with here | among
    · rw [here]
      exact mem_cons_self
    · obtain ⟨child, listed, same⟩ := mem_map.mp among
      rw [← same]
      have kept := mem_filter.mp listed
      have status := mem_append_left [RunStatus.cancelled] (of_decide_eq_true kept.2)
      have hooked : child ∈ children.filter fun child => child.2 ∈ [RunStatus.queued, .inProgress, .blocked, .cancelled] :=
        mem_filter.mpr ⟨kept.1, decide_eq_true status⟩
      exact mem_cons_of_mem _ (mem_map.mpr ⟨child, hooked, rfl⟩)
  | resume =>
    exfalso
    rcases mem_cons.mp member with here | among
    · rw [here] at terminal
      cases terminal
    · obtain ⟨child, _, same⟩ := mem_map.mp among
      rw [← same] at terminal
      cases terminal
  | approve =>
    rw [mem_singleton.mp member] at terminal
    cases terminal
  | reject =>
    rw [mem_singleton.mp member]
    exact .inr ⟨.inl rfl, rfl⟩
  | recover =>
    rw [mem_singleton.mp member]
    exact .inr ⟨.inr rfl, rfl⟩

theorem Answered.dropped (answered : w.Answered)
    (sessions : after.sessions = Function.update w.sessions session held) (unanswered : after.unanswered = w.unanswered)
    (waiting : after.waiting = w.waiting) (rows : after.rows = w.rows)
    (keeps : ∀ old run, w.sessions session = some old → run ∈ old.owed →
      (∃ new, held = some new ∧ run ∈ new.owed) ∨ w.Spared session run) : after.Answered := by
  have kept : ∀ run, w.Owed run → after.Owed run ∨
      (w.unanswered run = false ∧ ∀ workflow, w.waiting workflow = some run → w.isTerminalRun run = false) := by
    intro run owed
    obtain ⟨other, old, mine, listed⟩ := owed
    by_cases same : other = session
    · rw [same] at mine
      rcases keeps old run mine listed with ⟨new, here, still⟩ | ⟨third, found, different, theirs, owes⟩ | quiet
      · refine .inl ⟨session, new, ?_, still⟩
        rwa [sessions, update_self]
      · refine .inl ⟨third, found, ?_, owes⟩
        rwa [sessions, update_of_ne different]
      · exact .inr quiet
    · refine .inl ⟨other, old, ?_, listed⟩
      rwa [sessions, update_of_ne same]
  refine ⟨?_, ?_⟩
  · intro run marked
    rw [unanswered] at marked
    rcases kept run (answered.moved run marked) with owed | quiet
    · exact owed
    · simp_all
  · intro workflow run paused ended
    rw [waiting] at paused
    have before : w.isTerminalRun run = true := by
      unfold isTerminalRun at ended ⊢
      rwa [rows] at ended
    rcases kept run (answered.awaited workflow run paused before) with owed | quiet
    · exact owed
    · simp_all

theorem Answered.hooked {held : Session} (answered : w.Answered) (mine : w.sessions session = some held)
    (next : held.owed = run :: rest) (called : held.called.owed = rest) :
    ((w.setSession session (some held.called)).resumeWaiting run).Answered := by
  have kept : ∀ other, other ≠ run → w.Owed other →
      ((w.setSession session (some held.called)).resumeWaiting run).Owed other := by
    intro other different owed
    apply owed.goOn rfl
    intro old here listed
    have same : old = held := Option.some.inj (here.symm.trans mine)
    rw [same, next] at listed
    rcases mem_cons.mp listed with equal | later
    · exact absurd equal different
    · simp_all
  refine ⟨?_, ?_⟩
  · intro other marked
    by_cases same : other = run
    · have cleared : ((w.setSession session (some held.called)).resumeWaiting run).unanswered other = false := by
        rw [same]
        exact update_self _ _ _
      simp [cleared] at marked
    · have before : w.unanswered other = true := (update_of_ne same _ _).symm.trans marked
      exact kept other same (answered.moved other before)
  · intro workflow other paused ended
    have split := paused
    unfold resumeWaiting at split
    dsimp only at split
    split at split
    · cases split
    rename_i skipped
    by_cases same : other = run
    · rw [same] at split ended
      exact absurd ⟨split, ended⟩ skipped
    · exact kept other same (answered.awaited workflow other split ended)

theorem owed_finishes {ending : Ending} {held : Session} (finishes : held.finishes ending = some run) : held.owed = [] := by
  cases held with
  | closing other old owed =>
    cases owed with
    | nil => rfl
    | cons => cases old <;> cases finishes
  | waking owed => cases finishes
  | _ => rfl

theorem owed_called {held : Session} (next : held.owed = run :: rest) : held.called.owed = rest := by
  cases held with
  | closing other ending owed =>
    have same : owed = run :: rest := next
    rw [same]
    rfl
  | waking owed =>
    have same : owed = run :: rest := next
    rw [same]
    rfl
  | asking request other read children => cases next
  | claiming other => cases next
  | executing other => cases next

theorem Answered.step {action : Action} (answered : w.Answered) (careful : w.Careful action)
    (stepped : w.step action = some after) : after.Answered := by
  cases action with
  | create run parent =>
    dsimp only [World.step] at stepped
    split at stepped
    · cases stepped
      refine ⟨answered.moved, ?_⟩
      intro workflow other paused ended
      have before : w.isTerminalRun other = true := by
        unfold isTerminalRun at ended ⊢
        dsimp only at ended
        by_cases same : other = run
        · rw [same, update_self] at ended
          cases ended
        · rwa [update_of_ne same] at ended
      exact answered.awaited workflow other paused before
    · cases stepped
  | move run status =>
    dsimp only [World.step] at stepped
    split at stepped
    · cases stepped
      apply answered.later
      · exact fun other owed => owed
      · intro other marked
        rcases setStatus_unanswered marked with before | ⟨same, terminal⟩
        · exact .inl before
        · rw [← same]
          exact .inr (careful terminal)
      · exact fun workflow other paused => .inl paused
      intro other ended
      rcases setStatus_terminal ended with before | ⟨same, terminal⟩
      · exact .inl before
      · rw [← same]
        exact .inr (careful terminal)
    · cases stepped
  | ask session request run =>
    dsimp only [World.step] at stepped
    split at stepped
    · split at stepped
      · rename_i allowed
        cases stepped
        apply answered.later
        · intro other owed
          apply owed.idle rfl
          simp [allowed.2]
        · exact fun other marked => .inl marked
        · exact fun workflow other paused => .inl paused
        · exact fun other ended => .inl ended
      · cases stepped
    · cases stepped
  | decide session =>
    dsimp only [World.step] at stepped
    split at stepped
    · rename_i request run read children mine
      split at stepped
      · cases stepped
        have kept : ∀ other, w.Owed other → (((w.commit (writes request run children)).setSession session
            (if hooksOf request run children = [] then none
              else some (.waking (hooksOf request run children))))).Owed other := by
          intro other owed
          apply owed.idle
          · show update (w.commit (writes request run children)).sessions session _ = _
            rw [commit_sessions]
          · intro old here
            have same : old = .asking request run read children := Option.some.inj (here.symm.trans mine)
            rw [same]
            rfl
        have hooked : ∀ change ∈ writes request run children, isTerminal change.2 = true →
            (((w.commit (writes request run children)).setSession session
              (if hooksOf request run children = [] then none
                else some (.waking (hooksOf request run children))))).Owed change.1 := by
          intro change member terminal
          rcases writes_hooked member terminal with listed | ⟨other, same⟩
          · have some_ : hooksOf request run children ≠ [] := ne_nil_of_mem listed
            refine ⟨session, .waking (hooksOf request run children), ?_, listed⟩
            rw [if_neg some_]
            exact update_self _ _ _
          · rw [same]
            exact kept run (careful request run read children mine other)
        apply answered.later kept
        · intro other marked
          rcases commit_unanswered marked with before | ⟨change, member, same, terminal⟩
          · exact .inl before
          · grind
        · intro workflow other paused
          rw [← commit_waiting (w := w) (writes request run children)]
          exact .inl paused
        · intro other ended
          rcases commit_terminal ended with before | ⟨change, member, same, terminal⟩
          · exact .inl before
          · grind
      · cases stepped
    · cases stepped
  | claim session run =>
    dsimp only [World.step] at stepped
    split at stepped
    · rename_i ready
      cases stepped
      apply answered.later
      · intro other owed
        apply owed.idle rfl
        simp [ready.2.2]
      · exact fun other marked => .inl marked
      · exact fun workflow other paused => .inl paused
      · exact fun other ended => .inl ended
    · cases stepped
  | begin session =>
    dsimp only [World.step] at stepped
    split at stepped
    · rename_i run mine
      cases stepped
      apply answered.later
      · intro other owed
        apply owed.idle rfl
        intro old here
        have same : old = .claiming run := Option.some.inj (here.symm.trans mine)
        rw [same]
        rfl
      · intro other marked
        have written : (w.setStatus run .inProgress).unanswered other = true := marked
        rcases setStatus_unanswered written with before | ⟨_, terminal⟩
        · exact .inl before
        · cases terminal
      · exact fun workflow other paused => .inl paused
      · intro other ended
        rcases setStatus_terminal ended with before | ⟨_, terminal⟩
        · exact .inl before
        · cases terminal
    · cases stepped
  | timeLimit session =>
    dsimp only [World.step] at stepped
    split at stepped
    · rename_i run mine
      cases stepped
      have kept : ∀ other, w.Owed other →
          (((w.setStatus run .failed).setSession session none).setLock run none).Owed other := by
        intro other owed
        apply owed.idle rfl
        intro old here
        have same : old = .claiming run := Option.some.inj (here.symm.trans mine)
        rw [same]
        rfl
      apply answered.later kept
      · intro other marked
        have written : (w.setStatus run .failed).unanswered other = true := marked
        rcases setStatus_unanswered written with before | ⟨same, _⟩
        · exact .inl before
        · rw [← same]
          exact .inr (kept run (careful run mine))
      · exact fun workflow other paused => .inl paused
      intro other ended
      rcases setStatus_terminal ended with before | ⟨same, _⟩
      · exact .inl before
      · rw [← same]
        exact .inr (kept run (careful run mine))
    · cases stepped
  | finish session ending =>
    dsimp only [World.step] at stepped
    split at stepped
    · rename_i run finishes
      split at stepped
      · cases stepped
        obtain ⟨held, mine, finishes⟩ := Option.bind_eq_some_iff.mp finishes
        have hooked : isTerminal ending.status = true →
            ((w.setStatus run ending.status).setSession session
              (some (.closing run ending (Ending.hooks run ending)))).Owed run := by
          intro terminal
          refine ⟨session, .closing run ending (Ending.hooks run ending), update_self _ _ _, ?_⟩
          cases ending with
          | blocked => cases terminal
          | _ => exact mem_cons_self
        apply answered.later
        · intro other owed
          apply owed.idle rfl
          intro old here
          have same : old = held := Option.some.inj (here.symm.trans mine)
          rw [same]
          exact owed_finishes finishes
        · intro other marked
          rcases setStatus_unanswered marked with before | ⟨same, terminal⟩
          · exact .inl before
          · simp_all
        · exact fun workflow other paused => .inl paused
        · intro other ended
          rcases setStatus_terminal ended with before | ⟨same, terminal⟩
          · exact .inl before
          · simp_all
      · cases stepped
    · cases stepped
  | hook session resumes =>
    dsimp only [World.step] at stepped
    split at stepped
    · rename_i held mine
      split at stepped
      · rename_i run rest next
        cases stepped
        cases resumes with
        | true => exact answered.hooked mine next (owed_called next)
        | false =>
          have moved : (w.setSession session (some held.called)).sessions =
              update w.sessions session (some held.called) := rfl
          apply answered.dropped moved rfl rfl rfl
          intro old other here listed
          have same : old = held := Option.some.inj (here.symm.trans mine)
          rw [same, next] at listed
          rcases mem_cons.mp listed with equal | later
          · have head : held.owed.head? = some run := by rw [next]; rfl
            rcases careful held run mine head with resumed | again | spared
            · cases resumed
            · rw [next] at again
              refine .inl ⟨held.called, rfl, ?_⟩
              rwa [owed_called next, equal]
            · simp_all
          · refine .inl ⟨held.called, rfl, ?_⟩
            rwa [owed_called next]
      · cases stepped
    · cases stepped
  | leave session =>
    have gone : ∀ held, w.sessions session = some held → ∀ next : World,
        next.sessions = update w.sessions session none → next.unanswered = w.unanswered →
        next.waiting = w.waiting → next.rows = w.rows → next.Answered := by
      intro held mine next sessions unanswered waiting rows
      apply answered.dropped sessions unanswered waiting rows
      intro old other here listed
      have same : old = held := Option.some.inj (here.symm.trans mine)
      rw [same] at listed
      exact .inr (careful held mine other listed)
    dsimp only [World.step] at stepped
    split at stepped
    · rename_i mine
      cases stepped
      exact gone _ mine _ rfl rfl rfl rfl
    · rename_i held _ mine
      cases stepped
      exact gone held mine _ rfl rfl rfl rfl
    · cases stepped
  | pause workflow run =>
    cases stepped
    refine ⟨answered.moved, ?_⟩
    intro other awaited paused ended
    by_cases same : other = workflow
    · have here : update w.waiting workflow (some run) other = some awaited := paused
      rw [same, update_self] at here
      cases here
      exact careful ended
    · have before : w.waiting other = some awaited := (update_of_ne same _ _).symm.trans paused
      exact answered.awaited other awaited before ended

theorem Answered.empty : World.empty.Answered := by
  refine ⟨?_, ?_⟩
  · intro run marked
    cases marked
  · intro workflow run paused
    cases paused

end World

/-- In careful runs every move of a run to a terminal status has its hook called or still to be called, and no workflow stays
    paused at a terminal run but until that hook. -/
theorem terminal_runs_answered (w : World) (reached : Reaches World.step World.Careful World.empty w) :
    (∀ run, w.unanswered run = true → w.Owed run) ∧
      ∀ workflow run, w.waiting workflow = some run → w.isTerminalRun run = true → w.Owed run := by
  have answered : w.Answered := by
    apply reached.invariant World.Answered.empty
    intro state after action holds careful stepped
    exact holds.step careful stepped
  exact ⟨answered.moved, answered.awaited⟩

def isCareful (w : World) : Action → Bool
  | .move _ status => !isTerminal status
  | .decide session =>
    match w.sessions session with
    | some (.asking request _ _ _) => request ≠ .reject ∧ request ≠ .recover
    | _ => true
  | .timeLimit _ => false
  | .hook _ resumes => resumes
  | .leave session =>
    match w.sessions session with
    | some held => held.owed = []
    | none => true
  | .pause _ run => !w.isTerminalRun run
  | _ => true

theorem isCareful_careful (w : World) (action : Action) (checked : isCareful w action = true) : w.Careful action := by
  cases action with
  | move run status =>
    intro terminal
    simp only [isCareful, terminal, Bool.not_true] at checked
    cases checked
  | decide session =>
    intro request run read children mine other
    simp only [isCareful, mine, decide_eq_true_eq] at checked
    rcases other with rejected | recovered
    · exact absurd rejected checked.1
    · exact absurd recovered checked.2
  | timeLimit session => cases checked
  | hook session resumes =>
    intro held run mine head
    exact .inl checked
  | leave session =>
    intro held mine run listed
    simp only [isCareful, mine, decide_eq_true_eq] at checked
    simp [checked] at listed
  | pause workflow run =>
    intro terminal
    simp only [isCareful, terminal, Bool.not_true] at checked
    cases checked
  | _ => trivial

def cancelledActions : List Action :=
  [.create "parent" none, .create "child" (some "parent"), .pause "workflow" "child", .ask 0 .cancel "parent", .decide 0,
    .hook 0 true]

theorem cancelled_child_answered :
    ∃ w, runWhere World.step isCareful World.empty cancelledActions = some w ∧ w.waiting "workflow" = some "child" ∧
      w.isTerminalRun "child" = true ∧ w.Owed "child" := by
  obtain ⟨w, ran, paused, ended⟩ : ∃ w, runWhere World.step isCareful World.empty cancelledActions = some w ∧
      w.waiting "workflow" = some "child" ∧ w.isTerminalRun "child" = true := ⟨_, rfl, rfl, rfl⟩
  have reached : Reaches World.step World.Careful World.empty w := Reaches.start.runs isCareful_careful ran
  exact ⟨w, ran, paused, ended, (terminal_runs_answered w reached).2 "workflow" "child" paused ended⟩

def recoveredActions : List Action :=
  [.create "run" none, .claim 0 "run", .begin 0, .pause "workflow" "run", .leave 0, .ask 0 .recover "run", .decide 0]

theorem recovered_run_unanswered :
    ∃ w, runWhere World.step (fun _ _ => true) World.empty recoveredActions = some w ∧ w.rows "run" = some .failed ∧
      w.waiting "workflow" = some "run" ∧ w.unanswered "run" = true ∧ ¬ w.Owed "run" := by
  refine ⟨_, rfl, rfl, rfl, rfl, ?_⟩
  intro owed
  obtain ⟨session, held, mine, _⟩ := owed
  cases session with
  | _ => cases mine

end Troop.Runs.Hooks
