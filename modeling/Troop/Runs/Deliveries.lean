import Mathlib.Logic.Function.Basic
import Troop.Execution.Lifecycle

namespace Troop.Runs

open Execution (RunStatus)

/-- A message of the queue: a run to be executed, and how often `autoretry_for` sent it again. -/
structure Delivery where
  run : String
  retries : Nat
deriving DecidableEq

/-- `max_retries` of `run_orchestration_task` -/
def maxRetries : Nat := 2

inductive Phase where
  /-- it has read the run, without a lock -/
  | holding (run : String) (status : RunStatus)
  /-- it has committed the run as queued and is about to submit it -/
  | submitting (run : String)
  /-- `execute_run` before its first commit: it holds the lock of the run's row -/
  | claiming (delivery : Delivery)
  | executing (delivery : Delivery)
  /-- `execute_run` after a commit of its result -/
  | closing (delivery : Delivery) (result : RunStatus)
deriving DecidableEq

structure Row where
  status : RunStatus
  /-- `started_at` is set -/
  started : Bool
deriving DecidableEq

/-- The committed runs and who holds their locks, the outstanding messages and the sessions; and how often each run was
    submitted, by a start, a retry, a replay, a resume or an approval, and how often its execution began. -/
structure World where
  rows : String → Option Row
  locks : String → Option Nat
  queue : List Delivery
  sessions : Nat → Option Phase
  submissions : String → Nat
  executions : String → Nat

def World.empty : World :=
  { rows := fun _ => none, locks := fun _ => none, queue := [], sessions := fun _ => none
    submissions := fun _ => 0, executions := fun _ => 0 }

inductive Action where
  /-- `start_task_run`, `retry_run` and `replay_run` up to their commit -/
  | create (session : Nat) (run : String)
  | read (session : Nat) (run : String)
  /-- `resume_run`, or an approval of a blocked run, up to its commit -/
  | resume (session : Nat)
  | cancel (session : Nat)
  | reject (session : Nat)
  /-- `recover_stale_in_progress_runs`, for one of its runs -/
  | recover (session : Nat)
  | submit (session : Nat)
  /-- the session ends without its submission: a crash or an exception -/
  | forgo (session : Nat)
  /-- the broker delivers a queued message twice -/
  | duplicate (delivery : Delivery)
  /-- the broker delivers a message again that a worker still has -/
  | redeliver (session : Nat)
  | deliver (session : Nat) (delivery : Delivery)
  /-- the first commit of `execute_run` -/
  | begin (session : Nat)
  /-- an exception before the first commit, transient or not (the hard time limit acknowledges the message too) -/
  | refuse (session : Nat) (transient : Bool)
  /-- the soft time limit before the first commit -/
  | timeLimit (session : Nat)
  | finish (session : Nat) (result : RunStatus)
  /-- `execute_run` returns -/
  | close (session : Nat)
  /-- an exception that leaves `execute_run` after its first commit -/
  | escape (session : Nat) (transient : Bool)
  /-- the worker is lost: its message is delivered again -/
  | crash (session : Nat)
deriving DecidableEq

def Phase.delivery? : Phase → Option Delivery
  | .claiming delivery | .executing delivery | .closing delivery _ => some delivery
  | .holding _ _ | .submitting _ => none

/-- The results that `execute_run` may commit next. -/
def Phase.mayFinish (result : RunStatus) : Phase → Bool
  | .executing _ => result ∈ [RunStatus.completed, .failed, .blocked]
  -- what raises after the run is completed still ends in its handlers
  | .closing _ .completed => result ∈ [RunStatus.failed, .blocked]
  | _ => false

theorem Phase.mayFinish_ended {result : RunStatus} {phase : Phase} (finishes : phase.mayFinish result = true) :
    result ∈ [RunStatus.completed, .failed, .blocked] := by
  cases phase with
  | executing delivery => exact of_decide_eq_true finishes
  | closing delivery old =>
    cases old <;> first | cases finishes | exact List.mem_cons_of_mem _ (of_decide_eq_true finishes)
  | _ => cases finishes

namespace World

variable (w : World)

def setStatus (run : String) (status : RunStatus) : World :=
  { w with rows := Function.update w.rows run ((w.rows run).map fun row => { row with status }) }

def setSession (session : Nat) (phase : Option Phase) : World :=
  { w with sessions := Function.update w.sessions session phase }

def setLock (run : String) (holder : Option Nat) : World := { w with locks := Function.update w.locks run holder }

def push (delivery : Delivery) : World := { w with queue := w.queue ++ [delivery] }

def submitting (session : Nat) (run : String) : World :=
  { w.setSession session (some (.submitting run)) with
    submissions := Function.update w.submissions run (w.submissions run + 1) }

def requeue (delivery : Delivery) (transient : Bool) : World :=
  if transient ∧ delivery.retries < maxRetries then w.push { delivery with retries := delivery.retries + 1 } else w

def deciding (session : Nat) (from? : RunStatus → Bool) (next : String → World) : Option World :=
  match w.sessions session with
  | some (.holding run status) => if from? status ∧ w.locks run = none then some (next run) else none
  | _ => none

def claiming (session : Nat) (next : Delivery → World) : Option World :=
  match w.sessions session with
  | some (.claiming delivery) => some (next delivery)
  | _ => none

def step : Action → Option World
  | .create session run =>
    if w.rows run = none ∧ w.sessions session = none then
      some (({ w with rows := Function.update w.rows run (some ⟨.queued, false⟩) } : World).submitting session run)
    else none
  | .read session run =>
    match w.rows run with
    | some row => if w.sessions session = none then some (w.setSession session (some (.holding run row.status))) else none
    | none => none
  | .resume session =>
    w.deciding session (· ∈ [.failed, .blocked]) fun run => (w.setStatus run .queued).submitting session run
  | .cancel session => w.deciding session (fun _ => true) fun run => (w.setStatus run .cancelled).setSession session none
  | .reject session =>
    w.deciding session (· ∉ [.completed, .failed, .cancelled]) fun run => (w.setStatus run .failed).setSession session none
  | .recover session => w.deciding session (· = .inProgress) fun run => (w.setStatus run .failed).setSession session none
  | .submit session =>
    match w.sessions session with
    | some (.submitting run) => some ((w.push ⟨run, 0⟩).setSession session none)
    | _ => none
  | .forgo session =>
    match w.sessions session with
    | some (.submitting _) => some (w.setSession session none)
    | _ => none
  | .duplicate delivery => if delivery ∈ w.queue then some (w.push delivery) else none
  | .redeliver session => ((w.sessions session).bind Phase.delivery?).map w.push
  | .deliver session delivery =>
    if delivery ∈ w.queue ∧ w.sessions session = none ∧ w.locks delivery.run = none then
      let taken : World := { w with queue := w.queue.erase delivery }
      if (w.rows delivery.run).any fun row => row.status.isExecutionClaimable then
        some ((taken.setSession session (some (.claiming delivery))).setLock delivery.run (some session))
      else some taken
    else none
  | .begin session =>
    w.claiming session fun delivery =>
      { (w.setSession session (some (.executing delivery))).setLock delivery.run none with
        rows := Function.update w.rows delivery.run (some ⟨.inProgress, true⟩)
        executions := Function.update w.executions delivery.run (w.executions delivery.run + 1) }
  | .refuse session transient =>
    w.claiming session fun delivery =>
      ((w.setSession session none).setLock delivery.run none).requeue delivery transient
  | .timeLimit session =>
    w.claiming session fun delivery =>
      ((w.setStatus delivery.run .failed).setSession session none).setLock delivery.run none
  | .finish session result =>
    match w.sessions session with
    | some phase =>
      match phase.delivery? with
      | some delivery =>
        if phase.mayFinish result ∧ w.locks delivery.run = none then
          some ((w.setStatus delivery.run result).setSession session (some (.closing delivery result)))
        else none
      | none => none
    | none => none
  | .close session =>
    match w.sessions session with
    | some (.closing _ _) => some (w.setSession session none)
    | _ => none
  | .escape session transient =>
    match w.sessions session with
    | some (.executing delivery) | some (.closing delivery _) => some ((w.setSession session none).requeue delivery transient)
    | _ => none
  | .crash session =>
    match w.sessions session with
    | some (.claiming delivery) => some (((w.push delivery).setSession session none).setLock delivery.run none)
    | some (.executing delivery) | some (.closing delivery _) => some ((w.push delivery).setSession session none)
    | _ => none

variable {w} {run : String}

theorem setStatus_rows {other : String} {status : RunStatus} {row : Row}
    (found : (w.setStatus run status).rows other = some row) :
    (other = run ∧ row.status = status) ∨ (other ≠ run ∧ w.rows other = some row) := by
  by_cases same : other = run
  · have updated : (w.setStatus run status).rows other = (w.rows run).map fun row => { row with status } := by
      rw [same]
      exact Function.update_self _ _ _
    rw [updated] at found
    obtain ⟨old, _, new⟩ := Option.map_eq_some_iff.mp found
    exact .inl ⟨same, by rw [← new]⟩
  · have kept : (w.setStatus run status).rows other = w.rows other := Function.update_of_ne same _ _
    rw [kept] at found
    exact .inr ⟨same, found⟩

theorem deciding_some {session : Nat} {from? : RunStatus → Bool} {next : String → World} {after : World}
    (stepped : w.deciding session from? next = some after) :
    ∃ run status, w.sessions session = some (.holding run status) ∧ from? status = true ∧ w.locks run = none ∧
      after = next run := by
  unfold deciding at stepped
  split at stepped
  · split at stepped
    · simp_all
    · cases stepped
  · cases stepped

theorem claiming_some {session : Nat} {next : Delivery → World} {after : World}
    (stepped : w.claiming session next = some after) :
    ∃ delivery, w.sessions session = some (.claiming delivery) ∧ after = next delivery := by
  unfold claiming at stepped
  split at stepped
  · simp_all
  · cases stepped

end World

end Troop.Runs
