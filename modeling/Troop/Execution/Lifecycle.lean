import Troop.Projects.Updates
import Troop.Session.Logic

namespace Troop.Execution

inductive RunStatus where
  | queued | inProgress | blocked | completed | failed | cancelled | awaitingApproval | running
deriving DecidableEq

def RunStatus.isExecutionClaimable : RunStatus → Bool
  | inProgress | completed | cancelled | awaitingApproval => false
  | queued | blocked | failed | running => true

inductive RunMode where
  | singleAgent | brainstorm | review | debate | managerWorker
deriving DecidableEq

inductive Exn where
  | blockedExecution (reason : String)
  | other (detail : String)
deriving DecidableEq

structure Task where
  status : String
  hasReviewer : Bool
deriving DecidableEq

/-- A session that executes a run: the run and its task as it holds them and as they are committed, whether a step
    of the workflow is current, and the calls of `on_task_run_terminal`. -/
structure Session where
  run : RunStatus
  task : Option Task
  storedRun : RunStatus
  storedTask : Option String
  commits : Nat
  atStep : Bool
  hooks : List RunStatus
deriving DecidableEq

/-- What happens around the closing code of `execute_run`: a user's edit of the task's status after each commit,
    whether the checks before the `try` pass (project, owner, budgets), how the mode handler ends and how it leaves the
    task it is given, and what the calls around it raise. -/
structure Surroundings where
  edit : Nat → Option String
  setup : Except Exn PUnit
  compresses : Bool
  signalled : Bool
  handler : RunMode → Option Task → Except Exn PUnit × Option Task
  leavesStep : Bool
  /-- the format that the output fails -/
  invalidFormat : Option String
  /-- `record_skill_usage_for_run` commits -/
  usageCommits : Bool
  remember : Except Exn PUnit
  persistMemory : Except Exn PUnit
  externalActions : Except Exn PUnit
  closeMemory : Except Exn PUnit
  escalation : Except Exn PUnit

/-- The status that `start_task_run` leaves its task in; it refuses none. -/
def queuedTaskStatus (status : String) : String :=
  let allowedNext := (Dict.get? Projects.taskTransitions status).getD []
  if status = "queued" then status
  else if "queued" ∈ allowedNext then "queued"
  else if status = "completed" ∧ "planned" ∈ allowedNext then "planned"
  else status

abbrev Step := Prog Session Exn PUnit

section Program

variable (env : Surroundings)

def Session.commit (s : Session) (writesTask : Bool) : Session :=
  let held := if writesTask then s.task.map Task.status else s.storedTask
  { s with storedRun := s.run, storedTask := held.map fun status => (env.edit s.commits).getD status, commits := s.commits + 1 }

def emitRunEvent : Step := modify fun s => s.commit env false

def emitWhere (condition : Bool) : Step := if condition then emitRunEvent env else pure ⟨⟩

def whenTask (visit : Task → Step) : Step := do
  match (← get).task with
  | some task => visit task
  | none => pure ⟨⟩

def transitionTaskStatus (task : Task) (next : String) : Step :=
  if task.status = next then pure ⟨⟩
  else if Projects.isValidTaskTransition task.status next then
    modify fun s => ({ s with task := some { task with status := next } } : Session).commit env true
  else throw (.other "Invalid task transition")

def transitionWhere (statuses : List String) (next : String) : Step :=
  whenTask fun task => if task.status ∈ statuses then transitionTaskStatus env task next else pure ⟨⟩

def setRun (status : RunStatus) : Step := modify fun s => { s with run := status }

def runHandler (mode : RunMode) : Step := do
  let (result, task) := env.handler mode (← get).task
  modify fun s => { s with task, atStep := env.leavesStep }
  Prog.ofExcept result

def enforceRunOutputSchema : Step :=
  match env.invalidFormat with
  | some _ => throw (.blockedExecution "Output validation failed")
  | none => pure ⟨⟩

def recordUsage : Step := emitWhere env env.usageCommits

def closeTask (mode : RunMode) (task : Task) : Step :=
  if task.status ∈ ["blocked", "approved", "completed", "needs_review"] then
    if mode = .managerWorker ∧ task.status = "approved" then transitionTaskStatus env task "completed" else pure ⟨⟩
  else transitionTaskStatus env task (if task.hasReviewer then "needs_review" else "completed")

def closeTaskOf (mode : RunMode) : Step :=
  whenTask fun task => if mode = .brainstorm then pure ⟨⟩ else do
    closeTask env mode task
    Prog.ofExcept env.remember

/-- `on_task_run_terminal`, whose exceptions are logged only -/
def onTaskRunTerminal (status : RunStatus) : Step := modify fun s => { s with hooks := s.hooks ++ [status] }

def closeMemoryOf (task : Task) : Step :=
  if task.status ∈ ["completed", "archived", "synced_to_github"] then do
    modify fun s => { s with task := some { task with status := s.storedTask.getD task.status } }
    Prog.ofExcept env.closeMemory
  else pure ⟨⟩

def escalate : Step := whenTask fun _ => Prog.ofExcept env.escalation

def executeMode (mode : RunMode) : Step := do
  emitWhere env env.compresses
  transitionWhere env ["planned", "blocked"] "in_progress"
  runHandler env mode
  enforceRunOutputSchema env

def complete (mode : RunMode) : Step := do
  setRun .completed
  recordUsage env
  modify fun s => { s with atStep := false }
  closeTaskOf env mode
  emitRunEvent env
  Prog.ofExcept env.persistMemory
  Prog.ofExcept env.externalActions
  emitRunEvent env
  onTaskRunTerminal .completed
  whenTask (closeMemoryOf env)
  escalate env

def markStep : Step := do
  emitWhere env (← get).atStep

/-- The two `except` clauses. -/
def recover : Exn → Step
  | .blockedExecution _ => do
    setRun .blocked
    markStep env
    whenTask fun task => transitionTaskStatus env task "blocked"
    emitRunEvent env
    emitRunEvent env
    escalate env
  | .other _ => do
    setRun .failed
    markStep env
    whenTask fun task => if task.status = "blocked" then pure ⟨⟩ else transitionTaskStatus env task "failed"
    emitRunEvent env
    emitRunEvent env
    onTaskRunTerminal .failed
    escalate env

def start (prior : RunStatus) : Step := do
  setRun .inProgress
  Prog.ofExcept env.setup
  transitionWhere env ["queued"] "planned"
  emitRunEvent env
  emitWhere env (prior = .failed ∨ prior = .blocked)
  emitWhere env env.signalled

def executeRun (mode : RunMode) : Step := do
  let prior := (← get).run
  if prior.isExecutionClaimable then do
    start env prior
    Prog.catching (do executeMode env mode; complete env mode) (recover env)
  else pure ⟨⟩

end Program

end Troop.Execution
