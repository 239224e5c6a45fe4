import Troop.Execution.Endings

namespace Troop.Execution

open Systems
open List

structure TaskRow where
  status : String
  hasReviewer : Bool
  resultSummary : String
deriving DecidableEq

structure RunRow where
  parentRunId : Option Nat
  taskId : Option String
  runMode : RunMode
  status : RunStatus
deriving DecidableEq

inductive Aftermath where
  | quiet | early | late
deriving DecidableEq

/-- How the work of `execute_run` ends. The output of a run that completes may conflict with an earlier
    one. -/
inductive Ending where
  | completed (summary : String) (conflicting : Bool) (aftermath : Aftermath)
  | blocked
  | failed
deriving DecidableEq

structure Change where
  run : Nat
  taskId : String
  before : TaskRow
  after : TaskRow
  /-- the run has a parent, which is not finished -/
  early : Bool
deriving DecidableEq

structure Tree where
  runs : List RunRow := []
  tasks : Dict TaskRow := []
  /-- what runs have done to tasks -/
  changes : List Change := []
  /-- the runs that have ended as completed -/
  completed : List Nat := []
deriving DecidableEq

inductive Action where
  | startTaskRun (taskId : Option String) (runMode : RunMode)
  | invokeSpecialist (parent : Nat)
  | createChildRun (parent : Nat)
  | again (run : Nat)
  | begin (run : Nat)
  | review (run : Nat) (next : String)
  | finish (run : Nat) (ending : Ending)
  | cancel (run : Nat)
  | move (run : Nat) (status : RunStatus)
  | edit (taskId : String) (row : TaskRow)
deriving DecidableEq

def RunStatus.isFinished : RunStatus → Bool
  | completed | failed | cancelled => true
  | queued | inProgress | blocked | awaitingApproval | running => false

def TaskRow.asTask (row : TaskRow) : Task := ⟨row.status, row.hasReviewer⟩

/-- `str(..)[:2000] or task.result_summary` -/
def TaskRow.summarised (row : TaskRow) (summary : String) : TaskRow :=
  let cut := String.ofList (summary.toList.take 2000)
  { row with resultSummary := if cut = "" then row.resultSummary else cut }

/-- The last `except` clause: the status of the run and its task. When the task cannot fail either, the
    exception leaves the run as it is stored. -/
def failTask (stored : RunStatus) (row : TaskRow) : RunStatus × TaskRow :=
  if row.status = "blocked" then (.failed, row)
  else if Projects.isValidTaskTransition row.status "failed" then (.failed, { row with status := "failed" })
  else (stored, row)

def blockTask (row : TaskRow) : RunStatus × TaskRow :=
  if Projects.isValidTaskTransition row.status "blocked" then (.blocked, { row with status := "blocked" })
  else (.inProgress, row)

/-- A closed task, when `moved` closing it has committed the run as completed. -/
def followTaskRow (aftermath : Aftermath) (moved : Bool) (row : TaskRow) : RunStatus × TaskRow :=
  match aftermath with
  | .quiet => (.completed, row)
  | .early => failTask (if moved then .completed else .inProgress) row
  | .late => failTask .completed row

/-- `_detect_and_log_task_output_conflict` -/
def settleTask (conflicting : Bool) (aftermath : Aftermath) (moved : Bool) (row : TaskRow) : RunStatus × TaskRow :=
  if conflicting then
    if Projects.isValidTaskTransition row.status "blocked" then
      followTaskRow aftermath (moved || row.status ≠ "blocked") { row with status := "blocked" }
    else followTaskRow .early moved row
  else followTaskRow aftermath moved row

def endTask (mode : RunMode) (row : TaskRow) : Ending → RunStatus × TaskRow
  | .completed summary conflicting aftermath =>
    if mode = .brainstorm then followTaskRow aftermath false row
    else match row.asTask.closed? mode with
      | some next => settleTask conflicting aftermath (next ≠ row.status) { row.summarised summary with status := next }
      | none => failTask .inProgress (row.summarised summary)
  | .blocked => blockTask row
  | .failed => failTask .inProgress row

def Ending.alone : Ending → RunStatus
  | .completed _ _ aftermath => if aftermath = .quiet then .completed else .failed
  | .blocked => .blocked
  | .failed => .failed

namespace Tree

variable (w : Tree)

def task? (row : RunRow) : Option (String × TaskRow) :=
  row.taskId.bind fun taskId => (w.tasks.get? taskId).map fun task => (taskId, task)

def isEarly (row : RunRow) : Bool :=
  (row.parentRunId.bind fun parent => w.runs[parent]?).any fun parent => ¬ parent.status.isFinished

def putRun (run : Nat) (row : RunRow) : Tree :=
  { w with
    runs := w.runs.set run row
    completed := if row.status = .completed then run :: w.completed else w.completed }

def writeTask (run : Nat) (row : RunRow) (taskId : String) (before after : TaskRow) : Tree :=
  if before = after then w
  else { w with tasks := w.tasks.set taskId after, changes := ⟨run, taskId, before, after, w.isEarly row⟩ :: w.changes }

def touch (run : Nat) (row : RunRow) (write : TaskRow → TaskRow) : Tree :=
  match w.task? row with
  | some (taskId, task) => w.writeTask run row taskId task (write task)
  | none => w

def addRun (row : RunRow) : Tree := { w with runs := w.runs ++ [row] }

def childOf (parent : Nat) (row : RunRow) : RunRow := ⟨some parent, row.taskId, .singleAgent, .queued⟩

def queueable (row : RunRow) : Bool :=
  (w.task? row).all fun task => Projects.isValidTaskTransition task.2.status "queued"

def step : Action → Option Tree
  | .startTaskRun taskId runMode =>
    let row : RunRow := ⟨none, taskId, runMode, .queued⟩
    some ((w.addRun row).touch w.runs.length row fun task => { task with status := queuedTaskStatus task.status })
  | .invokeSpecialist parent =>
    match w.runs[parent]? with
    | some row =>
      if row.status = .inProgress ∧ row.parentRunId = none then some (w.addRun (childOf parent row)) else none
    | none => none
  | .createChildRun parent =>
    match w.runs[parent]? with
    | some row =>
      if row.status = .inProgress ∧ row.runMode = .managerWorker then some (w.addRun (childOf parent row)) else none
    | none => none
  | .again run =>
    match w.runs[run]? with
    | some old =>
      let row := { old with status := .queued }
      if w.queueable row then
        some ((w.addRun row).touch w.runs.length row fun task => { task with status := "queued" })
      else none
    | none => none
  | .begin run =>
    match w.runs[run]? with
    | some row =>
      if row.status.isExecutionClaimable then
        some ((w.touch run row fun task => { task with status := (task.asTask.begun).status }).putRun run
          { row with status := .inProgress })
      else none
    | none => none
  | .review run next =>
    match w.runs[run]? with
    | some row =>
      -- the handlers of these modes move the task on after the review
      if row.status = .inProgress ∧ (row.runMode = .managerWorker ∨ row.runMode = .review) ∧ next ∈ ["approved", "planned"] ∧
          (w.task? row).all (fun task => Projects.isValidTaskTransition task.2.status next) then
        some (w.touch run row fun task => { task with status := next })
      else none
    | none => none
  | .finish run ending =>
    match w.runs[run]? with
    | some row =>
      if row.status = .inProgress then
        match w.task? row with
        | some (taskId, task) =>
          let ended := endTask row.runMode task ending
          some ((w.writeTask run row taskId task ended.2).putRun run { row with status := ended.1 })
        | none => some (w.putRun run { row with status := ending.alone })
      else none
    | none => none
  | .cancel run =>
    match w.runs[run]? with
    | some row =>
      some ((w.touch run row fun task =>
        if task.status ∈ ["queued", "planned", "in_progress"] then { task with status := "planned" } else task).putRun run
          { row with status := .cancelled })
    | none => none
  | .move run status =>
    match w.runs[run]? with
    | some row => if status ≠ .completed ∧ status ≠ .inProgress then some (w.putRun run { row with status := status }) else none
    | none => none
  | .edit taskId row => some { w with tasks := w.tasks.set taskId row }

end Tree

def TaskRow.keepsFailing (row : TaskRow) : Bool :=
  row.status ∈ ["blocked", "failed"] ∨ ¬ Projects.isValidTaskTransition row.status "failed"

def TaskRow.keepsBlocking (row : TaskRow) : Bool :=
  row.status = "blocked" ∨ ¬ Projects.isValidTaskTransition row.status "blocked"

def TaskRow.keepsFollowing (row : TaskRow) (conflicting : Bool) (aftermath : Aftermath) : Bool :=
  if conflicting then row.status = "blocked" ∨ (row.keepsBlocking ∧ row.keepsFailing)
  else aftermath = .quiet ∨ row.keepsFailing

def TaskRow.keeps (row : TaskRow) (mode : RunMode) : Ending → Bool
  | .completed summary conflicting aftermath =>
    if mode = .brainstorm then row.keepsFollowing false aftermath
    else decide (row.summarised summary = row) && match row.asTask.closed? mode with
      | some next => decide (next = row.status) && row.keepsFollowing conflicting aftermath
      | none => row.keepsFailing
  | .blocked => row.keepsBlocking
  | .failed => row.keepsFailing

def decidedStatuses : List String := ["completed", "needs_review"]

def TaskRow.closes (row : TaskRow) (mode : RunMode) : Ending → Bool
  | .completed _ conflicting aftermath =>
    mode ≠ .brainstorm && (row.asTask.closed? mode).any fun next =>
      decide (next ≠ row.status ∧ (next = "completed" ∨ (conflicting = false ∧ aftermath = .quiet)))
  | .blocked => false
  | .failed => false

section Keeping

variable {row : TaskRow} {mode : RunMode} {ending : Ending}

variable {aftermath : Aftermath} {moved : Bool} {task : Task} {stored : RunStatus} {conflicting : Bool}

theorem failTask_keeps : (failTask stored row).2 = row ↔ row.keepsFailing = true := by
  unfold failTask TaskRow.keepsFailing
  obtain ⟨status, reviewer, summary⟩ := row
  by_cases blocked : status = "blocked"
  · simp [blocked]
  · by_cases valid : Projects.isValidTaskTransition status "failed" = true
    · simp [blocked, valid, eq_comm]
    · simp [blocked, valid]

theorem blockTask_keeps : (blockTask row).2 = row ↔ row.keepsBlocking = true := by
  unfold blockTask TaskRow.keepsBlocking
  obtain ⟨status, reviewer, summary⟩ := row
  by_cases valid : Projects.isValidTaskTransition status "blocked" = true
  · simp [valid, eq_comm]
  · simp [valid]

theorem followTaskRow_keeps :
    (followTaskRow aftermath moved row).2 = row ↔ aftermath = .quiet ∨ row.keepsFailing = true := by
  cases aftermath with
  | quiet => simp [followTaskRow]
  | _ => simp [followTaskRow, failTask_keeps]

theorem settleTask_keeps :
    (settleTask conflicting aftermath moved row).2 = row ↔ row.keepsFollowing conflicting aftermath = true := by
  cases conflicting with
  | false => simp [settleTask, TaskRow.keepsFollowing, followTaskRow_keeps]
  | true =>
    have following (moved : Bool) :
        (followTaskRow aftermath moved { row with status := "blocked" }).2 = { row with status := "blocked" } := by
      rw [followTaskRow_keeps]
      exact .inr (by simp [TaskRow.keepsFailing])
    have early : (followTaskRow .early moved row).2 = row ↔ row.keepsFailing = true := by
      rw [followTaskRow_keeps]
      simp
    obtain ⟨status, reviewer, summary⟩ := row
    by_cases valid : Projects.isValidTaskTransition status "blocked" = true
    · have same : (⟨"blocked", reviewer, summary⟩ : TaskRow) = ⟨status, reviewer, summary⟩ ↔ status = "blocked" := by
        simp only [TaskRow.mk.injEq, and_true]
        exact eq_comm
      rw [settleTask, if_pos rfl, if_pos valid, following, same]
      simp only [TaskRow.keepsFollowing, TaskRow.keepsBlocking, valid, if_true]
      simp
      tauto
    · have moving : status ≠ "blocked" := by
        rintro rfl
        exact valid (by decide)
      rw [settleTask, if_pos rfl, if_neg valid, early]
      simp [TaskRow.keepsFollowing, TaskRow.keepsBlocking, valid, moving]

theorem failTask_row (stored : RunStatus) (row : TaskRow) :
    ∃ status ∈ [row.status, "blocked", "failed"], (failTask stored row).2 = { row with status := status } := by
  unfold failTask
  split
  · exact ⟨row.status, by simp, rfl⟩
  · split
    · exact ⟨"failed", by simp, rfl⟩
    · exact ⟨row.status, by simp, rfl⟩

theorem settleTask_row (conflicting : Bool) (aftermath : Aftermath) (moved : Bool) (row : TaskRow) :
    ∃ status ∈ [row.status, "blocked", "failed"], (settleTask conflicting aftermath moved row).2 = { row with status := status } := by
  have following (aftermath : Aftermath) (moved : Bool) (row : TaskRow) :
      ∃ status ∈ [row.status, "blocked", "failed"], (followTaskRow aftermath moved row).2 = { row with status := status } := by
    cases aftermath with
    | quiet => exact ⟨row.status, by simp, rfl⟩
    | _ => exact failTask_row _ _
  unfold settleTask
  split
  · split
    · obtain ⟨status, among, same⟩ := following aftermath (moved || row.status ≠ "blocked") { row with status := "blocked" }
      refine ⟨status, ?_, same⟩
      simp only [mem_cons, not_mem_nil, or_false] at among ⊢
      tauto
    · exact following .early moved row
  · exact following aftermath moved row

theorem closed_of_blocked (blocked : task.status = "blocked") : task.closed? mode = some "blocked" := by
  simp [Task.closed?, blocked]

theorem closed_of_failed (other : mode ≠ .brainstorm) (failed : task.status = "failed") :
    task.closed? mode = none := by
  have review : Projects.isValidTaskTransition "failed" "needs_review" = false := by decide
  have completed : Projects.isValidTaskTransition "failed" "completed" = false := by decide
  cases reviewer : task.hasReviewer with
  | true => simp [Task.closed?, other, failed, reviewer, review]
  | false => simp [Task.closed?, other, failed, reviewer, completed]

theorem endTask_keeps : (endTask mode row ending).2 = row ↔ row.keeps mode ending = true := by
  cases ending with
  | blocked => exact blockTask_keeps
  | failed => exact failTask_keeps
  | completed summary conflicting aftermath =>
    by_cases brainstorm : mode = .brainstorm
    · simp [endTask, TaskRow.keeps, brainstorm, followTaskRow_keeps, TaskRow.keepsFollowing]
    have summarised (status : String) (same : { row.summarised summary with status := status } = row) :
        row.summarised summary = row ∧ status = row.status := by
      obtain ⟨was, reviewer, kept⟩ := row
      unfold TaskRow.summarised at same ⊢
      simp only [TaskRow.mk.injEq, true_and] at same ⊢
      exact ⟨same.2, same.1⟩
    cases closing : row.asTask.closed? mode with
    | none =>
      simp only [endTask, TaskRow.keeps, if_neg brainstorm, closing, Bool.and_eq_true, decide_eq_true_eq]
      constructor
      · intro same
        obtain ⟨status, -, left⟩ := failTask_row .inProgress (row.summarised summary)
        obtain ⟨kept, -⟩ := summarised status (left.symm.trans same)
        rw [kept] at same
        exact ⟨kept, failTask_keeps.mp same⟩
      · rintro ⟨kept, keeps⟩
        rw [kept]
        exact failTask_keeps.mpr keeps
    | some next =>
      simp only [endTask, TaskRow.keeps, if_neg brainstorm, closing, Bool.and_eq_true, decide_eq_true_eq]
      constructor
      · intro same
        obtain ⟨status, among, left⟩ := settleTask_row conflicting aftermath (decide (next ≠ row.status))
          { row.summarised summary with status := next }
        obtain ⟨kept, stays⟩ := summarised status (left.symm.trans same)
        have moves : next = row.status := by
          simp only [mem_cons, not_mem_nil, or_false] at among
          rcases among with rfl | rfl | rfl
          · exact stays
          · rw [@closed_of_blocked mode row.asTask stays.symm, Option.some.injEq] at closing
            rwa [← closing]
          · simp [@closed_of_failed mode row.asTask brainstorm stays.symm] at closing
        rw [kept, moves] at same
        exact ⟨kept, moves, settleTask_keeps.mp same⟩
      · rintro ⟨kept, moves, keeps⟩
        rw [kept, moves]
        exact settleTask_keeps.mpr keeps

theorem failTask_decided (decided : (failTask stored row).2.status ∈ decidedStatuses) :
    failTask stored row = (stored, row) ∧ row.status ≠ "needs_review" := by
  unfold failTask at decided ⊢
  by_cases blocked : row.status = "blocked"
  · simp [decidedStatuses, blocked] at decided
  rw [if_neg blocked] at decided ⊢
  by_cases valid : Projects.isValidTaskTransition row.status "failed" = true
  · rw [if_pos valid] at decided
    simp [decidedStatuses] at decided
  · rw [if_neg valid]
    refine ⟨rfl, fun review => valid ?_⟩
    rw [review]
    decide

theorem followTaskRow_decided (decided : (followTaskRow aftermath moved row).2.status ∈ decidedStatuses) :
    (followTaskRow aftermath moved row).2 = row ∧ (moved = true → (followTaskRow aftermath moved row).1 = .completed) ∧
      (row.status = "needs_review" → aftermath = .quiet) := by
  cases aftermath with
  | quiet => exact ⟨rfl, fun _ => rfl, fun _ => rfl⟩
  | early =>
    obtain ⟨same, other⟩ := failTask_decided decided
    have follows : followTaskRow .early moved row = (if moved then .completed else .inProgress, row) := same
    rw [follows]
    refine ⟨rfl, ?_, fun review => absurd review other⟩
    simp_all
  | late =>
    obtain ⟨same, other⟩ := failTask_decided decided
    have follows : followTaskRow .late moved row = (.completed, row) := same
    rw [follows]
    exact ⟨rfl, fun _ => rfl, fun review => absurd review other⟩

theorem settleTask_decided (decided : (settleTask conflicting aftermath moved row).2.status ∈ decidedStatuses) :
    (settleTask conflicting aftermath moved row).2 = row ∧
      (moved = true → (settleTask conflicting aftermath moved row).1 = .completed) ∧
      (row.status = "needs_review" → conflicting = false ∧ aftermath = .quiet) := by
  cases conflicting with
  | false =>
    obtain ⟨same, completed, quiet⟩ := followTaskRow_decided decided
    exact ⟨same, completed, fun review => ⟨rfl, quiet review⟩⟩
  | true =>
    unfold settleTask at decided ⊢
    rw [if_pos rfl] at decided ⊢
    by_cases valid : Projects.isValidTaskTransition row.status "blocked" = true
    · rw [if_pos valid] at decided
      obtain ⟨same, -⟩ := followTaskRow_decided decided
      rw [same] at decided
      simp [decidedStatuses] at decided
    · rw [if_neg valid] at decided ⊢
      obtain ⟨same, completed, -⟩ := followTaskRow_decided decided
      refine ⟨same, completed, fun review => absurd ?_ valid⟩
      rw [review]
      decide

theorem closed_moves {next : String} (closing : task.closed? mode = some next) (moves : next ≠ task.status) :
    next = "completed" ∨ next = "needs_review" := by
  unfold Task.closed? at closing
  dsimp only at closing
  split at closing
  · exact absurd (Option.some.inj closing).symm moves
  split at closing
  · split at closing
    · exact .inl (Option.some.inj closing).symm
    · exact absurd (Option.some.inj closing).symm moves
  · cases reviewer : task.hasReviewer with
    | _ => simp_all

theorem endTask_decided (moved : (endTask mode row ending).2.status ≠ row.status)
    (decided : (endTask mode row ending).2.status ∈ decidedStatuses) :
    (endTask mode row ending).1 = .completed ∧ row.closes mode ending = true := by
  have failing {stored : RunStatus} {other : TaskRow} (same : other.status = row.status)
      (moved : (failTask stored other).2.status ≠ row.status) : (failTask stored other).2.status ∉ decidedStatuses := by
    intro decided
    rw [(failTask_decided decided).1] at moved
    exact moved same
  cases ending with
  | failed => exact absurd decided (failing rfl moved)
  | blocked =>
    dsimp only [endTask, blockTask] at moved decided
    by_cases valid : Projects.isValidTaskTransition row.status "blocked" = true
    · rw [if_pos valid] at decided
      simp [decidedStatuses] at decided
    · simp_all
  | completed summary conflicting aftermath =>
    dsimp only [endTask] at moved decided ⊢
    by_cases brainstorm : mode = .brainstorm
    · rw [if_pos brainstorm] at moved decided
      rw [(followTaskRow_decided decided).1] at moved
      exact absurd rfl moved
    · rw [if_neg brainstorm] at moved decided ⊢
      cases closing : row.asTask.closed? mode with
      | none =>
        rw [closing] at moved decided
        exact absurd decided (failing rfl moved)
      | some next =>
        rw [closing] at moved decided
        obtain ⟨same, completed, quiet⟩ := settleTask_decided decided
        have moves : next ≠ row.status := by rwa [same] at moved
        refine ⟨completed (by simp [moves]), ?_⟩
        simp only [TaskRow.closes, closing, Option.any_some, Bool.and_eq_true, decide_eq_true_eq]
        refine ⟨brainstorm, moves, ?_⟩
        rcases closed_moves closing moves with finished | review
        · exact .inl finished
        · exact .inr (quiet review)

end Keeping

namespace Tree

variable (w : Tree)

def decided (taskId : String) : Bool :=
  w.completed.any fun run => w.runs[run]?.any fun row => decide (row.parentRunId = none ∧ row.taskId = some taskId)

def parentCompleted (row : RunRow) : Bool := row.parentRunId.any fun parent => parent ∈ w.completed

def leaves (run : Nat) (kept : RunMode → TaskRow → Bool) : Bool :=
  w.runs[run]?.all fun row => ! w.isEarly row || (w.task? row).all fun task => kept row.runMode task.2

def follows (run : Nat) (ending : Ending) : Bool :=
  w.runs[run]?.all fun row => row.parentRunId.isNone || w.parentCompleted row ||
    (w.task? row).all fun task => w.decided task.1 || ! task.2.closes row.runMode ending

def careful : Action → Bool
  | .again run => w.leaves run fun _ task => task.status = "queued"
  | .begin run => w.leaves run fun _ task => task.status ∉ ["queued", "planned", "blocked"]
  | .cancel run => w.leaves run fun _ task => task.status ∉ ["queued", "in_progress"]
  | .finish run ending => (w.leaves run fun mode task => task.keeps mode ending) && w.follows run ending
  | .startTaskRun .. | .invokeSpecialist _ | .createChildRun _ | .review .. | .move .. | .edit .. => true

def Decided (taskId : String) : Prop :=
  ∃ run ∈ w.completed, ∃ row, w.runs[run]? = some row ∧ row.parentRunId = none ∧ row.taskId = some taskId

structure TopLevelDecides : Prop where
  timely : ∀ change ∈ w.changes, change.early = false
  decided : ∀ change ∈ w.changes, change.before.status ≠ change.after.status → change.after.status ∈ decidedStatuses →
    w.Decided change.taskId

def Parented : Prop :=
  ∀ (run parent : Nat) (row : RunRow), w.runs[run]? = some row → row.parentRunId = some parent →
    row.runMode = .singleAgent ∧ ∃ top, w.runs[parent]? = some top ∧ top.parentRunId = none ∧ top.taskId = row.taskId

structure Sound : Prop extends w.TopLevelDecides where
  parented : w.Parented

section Steps

variable {w} {run : Nat} {row : RunRow}

variable {taskId : String} {task : TaskRow} {write : TaskRow → TaskRow} {other : Nat} {before after : TaskRow}
  {held : RunRow}

theorem task?_taskId (found : w.task? row = some (taskId, task)) :
    row.taskId = some taskId := by
  obtain ⟨held, isHeld, found⟩ := Option.bind_eq_some_iff.mp found
  simp_all

theorem isEarly_top (top : row.parentRunId = none) : w.isEarly row = false := by
  unfold isEarly
  rw [top]
  rfl

theorem get_addRun (added : RunRow) (found : w.runs[run]? = some row) : (w.addRun added).runs[run]? = some row := by
  have below : run < w.runs.length := (List.getElem?_eq_some_iff.mp found).1
  unfold addRun
  rwa [getElem?_append_left below]

theorem get_addRun_cases {added : RunRow} (found : (w.addRun added).runs[run]? = some row) :
    w.runs[run]? = some row ∨ row = added := by
  unfold addRun at found
  rw [getElem?_append] at found
  split at found
  · exact .inl found
  · exact .inr (mem_singleton.mp (mem_of_getElem? found))

theorem isEarly_addRun (added : RunRow) (parented : w.Parented) (found : w.runs[run]? = some row) :
    (w.addRun added).isEarly row = w.isEarly row := by
  unfold isEarly
  cases parent : row.parentRunId with
  | none => rfl
  | some top =>
    obtain ⟨-, held, isHeld, -⟩ := parented run top row found parent
    rw [Option.bind_some, Option.bind_some, isHeld, get_addRun added isHeld]

theorem get_putRun (found : w.runs[run]? = some row) (status : RunStatus) (isHeld : w.runs[other]? = some held) :
    ∃ after, (w.putRun run { row with status := status }).runs[other]? = some after ∧
      after.parentRunId = held.parentRunId ∧ after.taskId = held.taskId := by
  by_cases same : run = other
  · subst same
    have below : run < w.runs.length := (List.getElem?_eq_some_iff.mp found).1
    rw [found, Option.some.injEq] at isHeld
    subst isHeld
    exact ⟨_, getElem?_set_self below, rfl, rfl⟩
  · refine ⟨held, ?_, rfl, rfl⟩
    rw [← isHeld]
    exact getElem?_set_ne same

theorem get_putRun_cases (found : w.runs[run]? = some row) (status : RunStatus)
    (isHeld : (w.putRun run { row with status := status }).runs[other]? = some held) :
    ∃ before, w.runs[other]? = some before ∧ before.parentRunId = held.parentRunId ∧ before.taskId = held.taskId ∧
      before.runMode = held.runMode := by
  unfold putRun at isHeld
  by_cases same : run = other
  · grind
  · simp_all

theorem completed_putRun (status : RunStatus) (finished : other ∈ w.completed) :
    other ∈ (w.putRun run { row with status := status }).completed := by
  unfold putRun
  split
  · exact mem_cons_of_mem _ finished
  · exact finished

theorem Decided.putRun (found : w.runs[run]? = some row) (status : RunStatus) (decided : w.Decided taskId) :
    (w.putRun run { row with status := status }).Decided taskId := by
  obtain ⟨top, finished, held, isHeld, isTop, onTask⟩ := decided
  obtain ⟨after, isAfter, parent, task⟩ := get_putRun found status isHeld
  exact ⟨top, completed_putRun status finished, after, isAfter, parent.trans isTop, task.trans onTask⟩

theorem Sound.putRun (sound : w.Sound) (found : w.runs[run]? = some row) (status : RunStatus) :
    (w.putRun run { row with status := status }).Sound where
  timely := sound.timely
  decided change noted moved closed := (sound.decided change noted moved closed).putRun found status
  parented other parent held isHeld child := by
    obtain ⟨before, isBefore, sameParent, sameTask, sameMode⟩ := get_putRun_cases found status isHeld
    obtain ⟨alone, top, isTop, topLevel, onTask⟩ := sound.parented other parent before isBefore (sameParent.trans child)
    obtain ⟨after, isAfter, parentAfter, taskAfter⟩ := get_putRun found status isTop
    exact ⟨sameMode.symm.trans alone, after, isAfter, parentAfter.trans topLevel,
      taskAfter.trans (onTask.trans sameTask)⟩

theorem Sound.addRun (sound : w.Sound) (fits : ∀ parent, row.parentRunId = some parent →
      row.runMode = .singleAgent ∧ ∃ top, w.runs[parent]? = some top ∧ top.parentRunId = none ∧ top.taskId = row.taskId) :
    (w.addRun row).Sound where
  timely := sound.timely
  decided change noted moved closed := by
    obtain ⟨top, finished, held, isHeld, isTop⟩ := sound.decided change noted moved closed
    exact ⟨top, finished, held, get_addRun row isHeld, isTop⟩
  parented other parent held isHeld child := by
    have fitting : held.runMode = .singleAgent ∧
        ∃ top, w.runs[parent]? = some top ∧ top.parentRunId = none ∧ top.taskId = held.taskId := by
      rcases get_addRun_cases isHeld with before | rfl
      · exact sound.parented other parent held before child
      · exact fits parent child
    obtain ⟨alone, top, isTop, topLevel⟩ := fitting
    exact ⟨alone, top, get_addRun row isTop, topLevel⟩

theorem Sound.noted {tasks : Dict TaskRow} {changes : List Change} (sound : w.Sound)
    (kept : ∀ change ∈ changes, change ∈ w.changes ∨ (change.early = false ∧
      (change.before.status ≠ change.after.status → change.after.status ∈ decidedStatuses → w.Decided change.taskId))) :
    Sound { w with tasks := tasks, changes := changes } where
  timely change noted := by
    rcases kept change noted with before | ⟨timely, -⟩
    · exact sound.timely change before
    · exact timely
  decided change noted moved closed := by
    rcases kept change noted with before | ⟨-, decided⟩
    · exact sound.decided change before moved closed
    · exact decided moved closed
  parented := sound.parented

theorem writeTask_changes {change : Change} (noted : change ∈ (w.writeTask run row taskId before after).changes) :
    change ∈ w.changes ∨ (before ≠ after ∧ change = ⟨run, taskId, before, after, w.isEarly row⟩) := by
  unfold writeTask at noted
  split at noted
  · exact .inl noted
  · rename_i differs
    rcases mem_cons.mp noted with rfl | earlier
    · exact .inr ⟨differs, rfl⟩
    · exact .inl earlier

theorem writeTask_eq : w.writeTask run row taskId before after =
    { w with
      tasks := (w.writeTask run row taskId before after).tasks
      changes := (w.writeTask run row taskId before after).changes } := by
  unfold writeTask
  split <;> rfl

theorem Sound.touch (sound : w.Sound)
    (timely : ∀ taskId task, w.task? row = some (taskId, task) → task ≠ write task → w.isEarly row = false)
    (undecided : ∀ task, (write task).status ∈ decidedStatuses → (write task).status = task.status) :
    (w.touch run row write).Sound := by
  unfold Tree.touch
  split
  · rename_i taskId task found
    rw [writeTask_eq]
    refine sound.noted fun change noted => ?_
    rcases writeTask_changes noted with earlier | ⟨differs, rfl⟩
    · exact .inl earlier
    · exact .inr ⟨timely taskId task found differs, fun moved closed => absurd (undecided task closed).symm moved⟩
  · exact sound

theorem Sound.finish {ending : Ending} (sound : w.Sound) (found : w.runs[run]? = some row)
    (held : w.task? row = some (taskId, task)) (timely : w.isEarly row = true → task.keeps row.runMode ending = true)
    (follows : row.parentRunId ≠ none → w.Decided taskId ∨ task.closes row.runMode ending = false) :
    ((w.writeTask run row taskId task (endTask row.runMode task ending).2).putRun run
      { row with status := (endTask row.runMode task ending).1 }).Sound := by
  have later := sound.putRun found (endTask row.runMode task ending).1
  rw [writeTask_eq]
  refine @Sound.noted _ _ _ later fun change noted => ?_
  rcases writeTask_changes noted with earlier | ⟨differs, rfl⟩
  · exact .inl earlier
  refine .inr ⟨?_, fun moved closed => ?_⟩
  · by_contra early
    exact differs (endTask_keeps.mpr (timely (by simpa using early))).symm
  · obtain ⟨completed, closes⟩ := endTask_decided (Ne.symm moved) closed
    by_cases top : row.parentRunId = none
    · obtain ⟨after, isAfter, parentAfter, taskAfter⟩ := get_putRun found (endTask row.runMode task ending).1 found
      refine ⟨run, ?_, after, isAfter, parentAfter.trans top, taskAfter.trans (task?_taskId held)⟩
      simp [Tree.putRun, completed]
    · rcases follows top with decided | stays
      · exact decided.putRun found _
      · simp [closes] at stays

theorem leaves_early {kept : RunMode → TaskRow → Bool} (leaves : w.leaves run kept = true)
    (found : w.runs[run]? = some row) (held : w.task? row = some (taskId, task)) (early : w.isEarly row = true) :
    kept row.runMode task = true := by
  simpa [Tree.leaves, found, held, early] using leaves

theorem Decided.of_decided (decided : w.decided taskId = true) : w.Decided taskId := by
  obtain ⟨top, finished, isTop⟩ := any_eq_true.mp decided
  obtain ⟨held, isHeld, topLevel⟩ := (Option.any_eq_true _ _).mp isTop
  exact ⟨top, finished, held, isHeld, of_decide_eq_true topLevel⟩

theorem Decided.of_parent (parented : w.Parented) (found : w.runs[run]? = some row)
    (held : row.taskId = some taskId) (finished : w.parentCompleted row = true) : w.Decided taskId := by
  obtain ⟨parent, child, completed⟩ := (Option.any_eq_true _ _).mp finished
  obtain ⟨-, top, isTop, topLevel, onTask⟩ := parented run parent row found child
  exact ⟨parent, of_decide_eq_true completed, top, isTop, topLevel, onTask.trans held⟩

theorem follows_decided {ending : Ending} (parented : w.Parented)
    (follows : w.follows run ending = true) (found : w.runs[run]? = some row) (held : w.task? row = some (taskId, task))
    (child : row.parentRunId ≠ none) : w.Decided taskId ∨ task.closes row.runMode ending = false := by
  unfold Tree.follows at follows
  rw [found, Option.all_some, held, Option.all_some] at follows
  simp only [Bool.or_eq_true, Option.isNone_iff_eq_none, Bool.not_eq_true'] at follows
  rcases follows with (top | finished) | decided | stays
  · exact absurd top child
  · exact .inl (.of_parent parented found (task?_taskId held) finished)
  · exact .inl (.of_decided decided)
  · exact .inr stays

theorem queuedTaskStatus_undecided {status : String} (decided : queuedTaskStatus status ∈ decidedStatuses) :
    queuedTaskStatus status = status := by
  unfold queuedTaskStatus at decided ⊢
  dsimp only at decided ⊢
  split
  · rfl
  rename_i other
  rw [if_neg other] at decided
  split
  · rename_i queued
    rw [if_pos queued] at decided
    simp [decidedStatuses] at decided
  · rename_i refused
    rw [if_neg refused] at decided
    split
    · rename_i planned
      rw [if_pos planned] at decided
      simp [decidedStatuses] at decided
    · rfl

theorem Sound.child {parent : Nat} (sound : w.Sound) (found : w.runs[parent]? = some row) (top : row.parentRunId = none) :
    (w.addRun (childOf parent row)).Sound := by
  refine sound.addRun fun other child => ⟨rfl, ?_⟩
  cases child
  exact ⟨row, found, top, rfl⟩

theorem touch_runs : (w.touch run row write).runs = w.runs := by
  unfold Tree.touch
  split
  · rw [writeTask_eq]
  · rfl

theorem Sound.step {action : Action} {after : Tree} (sound : w.Sound) (careful : w.careful action = true)
    (stepped : w.step action = some after) : after.Sound := by
  cases action with
  | startTaskRun taskId runMode =>
    cases stepped
    have added : (w.addRun ⟨none, taskId, runMode, .queued⟩).Sound :=
      sound.addRun fun parent child => absurd child (by simp)
    exact added.touch (fun _ _ _ _ => isEarly_top rfl) fun task closed => queuedTaskStatus_undecided closed
  | invokeSpecialist parent =>
    dsimp only [Tree.step] at stepped
    split at stepped
    · rename_i found
      split at stepped
      · rename_i allowed
        cases stepped
        exact sound.child found allowed.2
      · cases stepped
    · cases stepped
  | createChildRun parent =>
    dsimp only [Tree.step] at stepped
    split at stepped
    · rename_i row found
      split at stepped
      · rename_i allowed
        cases stepped
        -- a run with a parent has no sub-tasks
        have top : row.parentRunId = none := by
          cases child : row.parentRunId with
          | none => rfl
          | some grandparent =>
            obtain ⟨alone, -⟩ := sound.parented parent grandparent row found child
            simp [allowed.2] at alone
        exact sound.child found top
      · cases stepped
    · cases stepped
  | again run =>
    dsimp only [Tree.step] at stepped
    split at stepped
    · rename_i old found
      split at stepped
      · cases stepped
        have added : (w.addRun { old with status := .queued }).Sound :=
          sound.addRun fun parent child => sound.parented run parent old found child
        have timely : ∀ taskId task, w.task? old = some (taskId, task) → task ≠ { task with status := "queued" } →
            w.isEarly old = false := by
          intro taskId task held differs
          by_contra early
          have queued := leaves_early (show w.leaves run (fun _ task => task.status = "queued") = true from careful) found held (by simpa using early)
          rw [decide_eq_true_eq] at queued
          exact differs (by rw [← queued])
        refine added.touch (fun taskId task held differs => ?_) fun task closed => ?_
        · exact (isEarly_addRun { old with status := .queued } sound.parented found).trans (timely taskId task held differs)
        · simp [decidedStatuses] at closed
      · cases stepped
    · cases stepped
  | begin run =>
    dsimp only [Tree.step] at stepped
    split at stepped
    · rename_i found
      split at stepped
      · cases stepped
        refine (sound.touch (fun taskId task held differs => ?_) fun task closed => ?_).putRun (touch_runs.symm ▸ found) .inProgress
        · by_contra early
          have leaves : w.leaves run (fun _ task => task.status ∉ ["queued", "planned", "blocked"]) = true := careful
          have settled := leaves_early leaves found held (by simpa using early)
          rw [decide_eq_true_eq] at settled
          exact differs (by rw [Task.begun, if_neg (show ¬ task.asTask.status ∈ _ from settled)]; rfl)
        · unfold Task.begun at closed ⊢
          split at closed
          · simp [decidedStatuses] at closed
          · rename_i settled
            rw [if_neg settled]
            rfl
      · cases stepped
    · cases stepped
  | review run next =>
    dsimp only [Tree.step] at stepped
    split at stepped
    · rename_i row found
      split at stepped
      · rename_i allowed
        cases stepped
        obtain ⟨-, modes, among, -⟩ := allowed
        -- a run with a parent has no review
        have top : row.parentRunId = none := by
          cases child : row.parentRunId with
          | none => rfl
          | some parent =>
            obtain ⟨alone, -⟩ := sound.parented run parent row found child
            simp [alone] at modes
        refine sound.touch (fun _ _ _ _ => isEarly_top top) fun task closed => ?_
        simp only [mem_cons, not_mem_nil, or_false] at among
        rcases among with rfl | rfl <;> simp [decidedStatuses] at closed
      · cases stepped
    · cases stepped
  | finish run ending =>
    dsimp only [Tree.step] at stepped
    split at stepped
    · rename_i found
      split at stepped
      · obtain ⟨leaves, follows⟩ := Bool.and_eq_true_iff.mp careful
        split at stepped
        · rename_i held
          cases stepped
          exact sound.finish found held (fun early => leaves_early leaves found held early)
            (follows_decided sound.parented follows found held)
        · cases stepped
          exact sound.putRun found ending.alone
      · cases stepped
    · cases stepped
  | cancel run =>
    dsimp only [Tree.step] at stepped
    split at stepped
    · rename_i found
      cases stepped
      refine (sound.touch (fun taskId task held differs => ?_) fun task closed => ?_).putRun (touch_runs.symm ▸ found) .cancelled
      · by_contra early
        have leaves : w.leaves run (fun _ task => task.status ∉ ["queued", "in_progress"]) = true := careful
        have settled := leaves_early leaves found held (by simpa using early)
        simp only [mem_cons, not_mem_nil, or_false, decide_eq_true_eq] at settled
        refine differs ?_
        split
        · rename_i open'
          simp only [mem_cons, not_mem_nil, or_false] at open'
          rcases open' with queued | planned | working
          · exact absurd (.inl queued) settled
          · rw [← planned]
          · exact absurd (.inr working) settled
        · rfl
      · split at closed
        · simp [decidedStatuses] at closed
        · simp_all
    · cases stepped
  | move run status =>
    dsimp only [Tree.step] at stepped
    split at stepped
    · rename_i found
      split at stepped
      · cases stepped
        exact sound.putRun found status
      · cases stepped
    · cases stepped
  | edit taskId row =>
    cases stepped
    exact ⟨⟨sound.timely, sound.decided⟩, sound.parented⟩

end Steps

end Tree

def sampleRow (status : String) : TaskRow := ⟨status, false, ""⟩

def lateSpecialist : List Action :=
  [.edit "task" (sampleRow "backlog"), .startTaskRun (some "task") .singleAgent, .begin 0, .invokeSpecialist 0, .begin 1,
    .finish 0 (.completed "whole" false .quiet), .finish 1 (.completed "part" false .quiet)]

def specialist : List Action :=
  [.edit "task" (sampleRow "backlog"), .startTaskRun (some "task") .singleAgent, .begin 0, .invokeSpecialist 0, .begin 1,
    .finish 1 (.completed "part" false .quiet)]

end Troop.Execution
