import Troop.Projects.Listing
import Troop.Projects.Updates

namespace Troop.Projects

open List

/-- What `get_task_blockers` answers of a dependency that is not complete. -/
structure DependencyBlocker where
  taskId : String
  title : String
  status : String
  message : String
deriving DecidableEq

structure AcceptanceCheck where
  name : String
  passed : Bool
  detail : String
deriving DecidableEq

/-- `terminal` of `get_task_blockers` -/
def terminalForBlockers : List String := ["approved", "completed", "synced_to_github", "archived"]

def carriedOn : List String := ["synced_to_github", "archived"]

def ListedTask.withStatus (task : ListedTask) (id status : String) : ListedTask :=
  if task.id = id then { task with status } else task

namespace Board

variable (board : Board)

def getTaskById (taskId : String) : Option ListedTask := board.tasks.find? fun task => task.id = taskId

def listTaskDependenciesForTask (taskId : String) : List TaskDependency :=
  board.dependencies.filter fun row => row.taskId = taskId

/-- A dependency counts as complete in `_task_dependencies_met_for_run`. -/
def metForRun (row : TaskDependency) : Bool :=
  (board.getTaskById row.dependsOnTaskId).all fun task => task.status ∈ ["completed", "approved"]

/-- The blocker that `get_task_blockers` appends for a dependency. -/
def blockerOf (row : TaskDependency) : Option DependencyBlocker :=
  match board.getTaskById row.dependsOnTaskId with
  | none => none
  | some task =>
    if task.status ∉ terminalForBlockers then
      some ⟨task.id, task.title, task.status, "Dependency '" ++ task.title ++ "' is not complete."⟩
    else none

/-- The loop of `get_task_blockers` over the dependencies. -/
def dependencyBlockers (taskId : String) : List DependencyBlocker :=
  (board.listTaskDependenciesForTask taskId).filterMap board.blockerOf

def incompleteForAcceptance (row : TaskDependency) : Bool :=
  (board.getTaskById row.dependsOnTaskId).any fun task => task.status ∉ ["completed", "approved"]

/-- The check `dependencies_complete` of `_check_task_acceptance_payload`. -/
def dependenciesComplete (taskId : String) : AcceptanceCheck :=
  let rows := board.listTaskDependenciesForTask taskId
  if rows = [] then ⟨"dependencies_complete", true, "No dependencies"⟩
  else
    let incompleteCount := rows.countP board.incompleteForAcceptance
    ⟨"dependencies_complete", incompleteCount = 0,
      if incompleteCount = 0 then "All dependencies completed" else s!"{incompleteCount} dependencies not yet complete"⟩

def move (id status : String) : Board :=
  { board with
    tasks := board.tasks.map (·.withStatus id status)
    distinctTasks := by
      have same : ListedTask.id ∘ (·.withStatus id status) = ListedTask.id := by
        funext task
        dsimp only [Function.comp, ListedTask.withStatus]
        split <;> rfl
      rw [List.map_map, same]
      exact board.distinctTasks }

def Depends (taskId : String) (task : ListedTask) : Prop :=
  ∃ row ∈ board.listTaskDependenciesForTask taskId, board.getTaskById row.dependsOnTaskId = some task

def OneMeaning (taskId : String) : Prop :=
  ∀ row ∈ board.listTaskDependenciesForTask taskId,
    board.metForRun row = (board.blockerOf row).isNone ∧ board.metForRun row = !board.incompleteForAcceptance row

def StaysReady (ready : Board → Prop) (taskId : String) : Prop :=
  ready board → ∀ task, board.Depends taskId task → task.status ∈ ["completed", "approved"] →
    ∀ next ∈ carriedOn, isValidTaskTransition task.status next = true → ready (board.move task.id next)

/-- Readiness has one meaning, and each function's verdict is monotone. -/
structure Coherent (taskId : String) : Prop where
  oneMeaning : board.OneMeaning taskId
  forRun : board.StaysReady (fun after => after.taskDependenciesMetForRun taskId = true) taskId
  forBlockers : board.StaysReady (fun after => after.dependencyBlockers taskId = []) taskId
  forAcceptance : board.StaysReady (fun after => (after.dependenciesComplete taskId).passed = true) taskId

section Verdicts

variable {board : Board} {taskId id status : String} {row : TaskDependency} {task : ListedTask}

theorem getTaskById_move (other : String) :
    (board.move id status).getTaskById other = (board.getTaskById other).map (·.withStatus id status) := by
  have same : ((fun task : ListedTask => decide (task.id = other)) ∘ fun task : ListedTask => task.withStatus id status) =
      fun task : ListedTask => decide (task.id = other) := by
    funext task
    dsimp only [Function.comp, ListedTask.withStatus]
    split <;> rfl
  unfold getTaskById move
  rw [find?_map, same]

theorem metForRun_some (found : board.getTaskById row.dependsOnTaskId = some task) :
    board.metForRun row = decide (task.status ∈ ["completed", "approved"]) := by
  rw [metForRun, found, Option.all_some]

theorem metForRun_none (missing : board.getTaskById row.dependsOnTaskId = none) : board.metForRun row = true := by
  rw [metForRun, missing, Option.all_none]

theorem blockerOf_isNone (found : board.getTaskById row.dependsOnTaskId = some task) :
    (board.blockerOf row).isNone = decide (task.status ∈ terminalForBlockers) := by
  rw [blockerOf, found]
  dsimp only
  split <;> simp_all

theorem blockerOf_none (missing : board.getTaskById row.dependsOnTaskId = none) : board.blockerOf row = none := by
  rw [blockerOf, missing]

/-- The set of statuses of the acceptance check is the one of `_task_dependencies_met_for_run`. -/
theorem incompleteForAcceptance_eq : board.incompleteForAcceptance row = !board.metForRun row := by
  unfold incompleteForAcceptance metForRun
  cases board.getTaskById row.dependsOnTaskId with
  | none => rfl
  | some task => simp

theorem metForRun_iff :
    board.taskDependenciesMetForRun taskId = true ↔ ∀ row ∈ board.listTaskDependenciesForTask taskId, board.metForRun row = true :=
  all_eq_true

theorem dependencyBlockers_iff : board.dependencyBlockers taskId = [] ↔
    ∀ row ∈ board.listTaskDependenciesForTask taskId, board.blockerOf row = none := filterMap_eq_nil_iff

theorem dependenciesComplete_iff :
    (board.dependenciesComplete taskId).passed = true ↔ board.taskDependenciesMetForRun taskId = true := by
  rw [metForRun_iff]
  unfold dependenciesComplete
  dsimp only
  split
  · simp_all
  · simp [countP_eq_zero, incompleteForAcceptance_eq]

theorem metForRun_depends : board.taskDependenciesMetForRun taskId = true ↔
    ∀ task, board.Depends taskId task → task.status ∈ ["completed", "approved"] := by
  rw [metForRun_iff]
  constructor
  · intro met task ⟨row, listed, found⟩
    have counted := met row listed
    rw [metForRun_some found] at counted
    exact of_decide_eq_true counted
  · intro done row listed
    cases found : board.getTaskById row.dependsOnTaskId with
    | none => exact metForRun_none found
    | some task =>
      rw [metForRun_some found]
      exact decide_eq_true (done task ⟨row, listed, found⟩)

theorem oneMeaning_iff : board.OneMeaning taskId ↔ ∀ task, board.Depends taskId task → task.status ∉ carriedOn := by
  constructor
  · intro same task ⟨row, listed, found⟩ carried
    have counted := (same row listed).1
    rw [metForRun_some found, blockerOf_isNone found, decide_eq_decide] at counted
    simp only [carriedOn, terminalForBlockers, mem_cons, not_mem_nil, or_false] at counted carried
    rcases carried with synced | archived
    · simp [synced] at counted
    · simp [archived] at counted
  · intro fresh row listed
    refine ⟨?_, by rw [incompleteForAcceptance_eq, Bool.not_not]⟩
    cases found : board.getTaskById row.dependsOnTaskId with
    | none => rw [metForRun_none found, blockerOf_none found, Option.isNone_none]
    | some task =>
      have other := fresh task ⟨row, listed, found⟩
      rw [metForRun_some found, blockerOf_isNone found, decide_eq_decide]
      simp only [carriedOn, terminalForBlockers, mem_cons, not_mem_nil, or_false, not_or] at other ⊢
      tauto

/-- The verdict of `get_task_blockers` is monotone in every table. -/
theorem blockers_stay_ready (board : Board) (taskId : String) :
    board.StaysReady (fun after => after.dependencyBlockers taskId = []) taskId := by
  intro ready task _ _ next carried _
  rw [dependencyBlockers_iff] at ready ⊢
  intro row listed
  have before := ready row listed
  cases found : board.getTaskById row.dependsOnTaskId with
  | none => exact blockerOf_none (by rw [getTaskById_move, found, Option.map_none])
  | some dependency =>
    have moved : (board.move task.id next).getTaskById row.dependsOnTaskId = some (dependency.withStatus task.id next) := by
      rw [getTaskById_move, found, Option.map_some]
    have finished := blockerOf_isNone found
    rw [before, Option.isNone_none] at finished
    rw [← Option.isNone_iff_eq_none, blockerOf_isNone moved]
    unfold ListedTask.withStatus
    split
    · simp only [carriedOn, mem_cons, not_mem_nil, or_false] at carried
      rw [decide_eq_true_eq]
      dsimp only
      rcases carried with rfl | rfl <;> decide
    · exact finished.symm

theorem archived_unready (depends : board.Depends taskId task) (done : task.status ∈ ["completed", "approved"]) :
    isValidTaskTransition task.status "archived" = true ∧
      (board.move task.id "archived").taskDependenciesMetForRun taskId = false := by
  constructor
  · simp only [mem_cons, not_mem_nil, or_false] at done
    rcases done with completed | approved
    · rw [completed]
      decide
    · rw [approved]
      decide
  · obtain ⟨row, listed, found⟩ := depends
    apply Bool.eq_false_iff.mpr
    intro met
    have moved : (board.move task.id "archived").getTaskById row.dependsOnTaskId = some { task with status := "archived" } := by
      rw [getTaskById_move, found, Option.map_some, ListedTask.withStatus, if_pos rfl]
    have counted := metForRun_iff.mp met row listed
    simp [metForRun_some moved] at counted

end Verdicts

end Board

/-- Readiness is coherent exactly where no dependency was carried on past completion, and the task has none at all or is
    not ready: of a ready task every dependency can be archived. -/
theorem readiness_coherent_iff (board : Board) (taskId : String) :
    board.Coherent taskId ↔ (∀ task, board.Depends taskId task → task.status ∉ carriedOn) ∧
      ((∀ task, ¬ board.Depends taskId task) ∨
        ∃ task, board.Depends taskId task ∧ task.status ∉ ["completed", "approved"]) := by
  constructor
  · intro coherent
    refine ⟨Board.oneMeaning_iff.mp coherent.oneMeaning, ?_⟩
    by_contra neither
    rw [not_or, not_forall, not_exists] at neither
    obtain ⟨⟨task, depends⟩, complete⟩ := neither
    have done : ∀ other, board.Depends taskId other → other.status ∈ ["completed", "approved"] :=
      fun other isOne => not_not.mp fun open_ => complete other ⟨isOne, open_⟩
    obtain ⟨legal, unready⟩ := Board.archived_unready (not_not.mp depends) (done task (not_not.mp depends))
    have kept := coherent.forRun (Board.metForRun_depends.mpr done) task (not_not.mp depends)
      (done task (not_not.mp depends)) "archived" (by decide) legal
    exact absurd (unready.symm.trans kept) Bool.false_ne_true
  · intro ⟨fresh, unready⟩
    have stays : board.StaysReady (fun after => after.taskDependenciesMetForRun taskId = true) taskId := by
      intro ready task depends
      rcases unready with alone | ⟨other, isOne, open_⟩
      · exact absurd depends (alone task)
      · exact absurd (Board.metForRun_depends.mp ready other isOne) open_
    refine ⟨Board.oneMeaning_iff.mpr fresh, stays, Board.blockers_stay_ready board taskId, ?_⟩
    intro ready task depends done next carried legal
    exact Board.dependenciesComplete_iff.mpr
      (stays (Board.dependenciesComplete_iff.mp ready) task depends done next carried legal)

theorem onlyProject_distinct : [("troop" : String)].Nodup := by
  decide

def boardWith (status : String) : Board where
  defaultLimit := 200
  maxLimit := 5000
  projects := [⟨"troop", "owner", {}⟩]
  tasks := [{ id := "first", projectId := "troop", status }, { id := "second", projectId := "troop", status := "planned" }]
  dependencies := [⟨0, "second", "first"⟩]
  distinctProjects := onlyProject_distinct
  distinctTasks := by
    show ["first", "second"].Nodup
    decide

theorem synced_dependency_incoherent :
    (boardWith "completed").taskDependenciesMetForRun "second" = true ∧
    isValidTaskTransition "completed" "synced_to_github" = true ∧
    ((boardWith "completed").move "first" "synced_to_github").taskDependenciesMetForRun "second" = false ∧
    ((boardWith "completed").move "first" "synced_to_github").dependencyBlockers "second" = [] ∧
    (((boardWith "completed").move "first" "synced_to_github").dependenciesComplete "second").passed = false ∧
    ¬ ∀ board : Board, ∀ taskId, board.Coherent taskId := by
  refine ⟨by decide, by decide, by decide, by decide, by decide, fun claimed => ?_⟩
  have depends : (boardWith "completed").Depends "second" { id := "first", projectId := "troop", status := "completed" } :=
    ⟨⟨0, "second", "first"⟩, by decide, by decide⟩
  have kept := (claimed (boardWith "completed") "second").forRun (by decide) _ depends (by decide) "synced_to_github" (by decide)
    (by decide)
  revert kept
  decide

end Troop.Projects
