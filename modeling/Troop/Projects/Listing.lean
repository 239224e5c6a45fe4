import Mathlib.Data.List.Nodup
import Troop.Projects.Dependencies
import Troop.Python.Json

namespace Troop.Projects

open Graphs Relation
open List

def resolveQueryLimit (limit : Option Int) (default maximum : Int) : Int :=
  let effective := match limit with
    | none => default
    | some limit => if limit = 0 then maximum else limit
  max 1 (min effective maximum)

structure ListedTask where
  id : String
  projectId : String
  title : String := ""
  status : String
  dueDate : Option Int := none
  responseSlaHours : Int := 0
  createdAt : Int := 0
  metadataJson : Dict Json := []
deriving DecidableEq

/-- `execution.sla` of the project settings -/
structure SlaSettings where
  enabled : Bool := true
  escalateHoursAfterDue : Int := 0
  warnHoursBeforeDue : Int := 24
deriving DecidableEq

structure ListedProject where
  id : String
  ownerId : String
  sla : SlaSettings := {}
deriving DecidableEq

structure ListedRun where
  id : String
  projectId : String
  taskId : String
  status : String
deriving DecidableEq

structure ListedApproval where
  projectId : String
  taskId : String
  runId : Option String
  requestedByUserId : String
  approvalType : String
  status : String
  payloadJson : Dict Json
deriving DecidableEq

structure Board where
  /-- `ORCHESTRATION_LIST_TASKS_DEFAULT_LIMIT` -/
  defaultLimit : Int
  /-- `ORCHESTRATION_LIST_TASKS_MAX_LIMIT` -/
  maxLimit : Int
  projects : List ListedProject
  /-- by position, then by creation -/
  tasks : List ListedTask
  dependencies : List TaskDependency := []
  /-- the latest last -/
  runs : List ListedRun := []
  approvals : List ListedApproval := []
  distinctProjects : (projects.map ListedProject.id).Nodup
  distinctTasks : (tasks.map ListedTask.id).Nodup

structure ReadyTask where
  id : String
  title : String
  status : String
  dependencyCount : Nat
deriving DecidableEq

structure Visit where
  task : ListedTask
  metadata : Dict Json
  warned : Bool
  approval : Option ListedApproval
deriving DecidableEq

structure ScanReport where
  projectsScanned : Nat
  tasksConsidered : Nat
  warningsFlagged : Nat
  escalationsCreated : Nat
deriving DecidableEq

def ListedTask.toTask (task : ListedTask) : Task := ⟨task.id, task.projectId⟩

/-- `_task_effective_sla_deadline` -/
def ListedTask.deadline (task : ListedTask) : Option Int :=
  let answer := task.createdAt + task.responseSlaHours * 3600
  match task.dueDate with
  | some due => some (if task.responseSlaHours ≠ 0 then min due answer else due)
  | none => if task.responseSlaHours ≠ 0 then some answer else none

def settledStatuses : List String := ["completed", "approved", "archived", "synced_to_github"]

namespace Board

variable (board : Board)

def projectTasks (projectId : String) : List ListedTask := board.tasks.filter fun task => task.projectId = projectId

def listTasks (projectId : String) (limit : Option Int) : List ListedTask :=
  (board.projectTasks projectId).take (resolveQueryLimit limit board.defaultLimit board.maxLimit).toNat

def listTaskDependencies (projectId : String) : List TaskDependency :=
  board.dependencies.filter fun row => row.taskId ∈ (board.projectTasks projectId).map ListedTask.id

def validateTaskDependencies (projectId taskId : String) (dependencyIds : List String) : Except HttpError Unit := do
  let normalized := normalizedDependencies dependencyIds
  checkNormalized taskId normalized
  let tasks := (board.listTasks projectId (some 0)).map ListedTask.toTask
  checkListed tasks normalized
  checkAcyclic tasks (board.listTaskDependencies projectId) taskId normalized

def taskHasActiveRun (projectId taskId : String) : Bool :=
  board.runs.any fun run => run.projectId = projectId ∧ run.taskId = taskId ∧ run.status ∈ ["queued", "in_progress"]

def taskDependenciesMetForRun (taskId : String) : Bool :=
  (board.dependencies.filter fun row => row.taskId = taskId).all fun row =>
    (board.tasks.find? fun task => task.id = row.dependsOnTaskId).all fun task =>
      task.status ∈ ["completed", "approved"]

def isReady (projectId : String) (task : ListedTask) : Bool :=
  task.status ∈ ["backlog", "planned"] ∧ ¬ board.taskHasActiveRun projectId task.id ∧
    board.taskDependenciesMetForRun task.id

def readyTask (projectId : String) (task : ListedTask) : ReadyTask :=
  ⟨task.id, task.title, task.status, (board.listTaskDependencies projectId).countP fun row => row.taskId = task.id⟩

/-- `list_dag_ready_tasks`, after `get_project` has answered -/
def listDagReadyTasks (projectId : String) : List ReadyTask :=
  ((board.listTasks projectId (some 0)).filter (board.isReady projectId)).map (board.readyTask projectId)

def countPendingApprovalsForTask (projectId taskId approvalType : String) : Nat :=
  board.approvals.countP fun row =>
    row.projectId = projectId ∧ row.taskId = taskId ∧ row.approvalType = approvalType ∧ row.status = "pending"

def getLatestRunForTask (projectId taskId : String) : Option ListedRun :=
  board.runs.reverse.find? fun run => run.projectId = projectId ∧ run.taskId = taskId

end Board

def warnedMetadata (isoformat : Int → String) (now : Int) (metadata : Dict Json) : Dict Json :=
  (metadata.set "sla_warn_sent" (.bool true)).set "sla_warn_at" (.str (isoformat now))

def Board.visit (board : Board) (isoformat : Int → String) (now : Int) (project : ListedProject) (task : ListedTask)
    (deadline : Int) : Visit :=
  let warned := decide (deadline - project.sla.warnHoursBeforeDue * 3600 ≤ now ∧ now < deadline ∧
    ¬ (task.metadataJson.get "sla_warn_sent").truthy)
  let metadata := if warned then warnedMetadata isoformat now task.metadataJson else task.metadataJson
  let breachAt := deadline + project.sla.escalateHoursAfterDue * 3600
  if now ≤ breachAt ∨ (metadata.get "sla_escalated_at").truthy ∨
      0 < board.countPendingApprovalsForTask project.id task.id "sla_escalation" then ⟨task, metadata, warned, none⟩
  else
    let approval : ListedApproval :=
      { projectId := project.id, taskId := task.id
        runId := (board.getLatestRunForTask project.id task.id).map ListedRun.id
        requestedByUserId := project.ownerId, approvalType := "sla_escalation", status := "pending"
        payloadJson := [("deadline", .str (isoformat deadline)), ("breach_at", .str (isoformat breachAt)),
          ("escalate_hours_after_due", .num project.sla.escalateHoursAfterDue)] }
    ⟨task, metadata.set "sla_escalated_at" (.str (isoformat now)), warned, some approval⟩

def ListedTask.openDeadline (task : ListedTask) : Option Int :=
  if task.status ∈ settledStatuses then none else task.deadline

def Board.visitProject (board : Board) (isoformat : Int → String) (now : Int) (project : ListedProject) : List Visit :=
  if project.sla.enabled then
    (board.listTasks project.id (some 0)).filterMap fun task =>
      task.openDeadline.map (board.visit isoformat now project task)
  else []

/-- `run_global_sla_escalation_scan`: what it does and what it answers. No visit reads what another
    one writes. -/
def Board.runGlobalSlaEscalationScan (board : Board) (isoformat : Int → String) (now : Int) : List Visit × ScanReport :=
  let visits := board.projects.flatMap (board.visitProject isoformat now)
  (visits, ⟨board.projects.length, visits.length, visits.countP Visit.warned, visits.countP (·.approval.isSome)⟩)

def Board.hidden (board : Board) (projectId : String) : List ListedTask :=
  (board.projectTasks projectId).drop (max 1 board.maxLimit).toNat

/-- Setting these dependencies keeps the graph of the project as it should be. -/
structure Board.Admits (board : Board) (projectId taskId : String) (ids : List String) : Prop where
  distinct : ids.Nodup
  others : taskId ∉ ids
  inProject : ∀ id ∈ ids, ∃ task ∈ board.projectTasks projectId, task.id = id
  acyclic : ∀ id ∈ ids,
    ¬ ReflTransGen (replaceEdges (DependsOn (board.listTaskDependencies projectId)) taskId ids) id taskId

section Validation

variable {board : Board} {projectId taskId : String} {normalized : List String} {tasks : List Task}
  {rows : List TaskDependency}

theorem checkNormalized_iff : checkNormalized taskId normalized = .ok () ↔ normalized.Nodup ∧ taskId ∉ normalized := by
  unfold checkNormalized
  by_cases distinct : normalized.Nodup
  · by_cases own : taskId ∈ normalized <;> simp [distinct, own]
  · simp [distinct]

theorem checkListed_iff : checkListed tasks normalized = .ok () ↔ ∀ id ∈ normalized, id ∈ tasks.map Task.id := by
  unfold checkListed
  dsimp only
  split <;> simp_all

theorem successors_set : (fun x y => y ∈ successors ((adjacencyOf tasks rows).set taskId normalized) x) =
    replaceEdges (DependsOn rows) taskId normalized := by
  funext x y
  unfold successors replaceEdges
  rw [Dict.get?_set]
  by_cases own : x = taskId
  · simp [own]
  · rw [if_neg fun equal => own equal.symm, if_neg own]
    exact propext mem_successors_adjacencyOf

theorem checkAcyclic_iff : checkAcyclic tasks rows taskId normalized = .ok () ↔
    ∀ id ∈ normalized, ¬ ReflTransGen (replaceEdges (DependsOn rows) taskId normalized) id taskId := by
  constructor
  · exact checkAcyclic_ok
  intro free
  unfold checkAcyclic
  rw [if_neg]
  intro found
  rw [any_eq_true] at found
  obtain ⟨id, member, path⟩ := found
  rw [taskDependencyPathExists_iff, successors_set] at path
  exact free id member path

theorem except_seq_ok {ε : Type} {first second : Except ε Unit} :
    (first >>= fun _ => second) = .ok () ↔ first = .ok () ∧ second = .ok () := by
  cases first with
  | error error => exact ⟨fun accepted => (by cases accepted), fun both => (by cases both.1)⟩
  | ok value => exact ⟨fun accepted => ⟨rfl, accepted⟩, fun both => both.2⟩

theorem validateTaskDependencies_iff (dependencyIds : List String) :
    board.validateTaskDependencies projectId taskId dependencyIds = .ok () ↔
      ((normalizedDependencies dependencyIds).Nodup ∧ taskId ∉ normalizedDependencies dependencyIds) ∧
      (∀ id ∈ normalizedDependencies dependencyIds, id ∈ (board.listTasks projectId (some 0)).map ListedTask.id) ∧
      ∀ id ∈ normalizedDependencies dependencyIds, ¬ ReflTransGen
        (replaceEdges (DependsOn (board.listTaskDependencies projectId)) taskId (normalizedDependencies dependencyIds)) id taskId := by
  unfold Board.validateTaskDependencies
  rw [except_seq_ok, except_seq_ok, checkNormalized_iff, checkListed_iff, checkAcyclic_iff, List.map_map]
  rfl

end Validation

section Pages

variable {board : Board} {projectId : String} {task : ListedTask}

theorem resolveQueryLimit_zero (default maximum : Int) : resolveQueryLimit (some 0) default maximum = max 1 maximum := by
  simp [resolveQueryLimit]

theorem listTasks_all : board.listTasks projectId (some 0) ++ board.hidden projectId = board.projectTasks projectId := by
  unfold Board.listTasks Board.hidden
  rw [resolveQueryLimit_zero, take_append_drop]

theorem mem_projectTasks : task ∈ board.projectTasks projectId ↔ task ∈ board.tasks ∧ task.projectId = projectId := by
  simp [Board.projectTasks]

theorem shown_or_hidden (member : task ∈ board.projectTasks projectId) :
    task ∈ board.listTasks projectId (some 0) ∨ task ∈ board.hidden projectId := by
  rw [← listTasks_all] at member
  exact mem_append.mp member

theorem projectTasks_nodup : ((board.projectTasks projectId).map ListedTask.id).Nodup :=
  board.distinctTasks.sublist (filter_sublist.map _)

theorem hidden_not_listed (behind : task ∈ board.hidden projectId) :
    task.id ∉ (board.listTasks projectId (some 0)).map ListedTask.id := by
  have distinct := @projectTasks_nodup board projectId
  rw [← listTasks_all, map_append, nodup_append] at distinct
  intro shown
  exact distinct.2.2 _ shown _ (mem_map_of_mem behind) rfl

theorem mem_listTasks (shown : task ∈ board.listTasks projectId (some 0)) : task ∈ board.projectTasks projectId := by
  rw [← listTasks_all]
  exact mem_append_left _ shown

theorem same_project {first second : ListedProject} (here : first ∈ board.projects) (there : second ∈ board.projects)
    (same : first.id = second.id) : first = second :=
  inj_on_of_nodup_map board.distinctProjects here there same

theorem mem_visitProject {isoformat : Int → String} {now : Int} {project : ListedProject} :
    (∃ visit ∈ board.visitProject isoformat now project, visit.task = task) ↔
      project.sla.enabled = true ∧ task ∈ board.listTasks project.id (some 0) ∧ task.openDeadline ≠ none := by
  have own : ∀ other deadline, (board.visit isoformat now project other deadline).task = other := by
    intro other deadline
    unfold Board.visit
    dsimp only
    split <;> split <;> rfl
  unfold Board.visitProject
  by_cases enabled : project.sla.enabled = true
  · constructor
    · simp_all
    · simp_all [Option.ne_none_iff_exists', mem_filterMap]
  · constructor
    · simp_all
    · exact fun given => absurd given.1 enabled

end Pages

/-- Each operation sees the whole project as far as it shows in the answer exactly when no task behind
    the longest list of tasks would have counted: the validation, when a list it should accept names
    none of them; the ready tasks, when none of them is ready; the scan, when none of them is open with
    a deadline, and the project of no such task has the escalation switched off. -/
theorem operations_see_project (board : Board) :
    (∀ projectId taskId dependencyIds,
      (board.validateTaskDependencies projectId taskId dependencyIds = .ok () ↔
        board.Admits projectId taskId (normalizedDependencies dependencyIds)) ↔
      (board.Admits projectId taskId (normalizedDependencies dependencyIds) →
        ∀ task ∈ board.hidden projectId, task.id ∉ normalizedDependencies dependencyIds)) ∧
    (∀ projectId,
      board.listDagReadyTasks projectId =
        ((board.projectTasks projectId).filter (board.isReady projectId)).map (board.readyTask projectId) ↔
      ∀ task ∈ board.hidden projectId, ¬ board.isReady projectId task = true) ∧
    ∀ isoformat now,
      (∀ project ∈ board.projects, ∀ task ∈ board.projectTasks project.id, task.openDeadline ≠ none →
        ∃ visit ∈ (board.runGlobalSlaEscalationScan isoformat now).1, visit.task = task) ↔
      ∀ project ∈ board.projects, ∀ task ∈ board.projectTasks project.id, task.openDeadline ≠ none →
        project.sla.enabled = true ∧ task ∉ board.hidden project.id := by
  refine ⟨?_, ?_, ?_⟩
  · intro projectId taskId dependencyIds
    rw [validateTaskDependencies_iff]
    constructor
    · intro exact_ admits task behind named
      obtain ⟨_, listed, _⟩ := exact_.mpr admits
      exact hidden_not_listed behind (listed _ named)
    · intro shown
      constructor
      · rintro ⟨⟨distinct, others⟩, listed, acyclic⟩
        refine ⟨distinct, others, fun id member => ?_, acyclic⟩
        obtain ⟨task, inside, same⟩ := mem_map.mp (listed id member)
        exact ⟨task, mem_listTasks inside, same⟩
      · intro admits
        refine ⟨⟨admits.distinct, admits.others⟩, fun id member => ?_, admits.acyclic⟩
        obtain ⟨task, inside, rfl⟩ := admits.inProject id member
        rcases shown_or_hidden inside with here | behind
        · exact mem_map_of_mem here
        · exact absurd member (shown admits task behind)
  · intro projectId
    unfold Board.listDagReadyTasks
    rw [← listTasks_all, filter_append, map_append, self_eq_append_right, map_eq_nil_iff, filter_eq_nil_iff]
  · intro isoformat now
    constructor
    · intro considered project here task inside due
      obtain ⟨visit, made, same⟩ := considered project here task inside due
      obtain ⟨other, there, visited⟩ := mem_flatMap.mp made
      obtain ⟨enabled, shown⟩ := mem_visitProject.mp ⟨visit, visited, same⟩
      have own : other.id = project.id := by
        rw [← (mem_projectTasks.mp (mem_listTasks shown.1)).2, (mem_projectTasks.mp inside).2]
      have equal := same_project there here own
      subst equal
      refine ⟨enabled, fun behind => ?_⟩
      exact hidden_not_listed behind (mem_map_of_mem shown.1)
    · intro seen project here task inside due
      obtain ⟨enabled, front⟩ := seen project here task inside due
      have shown := (shown_or_hidden inside).resolve_right front
      obtain ⟨visit, visited, same⟩ := mem_visitProject.mpr ⟨enabled, shown, due⟩
      exact ⟨visit, mem_flatMap.mpr ⟨project, here, visited⟩, same⟩

/-- The tasks of the crowded project have the names `x`, `xx`, and so on. -/
def crowdName (k : Nat) : String := String.ofList (List.replicate (k + 1) 'x')

def crowdTask (k : Nat) : ListedTask := { id := crowdName k, projectId := "troop", status := "planned", dueDate := some 0 }

def crowdTasks (count : Nat) : List ListedTask := (List.range count).map crowdTask

theorem crowdName_injective : Function.Injective crowdName := by
  intro first second same
  have lengths := congrArg (fun text => text.toList.length) same
  simpa [crowdName] using lengths

theorem crowdTasks_distinct (count : Nat) : ((crowdTasks count).map ListedTask.id).Nodup := by
  have names : (crowdTasks count).map ListedTask.id = (range count).map crowdName := by
    rw [crowdTasks, List.map_map]
    rfl
  rw [names]
  exact nodup_range.map crowdName_injective

def crowded (limit : Nat) : Board where
  defaultLimit := 50
  maxLimit := limit
  projects := [{ id := "troop", ownerId := "owner" }]
  tasks := crowdTasks (limit + 1)
  distinctProjects := by simp
  distinctTasks := crowdTasks_distinct (limit + 1)

section Crowded

variable {limit : Nat}

theorem crowded_tasks : (crowded limit).projectTasks "troop" = crowdTasks (limit + 1) := by
  apply filter_eq_self.mpr
  intro task member
  obtain ⟨k, _, rfl⟩ := mem_map.mp member
  rfl

theorem crowded_list (positive : 0 < limit) : (crowded limit).listTasks "troop" (some 0) = crowdTasks limit := by
  have most : (resolveQueryLimit (some 0) (crowded limit).defaultLimit (crowded limit).maxLimit).toNat = limit := by
    rw [resolveQueryLimit_zero]
    show (max 1 (limit : Int)).toNat = limit
    omega
  unfold Board.listTasks
  rw [most, crowded_tasks, crowdTasks, crowdTasks, ← map_take, take_range, Nat.min_eq_left (Nat.le_succ limit)]

theorem last_not_listed : crowdName limit ∉ (crowdTasks limit).map ListedTask.id := by
  intro member
  obtain ⟨task, inside, same⟩ := mem_map.mp member
  obtain ⟨k, before, rfl⟩ := mem_map.mp inside
  have equal : k = limit := crowdName_injective same
  simp_all

theorem normalized_last : normalizedDependencies [crowdName limit] = [crowdName limit] := by
  have kept : Text.strip (crowdName limit) ≠ "" := by
    have whole : (replicate (limit + 1) 'x').dropWhile Char.isWhitespace = replicate (limit + 1) 'x' := by
      simp_all
    intro empty
    have text := congrArg String.toList empty
    simp [Text.strip, crowdName, whole, reverse_replicate] at text
  simp [normalizedDependencies, kept]

theorem last_unreachable {name : String} (other : name ≠ "new") :
    ¬ ReflTransGen (replaceEdges (DependsOn ((crowded limit).listTaskDependencies "troop")) "new" [name]) name "new" := by
  have stays : ∀ reached, ReflTransGen (replaceEdges (DependsOn ((crowded limit).listTaskDependencies "troop")) "new" [name])
      name reached → reached = name := by
    intro reached path
    induction path with
    | refl => rfl
    | tail _ edge ih =>
      rw [ih, replaceEdges, if_neg other] at edge
      obtain ⟨row, stored, _⟩ := edge
      cases stored
  exact fun path => other (stays _ path).symm

structure Unseen (board : Board) (task : ListedTask) : Prop where
  inProject : task ∈ board.projectTasks "troop"
  admitted : board.Admits "troop" "new" (normalizedDependencies [task.id])
  refused : board.validateTaskDependencies "troop" "new" [task.id] ≠ .ok ()
  ready : board.isReady "troop" task = true
  unready : task.id ∉ (board.listDagReadyTasks "troop").map ReadyTask.id
  due : task.openDeadline ≠ none
  unvisited : ∀ visit ∈ (board.runGlobalSlaEscalationScan (fun _ => "") 1).1, visit.task ≠ task

theorem last_unseen (positive : 0 < limit) (long : crowdName limit ≠ "new") : Unseen (crowded limit) (crowdTask limit) where
  inProject := by
    rw [crowded_tasks]
    exact mem_map_of_mem (mem_range.mpr (Nat.lt_succ_self limit))
  admitted := by
    have own : normalizedDependencies [(crowdTask limit).id] = [crowdName limit] := normalized_last
    rw [own]
    refine ⟨by simp, by simp [Ne.symm long], fun id member => ?_, fun id member => ?_⟩
    · rw [mem_singleton.mp member]
      exact ⟨crowdTask limit, by
        rw [crowded_tasks]
        exact mem_map_of_mem (mem_range.mpr (Nat.lt_succ_self limit)), rfl⟩
    · rw [mem_singleton.mp member]
      exact last_unreachable long
  refused := by
    intro accepted
    obtain ⟨_, listed, _⟩ := validateTaskDependencies_iff [(crowdTask limit).id] |>.mp accepted
    have own : normalizedDependencies [(crowdTask limit).id] = [crowdName limit] := normalized_last
    rw [own, crowded_list positive] at listed
    exact last_not_listed (listed _ (mem_singleton.mpr rfl))
  ready := by
    have idle : (crowded limit).taskHasActiveRun "troop" (crowdName limit) = false := rfl
    have met : (crowded limit).taskDependenciesMetForRun (crowdName limit) = true := rfl
    simp [Board.isReady, crowdTask, idle, met]
  unready := by
    intro member
    obtain ⟨row, shown, same⟩ := mem_map.mp member
    unfold Board.listDagReadyTasks at shown
    rw [crowded_list positive] at shown
    obtain ⟨task, kept, rfl⟩ := mem_map.mp shown
    have listed : task.id ∈ (crowdTasks limit).map ListedTask.id := mem_map_of_mem (mem_of_mem_filter kept)
    have last : task.id = crowdName limit := same
    rw [last] at listed
    exact last_not_listed listed
  due := by simp [ListedTask.openDeadline, ListedTask.deadline, crowdTask, settledStatuses]
  unvisited := by
    intro visit made same
    obtain ⟨project, there, visited⟩ := mem_flatMap.mp made
    have own : project.id = "troop" := by
      rw [mem_singleton.mp there]
    obtain ⟨_, shown, _⟩ := mem_visitProject.mp ⟨visit, visited, same⟩
    rw [own, crowded_list positive] at shown
    exact last_not_listed (mem_map_of_mem shown)

end Crowded

theorem last_of_5001_unseen : Unseen (crowded 5000) (crowdTask 5000) := by
  apply last_unseen (by decide)
  have long : ∀ k, 3 ≤ k → crowdName k ≠ "new" := by
    intro k large same
    have lengths := congrArg String.length same
    have three : ("new" : String).length = 3 := by decide
    rw [crowdName, String.length_ofList, length_replicate, three] at lengths
    omega
  exact long 5000 (by decide)

end Troop.Projects
