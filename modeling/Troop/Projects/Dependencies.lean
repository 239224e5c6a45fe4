import Troop.Graphs.Search
import Troop.Python.Text
import Troop.Python.Dict
import Troop.Systems.Runs

namespace Troop.Projects

open Graphs Systems Relation
open List
open Function (update_of_ne update_self)

structure Task where
  id : String
  projectId : String
deriving DecidableEq

structure TaskDependency where
  id : Nat
  taskId : String
  dependsOnTaskId : String
deriving DecidableEq

/-- `HTTPException` -/
structure HttpError where
  statusCode : Nat
  detail : String
deriving DecidableEq

def successors (adjacency : Dict (List String)) (current : String) : List String := (adjacency.get? current).getD []

/-- `task_dependency_path_exists`: the edges of a task are pushed once at most, which bounds the pops. -/
def taskDependencyPathExists (adjacency : Dict (List String)) (startId targetId : String) : Bool :=
  search (successors adjacency) targetId (pending (successors adjacency) adjacency.keys [] + 2) [startId] []

/-- `adjacency.setdefault(task_id, []).append(depends_on_task_id)` -/
def addEdge (adjacency : Dict (List String)) (dependency : TaskDependency) : Dict (List String) :=
  adjacency.set dependency.taskId (successors adjacency dependency.taskId ++ [dependency.dependsOnTaskId])

def adjacencyOf (tasks : List Task) (dependencies : List TaskDependency) : Dict (List String) :=
  dependencies.foldl addEdge (tasks.map fun task => (task.id, []))

def normalizedDependencies (dependencyIds : List String) : List String :=
  dependencyIds.filter fun id => Text.strip id ≠ ""

/-- What `_validate_task_dependencies` checks before it reads. -/
def checkNormalized (taskId : String) (normalized : List String) : Except HttpError Unit :=
  if ¬ normalized.Nodup then .error ⟨409, "Duplicate task dependencies are not allowed."⟩
  else if taskId ∈ normalized then .error ⟨409, "A task cannot depend on itself."⟩
  else .ok ()

def checkListed (tasks : List Task) (normalized : List String) : Except HttpError Unit :=
  let missing := normalized.filter fun id => id ∉ tasks.map Task.id
  if missing ≠ [] then
    .error ⟨404, "Dependency tasks not found in this project: " ++ ", ".intercalate (missing.take 5)⟩
  else .ok ()

def checkAcyclic (tasks : List Task) (dependencies : List TaskDependency) (taskId : String) (normalized : List String) :
    Except HttpError Unit :=
  let adjacency := (adjacencyOf tasks dependencies).set taskId normalized
  if normalized.any fun id => taskDependencyPathExists adjacency id taskId then
    .error ⟨409, "Dependency update would create a cycle in the task DAG."⟩
  else .ok ()

inductive Stage where
  | opened
  | listed (tasks : List Task)
  | validated (read : List TaskDependency)
  | replaced (read : List TaskDependency) (deleted : List Nat) (inserted : List TaskDependency)
deriving DecidableEq

/-- A `create_task` or `update_task` in its own transaction. -/
structure Edit where
  projectId : String
  taskId : String
  creates : Bool
  dependencyIds : List String
  stage : Stage := .opened
deriving DecidableEq

def Edit.normalized (edit : Edit) : List String := normalizedDependencies edit.dependencyIds

def Edit.read? (edit : Edit) : Option (List TaskDependency) :=
  match edit.stage with
  | .validated read => some read
  | .replaced read _ _ => some read
  | _ => none

/-- The committed tables, and the calls in flight with what they have read and not yet committed. -/
structure World where
  /-- `ORCHESTRATION_LIST_TASKS_MAX_LIMIT` -/
  maxLimit : Nat
  /-- in the order of their positions -/
  tasks : List Task := []
  dependencies : List TaskDependency := []
  edits : Nat → Option Edit := fun _ => none
  drawnTasks : List String := []
  drawn : Nat := 0

inductive Action where
  | createTask (i : Nat) (projectId taskId : String) (dependencyIds : List String)
  | updateTask (i : Nat) (projectId taskId : String) (dependencyIds : List String)
  | listTasks (i : Nat)
  | validate (i : Nat)
  | replace (i : Nat)
  | commit (i : Nat)
  | fail (i : Nat)

def newDependencies (taskId : String) : Nat → List String → List TaskDependency
  | _, [] => []
  | drawn, id :: rest => ⟨drawn, taskId, id⟩ :: newDependencies taskId (drawn + 1) rest

namespace World

variable (w : World)

def put (i : Nat) (edit : Option Edit) : World := { w with edits := Function.update w.edits i edit }

def tasksSeen (edit : Edit) : List Task :=
  w.tasks ++ if edit.creates then [⟨edit.taskId, edit.projectId⟩] else []

/-- `repo.list_tasks(project_id, limit=0)` -/
def listTasks (edit : Edit) : List Task :=
  ((w.tasksSeen edit).filter fun task => task.projectId = edit.projectId).take (max 1 w.maxLimit)

def listTaskDependencies (projectId : String) : List TaskDependency :=
  w.dependencies.filter fun row => ⟨row.taskId, projectId⟩ ∈ w.tasks

def proceed (i : Nat) (edit : Edit) (checks : Except HttpError Unit) (stage : Stage) : World :=
  match checks with
  | .ok _ => w.put i (some { edit with stage := stage })
  | .error _ => w.put i none

/-- `repo.replace_task_dependencies`: the rows the task has now are to go, new ones to come. -/
def replaceTaskDependencies (edit : Edit) (read : List TaskDependency) : Stage :=
  let existing := w.dependencies.filter fun row => row.taskId = edit.taskId
  .replaced read (existing.map TaskDependency.id) (newDependencies edit.taskId w.drawn edit.dependencyIds)

def commitEdit (edit : Edit) (deleted : List Nat) (inserted : List TaskDependency) : World :=
  { w with
    tasks := w.tasksSeen edit
    dependencies := (w.dependencies.filter fun row => row.id ∉ deleted) ++ inserted }

def step : Action → Option World
  | .createTask i projectId taskId dependencyIds =>
    if w.edits i = none ∧ taskId ∉ w.drawnTasks ∧ Text.strip taskId ≠ "" then
      some ({ w with drawnTasks := taskId :: w.drawnTasks }.put i (some ⟨projectId, taskId, true, dependencyIds, .opened⟩))
    else none
  | .updateTask i projectId taskId dependencyIds =>
    if w.edits i = none ∧ ⟨taskId, projectId⟩ ∈ w.tasks then
      some (w.put i (some ⟨projectId, taskId, false, dependencyIds, .opened⟩))
    else none
  | .listTasks i =>
    match w.edits i with
    | some edit =>
      if edit.stage = .opened then
        let tasks := w.listTasks edit
        some (w.proceed i edit (checkNormalized edit.taskId edit.normalized *> checkListed tasks edit.normalized)
          (.listed tasks))
      else none
    | none => none
  | .validate i =>
    match w.edits i with
    | some edit =>
      match edit.stage with
      | .listed tasks =>
        let read := w.listTaskDependencies edit.projectId
        some (w.proceed i edit (checkAcyclic tasks read edit.taskId edit.normalized) (.validated read))
      | _ => none
    | none => none
  | .replace i =>
    match w.edits i with
    | some edit =>
      match edit.stage with
      | .validated read =>
        -- the foreign keys of the new rows are checked as they are flushed
        if ∀ id ∈ edit.dependencyIds, id ∈ (w.tasksSeen edit).map Task.id then
          some ({ w with drawn := w.drawn + edit.dependencyIds.length }.put i
            (some { edit with stage := w.replaceTaskDependencies edit read }))
        else some (w.put i none)
      | _ => none
    | none => none
  | .commit i =>
    match w.edits i with
    | some edit =>
      match edit.stage with
      | .replaced _ deleted inserted =>
        some ((w.commitEdit edit deleted inserted).put i none)
      | _ => none
    | none => none
  | .fail i => some (w.put i none)

end World

def DependsOn (rows : List TaskDependency) (a b : String) : Prop := ∃ row ∈ rows, row.taskId = a ∧ row.dependsOnTaskId = b

section Checks

variable {adjacency : Dict (List String)} {tasks : List Task} {rows : List TaskDependency} {taskId a b : String}
  {normalized : List String}

theorem taskDependencyPathExists_iff : taskDependencyPathExists adjacency a b = true ↔
    ReflTransGen (fun x y => y ∈ successors adjacency x) a b := by
  have bounded (node : String) (branches : successors adjacency node ≠ []) : node ∈ adjacency.keys := by
    unfold successors at branches
    cases found : adjacency.get? node with
    | none => simp [found] at branches
    | some items => exact mem_map.mpr ⟨(node, items), Dict.mem_of_get? found, rfl⟩
  apply search_iff bounded
  omega

theorem mem_successors_foldl : b ∈ successors (rows.foldl addEdge adjacency) a ↔
    b ∈ successors adjacency a ∨ DependsOn rows a b := by
  induction rows generalizing adjacency with
  | nil => simp [DependsOn]
  | cons row rest ih =>
    have added : b ∈ successors (addEdge adjacency row) a ↔
        b ∈ successors adjacency a ∨ (row.taskId = a ∧ row.dependsOnTaskId = b) := by
      unfold addEdge successors
      rw [Dict.get?_set]
      by_cases same : row.taskId = a
      · simp [same, eq_comm]
      · simp [same]
    rw [foldl_cons, ih, added, or_assoc]
    apply or_congr_right
    simp [DependsOn]

theorem mem_successors_adjacencyOf : b ∈ successors (adjacencyOf tasks rows) a ↔ DependsOn rows a b := by
  have empty : ¬ b ∈ successors (tasks.map fun task => (task.id, [])) a := by
    induction tasks with
    | nil => simp [successors]
    | cons task rest ih =>
      unfold successors at ih ⊢
      rw [map_cons, Dict.get?_cons]
      split
      · simp
      · exact ih
  unfold adjacencyOf
  rw [mem_successors_foldl]
  simp [empty]

theorem checkAcyclic_ok (checked : checkAcyclic tasks rows taskId normalized = .ok ()) :
    ∀ id ∈ normalized, ¬ ReflTransGen (replaceEdges (DependsOn rows) taskId normalized) id taskId := by
  intro id member path
  have same : (fun x y => y ∈ successors ((adjacencyOf tasks rows).set taskId normalized) x) =
      replaceEdges (DependsOn rows) taskId normalized := by
    funext x y
    unfold successors replaceEdges
    rw [Dict.get?_set]
    by_cases own : x = taskId
    · simp [own]
    · rw [if_neg fun equal => own equal.symm, if_neg own]
      exact propext mem_successors_adjacencyOf
  unfold checkAcyclic at checked
  dsimp only at checked
  split at checked
  · cases checked
  rename_i clear
  apply clear
  rw [any_eq_true]
  refine ⟨id, member, ?_⟩
  rwa [taskDependencyPathExists_iff, same]

theorem checkNormalized_ok (checked : checkNormalized taskId normalized = .ok ()) : taskId ∉ normalized := by
  unfold checkNormalized at checked
  split at checked
  · cases checked
  · split at checked
    · cases checked
    · assumption

theorem checkListed_ok (checked : checkListed tasks normalized = .ok ()) :
    ∀ id ∈ normalized, ∃ task ∈ tasks, task.id = id := by
  unfold checkListed at checked
  dsimp only at checked
  split at checked
  · cases checked
  · simp_all

end Checks

structure Edit.Sound (w : World) (edit : Edit) : Prop where
  updates : edit.creates = false → ⟨edit.taskId, edit.projectId⟩ ∈ w.tasks
  creates : edit.creates = true → edit.taskId ∈ w.drawnTasks ∧ Text.strip edit.taskId ≠ "" ∧
    ∀ task ∈ w.tasks, task.id ≠ edit.taskId
  listed : edit.stage ≠ .opened → edit.taskId ∉ edit.normalized ∧
    ∀ id ∈ edit.normalized, ⟨id, edit.projectId⟩ ∈ w.tasks
  validated : ∀ read ∈ edit.read?, ∀ id ∈ edit.normalized,
    ¬ ReflTransGen (replaceEdges (DependsOn read) edit.taskId edit.normalized) id edit.taskId
  replaced : ∀ read deleted inserted, edit.stage = .replaced read deleted inserted →
    (∀ id ∈ edit.dependencyIds, id ∈ edit.normalized) ∧
      ∀ row ∈ inserted, row.taskId = edit.taskId ∧ row.dependsOnTaskId ∈ edit.dependencyIds

structure World.Sound (w : World) : Prop where
  named : ∀ task ∈ w.tasks, task.id ∈ w.drawnTasks ∧ Text.strip task.id ≠ ""
  unique : ∀ first ∈ w.tasks, ∀ second ∈ w.tasks, first.id = second.id → first = second
  placed : ∀ row ∈ w.dependencies, ∃ project, ⟨row.taskId, project⟩ ∈ w.tasks ∧
    ⟨row.dependsOnTaskId, project⟩ ∈ w.tasks
  edits : ∀ i edit, w.edits i = some edit → edit.Sound w
  apart : ∀ i j first second, w.edits i = some first → w.edits j = some second → first.creates = true →
    second.creates = true → first.taskId = second.taskId → i = j

section Soundness

variable {w after : World} {edit : Edit} {i : Nat}

theorem Edit.Sound.mono (sound : edit.Sound w) (tasks : ∀ task ∈ w.tasks, task ∈ after.tasks)
    (drawn : ∀ id ∈ w.drawnTasks, id ∈ after.drawnTasks)
    (fresh : edit.creates = true → ∀ task ∈ after.tasks, task.id ≠ edit.taskId) : edit.Sound after where
  updates updates := tasks _ (sound.updates updates)
  creates creates := ⟨drawn _ (sound.creates creates).1, (sound.creates creates).2.1, fresh creates⟩
  listed begun := ⟨(sound.listed begun).1, fun id member => tasks _ ((sound.listed begun).2 id member)⟩
  validated := sound.validated
  replaced := sound.replaced

theorem World.Sound.empty (maxLimit : Nat) : World.Sound { maxLimit := maxLimit } where
  named := by simp
  unique := by simp
  placed := by simp
  edits := by simp
  apart := by simp

theorem World.Sound.put (sound : w.Sound) (next : Option Edit) (kept : ∀ edit ∈ next, edit.Sound w)
    (apart : ∀ edit ∈ next, edit.creates = true → ∀ j other, j ≠ i → w.edits j = some other → other.creates = true →
      other.taskId ≠ edit.taskId) : (w.put i next).Sound where
  named := sound.named
  unique := sound.unique
  placed := sound.placed
  edits j edit found := by
    unfold World.put at found
    dsimp only at found
    by_cases same : j = i
    · subst same
      rw [update_self] at found
      exact (kept edit found).mono (fun _ member => member) (fun _ member => member)
        fun creates => ((kept edit found).creates creates).2.2
    · rw [update_of_ne same] at found
      exact (sound.edits j edit found).mono (fun _ member => member) (fun _ member => member)
        fun creates => ((sound.edits j edit found).creates creates).2.2
  apart j k first second foundFirst foundSecond createsFirst createsSecond same := by
    unfold World.put at foundFirst foundSecond
    dsimp only at foundFirst foundSecond
    by_cases own : j = i
    · by_cases other : k = i
      · rw [own, other]
      · grind
    · rw [update_of_ne own] at foundFirst
      by_cases other : k = i
      · grind
      · rw [update_of_ne other] at foundSecond
        exact sound.apart j k first second foundFirst foundSecond createsFirst createsSecond same

theorem World.Sound.advance (sound : w.Sound) (found : w.edits i = some edit) (stage : Stage)
    (kept : Edit.Sound w { edit with stage := stage }) : (w.put i (some { edit with stage := stage })).Sound := by
  apply sound.put
  · simp_all
  · intro next same creates j other different foundOther createsOther
    cases same
    intro equal
    exact different (sound.apart j i other edit foundOther found createsOther creates equal)

theorem World.Sound.close (sound : w.Sound) : (w.put i none).Sound := by
  apply sound.put <;> simp_all

variable {read : List TaskDependency} {inserted : List TaskDependency} {deleted : List Nat}
  {checks : Except HttpError Unit} {dependencyIds : List String} {row : TaskDependency} {action : Action}
  {stage : Stage} {task : Task}

theorem World.Sound.proceed (sound : w.Sound)
    (found : w.edits i = some edit) (kept : checks = .ok () → Edit.Sound w { edit with stage := stage }) :
    (w.proceed i edit checks stage).Sound := by
  unfold World.proceed
  split
  · exact sound.advance found stage (kept rfl)
  · exact sound.close

theorem mem_tasksSeen : task ∈ w.tasksSeen edit ↔
    task ∈ w.tasks ∨ (edit.creates = true ∧ task = ⟨edit.taskId, edit.projectId⟩) := by
  unfold World.tasksSeen
  rw [mem_append]
  apply or_congr_right
  split <;> simp_all

theorem World.Sound.createTask {projectId taskId : String} (sound : w.Sound)
    (stepped : w.step (.createTask i projectId taskId dependencyIds) = some after) : after.Sound := by
  dsimp only [World.step] at stepped
  split at stepped
  · rename_i guard
    obtain ⟨idle, fresh, named⟩ := guard
    cases stepped
    have grown : World.Sound { w with drawnTasks := taskId :: w.drawnTasks } := {
      named := fun task member => ⟨mem_cons_of_mem _ (sound.named task member).1, (sound.named task member).2⟩
      unique := sound.unique
      placed := sound.placed
      edits := fun j edit found => (sound.edits j edit found).mono (fun _ member => member)
        (fun _ member => mem_cons_of_mem _ member) fun creates => ((sound.edits j edit found).creates creates).2.2
      apart := sound.apart }
    apply grown.put
    · intro next same
      cases same
      exact {
        updates := nofun
        creates := fun _ => by
          refine ⟨by simp, named, fun task member same => ?_⟩
          have same : task.id = taskId := same
          exact fresh (same ▸ (sound.named task member).1)
        listed := fun begun => absurd rfl begun
        validated := nofun
        replaced := nofun }
    · intro next same _ j other _ found creates equal
      cases same
      have equal : other.taskId = taskId := equal
      exact fresh (equal ▸ ((sound.edits j other found).creates creates).1)
  · cases stepped

theorem World.Sound.updateTask {projectId taskId : String} (sound : w.Sound)
    (stepped : w.step (.updateTask i projectId taskId dependencyIds) = some after) : after.Sound := by
  dsimp only [World.step] at stepped
  split at stepped
  · rename_i guard
    cases stepped
    apply sound.put
    · intro next same
      cases same
      exact {
        updates := fun _ => guard.2
        creates := nofun
        listed := fun begun => absurd rfl begun
        validated := nofun
        replaced := nofun }
    · simp_all
  · cases stepped

theorem World.Sound.listTasks (sound : w.Sound) (stepped : w.step (.listTasks i) = some after) : after.Sound := by
  dsimp only [World.step] at stepped
  split at stepped
  · rename_i edit found
    split at stepped
    · cases stepped
      apply sound.proceed found
      intro checked
      have before := sound.edits i edit found
      cases normal : checkNormalized edit.taskId edit.normalized with
      | error error =>
        rw [normal] at checked
        cases checked
      | ok _ =>
        have apart : edit.taskId ∉ edit.normalized := checkNormalized_ok normal
        have present : checkListed (w.listTasks edit) edit.normalized = .ok () := by
          rwa [normal] at checked
        refine { before with listed := fun _ => ⟨apart, fun id member => ?_⟩, validated := nofun, replaced := nofun }
        obtain ⟨task, seen, same⟩ := checkListed_ok present id member
        have inside := mem_filter.mp (mem_of_mem_take seen)
        have placed : task = ⟨id, edit.projectId⟩ := by
          obtain ⟨taskId, projectId⟩ := task
          have home : projectId = edit.projectId := by simpa using inside.2
          rw [← same, ← home]
        rcases mem_tasksSeen.mp inside.1 with committed | ⟨_, own⟩
        · exact placed ▸ committed
        · have same : id = edit.taskId := congrArg Task.id (placed.symm.trans own)
          exact absurd (same ▸ member) apart
    · cases stepped
  · cases stepped

theorem World.Sound.validate (sound : w.Sound) (stepped : w.step (.validate i) = some after) : after.Sound := by
  dsimp only [World.step] at stepped
  split at stepped
  · rename_i edit found
    split at stepped
    · rename_i stage
      cases stepped
      have before := sound.edits i edit found
      have begun : edit.stage ≠ .opened := by simp [stage]
      apply sound.proceed found
      intro checked
      refine { before with listed := fun _ => before.listed begun, validated := fun read same => ?_, replaced := nofun }
      cases same
      exact checkAcyclic_ok checked
    · cases stepped
  · cases stepped

theorem newDependencies_row {taskId : String} {ids : List String} {drawn : Nat}
    (member : row ∈ newDependencies taskId drawn ids) : row.taskId = taskId ∧ row.dependsOnTaskId ∈ ids := by
  induction ids generalizing drawn with
  | nil => cases member
  | cons id rest ih =>
    rcases mem_cons.mp member with rfl | member
    · simp
    · exact ⟨(ih member).1, mem_cons_of_mem _ (ih member).2⟩

theorem World.Sound.named_seen (sound : w.Sound) (own : edit.Sound w) (member : task ∈ w.tasksSeen edit) :
    task.id ∈ w.drawnTasks ∧ Text.strip task.id ≠ "" := by
  rcases mem_tasksSeen.mp member with committed | ⟨creates, same⟩
  · exact sound.named task committed
  · rw [same]
    exact ⟨(own.creates creates).1, (own.creates creates).2.1⟩

theorem World.Sound.replace (sound : w.Sound) (stepped : w.step (.replace i) = some after) : after.Sound := by
  dsimp only [World.step] at stepped
  split at stepped
  · rename_i edit found
    split at stepped
    · rename_i read stage
      have before := sound.edits i edit found
      have begun : edit.stage ≠ .opened := by simp [stage]
      split at stepped
      · rename_i known
        cases stepped
        have counted : World.Sound { w with drawn := w.drawn + edit.dependencyIds.length } := {
          named := sound.named
          unique := sound.unique
          placed := sound.placed
          edits := fun j other foundOther => (sound.edits j other foundOther).mono (fun _ member => member)
            (fun _ member => member) fun creates => ((sound.edits j other foundOther).creates creates).2.2
          apart := sound.apart }
        apply World.Sound.advance counted found
        refine { before with listed := fun _ => before.listed begun, validated := fun same equal => ?_, replaced := ?_ }
        · cases equal
          exact before.validated read (by simp [Edit.read?, stage])
        · intro same deleted inserted equal
          cases equal
          refine ⟨fun id member => ?_, fun row member => newDependencies_row member⟩
          obtain ⟨task, seen, rfl⟩ := mem_map.mp (known id member)
          have present : Text.strip task.id ≠ "" := (sound.named_seen before seen).2
          exact mem_filter.mpr ⟨member, by simpa using present⟩
      · cases stepped
        exact sound.close
    · cases stepped
  · cases stepped

theorem World.Sound.commitEdit
    (sound : w.Sound) (found : w.edits i = some edit) (stage : edit.stage = .replaced read deleted inserted) :
    ((w.commitEdit edit deleted inserted).put i none).Sound := by
  have own := sound.edits i edit found
  have begun : edit.stage ≠ .opened := by simp [stage]
  have home : ⟨edit.taskId, edit.projectId⟩ ∈ w.tasksSeen edit := by
    rw [mem_tasksSeen]
    cases creates : edit.creates with
    | true => exact .inr ⟨rfl, rfl⟩
    | false => exact .inl (own.updates creates)
  have committed : ∀ task ∈ w.tasks, task ∈ w.tasksSeen edit := fun task member => mem_tasksSeen.mpr (.inl member)
  refine ⟨?_, ?_, ?_, ?_, ?_⟩
  · intro task member
    exact sound.named_seen own member
  · intro first memberFirst second memberSecond same
    rcases mem_tasksSeen.mp memberFirst with old | ⟨creates, new⟩
    · rcases mem_tasksSeen.mp memberSecond with other | ⟨creates, new⟩
      · exact sound.unique first old second other same
      · exact absurd (by rw [same, new]) ((own.creates creates).2.2 first old)
    · rcases mem_tasksSeen.mp memberSecond with other | ⟨_, also⟩
      · exact absurd (by rw [← same, new]) ((own.creates creates).2.2 second other)
      · rw [new, also]
  · intro row member
    rcases mem_append.mp member with kept | new
    · obtain ⟨project, task, dependency⟩ := sound.placed row (mem_of_mem_filter kept)
      exact ⟨project, committed _ task, committed _ dependency⟩
    · obtain ⟨inside, rows⟩ := own.replaced read deleted inserted stage
      obtain ⟨task, listed⟩ := rows row new
      refine ⟨edit.projectId, by rw [task]; exact home, committed _ ?_⟩
      exact (own.listed begun).2 _ (inside _ listed)
  · intro j other foundOther
    have different : j ≠ i := by
      intro same
      rw [same] at foundOther
      simp [World.put] at foundOther
    have before : w.edits j = some other := by
      simpa [World.put, World.commitEdit, different] using foundOther
    refine (sound.edits j other before).mono ?_ (fun _ member => member) ?_
    · exact committed
    intro creates task member
    rcases mem_tasksSeen.mp member with old | ⟨also, new⟩
    · exact ((sound.edits j other before).creates creates).2.2 task old
    · rw [new]
      intro same
      exact different (sound.apart j i other edit before found creates also same.symm)
  · intro j k first second foundFirst foundSecond
    have other (m : Nat) (call : Edit) (held : ((w.commitEdit edit deleted inserted).put i none).edits m = some call) :
        w.edits m = some call := by
      unfold World.put World.commitEdit at held
      dsimp only at held
      by_cases same : m = i
      · simp [same] at held
      · rwa [update_of_ne same] at held
    exact sound.apart j k first second (other j first foundFirst) (other k second foundSecond)

theorem World.Sound.commit (sound : w.Sound) (stepped : w.step (.commit i) = some after) : after.Sound := by
  dsimp only [World.step] at stepped
  split at stepped
  · rename_i found
    split at stepped
    · rename_i stage
      cases stepped
      exact sound.commitEdit found stage
    · cases stepped
  · cases stepped

theorem World.Sound.step (sound : w.Sound) (stepped : w.step action = some after) : after.Sound := by
  cases action with
  | createTask i projectId taskId dependencyIds => exact sound.createTask stepped
  | updateTask i projectId taskId dependencyIds => exact sound.updateTask stepped
  | listTasks i => exact sound.listTasks stepped
  | validate i => exact sound.validate stepped
  | replace i => exact sound.replace stepped
  | commit i => exact sound.commit stepped
  | fail i =>
    cases stepped
    exact sound.close

def World.unmoved (w : World) (i : Nat) : Bool :=
  (w.edits i).all fun edit => edit.read?.all fun read => decide (w.listTaskDependencies edit.projectId = read)

def World.careful (w : World) : Action → Bool
  | .replace i => w.unmoved i
  | .commit i => w.unmoved i
  | _ => true

theorem unmoved_read (unmoved : w.unmoved i = true) (found : w.edits i = some edit)
    (validated : edit.read? = some read) : w.listTaskDependencies edit.projectId = read := by
  unfold World.unmoved at unmoved
  simpa [found, validated] using unmoved

structure World.Ordered (w : World) : Prop where
  acyclic : ∀ projectId, Acyclic (DependsOn (w.listTaskDependencies projectId))
  covered : ∀ i edit read deleted inserted, w.edits i = some edit → edit.stage = .replaced read deleted inserted →
    ∀ row ∈ read, row.taskId = edit.taskId → row.id ∈ deleted

theorem World.Ordered.put (ordered : w.Ordered) (next : Option Edit)
    (covered : ∀ edit ∈ next, ∀ read deleted inserted, edit.stage = .replaced read deleted inserted →
      ∀ row ∈ read, row.taskId = edit.taskId → row.id ∈ deleted) : (w.put i next).Ordered where
  acyclic := ordered.acyclic
  covered j edit read deleted inserted found stage := by
    unfold World.put at found
    dsimp only at found
    by_cases same : j = i
    · simp_all
    · rw [update_of_ne same] at found
      exact ordered.covered j edit read deleted inserted found stage

theorem World.Ordered.proceed (ordered : w.Ordered)
    (early : ∀ read deleted inserted, stage ≠ .replaced read deleted inserted) :
    (w.proceed i edit checks stage).Ordered := by
  unfold World.proceed
  split
  · apply ordered.put
    intro next same read deleted inserted replaced
    cases same
    exact absurd replaced (early read deleted inserted)
  · exact ordered.put none nofun

theorem mem_listTaskDependencies_commit {projectId : String} (sound : w.Sound)
    (found : w.edits i = some edit) (stage : edit.stage = .replaced read deleted inserted)
    (member : row ∈ ((w.commitEdit edit deleted inserted).put i none).listTaskDependencies projectId) :
    (row ∈ w.listTaskDependencies projectId ∧ row.id ∉ deleted) ∨ (projectId = edit.projectId ∧ row ∈ inserted) := by
  have own := sound.edits i edit found
  obtain ⟨stored, home⟩ := mem_filter.mp member
  have home : ⟨row.taskId, projectId⟩ ∈ w.tasksSeen edit := of_decide_eq_true home
  rcases mem_append.mp stored with kept | new
  · left
    obtain ⟨old, untouched⟩ := mem_filter.mp kept
    refine ⟨mem_filter.mpr ⟨old, ?_⟩, of_decide_eq_true untouched⟩
    rcases mem_tasksSeen.mp home with committed | ⟨creates, same⟩
    · exact decide_eq_true committed
    · obtain ⟨project, task, _⟩ := sound.placed row old
      have same : row.taskId = edit.taskId := congrArg Task.id same
      exact absurd same ((own.creates creates).2.2 _ task)
  · right
    refine ⟨?_, new⟩
    have task := ((own.replaced read deleted inserted stage).2 row new).1
    rw [task] at home
    rcases mem_tasksSeen.mp home with committed | ⟨_, same⟩
    · cases creates : edit.creates with
      | true => exact absurd rfl ((own.creates creates).2.2 _ committed)
      | false => exact congrArg Task.projectId (sound.unique _ committed _ (own.updates creates) rfl)
    · exact congrArg Task.projectId same

theorem World.Ordered.commitEdit (ordered : w.Ordered) (sound : w.Sound) (unmoved : w.unmoved i = true)
    (found : w.edits i = some edit) (stage : edit.stage = .replaced read deleted inserted) :
    ((w.commitEdit edit deleted inserted).put i none).Ordered := by
  have own := sound.edits i edit found
  have validated : edit.read? = some read := by simp [Edit.read?, stage]
  have same := unmoved_read unmoved found validated
  obtain ⟨inside, rows⟩ := own.replaced read deleted inserted stage
  constructor
  · intro projectId
    by_cases home : projectId = edit.projectId
    · have before := ordered.acyclic edit.projectId
      rw [same] at before
      have replaced := before.replaceEdges (own.validated read validated)
      apply replaced.mono
      intro a b edge
      obtain ⟨row, member, rfl, rfl⟩ := edge
      unfold replaceEdges
      rcases mem_listTaskDependencies_commit sound found stage member with ⟨old, untouched⟩ | ⟨_, new⟩
      · rw [home, same] at old
        rw [if_neg fun task => untouched (ordered.covered i edit read deleted inserted found stage row old task)]
        exact ⟨row, old, rfl, rfl⟩
      · simp_all
    · apply (ordered.acyclic projectId).mono
      intro a b edge
      obtain ⟨row, member, task, dependency⟩ := edge
      rcases mem_listTaskDependencies_commit sound found stage member with ⟨old, _⟩ | ⟨equal, _⟩
      · exact ⟨row, old, task, dependency⟩
      · exact absurd equal home
  · intro j other readOther deletedOther insertedOther foundOther
    have before : w.edits j = some other := by
      unfold World.put World.commitEdit at foundOther
      dsimp only at foundOther
      by_cases equal : j = i
      · simp [equal] at foundOther
      · rwa [update_of_ne equal] at foundOther
    exact ordered.covered j other readOther deletedOther insertedOther before

theorem World.Ordered.step (ordered : w.Ordered) (sound : w.Sound) (careful : w.careful action = true)
    (stepped : w.step action = some after) : after.Ordered := by
  cases action with
  | createTask i projectId taskId dependencyIds =>
    dsimp only [World.step] at stepped
    split at stepped
    · cases stepped
      have grown : World.Ordered { w with drawnTasks := taskId :: w.drawnTasks } := ⟨ordered.acyclic, ordered.covered⟩
      apply grown.put
      simp_all
    · cases stepped
  | updateTask i projectId taskId dependencyIds =>
    dsimp only [World.step] at stepped
    split at stepped
    · cases stepped
      apply ordered.put
      simp_all
    · cases stepped
  | replace i =>
    dsimp only [World.step] at stepped
    split at stepped
    · rename_i edit found
      split at stepped
      · rename_i read stage
        have validated : edit.read? = some read := by simp [Edit.read?, stage]
        split at stepped
        · cases stepped
          have counted : World.Ordered { w with drawn := w.drawn + edit.dependencyIds.length } :=
            ⟨ordered.acyclic, ordered.covered⟩
          apply counted.put
          intro next equal readNow deleted inserted replaced row member task
          cases equal
          cases replaced
          have same := unmoved_read careful found validated
          rw [← same] at member
          apply mem_map.mpr
          exact ⟨row, mem_filter.mpr ⟨mem_of_mem_filter member, by simpa using task⟩, rfl⟩
        · cases stepped
          exact ordered.put none nofun
      · cases stepped
    · cases stepped
  | commit i =>
    dsimp only [World.step] at stepped
    split at stepped
    · rename_i found
      split at stepped
      · rename_i stage
        cases stepped
        exact ordered.commitEdit sound careful found stage
      · cases stepped
    · cases stepped
  | fail i =>
    cases stepped
    exact ordered.put none nofun
  | _ =>
    dsimp only [World.step] at stepped
    split at stepped
    · split at stepped
      · cases stepped
        exact ordered.proceed nofun
      · cases stepped
    · cases stepped

theorem dependencies_in_project {maxLimit : Nat} (reached : Reaches World.step (fun _ _ => True) { maxLimit := maxLimit } w)
    (row : TaskDependency) (stored : row ∈ w.dependencies) :
    ∃ projectId, ⟨row.taskId, projectId⟩ ∈ w.tasks ∧ ⟨row.dependsOnTaskId, projectId⟩ ∈ w.tasks := by
  have sound : w.Sound := reached.invariant (World.Sound.empty maxLimit) fun before _ stepped => before.step stepped
  exact sound.placed row stored

/-- In every run in which no call commits over dependencies it has not checked, the dependencies of each project
    stay acyclic and within it. -/
theorem dependencies_acyclic {maxLimit : Nat}
    (reached : Reaches World.step (fun w action => w.careful action = true) { maxLimit := maxLimit } w) :
    (∀ projectId, Acyclic (DependsOn (w.listTaskDependencies projectId))) ∧
      ∀ row ∈ w.dependencies, ∃ projectId, ⟨row.taskId, projectId⟩ ∈ w.tasks ∧ ⟨row.dependsOnTaskId, projectId⟩ ∈ w.tasks := by
  have initial : World.Ordered { maxLimit := maxLimit } := by
    refine ⟨fun projectId a cycle => ?_, nofun⟩
    obtain ⟨b, edge, _⟩ := TransGen.head'_iff.mp cycle
    obtain ⟨row, member, _⟩ := edge
    cases member
  have kept : w.Sound ∧ w.Ordered := by
    apply @Reaches.invariant _ _ _ _ _ w (fun w => w.Sound ∧ w.Ordered) reached
    · exact ⟨World.Sound.empty maxLimit, initial⟩
    · intro before after action holds careful stepped
      exact ⟨holds.1.step stepped, holds.2.step holds.1 careful stepped⟩
  exact ⟨kept.2.acyclic, kept.1.placed⟩

end Soundness

def creating (i : Nat) (taskId : String) (dependencyIds : List String) : List Action :=
  [.createTask i "troop" taskId dependencyIds, .listTasks i, .validate i, .replace i, .commit i]

theorem two_tasks_acyclic : ∃ w, Reaches World.step (fun w action => w.careful action = true) { maxLimit := 5000 } w ∧
    w.dependencies ≠ [] ∧ ∀ projectId, Acyclic (DependsOn (w.listTaskDependencies projectId)) := by
  have ran : (runWhere World.step World.careful { maxLimit := 5000 }
      (creating 0 "design" [] ++ creating 1 "build" ["design"])).any
      (fun w => decide (w.dependencies ≠ [])) = true := by
    decide
  obtain ⟨w, ran, stored⟩ := (Option.any_eq_true _ _).mp ran
  have reached : Reaches World.step (fun w action => w.careful action = true) { maxLimit := 5000 } w :=
    Reaches.start.runs (fun _ _ careful => careful) ran
  exact ⟨w, reached, of_decide_eq_true stored, (dependencies_acyclic reached).1⟩

theorem build_in_project : ∃ w : World, w.dependencies ≠ [] ∧ ∀ row ∈ w.dependencies, ∃ projectId,
    ⟨row.taskId, projectId⟩ ∈ w.tasks ∧ ⟨row.dependsOnTaskId, projectId⟩ ∈ w.tasks := by
  have ran : (runWhere World.step (fun _ _ => true) { maxLimit := 5000 }
      (creating 0 "design" [] ++ creating 1 "build" ["design"])).any
      (fun w => decide (w.dependencies ≠ [])) = true := by
    decide
  obtain ⟨w, ran, stored⟩ := (Option.any_eq_true _ _).mp ran
  exact ⟨w, of_decide_eq_true stored, dependencies_in_project (Reaches.start.runs (fun _ _ _ => trivial) ran)⟩

def crossing : List Action :=
  creating 0 "design" [] ++ creating 1 "build" [] ++
    [.updateTask 2 "troop" "design" ["build"], .updateTask 3 "troop" "build" ["design"], .listTasks 2, .listTasks 3,
      .validate 2, .validate 3, .replace 2, .replace 3, .commit 2, .commit 3]

theorem crossing_updates_close_cycle : ∃ w, Reaches World.step (fun _ _ => True) { maxLimit := 5000 } w ∧
    ¬ Acyclic (DependsOn (w.listTaskDependencies "troop")) := by
  have ran : (runWhere World.step (fun _ _ => true) { maxLimit := 5000 } crossing).any (fun w =>
      decide ((w.listTaskDependencies "troop").map (fun row => (row.taskId, row.dependsOnTaskId)) =
        [("design", "build"), ("build", "design")])) = true := by
    decide
  obtain ⟨w, ran, stored⟩ := (Option.any_eq_true _ _).mp ran
  have stored := of_decide_eq_true stored
  have edge (a b : String) (member : (a, b) ∈ [("design", "build"), ("build", "design")]) :
      DependsOn (w.listTaskDependencies "troop") a b := by
    rw [← stored] at member
    obtain ⟨row, inside, same⟩ := mem_map.mp member
    exact ⟨row, inside, congrArg Prod.fst same, congrArg Prod.snd same⟩
  refine ⟨w, Reaches.start.runs (fun _ _ _ => trivial) ran, fun acyclic => ?_⟩
  apply acyclic "design"
  exact .tail (.single (edge "design" "build" (by simp))) (edge "build" "design" (by simp))

end Troop.Projects
