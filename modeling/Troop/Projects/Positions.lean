import Mathlib.Data.Prod.Lex
import Mathlib.Data.String.Basic
import Mathlib.Order.WithBot
import Troop.Pagination.Ascending
import Troop.Projects.Listing
import Troop.Python.Lines

namespace Troop.Projects

open Pagination
open List

structure PlacedTask where
  id : String
  projectId : String
  title : String
  source : String
  status : String
  position : Int
  createdAt : Int
deriving DecidableEq

structure DatedDependency where
  taskId : String
  dependsOnTaskId : String
  createdAt : Int
deriving DecidableEq

/-- A row to insert, whose position is yet to come; `dependencies` with their times. -/
structure NewTask where
  id : String
  title : String
  source : String
  status : String
  createdAt : Int
  dependencies : List (String × Int) := []
deriving DecidableEq

/-- What the defaults of a row draw: its `uuid4` and its time. -/
structure Stamp where
  id : String
  createdAt : Int

/-- The lines that `promote_brainstorm_to_tasks` makes tasks of, as their titles. -/
def promotedTitles (finalOutput : String) : List String :=
  (((Text.splitlines finalOutput).map (Text.stripOf " -0123456789.")).filter fun cleaned => ¬ cleaned.length < 6).map
    (Text.cut 255)

inductive Creation where
  /-- `create_task`; `refused` is that one of its checks raises -/
  | createTask (task : NewTask) (refused : Bool)
  /-- `promote_brainstorm_to_tasks` of a brainstorm with this final output -/
  | promoteBrainstormToTasks (finalOutput : String) (stamps : Nat → Stamp)

def Creation.rows : Creation → List NewTask
  | .createTask task refused => if refused then [] else [task]
  | .promoteBrainstormToTasks finalOutput stamps =>
    (promotedTitles finalOutput).mapIdx fun i title => ⟨(stamps i).id, title, "brainstorm", "backlog", (stamps i).createdAt, []⟩

structure PositionToken where
  position : Int
  createdAt : Int
  id : String
deriving DecidableEq

def PositionToken.key (token : PositionToken) : Int ×ₗ Int ×ₗ String :=
  toLex (token.position, toLex (token.createdAt, token.id))

/-- `token_from_position_created_at_id` -/
def PlacedTask.token (task : PlacedTask) : PositionToken := ⟨task.position, task.createdAt, task.id⟩

/-- `apply_asc_position_time_id_cursor` -/
def beyondPosition (cursor : Option PositionToken) (task : PlacedTask) : Bool :=
  match cursor with
  | some token => if token.id ≠ "" then token.key < task.token.key else true
  | none => true

/-- A row of the join, as the outer `ORDER BY` sorts it; a task without dependencies comes with a null. -/
def joinedKey (row : PlacedTask × Option DatedDependency) : Int ×ₗ Int ×ₗ WithTop Int :=
  toLex (row.1.position, toLex (row.1.createdAt, match row.2 with | some dependency => dependency.createdAt | none => ⊤))

/-- `ordered_task_ids` over the rows of the join; `seen` are the keys of `tasks_by_id`. -/
def firstRows (seen : List String) : List (PlacedTask × Option DatedDependency) → List PlacedTask
  | [] => []
  | row :: rest => if row.1.id ∈ seen then firstRows seen rest else row.1 :: firstRows (row.1.id :: seen) rest

structure TaskTables where
  tasks : List PlacedTask
  dependencies : List DatedDependency

namespace TaskTables

variable (tables : TaskTables) (projectId : String)

def projectTasks : List PlacedTask := tables.tasks.filter fun task => task.projectId = projectId

/-- `int(value or -1) + 1`, where zero counts as no value. -/
def getNextTaskPosition : Int :=
  (match ((tables.projectTasks projectId).map PlacedTask.position).max? with
    | none | some 0 => -1
    | some value => value) + 1

def createTask (row : NewTask) : TaskTables where
  tasks := tables.tasks ++
    [⟨row.id, projectId, row.title, row.source, row.status, tables.getNextTaskPosition projectId, row.createdAt⟩]
  dependencies := tables.dependencies ++ row.dependencies.map fun dependency => ⟨row.id, dependency.1, dependency.2⟩

def create (creation : Creation) : TaskTables := creation.rows.foldl (·.createTask projectId ·) tables

def run (creations : List Creation) : TaskTables := creations.foldl (·.create projectId ·) tables

def joined (task : PlacedTask) : List (PlacedTask × Option DatedDependency) :=
  match tables.dependencies.filter fun row => row.taskId = task.id with
  | [] => [(task, none)]
  | rows => rows.map fun row => (task, some row)

def listTasksWithDependencies (cap : Nat) (cursor : Option PositionToken) : List PlacedTask × (String → List String) :=
  let taskIds := ((ascending (fun task => task.token.key) ((tables.projectTasks projectId).filter (beyondPosition cursor))).take
    (max 1 cap + 1)).map PlacedTask.id
  let rows := ascending joinedKey ((tables.tasks.filter fun task => task.id ∈ taskIds).flatMap tables.joined)
  (firstRows [] rows, fun id => rows.filterMap fun row => if row.1.id = id then row.2.map DatedDependency.dependsOnTaskId else none)

def taskPage (limit : Option Int) (default maximum : Int) (cursor : Option PositionToken) :
    List PlacedTask × Option PositionToken :=
  let cap := (resolveQueryLimit limit default maximum).toNat
  pageOf PlacedTask.token (tables.listTasksWithDependencies projectId cap cursor).1 cap

def top : Int := (((tables.projectTasks projectId).map PlacedTask.position).max?).getD (-1)

/-- Each task created since `start` has a greater position than those before it, no two tasks share a position, and the pages
    of the list have each task once in the order of creation. -/
structure InOrder (start : TaskTables) : Prop where
  greater : ∀ before task after, tables.projectTasks projectId = before ++ task :: after →
    (start.projectTasks projectId).length ≤ before.length → ∀ other ∈ before, other.position < task.position
  distinct : ((tables.projectTasks projectId).map PlacedTask.position).Nodup
  paged : ∀ limit default maximum, ∃ pages, Reads (tables.taskPage projectId limit default maximum) none pages ∧
    pages.flatten = tables.projectTasks projectId

structure Drawn (creations : List Creation) : Prop where
  distinct : (tables.tasks.map PlacedTask.id ++ (creations.flatMap Creation.rows).map NewTask.id).Nodup
  named : "" ∉ tables.tasks.map PlacedTask.id ++ (creations.flatMap Creation.rows).map NewTask.id

section Creating

variable {tables projectId}

theorem run_eq (tables : TaskTables) (creations : List Creation) :
    tables.run projectId creations = (creations.flatMap Creation.rows).foldl (·.createTask projectId ·) tables := by
  unfold run
  induction creations generalizing tables with
  | nil => rfl
  | cons creation rest ih =>
    rw [foldl_cons, ih, flatMap_cons, foldl_append]
    rfl

theorem nextPosition_eq : tables.getNextTaskPosition projectId =
    if tables.top projectId = 0 then 0 else tables.top projectId + 1 := by
  unfold getNextTaskPosition top
  split <;> simp_all

variable (row : NewTask)

theorem projectTasks_createTask : (tables.createTask projectId row).projectTasks projectId =
    tables.projectTasks projectId ++
      [⟨row.id, projectId, row.title, row.source, row.status, tables.getNextTaskPosition projectId, row.createdAt⟩] := by
  unfold projectTasks createTask
  simp_all

theorem le_top {task : PlacedTask} (isThere : task ∈ tables.projectTasks projectId) : task.position ≤ tables.top projectId := by
  have listed := mem_map_of_mem (f := PlacedTask.position) isThere
  unfold top
  cases found : ((tables.projectTasks projectId).map PlacedTask.position).max? with
  | none => simp [max?_eq_none_iff.mp found] at listed
  | some value => exact (max?_eq_some_iff.mp found).2 _ listed

theorem top_cases (tables : TaskTables) (projectId : String) : tables.projectTasks projectId = [] ∧ tables.top projectId = -1 ∨
    ∃ task ∈ tables.projectTasks projectId, task.position = tables.top projectId := by
  unfold top
  cases found : ((tables.projectTasks projectId).map PlacedTask.position).max? with
  | none => exact .inl ⟨map_eq_nil_iff.mp (max?_eq_none_iff.mp found), rfl⟩
  | some value => exact .inr (mem_map.mp (max?_eq_some_iff.mp found).1)

theorem top_of_next {row : NewTask} (above : tables.top projectId < tables.getNextTaskPosition projectId) :
    (tables.createTask projectId row).top projectId = tables.getNextTaskPosition projectId := by
  have highest : (((tables.createTask projectId row).projectTasks projectId).map PlacedTask.position).max? =
      some (tables.getNextTaskPosition projectId) := by
    rw [projectTasks_createTask, map_append, max?_eq_some_iff]
    constructor
    · exact mem_append_right _ (mem_singleton_self _)
    intro position listed
    rcases mem_append.mp listed with old | new
    · obtain ⟨task, isThere, rfl⟩ := mem_map.mp old
      have below := le_top isThere
      omega
    · simp_all
  rw [top, highest, Option.getD_some]

theorem top_createTask (nonzero : tables.top projectId ≠ 0) :
    (tables.createTask projectId row).top projectId = tables.top projectId + 1 := by
  have next := @nextPosition_eq tables projectId
  rw [if_neg nonzero] at next
  rw [top_of_next (by omega), next]

theorem rising_createTask (rising : Rising PlacedTask.position (tables.projectTasks projectId))
    (nonzero : tables.top projectId ≠ 0) :
    Rising PlacedTask.position ((tables.createTask projectId row).projectTasks projectId) := by
  have next := @nextPosition_eq tables projectId
  rw [projectTasks_createTask]
  refine pairwise_append.mpr ⟨rising, pairwise_singleton _ _, ?_⟩
  intro task isThere new same
  rw [mem_singleton.mp same]
  have below := le_top isThere
  have above : tables.top projectId < tables.getNextTaskPosition projectId := by omega
  exact lt_of_le_of_lt below above

theorem rising_rows {rows : List NewTask} (rising : Rising PlacedTask.position (tables.projectTasks projectId))
    (room : 0 < tables.top projectId ∨ (rows.length : Int) ≤ -tables.top projectId) :
    Rising PlacedTask.position ((rows.foldl (·.createTask projectId ·) tables).projectTasks projectId) := by
  induction rows generalizing tables with
  | nil => exact rising
  | cons row rest ih =>
    rw [length_cons] at room
    have nonzero : tables.top projectId ≠ 0 := by omega
    apply ih (rising_createTask row rising nonzero)
    rw [top_createTask row nonzero]
    omega

theorem projectTasks_rows (rows : List NewTask) (tables : TaskTables) :
    ∃ more, (rows.foldl (·.createTask projectId ·) tables).projectTasks projectId = tables.projectTasks projectId ++ more := by
  induction rows generalizing tables with
  | nil => exact ⟨[], (append_nil _).symm⟩
  | cons row rest ih =>
    obtain ⟨more, same⟩ := ih (tables.createTask projectId row)
    rw [projectTasks_createTask, append_assoc] at same
    exact ⟨_, same⟩

theorem shared_position {rows : List NewTask} (low : tables.top projectId ≤ 0)
    (many : -tables.top projectId < (rows.length : Int)) :
    ∃ before task after, (rows.foldl (·.createTask projectId ·) tables).projectTasks projectId = before ++ task :: after ∧
      (tables.projectTasks projectId).length ≤ before.length ∧ ∃ other ∈ before, task.position ≤ other.position := by
  induction rows generalizing tables with
  | nil => grind
  | cons row rest ih =>
    rw [length_cons] at many
    by_cases zero : tables.top projectId = 0
    · obtain ⟨more, same⟩ := @projectTasks_rows projectId rest (tables.createTask projectId row)
      rw [projectTasks_createTask, append_assoc, singleton_append] at same
      refine ⟨_, _, _, same, Nat.le_refl _, ?_⟩
      rcases top_cases tables projectId with ⟨_, negative⟩ | ⟨other, isThere, highest⟩
      · omega
      · refine ⟨other, isThere, ?_⟩
        rw [nextPosition_eq, if_pos zero, highest, zero]
    · have next := top_createTask row zero
      obtain ⟨before, task, after, same, longer, shares⟩ := @ih (tables.createTask projectId row) (by omega) (by omega)
      rw [projectTasks_createTask, length_append] at longer
      exact ⟨before, task, after, same, by omega, shares⟩

end Creating

section Listing

variable {tables projectId}

theorem Rising.tokens {tasks : List PlacedTask} (rising : Rising PlacedTask.position tasks) :
    Rising (fun task => task.token.key) tasks := by
  apply Pairwise.imp _ rising
  intro a b below
  exact Prod.Lex.toLex_lt_toLex.mpr (.inl below)

variable (rows : List (PlacedTask × Option DatedDependency))

theorem firstRows_sublist (seen : List String) :
    (firstRows seen rows).Sublist (rows.map Prod.fst) := by
  induction rows generalizing seen with
  | nil => exact Sublist.refl _
  | cons row rest ih =>
    unfold firstRows
    split
    · exact (ih seen).cons _
    · exact (ih _).cons_cons _

theorem firstRows_ids (seen : List String) :
    (firstRows seen rows).Pairwise (fun a b => a.id ≠ b.id) ∧ ∀ task ∈ firstRows seen rows, task.id ∉ seen := by
  induction rows generalizing seen with
  | nil => exact ⟨Pairwise.nil, fun _ isThere => absurd isThere not_mem_nil⟩
  | cons row rest ih =>
    unfold firstRows
    split
    · exact ih seen
    rename_i unseen
    obtain ⟨apart, fresh⟩ := ih (row.1.id :: seen)
    refine ⟨pairwise_cons.mpr ⟨?_, apart⟩, ?_⟩
    · grind
    · intro task isThere
      rcases mem_cons.mp isThere with rfl | later
      · exact unseen
      · exact fun old => fresh task later (mem_cons_of_mem _ old)

theorem mem_firstRows {rows : List (PlacedTask × Option DatedDependency)} {seen : List String} {task : PlacedTask}
    (keyed : ∀ row ∈ rows, ∀ other ∈ rows, row.1.id = other.1.id → row.1 = other.1) :
    task ∈ firstRows seen rows ↔ task ∈ rows.map Prod.fst ∧ task.id ∉ seen := by
  induction rows generalizing seen with
  | nil => simp [firstRows]
  | cons row rest ih =>
    have later := fun one isThere other also =>
      keyed one (mem_cons_of_mem _ isThere) other (mem_cons_of_mem _ also)
    have sameRow : task ∈ rest.map Prod.fst → task.id = row.1.id → task = row.1 := by
      intro isThere same
      obtain ⟨other, also, rfl⟩ := mem_map.mp isThere
      exact keyed other (mem_cons_of_mem _ also) row mem_cons_self same
    unfold firstRows
    rw [map_cons, mem_cons]
    split
    · rename_i old
      rw [ih later]
      constructor
      · exact fun ⟨isThere, fresh⟩ => ⟨.inr isThere, fresh⟩
      · rintro ⟨rfl | isThere, fresh⟩
        · exact absurd old fresh
        · exact ⟨isThere, fresh⟩
    · rename_i unseen
      rw [mem_cons, ih later, mem_cons, not_or]
      constructor
      · rintro (rfl | ⟨isThere, _, fresh⟩)
        · exact ⟨.inl rfl, unseen⟩
        · exact ⟨.inr isThere, fresh⟩
      · rintro ⟨rfl | isThere, fresh⟩
        · exact .inl rfl
        · by_cases same : task.id = row.1.id
          · exact .inl (sameRow isThere same)
          · exact .inr ⟨isThere, same, fresh⟩

theorem joined_fst {task : PlacedTask} {row : PlacedTask × Option DatedDependency} (isThere : row ∈ tables.joined task) :
    row.1 = task := by
  unfold joined at isThere
  split at isThere
  · rw [mem_singleton.mp isThere]
  · grind

theorem joined_ne_nil (task : PlacedTask) : ∃ row, row ∈ tables.joined task := by
  unfold joined
  split
  · exact ⟨_, mem_singleton_self _⟩
  · rename_i nonempty
    cases same : tables.dependencies.filter fun row => row.taskId = task.id with
    | nil => exact absurd same nonempty
    | cons row rest => exact ⟨_, mem_map_of_mem mem_cons_self⟩

theorem listed_eq (distinct : (tables.tasks.map PlacedTask.id).Nodup) {page : List PlacedTask}
    (within : ∀ task ∈ page, task ∈ tables.tasks) (rising : Rising PlacedTask.position page) :
    firstRows [] (ascending joinedKey
      ((tables.tasks.filter fun task => task.id ∈ page.map PlacedTask.id).flatMap tables.joined)) = page := by
  generalize chosen : (tables.tasks.filter fun task => task.id ∈ page.map PlacedTask.id).flatMap tables.joined = rows
  have one {a b : PlacedTask} (first : a ∈ tables.tasks) (second : b ∈ tables.tasks) (same : a.id = b.id) : a = b :=
    inj_on_of_nodup_map distinct first second same
  have rowTask : ∀ row ∈ rows, row.1 ∈ page := by
    intro row isThere
    rw [← chosen] at isThere
    obtain ⟨task, kept, joins⟩ := mem_flatMap.mp isThere
    obtain ⟨listed, named⟩ := mem_filter.mp kept
    obtain ⟨other, also, same⟩ := mem_map.mp (of_decide_eq_true named)
    rwa [joined_fst joins, one listed (within other also) same.symm]
  have keyed : ∀ row ∈ ascending joinedKey rows, ∀ other ∈ ascending joinedKey rows, row.1.id = other.1.id →
      row.1 = other.1 := by
    intro row isThere other also same
    exact one (within _ (rowTask row (mem_ascending.mp isThere))) (within _ (rowTask other (mem_ascending.mp also))) same
  have members : ∀ task, task ∈ firstRows [] (ascending joinedKey rows) ↔ task ∈ page := by
    intro task
    rw [mem_firstRows keyed]
    constructor
    · rintro ⟨isThere, _⟩
      obtain ⟨row, sorted, rfl⟩ := mem_map.mp isThere
      exact rowTask row (mem_ascending.mp sorted)
    · intro isThere
      obtain ⟨row, joins⟩ := @joined_ne_nil tables task
      refine ⟨mem_map.mpr ⟨row, mem_ascending.mpr ?_, joined_fst joins⟩, not_mem_nil⟩
      rw [← chosen]
      refine mem_flatMap.mpr ⟨task, mem_filter.mpr ⟨within task isThere, ?_⟩, joins⟩
      exact decide_eq_true (mem_map_of_mem isThere)
  have sorted : (firstRows [] (ascending joinedKey rows)).Pairwise fun a b => a.position ≤ b.position := by
    apply Pairwise.sublist (firstRows_sublist _ _)
    rw [pairwise_map]
    have ordered : (ascending joinedKey rows).Pairwise fun a b => joinedKey a ≤ joinedKey b := pairwise_ascending rows
    apply ordered.imp
    intro a b below
    rcases Prod.Lex.toLex_le_toLex.mp below with less | ⟨same, _⟩
    · exact le_of_lt less
    · exact le_of_eq same
  apply Rising.ext _ rising members
  apply Pairwise.imp_of_mem _ (sorted.and (firstRows_ids _ []).1)
  intro a b first second both
  refine lt_of_le_of_ne both.1 ?_
  intro same
  have equal := rising.eq ((members a).mp first) ((members b).mp second) same
  exact both.2 (congrArg PlacedTask.id equal)

theorem resolveQueryLimit_pos (limit : Option Int) (default maximum : Int) :
    1 ≤ (resolveQueryLimit limit default maximum).toNat := by
  unfold resolveQueryLimit
  simp_all

theorem taskPage_rest {seen rest : List PlacedTask} {limit : Option Int} {default maximum : Int}
    (distinct : (tables.tasks.map PlacedTask.id).Nodup) (named : "" ∉ tables.tasks.map PlacedTask.id)
    (rising : Rising PlacedTask.position (tables.projectTasks projectId))
    (whole : tables.projectTasks projectId = seen ++ rest) :
    tables.taskPage projectId limit default maximum (seen.getLast?.map PlacedTask.token) =
      pageOf PlacedTask.token rest (resolveQueryLimit limit default maximum).toNat := by
  have left : (tables.projectTasks projectId).filter (beyondPosition (seen.getLast?.map PlacedTask.token)) = rest := by
    rcases eq_nil_or_concat seen with rfl | ⟨before, last, rfl⟩
    · rw [whole]
      exact filter_eq_self.mpr fun _ _ => rfl
    · rw [concat_eq_append, append_assoc, singleton_append] at whole
      have isThere : last ∈ tables.tasks := by
        apply mem_of_mem_filter
        show last ∈ tables.projectTasks projectId
        rw [whole]
        exact mem_append_right _ mem_cons_self
      have known : last.token.id ≠ "" := fun empty => named (empty ▸ mem_map_of_mem isThere)
      rw [concat_eq_append, getLast?_concat, Option.map_some]
      rw [show beyondPosition (some last.token) = fun task => decide (last.token.key < task.token.key) from
        funext fun task => if_pos known]
      rw [whole] at rising ⊢
      exact (Rising.tokens rising).beyond
  have part : rest.Sublist (tables.projectTasks projectId) := by simp_all
  have positive := resolveQueryLimit_pos limit default maximum
  have page : (tables.listTasksWithDependencies projectId (resolveQueryLimit limit default maximum).toNat
      (seen.getLast?.map PlacedTask.token)).1 = rest.take ((resolveQueryLimit limit default maximum).toNat + 1) := by
    unfold listTasksWithDependencies
    rw [left, (Rising.tokens (rising.sublist part)).ascending_eq, Nat.max_eq_right positive]
    apply listed_eq distinct
    · intro task isThere
      exact mem_of_mem_filter (part.subset (mem_of_mem_take isThere))
    · exact (rising.sublist part).sublist (take_sublist _ _)
  unfold taskPage
  dsimp only
  rw [page, pageOf_take]

end Listing

section Order

variable {tables projectId} {start : TaskTables} {creations : List Creation}

theorem tasks_rows (rows : List NewTask) (tables : TaskTables) :
    (rows.foldl (·.createTask projectId ·) tables).tasks.map PlacedTask.id =
      tables.tasks.map PlacedTask.id ++ rows.map NewTask.id := by
  induction rows generalizing tables with
  | nil => exact (append_nil _).symm
  | cons row rest ih =>
    rw [foldl_cons, ih, createTask, map_append, append_assoc]
    rfl

theorem inOrder_of_rising (drawn : start.Drawn creations)
    (rising : Rising PlacedTask.position ((start.run projectId creations).projectTasks projectId)) :
    (start.run projectId creations).InOrder projectId start where
  greater before task after same _ other isThere := by
    rw [same] at rising
    exact (pairwise_append.mp rising).2.2 other isThere task mem_cons_self
  distinct := (pairwise_map.mpr rising).imp ne_of_lt
  paged limit default maximum := by
    have positive := resolveQueryLimit_pos limit default maximum
    have ids := @tasks_rows projectId (creations.flatMap Creation.rows) start
    rw [← run_eq] at ids
    apply reads_all positive
    intro seen rest whole
    exact taskPage_rest (ids ▸ drawn.distinct) (ids ▸ drawn.named) rising whole

end Order

end TaskTables

/-- In a project whose tasks are in order, creations keep them in order exactly as long as none of them meets a highest position
    of zero: a project's first task is placed there, and the second beside it. -/
theorem tasks_in_order_iff (start : TaskTables) (projectId : String) (creations : List Creation)
    (rising : Rising PlacedTask.position (start.projectTasks projectId)) (drawn : start.Drawn creations) :
    (start.run projectId creations).InOrder projectId start ↔
      0 < start.top projectId ∨ ((creations.flatMap Creation.rows).length : Int) ≤ -start.top projectId := by
  constructor
  · intro inOrder
    by_contra crowded
    rw [not_or, not_lt, not_le] at crowded
    obtain ⟨before, task, after, same, later, other, isThere, shares⟩ := TaskTables.shared_position crowded.1 crowded.2
    rw [← TaskTables.run_eq] at same
    exact absurd (inOrder.greater before task after same later other isThere) (not_lt.mpr shares)
  · grind [TaskTables.inOrder_of_rising, TaskTables.run_eq, TaskTables.rising_rows]

def importedOnce : TaskTables where
  tasks := [⟨"t1", "p", "Imported", "github", "backlog", 1, 0⟩]
  dependencies := []

def secondTask : Creation := .createTask ⟨"t2", "Second", "manual", "queued", 1, [("t1", 1)]⟩ false

theorem second_task_placed : Rising PlacedTask.position (importedOnce.projectTasks "p") ∧ importedOnce.Drawn [secondTask] ∧
    (importedOnce.run "p" [secondTask]).InOrder "p" importedOnce := by
  have rising : Rising PlacedTask.position (importedOnce.projectTasks "p") := pairwise_singleton _ _
  have drawn : importedOnce.Drawn [secondTask] := ⟨by decide, by decide⟩
  exact ⟨rising, drawn, (tasks_in_order_iff importedOnce "p" [secondTask] rising drawn).mpr (.inl (by decide))⟩

def emptyTables : TaskTables := ⟨[], []⟩

def twoTasks : List Creation :=
  [.createTask ⟨"t1", "First", "manual", "queued", 0, []⟩ false, .createTask ⟨"t2", "Second", "manual", "queued", 1, []⟩ false]

theorem positions_shared : ¬ ∀ (projectId : String) (creations : List Creation), emptyTables.Drawn creations →
    (emptyTables.run projectId creations).InOrder projectId emptyTables := by
  intro ordered
  have both := (ordered "p" twoTasks ⟨by decide, by decide⟩).distinct
  exact absurd both (by decide)

end Troop.Projects
