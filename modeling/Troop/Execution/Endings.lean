import Troop.Execution.Lifecycle

namespace Troop.Execution

/-- The task as the run finds it: `start_task_run` has accepted it, and a user may have edited its status since. -/
def Task.accepted (edited : Option String) (task : Task) : Task :=
  { task with status := edited.getD (queuedTaskStatus task.status) }

def Session.accepted (task : Task) : Session :=
  { run := .queued, task := some task, storedRun := .queued, storedTask := some task.status, commits := 0, atStep := false,
    hooks := [] }

def Task.begun (task : Task) : Task :=
  if task.status ∈ ["queued", "planned", "blocked"] then { task with status := "in_progress" } else task

def HonestEnd (outcome : Except Exn PUnit) (ended : Except Exn PUnit × Session) : Prop :=
  ended.1 = .ok ⟨⟩ ∧ match outcome with
    | .ok _ => ended.2.storedRun = .completed ∧ .completed ∈ ended.2.hooks
    | .error (.blockedExecution _) => ended.2.storedRun = .blocked
    | .error (.other _) => ended.2.storedRun = .failed ∧ .failed ∈ ended.2.hooks

def Task.closed? (mode : RunMode) (task : Task) : Option String :=
  let next := if task.hasReviewer then "needs_review" else "completed"
  if mode = .brainstorm then some task.status
  else if task.status ∈ ["blocked", "approved", "completed", "needs_review"] then
    some (if mode = .managerWorker ∧ task.status = "approved" then "completed" else task.status)
  else if Projects.isValidTaskTransition task.status next then some next
  else none

def Task.Closable (env : Surroundings) (mode : RunMode) (task : Task) : Prop :=
  (mode ≠ .brainstorm → env.remember = .ok ⟨⟩) ∧ env.escalation = .ok ⟨⟩ ∧
    ∃ status, task.closed? mode = some status ∧
      (status ∈ ["completed", "archived", "synced_to_github"] → env.closeMemory = .ok ⟨⟩)

def Completes (env : Surroundings) (mode : RunMode) (task : Option Task) : Prop :=
  env.persistMemory = .ok ⟨⟩ ∧ env.externalActions = .ok ⟨⟩ ∧ ∀ held, task = some held → held.Closable env mode

def Exn.Follows (error : Exn) (task : Task) : Prop :=
  match error with
  | blockedExecution _ => Projects.isValidTaskTransition task.status "blocked" = true
  | other _ => task.status = "blocked" ∨ Projects.isValidTaskTransition task.status "failed" = true

/-- Nothing is raised but by the mode handler, and the task, as the handler leaves it, can make the transition that
    closes the run. -/
def Closes (env : Surroundings) (mode : RunMode) (task : Task) : Prop :=
  env.setup = .ok ⟨⟩ ∧ match env.handler mode (some task.begun) with
    | (.ok _, left) => env.invalidFormat = none ∧ Completes env mode left
    | (.error error, left) => ∀ held, left = some held → error.Follows held ∧ env.escalation = .ok ⟨⟩

section Lemmas

open Prog

variable {env : Surroundings} {mode : RunMode} {s : Session}

variable (writes : Bool)

@[simp] theorem commit_run : (s.commit env writes).run = s.run := rfl
@[simp] theorem commit_task : (s.commit env writes).task = s.task := rfl
@[simp] theorem commit_storedRun : (s.commit env writes).storedRun = s.run := rfl
@[simp] theorem commit_atStep : (s.commit env writes).atStep = s.atStep := rfl
@[simp] theorem commit_hooks : (s.commit env writes).hooks = s.hooks := rfl

theorem exec_emitRunEvent : exec (emitRunEvent env) s = (.ok ⟨⟩, s.commit env false) := rfl

theorem exec_setRun {status : RunStatus} : exec (setRun status) s = (.ok ⟨⟩, { s with run := status }) := rfl

theorem exec_onTaskRunTerminal {status : RunStatus} :
    exec (onTaskRunTerminal status) s = (.ok ⟨⟩, { s with hooks := s.hooks ++ [status] }) := rfl

theorem exec_whenTask {visit : Task → Step} :
    exec (whenTask visit) s = match s.task with | some task => exec (visit task) s | none => (.ok ⟨⟩, s) := by
  unfold whenTask
  rw [exec_bind, exec_get]
  dsimp only
  cases s.task with
  | _ => rfl

structure Alike (s after : Session) : Prop where
  run : after.run = s.run
  task : after.task = s.task
  atStep : after.atStep = s.atStep
  hooks : after.hooks = s.hooks

theorem Alike.trans {s middle after : Session} (first : Alike s middle) (second : Alike middle after) : Alike s after :=
  ⟨second.run.trans first.run, second.task.trans first.task, second.atStep.trans first.atStep, second.hooks.trans first.hooks⟩

theorem emitWhere_alike (condition : Bool) :
    ∃ after, exec (emitWhere env condition) s = (.ok ⟨⟩, after) ∧ Alike s after := by
  cases condition with
  | true => exact ⟨_, exec_emitRunEvent, rfl, rfl, rfl, rfl⟩
  | false => exact ⟨s, rfl, rfl, rfl, rfl, rfl⟩

theorem markStep_alike : ∃ after, exec (markStep env) s = (.ok ⟨⟩, after) ∧ Alike s after := by
  exact emitWhere_alike s.atStep

theorem transition_spec {task : Task} (next : String) (held : s.task = some task) :
    (Projects.isValidTaskTransition task.status next = true ∧
      ∃ after, exec (transitionTaskStatus env task next) s = (.ok ⟨⟩, after) ∧ after.run = s.run ∧
        after.task = some { task with status := next } ∧ after.hooks = s.hooks) ∨
    (Projects.isValidTaskTransition task.status next = false ∧
      exec (transitionTaskStatus env task next) s = (.error (.other "Invalid task transition"), s)) := by
  unfold transitionTaskStatus
  by_cases same : task.status = next
  · subst same
    exact .inl ⟨by simp [Projects.isValidTaskTransition], s, by simp, rfl, held, rfl⟩
  · by_cases valid : Projects.isValidTaskTransition task.status next = true <;> simp_all

theorem transitionWhere_spec {statuses : List String} {next : String}
    (valid : ∀ status ∈ statuses, Projects.isValidTaskTransition status next = true) :
    ∃ after, exec (transitionWhere env statuses next) s = (.ok ⟨⟩, after) ∧ after.run = s.run ∧ after.hooks = s.hooks ∧
      after.task = s.task.map fun task => if task.status ∈ statuses then { task with status := next } else task := by
  unfold transitionWhere
  rw [exec_whenTask]
  cases held : s.task with
  | none => exact ⟨s, rfl, rfl, rfl, held⟩
  | some task =>
    dsimp only
    by_cases member : task.status ∈ statuses
    · rw [if_pos member]
      obtain ⟨_, after, ran, run, moved, hooks⟩ | ⟨invalid, _⟩ := @transition_spec env s task next held
      · exact ⟨after, ran, run, hooks, by rw [moved, Option.map_some, if_pos member]⟩
      · exact absurd (valid _ member) (by rw [invalid]; exact Bool.false_ne_true)
    · simp_all

theorem start_raises {prior : RunStatus} {error : Exn} (refused : env.setup = .error error) :
    ∃ after, exec (start env prior) s = (.error error, after) := by
  unfold start
  rw [exec_bind_ok exec_setRun, refused]
  exact ⟨_, rfl⟩

theorem start_spec {prior : RunStatus} (ready : env.setup = .ok ⟨⟩) :
    ∃ after, exec (start env prior) s = (.ok ⟨⟩, after) ∧ after.hooks = s.hooks ∧
      after.task = s.task.map fun task => if task.status ∈ ["queued"] then { task with status := "planned" } else task := by
  obtain ⟨planned, moved, _, hooks, task⟩ := @transitionWhere_spec env { s with run := .inProgress } ["queued"] "planned"
    (by decide)
  obtain ⟨resumed, recovery, like⟩ := @emitWhere_alike env (planned.commit env false) (prior = .failed ∨ prior = .blocked)
  obtain ⟨after, signals, again⟩ := @emitWhere_alike env resumed env.signalled
  refine ⟨after, ?_, (like.trans again).hooks.trans hooks, (like.trans again).task.trans task⟩
  unfold start
  rw [exec_bind_ok exec_setRun, ready, exec_bind_ok (exec_ofExcept _ _), exec_bind_ok moved, exec_bind_ok exec_emitRunEvent,
    exec_bind_ok recovery, signals]

def Surroundings.outcome (env : Surroundings) (mode : RunMode) (task : Option Task) : Except Exn PUnit :=
  match (env.handler mode task).1, env.invalidFormat with
  | .error error, _ => .error error
  | .ok _, some _ => .error (.blockedExecution "Output validation failed")
  | .ok _, none => .ok ⟨⟩

theorem executeMode_spec {task : Option Task}
    (begun : task = s.task.map fun task => if task.status ∈ ["planned", "blocked"] then { task with status := "in_progress" } else task) :
    ∃ after, exec (executeMode env mode) s = (env.outcome mode task, after) ∧ after.task = (env.handler mode task).2 ∧
      after.hooks = s.hooks := by
  obtain ⟨compressed, emitted, like⟩ := @emitWhere_alike env s env.compresses
  obtain ⟨ready, moved, _, hooks, held⟩ := @transitionWhere_spec env compressed ["planned", "blocked"] "in_progress" (by decide)
  rw [like.task, ← begun] at held
  have ran : exec (runHandler env mode) ready =
      ((env.handler mode task).1, { ready with task := (env.handler mode task).2, atStep := env.leavesStep }) := by
    unfold runHandler
    rw [exec_bind, exec_get]
    dsimp only
    rw [exec_bind, exec_modify]
    simp_all
  refine ⟨{ ready with task := (env.handler mode task).2, atStep := env.leavesStep }, ?_, rfl, hooks.trans like.hooks⟩
  unfold executeMode
  rw [exec_bind_ok emitted, exec_bind_ok moved, exec_bind, ran]
  unfold Surroundings.outcome enforceRunOutputSchema
  cases (env.handler mode task).1 with
  | error error => rfl
  | ok _ =>
    cases env.invalidFormat with
    | _ => rfl

theorem exec_escalate : exec (escalate env) s = ((if s.task = none then .ok ⟨⟩ else env.escalation), s) := by
  unfold escalate
  rw [exec_whenTask]
  cases held : s.task with
  | _ => simp

/-- The status that an `except` clause gives the run. -/
def Exn.status : Exn → RunStatus
  | blockedExecution _ => .blocked
  | other _ => .failed

/-- How an `except` clause moves the task. -/
def followTask (env : Surroundings) : Exn → Step
  | .blockedExecution _ => whenTask fun task => transitionTaskStatus env task "blocked"
  | .other _ => whenTask fun task => if task.status = "blocked" then pure ⟨⟩ else transitionTaskStatus env task "failed"

theorem followTask_spec (error : Exn) :
    ((∀ held, s.task = some held → error.Follows held) ∧ ∃ after, exec (followTask env error) s = (.ok ⟨⟩, after) ∧
      after.run = s.run ∧ after.hooks = s.hooks ∧ (after.task = none ↔ s.task = none)) ∨
    (∃ held, s.task = some held ∧ ¬ error.Follows held ∧
      exec (followTask env error) s = (.error (.other "Invalid task transition"), s)) := by
  cases held : s.task with
  | none =>
    refine .inl ⟨(fun _ same => by cases same), s, ?_, rfl, rfl, ⟨fun _ => rfl, fun _ => held⟩⟩
    cases error with
    | _ => exact exec_whenTask.trans (by rw [held])
  | some task =>
    cases error with
    | blockedExecution reason =>
      have ran : exec (followTask env (.blockedExecution reason)) s = exec (transitionTaskStatus env task "blocked") s :=
        exec_whenTask.trans (by rw [held])
      obtain ⟨valid, after, moved, run, now, hooks⟩ | ⟨invalid, refused⟩ := @transition_spec env s task "blocked" held
      · refine .inl ⟨fun other same => ?_, after, ran.trans moved, run, hooks, by simp [now]⟩
        cases same
        exact valid
      · exact .inr ⟨task, rfl, by simp [Exn.Follows, invalid], ran.trans refused⟩
    | other detail =>
      have ran : exec (followTask env (.other detail)) s =
          exec (if task.status = "blocked" then pure ⟨⟩ else transitionTaskStatus env task "failed") s :=
        exec_whenTask.trans (by rw [held])
      by_cases blocked : task.status = "blocked"
      · rw [if_pos blocked] at ran
        refine .inl ⟨fun other same => ?_, s, ran, rfl, rfl, by simp [held]⟩
        cases same
        exact .inl blocked
      · rw [if_neg blocked] at ran
        obtain ⟨valid, after, moved, run, now, hooks⟩ | ⟨invalid, refused⟩ := @transition_spec env s task "failed" held
        · refine .inl ⟨fun other same => ?_, after, ran.trans moved, run, hooks, by simp [now]⟩
          cases same
          exact .inr valid
        · exact .inr ⟨task, rfl, by simp [Exn.Follows, invalid, blocked], ran.trans refused⟩

/-- What an `except` clause does after that. -/
def conclude (env : Surroundings) : Exn → Step
  | .blockedExecution _ => do
    emitRunEvent env
    emitRunEvent env
    escalate env
  | .other _ => do
    emitRunEvent env
    emitRunEvent env
    onTaskRunTerminal .failed
    escalate env

theorem recover_eq (error : Exn) : recover env error = (do
    setRun error.status
    markStep env
    followTask env error
    conclude env error) := by
  cases error with
  | _ => rfl

theorem conclude_spec (error : Exn) : ∃ after,
    exec (conclude env error) s = ((if s.task = none then .ok ⟨⟩ else env.escalation), after) ∧ after.storedRun = s.run ∧
      (error.status = .failed → .failed ∈ after.hooks) := by
  let emitted := (s.commit env false).commit env false
  cases error with
  | blockedExecution reason => exact ⟨emitted, exec_escalate, rfl, fun failed => by cases failed⟩
  | other detail =>
    have told : exec (escalate env) { emitted with hooks := emitted.hooks ++ [.failed] } = _ := exec_escalate
    exact ⟨_, told, rfl, fun _ => List.mem_append_right _ (List.mem_singleton_self _)⟩

/-- An `except` clause ends as it should, or it raises. -/
theorem recover_spec (error : Exn) :
    ((∀ held, s.task = some held → error.Follows held ∧ env.escalation = .ok ⟨⟩) ∧
      ∃ after, exec (recover env error) s = (.ok ⟨⟩, after) ∧ after.storedRun = error.status ∧
        (error.status = .failed → .failed ∈ after.hooks)) ∨
    ((∃ held, s.task = some held ∧ ¬ (error.Follows held ∧ env.escalation = .ok ⟨⟩)) ∧
      ∃ raised after, exec (recover env error) s = (.error raised, after)) := by
  obtain ⟨marked, step, like⟩ := @markStep_alike env { s with run := error.status }
  have same : marked.task = s.task := like.task
  rw [recover_eq, exec_bind_ok exec_setRun, exec_bind_ok step]
  obtain ⟨follows, after, moved, run, _, gone⟩ | ⟨held, there, stays, refused⟩ := @followTask_spec env marked error
  · obtain ⟨ended, concluded, stored, told⟩ := @conclude_spec env after error
    rw [exec_bind_ok moved, concluded]
    have status : ended.storedRun = error.status := stored.trans (run.trans like.run)
    cases held : s.task with
    | none => simp_all
    | some task =>
      have kept : after.task ≠ none := fun none => by
        cases (gone.mp none).symm.trans (same.trans held)
      rw [if_neg kept]
      cases escalated : env.escalation with
      | ok _ => simp_all
      | error raised => exact .inr ⟨⟨task, rfl, fun both => by cases both.2⟩, raised, ended, rfl⟩
  · rw [exec_bind_error refused]
    exact .inr ⟨⟨held, same ▸ there, fun both => stays both.1⟩, _, marked, rfl⟩

theorem closeTask_spec {task : Task} (held : s.task = some task) (different : mode ≠ .brainstorm) :
    (∃ status, task.closed? mode = some status ∧ ∃ after, exec (closeTask env mode task) s = (.ok ⟨⟩, after) ∧
      after.run = s.run ∧ after.hooks = s.hooks ∧ after.task = some { task with status }) ∨
    (task.closed? mode = none ∧ ∃ raised, exec (closeTask env mode task) s = (.error raised, s)) := by
  unfold closeTask Task.closed?
  rw [if_neg different]
  by_cases final : task.status ∈ ["blocked", "approved", "completed", "needs_review"]
  · rw [if_pos final, if_pos final]
    by_cases approved : mode = .managerWorker ∧ task.status = "approved"
    · rw [if_pos approved, if_pos approved]
      obtain ⟨_, after, moved, run, now, hooks⟩ | ⟨invalid, _⟩ := @transition_spec env s task "completed" held
      · exact .inl ⟨_, rfl, after, moved, run, hooks, now⟩
      · rw [approved.2] at invalid
        exact absurd invalid (by decide)
    · rw [if_neg approved, if_neg approved]
      exact .inl ⟨_, rfl, s, rfl, rfl, rfl, held⟩
  · obtain ⟨valid, after, moved, run, now, hooks⟩ | ⟨invalid, refused⟩ :=
      @transition_spec env s task (if task.hasReviewer then "needs_review" else "completed") held
    · simp_all
    · simp_all

theorem closeTaskOf_spec {task : Task} (held : s.task = some task) :
    (∃ status, task.closed? mode = some status ∧ (mode ≠ .brainstorm → env.remember = .ok ⟨⟩) ∧
      ∃ after, exec (closeTaskOf env mode) s = (.ok ⟨⟩, after) ∧ after.run = s.run ∧ after.hooks = s.hooks ∧
        after.task = some { task with status }) ∨
    (¬ task.Closable env mode ∧ ∃ raised after, exec (closeTaskOf env mode) s = (.error raised, after)) := by
  unfold closeTaskOf
  rw [exec_whenTask, held]
  dsimp only
  by_cases brainstorm : mode = .brainstorm
  · rw [if_pos brainstorm]
    refine .inl ⟨task.status, ?_, fun different => absurd brainstorm different, s, rfl, rfl, rfl, held⟩
    exact if_pos brainstorm
  · rw [if_neg brainstorm]
    obtain ⟨status, closes, after, moved, run, hooks, now⟩ | ⟨open_, raised, refused⟩ :=
      @closeTask_spec env mode s task held brainstorm
    · rw [exec_bind_ok moved, exec_ofExcept]
      cases remembered : env.remember with
      | ok _ => exact .inl ⟨status, closes, fun _ => rfl, after, rfl, run, hooks, now⟩
      | error raised =>
        refine .inr ⟨fun closable => ?_, raised, after, rfl⟩
        cases remembered.symm.trans (closable.1 brainstorm)
    · refine .inr ⟨fun closable => ?_, raised, s, exec_bind_error refused⟩
      obtain ⟨_, _, status, closes, _⟩ := closable
      cases open_.symm.trans closes

def settle (env : Surroundings) : Step := do
  emitRunEvent env
  Prog.ofExcept env.persistMemory
  Prog.ofExcept env.externalActions
  emitRunEvent env
  onTaskRunTerminal .completed
  whenTask (closeMemoryOf env)
  escalate env

def Session.Follows (env : Surroundings) (s : Session) : Prop :=
  ∀ held, s.task = some held → env.escalation = .ok ⟨⟩ ∧
    (held.status ∈ ["completed", "archived", "synced_to_github"] → env.closeMemory = .ok ⟨⟩)

theorem afterHook_spec :
    (s.Follows env ∧ ∃ after, exec (do whenTask (closeMemoryOf env); escalate env) s = (.ok ⟨⟩, after) ∧
      after.storedRun = s.storedRun ∧ after.hooks = s.hooks) ∨
    (¬ s.Follows env ∧ ∃ raised after, exec (do whenTask (closeMemoryOf env); escalate env) s = (.error raised, after)) := by
  cases held : s.task with
  | none =>
    refine .inl ⟨fun task there => (by cases held.symm.trans there), s, ?_, rfl, rfl⟩
    rw [exec_bind_ok (exec_whenTask.trans (by rw [held])), exec_escalate, if_pos held]
  | some task =>
    have visited : exec (whenTask (closeMemoryOf env)) s = exec (closeMemoryOf env task) s := exec_whenTask.trans (by rw [held])
    have follows : s.Follows env ↔ env.escalation = .ok ⟨⟩ ∧
        (task.status ∈ ["completed", "archived", "synced_to_github"] → env.closeMemory = .ok ⟨⟩) := by
      constructor
      · exact fun all => all task held
      · intro both other there
        simp_all
    rw [follows, exec_bind, visited]
    unfold closeMemoryOf
    by_cases closed : task.status ∈ ["completed", "archived", "synced_to_github"]
    · rw [if_pos closed, exec_bind, exec_modify]
      dsimp only
      rw [exec_ofExcept]
      cases remembered : env.closeMemory with
      | error raised => exact .inr ⟨fun both => (by cases both.2 closed), raised, _, rfl⟩
      | ok _ =>
        dsimp only
        rw [exec_escalate, if_neg (by simp)]
        cases escalated : env.escalation with
        | ok _ => exact .inl ⟨⟨rfl, fun _ => rfl⟩, _, rfl, rfl, rfl⟩
        | error raised => exact .inr ⟨fun both => (by cases both.1), raised, _, rfl⟩
    · rw [if_neg closed, exec_pure]
      dsimp only
      rw [exec_escalate, if_neg (by simp [held])]
      cases escalated : env.escalation with
      | ok _ => exact .inl ⟨⟨rfl, fun inside => absurd inside closed⟩, _, rfl, rfl, rfl⟩
      | error raised => exact .inr ⟨fun both => (by cases both.1), raised, _, rfl⟩

theorem settle_spec (completed : s.run = .completed) :
    ((env.persistMemory = .ok ⟨⟩ ∧ env.externalActions = .ok ⟨⟩ ∧ s.Follows env) ∧
      ∃ after, exec (settle env) s = (.ok ⟨⟩, after) ∧ after.storedRun = .completed ∧ .completed ∈ after.hooks) ∨
    (¬ (env.persistMemory = .ok ⟨⟩ ∧ env.externalActions = .ok ⟨⟩ ∧ s.Follows env) ∧
      ∃ raised after, exec (settle env) s = (.error raised, after)) := by
  unfold settle
  cases persisted : env.persistMemory with
  | error raised => exact .inr ⟨fun all => (by cases all.1), raised, _, rfl⟩
  | ok _ =>
    cases acted : env.externalActions with
    | error raised => exact .inr ⟨fun all => (by cases all.2.1), raised, _, rfl⟩
    | ok _ =>
      let told : Session := { (s.commit env false).commit env false with hooks := s.hooks ++ [.completed] }
      obtain ⟨follows, after, ran, stored, hooks⟩ | ⟨stays, raised, after, ran⟩ := @afterHook_spec env told
      · refine .inl ⟨⟨rfl, rfl, follows⟩, after, ran, stored.trans completed, ?_⟩
        rw [hooks]
        exact List.mem_append_right _ (List.mem_singleton_self _)
      · exact .inr ⟨fun all => stays all.2.2, raised, after, ran⟩

theorem complete_spec :
    (Completes env mode s.task ∧
      ∃ after, exec (complete env mode) s = (.ok ⟨⟩, after) ∧ after.storedRun = .completed ∧ .completed ∈ after.hooks) ∨
    (¬ Completes env mode s.task ∧ ∃ raised after, exec (complete env mode) s = (.error raised, after)) := by
  obtain ⟨used, recorded, like⟩ := @emitWhere_alike env { s with run := .completed } env.usageCommits
  let stepped : Session := { used with atStep := false }
  have begun : exec (complete env mode) s = exec (do closeTaskOf env mode; settle env) stepped := by
    unfold complete
    rw [exec_bind_ok exec_setRun, exec_bind_ok (show exec (recordUsage env) _ = _ from recorded), exec_bind_ok (exec_modify _ _)]
    rfl
  have same : stepped.task = s.task := like.task
  rw [begun]
  cases held : s.task with
  | none =>
    have closed : exec (closeTaskOf env mode) stepped = (.ok ⟨⟩, stepped) := exec_whenTask.trans (by rw [same, held])
    rw [exec_bind_ok closed]
    obtain ⟨⟨persisted, acted, _⟩, ended⟩ | ⟨stays, ended⟩ := @settle_spec env stepped like.run
    · exact .inl ⟨⟨persisted, acted, fun _ there => by cases there⟩, ended⟩
    · refine .inr ⟨fun all => stays ⟨all.1, all.2.1, fun task there => ?_⟩, ended⟩
      cases (same.trans held).symm.trans there
  | some task =>
    obtain ⟨status, closes, remembered, after, closed, run, hooks, now⟩ | ⟨open_, raised, after, refused⟩ :=
      @closeTaskOf_spec env mode stepped task (same.trans held)
    · rw [exec_bind_ok closed]
      have follows : after.Follows env ↔ task.Closable env mode := by
        constructor
        · intro follows
          obtain ⟨escalated, closing⟩ := follows _ now
          exact ⟨remembered, escalated, status, closes, closing⟩
        · intro closable held there
          obtain ⟨_, escalated, other, same, closing⟩ := closable
          simp_all
      obtain ⟨⟨persisted, acted, follow⟩, ended⟩ | ⟨stays, ended⟩ := @settle_spec env after (run.trans like.run)
      · refine .inl ⟨⟨persisted, acted, fun other there => ?_⟩, ended⟩
        cases there
        exact follows.mp follow
      · exact .inr ⟨fun all => stays ⟨all.1, all.2.1, follows.mpr (all.2.2 task rfl)⟩, ended⟩
    · exact .inr ⟨fun all => open_ (all.2.2 task rfl), raised, after, exec_bind_error refused⟩

theorem begun_of_accepted (task : Task) :
    some task.begun = ((some task).map fun task => if task.status ∈ ["queued"] then { task with status := "planned" } else task).map
      fun task => if task.status ∈ ["planned", "blocked"] then { task with status := "in_progress" } else task := by
  unfold Task.begun
  by_cases queued : task.status = "queued" <;> simp [queued]

end Lemmas

open Prog in
/-- An accepted run ends honestly exactly when nothing around its mode handler raises and its task can make the closing
    transition, whatever the users do to the task meanwhile. -/
theorem execute_ends_honestly_iff (env : Surroundings) (mode : RunMode) (edited : Option String) (task : Task) :
    HonestEnd (env.handler mode (some (task.accepted edited).begun)).1
        (exec (executeRun env mode) (.accepted (task.accepted edited))) ↔
      Closes env mode (task.accepted edited) := by
  let accepted := Session.accepted (task.accepted edited)
  have claimed : exec (executeRun env mode) accepted = exec (do
      start env .queued
      catching (do executeMode env mode; complete env mode) (recover env)) accepted := rfl
  change HonestEnd _ (exec (executeRun env mode) accepted) ↔ _
  rw [claimed]
  unfold Closes
  cases ready : env.setup with
  | error error =>
    obtain ⟨after, refused⟩ := @start_raises env accepted .queued error ready
    rw [exec_bind_error refused]
    exact ⟨fun honest => (by cases honest.1), fun closes => (by cases closes.1)⟩
  | ok _ =>
    obtain ⟨started, ran, _, held⟩ := @start_spec env accepted .queued ready
    obtain ⟨ended, worked, left, _⟩ := @executeMode_spec env mode started (some (task.accepted edited).begun)
      (by rw [held]; exact begun_of_accepted _)
    rw [exec_bind_ok ran, exec_catching, exec_bind, worked]
    unfold Surroundings.outcome
    cases handled : env.handler mode (some (task.accepted edited).begun) with
    | mk result kept =>
      rw [handled] at left
      have same : ended.task = kept := left
      cases result with
      | error error =>
        dsimp only
        obtain ⟨follows, after, recovered, stored, told⟩ | ⟨⟨there, is, stays⟩, raised, after, refused⟩ :=
          @recover_spec env ended error
        · rw [recovered]
          refine ⟨fun _ => ⟨rfl, fun task there => follows task (same.trans there)⟩, fun _ => ⟨rfl, ?_⟩⟩
          cases error with
          | blockedExecution reason => exact stored
          | other detail => exact ⟨stored, told rfl⟩
        · rw [refused]
          refine ⟨fun honest => (by cases honest.1), fun closes => ?_⟩
          exact absurd (closes.2 there (same.symm.trans is)) stays
      | ok _ =>
        dsimp only
        cases format : env.invalidFormat with
        | some format =>
          dsimp only
          refine ⟨fun honest => ?_, fun closes => (by cases closes.2.1)⟩
          obtain ⟨_, after, recovered, stored, _⟩ | ⟨_, raised, after, refused⟩ :=
            @recover_spec env ended (.blockedExecution "Output validation failed")
          · rw [recovered] at honest
            cases stored.symm.trans honest.2.1
          · rw [refused] at honest
            cases honest.1
        | none =>
          dsimp only
          rw [← same]
          obtain ⟨completes, after, completed, stored, told⟩ | ⟨stays, error, middle, raised⟩ := @complete_spec env mode ended
          · rw [completed]
            exact ⟨fun _ => ⟨rfl, rfl, completes⟩, fun _ => ⟨rfl, stored, told⟩⟩
          · rw [raised]
            dsimp only
            refine ⟨fun honest => ?_, fun closes => absurd closes.2.2 stays⟩
            obtain ⟨_, after, recovered, stored, _⟩ | ⟨_, again, after, refused⟩ := @recover_spec env middle error
            · rw [recovered] at honest
              have different : error.status ≠ .completed := by
                cases error <;> exact RunStatus.noConfusion
              exact absurd (stored.symm.trans honest.2.1) different
            · rw [refused] at honest
              cases honest.1

def quiet : Surroundings where
  edit _ := none
  setup := .ok ⟨⟩
  compresses := false
  signalled := false
  handler _ task := (.ok ⟨⟩, task)
  leavesStep := false
  invalidFormat := none
  usageCommits := false
  remember := .ok ⟨⟩
  persistMemory := .ok ⟨⟩
  externalActions := .ok ⟨⟩
  closeMemory := .ok ⟨⟩
  escalation := .ok ⟨⟩

/-- The run of a task that is `ready` succeeds, cannot close the task as completed, cannot fail it either, and is left in
    progress by an exception. -/
theorem ready_task_holds_its_run :
    let ended := Prog.exec (executeRun quiet .singleAgent) (.accepted (Task.accepted none ⟨"ready", false⟩))
    ended.1 = .error (.other "Invalid task transition") ∧ ended.2.storedRun = .inProgress ∧
      ¬ HonestEnd (quiet.handler .singleAgent (some (Task.accepted none ⟨"ready", false⟩).begun)).1 ended := by
  have ran : Prog.exec (executeRun quiet .singleAgent) (.accepted (Task.accepted none ⟨"ready", false⟩)) =
      (.error (.other "Invalid task transition"),
        ⟨.failed, some ⟨"ready", false⟩, .inProgress, some "ready", 1, false, []⟩) := by rfl
  refine ⟨congrArg Prod.fst ran, congrArg (fun ended => ended.2.storedRun) ran, fun honest => ?_⟩
  have returned := honest.1
  simp [ran] at returned

end Troop.Execution
