import Troop.Workflow.Machine

namespace Troop.Workflow

open List

variable {env : Env} {terms : Terms}

def Drawn (env : Env) (w : World) (id : String) : Prop := ∃ k < w.drawn, id = env.uuid4 k

variable {stack : List Activation} {change : WorkflowRun → WorkflowRun} {activation : Activation} {w : World}
  {version : WorkflowVersion} {run : WorkflowRun} {id : String} {runs : Dict WorkflowRun} {before after : Machine}

theorem Drawn.mono {w w' : World} (drawn : Drawn env w id) (more : w.drawn ≤ w'.drawn) :
    Drawn env w' id := by
  obtain ⟨k, below, rfl⟩ := drawn
  exact ⟨k, by omega, rfl⟩

theorem Drawn.fresh (drawn : Drawn env w id) : id ≠ env.uuid4 w.drawn := by
  obtain ⟨k, below, rfl⟩ := drawn
  intro same
  have := env.uuid4_injective same
  omega

def RowsSound (env : Env) (w : World) (runs : Dict WorkflowRun) : Prop :=
  ∀ id row, runs.get? id = some row → row.id = id ∧ Drawn env w id

theorem RowsSound.mono {w w' : World} (sound : RowsSound env w runs)
    (more : w.drawn ≤ w'.drawn) : RowsSound env w' runs :=
  fun id row found => ⟨(sound id row found).1, (sound id row found).2.mono more⟩

def identity (run : WorkflowRun) : String × String × String := (run.id, run.workflowId, run.workflowVersionId)

theorem identity_id {a b : WorkflowRun} (same : identity a = identity b) : a.id = b.id := congrArg Prod.fst same

theorem RowsSound.modify (sound : RowsSound env w runs) (same : ∀ row, identity (change row) = identity row) :
    RowsSound env w (runs.modify id change) := by
  intro other row found
  rw [Dict.get?_modify] at found
  cases stored : runs.get? other with
  | none => simp [stored] at found
  | some old =>
    have known := sound other old stored
    simp only [stored, Option.map_some] at found
    refine ⟨?_, known.2⟩
    split at found
    · cases found
      exact (identity_id (same old)).trans known.1
    · simp_all

def Occupied (w : World) (activation : Activation) : Prop :=
  ∃ row, w.db.runs.get? activation.frame.run.id = some row ∧ row.status.resumable = false ∧
    identity row = identity activation.frame.run

structure Sound (env : Env) (machine : Machine) : Prop where
  rows : RowsSound env machine.1 machine.1.db.runs
  saved : RowsSound env machine.1 machine.1.committed.runs
  occupied : ∀ activation ∈ machine.2, Occupied machine.1 activation
  apart : (machine.2.map fun activation => activation.frame.run.id).Nodup
  events : ∀ event ∈ machine.1.log, Drawn env machine.1 event.run
  history : machine.1.db.history ⊆ machine.1.log
  savedHistory : machine.1.committed.history ⊆ machine.1.log

theorem Occupied.changeRun_ne (occupied : Occupied w activation) (other : activation.frame.run.id ≠ id) :
    Occupied (w.changeRun id change) activation := by
  obtain ⟨row, found, status⟩ := occupied
  refine ⟨row, ?_, status⟩
  simp [World.changeRun, Dict.get?_modify, found, Ne.symm other]

theorem Occupied.changeRun (occupied : Occupied w activation) (same : ∀ row, identity (change row) = identity row)
    (keeps : ∀ row : WorkflowRun, row.status.resumable = false → (change row).status.resumable = false) :
    Occupied (w.changeRun id change) activation := by
  obtain ⟨row, found, status, mine⟩ := occupied
  by_cases here : id = activation.frame.run.id
  · exact ⟨change row, by simp [World.changeRun, Dict.get?_modify, found, here], keeps row status,
      (same row).trans mine⟩
  · exact ⟨row, by simp [World.changeRun, Dict.get?_modify, found, here], status, mine⟩

theorem Sound.activation_drawn
    (sound : Sound env (w, stack)) (member : activation ∈ stack) : Drawn env w activation.frame.run.id := by
  obtain ⟨row, found, _⟩ := sound.occupied activation member
  exact (sound.rows _ row found).2

theorem Sound.waiting_apart (sound : Sound env (w, stack)) (waiting : Waiting w run version) :
    ∀ activation ∈ stack, activation.frame.run.id ≠ run.id := by
  intro activation member same
  obtain ⟨row, found, status, _⟩ := sound.occupied activation member
  rw [same, waiting.row] at found
  cases found
  simp [waiting.status] at status

theorem Sound.record (sound : Sound env (w, stack)) (event : Event)
    (drawn : Drawn env w event.run) : Sound env (w.record event, stack) where
  rows := sound.rows
  saved := sound.saved
  occupied := sound.occupied
  apart := sound.apart
  events := by
    intro other member
    rcases mem_cons.mp member with rfl | member
    · exact drawn
    · exact sound.events other member
  history := cons_subset_cons _ sound.history
  savedHistory := subset_cons_of_subset _ sound.savedHistory

theorem Sound.restack {stack stack' : List Activation} (sound : Sound env (w, stack))
    (same : stack'.map (fun activation => identity activation.frame.run) =
      stack.map fun activation => identity activation.frame.run) :
    Sound env (w, stack') where
  rows := sound.rows
  saved := sound.saved
  occupied := by
    intro activation member
    have known : identity activation.frame.run ∈ stack.map fun activation => identity activation.frame.run :=
      same ▸ mem_map_of_mem member
    obtain ⟨other, there, named⟩ := mem_map.mp known
    obtain ⟨row, found, status, mine⟩ := sound.occupied other there
    exact ⟨row, identity_id named ▸ found, status, mine.trans named⟩
  apart := by
    have ids := congrArg (map Prod.fst) same
    simp only [map_map] at ids
    exact ids.symm ▸ sound.apart
  events := sound.events
  history := sound.history
  savedHistory := sound.savedHistory

theorem Sound.changeRun (sound : Sound env (w, stack)) (id : String)
    (change : WorkflowRun → WorkflowRun) (same : ∀ row, identity (change row) = identity row)
    (occupied : ∀ activation ∈ stack, Occupied (w.changeRun id change) activation) :
    Sound env (w.changeRun id change, stack) where
  rows := sound.rows.modify same
  saved := sound.saved
  occupied := occupied
  apart := sound.apart
  events := sound.events
  history := sound.history
  savedHistory := sound.savedHistory

theorem Sound.pop (sound : Sound env (w, activation :: stack)) : Sound env (w, stack) where
  rows := sound.rows
  saved := sound.saved
  occupied := fun other member => sound.occupied other (mem_cons_of_mem _ member)
  apart := (nodup_cons.mp sound.apart).2
  events := sound.events
  history := sound.history
  savedHistory := sound.savedHistory

theorem Sound.below (sound : Sound env (w, activation :: stack)) :
    ∀ other ∈ stack, other.frame.run.id ≠ activation.frame.run.id := by
  intro other member same
  exact (nodup_cons.mp sound.apart).1 (mem_map.mpr ⟨other, member, same⟩)

theorem Sound.leave (sound : Sound env (w, activation :: stack)) (same : ∀ row, identity (change row) = identity row) :
    Sound env (w.changeRun activation.frame.run.id change, stack) :=
  sound.pop.changeRun _ _ same fun other member =>
    (sound.occupied other (mem_cons_of_mem _ member)).changeRun_ne (sound.below other member)

theorem Sound.push (sound : Sound env (w, stack))
    (occupied : Occupied w activation) (apart : ∀ other ∈ stack, other.frame.run.id ≠ activation.frame.run.id) :
    Sound env (w, activation :: stack) where
  rows := sound.rows
  saved := sound.saved
  occupied := by
    intro other member
    rcases mem_cons.mp member with rfl | member
    · exact occupied
    · exact sound.occupied other member
  apart := by
    refine nodup_cons.mpr ⟨fun member => ?_, sound.apart⟩
    obtain ⟨other, there, named⟩ := mem_map.mp member
    exact apart other there named
  events := sound.events
  history := sound.history
  savedHistory := sound.savedHistory

theorem created_row (env : Env) (new : NewRun) (definition : WorkflowDefinition) (version : WorkflowVersion) (w : World) :
    (w.create env new definition version).db.runs.get? (env.uuid4 w.drawn) =
      some (startedRow (env.uuid4 w.drawn) new definition version) := by
  simp [World.create, World.record, startedRow]

theorem Sound.create (sound : Sound env (w, stack)) (new : NewRun)
    (definition : WorkflowDefinition) (version : WorkflowVersion) :
    Sound env (w.create env new definition version, stack) := by
  have more : w.drawn ≤ (w.create env new definition version).drawn := Nat.le_succ _
  have mine : Drawn env (w.create env new definition version) (env.uuid4 w.drawn) := ⟨w.drawn, Nat.lt_succ_self _, rfl⟩
  refine ⟨?_, sound.saved.mono more, ?_, sound.apart, ?_, cons_subset_cons _ sound.history,
    subset_cons_of_subset _ sound.savedHistory⟩
  · intro id row found
    simp only [World.create, World.record, Dict.get?_set] at found
    split at found
    · rename_i here
      cases found
      exact ⟨here, here ▸ mine⟩
    · exact ⟨(sound.rows id row found).1, (sound.rows id row found).2.mono more⟩
  · intro activation member
    obtain ⟨row, found, rest⟩ := sound.occupied activation member
    refine ⟨row, ?_, rest⟩
    have old := (sound.activation_drawn member).fresh
    simp [World.create, World.record, Dict.get?_set, startedRow, Ne.symm old, found]
  · intro event member
    rcases mem_cons.mp member with rfl | member
    · exact mine
    · exact (sound.events event member).mono more

variable (frame : Frame)

@[simp] theorem pausedRow_identity (cursor : String) (status : RunStatus) (row : WorkflowRun) :
    identity (pausedRow frame cursor status row) = identity row := rfl

@[simp] theorem failedRow_identity (result : Dict Json) (row : WorkflowRun) :
    identity (failedRow frame result row) = identity row := rfl

@[simp] theorem movedRow_identity (row : WorkflowRun) :
    identity (movedRow frame row) = identity row := by
  unfold movedRow
  split <;> rfl

@[simp] theorem leftRow_identity (row : WorkflowRun) : identity (leftRow frame row) = identity row := by
  unfold leftRow
  split <;> rfl

@[simp] theorem missingRow_identity (cursor : String) (row : WorkflowRun) :
    identity (missingRow cursor row) = identity row := rfl

@[simp] theorem resumedRow_identity (vars : Dict Json) (row : WorkflowRun) :
    identity (resumedRow vars row) = identity row := rfl

@[simp] theorem rejectedRow_identity (continuation : Continuation) (rejection : Rejection) (vars : Dict Json)
    (row : WorkflowRun) : identity (rejectedRow continuation rejection vars row) = identity row := by
  cases continuation <;> rfl

theorem movedRow_occupied (row : WorkflowRun) (status : row.status.resumable = false) :
    (movedRow frame row).status.resumable = false := by
  unfold movedRow
  split
  · rfl
  · exact status

theorem Waiting.kept {w w' : World} (waiting : Waiting w run version)
    (runs : w'.db.runs = w.db.runs) (versions : w'.db.versions = w.db.versions) : Waiting w' run version :=
  ⟨runs ▸ waiting.row, waiting.status, versions ▸ waiting.version⟩

theorem Waiting.changed (waiting : Waiting w run version) :
    (w.changeRun run.id change).db.runs.get? run.id = some (change run) := by
  simp [World.changeRun, Dict.get?_modify, waiting.row]

theorem Sound.take (sound : Sound env (w, stack))
    (waiting : Waiting w run version) (same : ∀ row, identity (change row) = identity row)
    (running : (change run).status.resumable = false) (named : identity activation.frame.run = identity run) :
    Sound env (w.changeRun run.id change, activation :: stack) := by
  refine (sound.changeRun _ _ same fun other member => ?_).push ?_ ?_
  · exact (sound.occupied other member).changeRun_ne (sound.waiting_apart waiting other member)
  · exact ⟨change run, identity_id named ▸ waiting.changed, running, (same run).trans named.symm⟩
  · exact fun other member => identity_id named ▸ sound.waiting_apart waiting other member

theorem Sound.initial : Sound env ({}, []) := by
  refine ⟨?_, ?_, by simp, nodup_nil, by simp, nil_subset _, nil_subset _⟩ <;>
    exact fun id row found => by cases found

theorem Sound.step (sound : Sound env before) (step : Step env terms before after) :
    Sound env after := by
  cases step with
  | aside w stack drawn approvals taskRuns children outputs =>
    have more : w.drawn ≤ (w.aside drawn approvals taskRuns children).drawn := Nat.le_add_right _ _
    exact ⟨sound.rows.mono more, sound.saved.mono more, sound.occupied, sound.apart,
      fun event member => (sound.events event member).mono more, sound.history, sound.savedHistory⟩
  | commit w stack =>
    exact ⟨sound.rows, sound.rows, sound.occupied, sound.apart, sound.events, sound.history, sound.history⟩
  | rollback w =>
    exact ⟨sound.saved, sound.saved, by simp, nodup_nil, sound.events, sound.savedHistory, sound.savedHistory⟩
  | changed w change possible fits same =>
    have kept : ∀ db : Db, (change.apply db).runs = db.runs ∧ (change.apply db).history = db.history := by
      intro db
      cases change <;> exact ⟨rfl, rfl⟩
    refine ⟨?_, ?_, by simp, nodup_nil, sound.events, ?_, ?_⟩
    · exact (kept w.db).1 ▸ sound.rows
    · exact (kept w.committed).1 ▸ sound.saved
    · exact (kept w.db).2 ▸ sound.history
    · exact (kept w.committed).2 ▸ sound.savedHistory
  | tick w now =>
    exact ⟨sound.rows, sound.saved, sound.occupied, sound.apart, sound.events, sound.history, sound.savedHistory⟩
  | start w new definition version resolved fits root =>
    refine (sound.create new definition version).push ?_ (by simp)
    exact ⟨_, created_row env new definition version w, rfl, rfl⟩
  | startChild w frame budget visit stack cursor key workflowId node childNode config input definition version here
      found type place read named given resolved =>
    have created := sound.create (childRequest frame.run workflowId input) definition version
    have reported := created.record (.childStarted frame.run.id cursor key (env.uuid4 w.drawn))
      (created.activation_drawn mem_cons_self)
    refine Sound.push (reported.restack rfl) ?_ ?_
    · exact ⟨_, created_row env (childRequest frame.run workflowId input) definition version w, rfl, rfl⟩
    · intro other member
      rcases mem_cons.mp member with rfl | member
      · exact (sound.activation_drawn mem_cons_self).fresh
      · exact (sound.activation_drawn (mem_cons_of_mem _ member)).fresh
  | exceeded w frame stack => exact Sound.pop (sound.record _ (sound.activation_drawn mem_cons_self))
  | consume w stack run version id approval tool pendingTool waiting checked =>
    exact sound.record _ (sound.rows _ _ waiting.row).2
  | resume w stack run version vars waiting granted => exact sound.take waiting (fun _ => rfl) rfl rfl
  | reject w stack run version approval rejection continuation waiting status rejected stops =>
    refine Sound.record (sound.changeRun _ _ (by simp) fun other member => ?_) _ (sound.rows _ _ waiting.row).2
    exact (sound.occupied other member).changeRun_ne (sound.waiting_apart waiting other member)
  | reroute w stack run version approval rejection config target waiting status rejected read routed =>
    exact (sound.take waiting (by simp) rfl rfl).record _ (sound.rows _ _ waiting.row).2
  | visit w frame budget stack cursor node here =>
    exact (sound.record (.stepStarted ..) (sound.activation_drawn mem_cons_self)).restack rfl
  | report w frame budget visit stack cursor node event here reports =>
    exact (sound.record event (reports.run ▸ sound.activation_drawn mem_cons_self)).restack rfl
  | branch w frame budget visit visit' stack cursor node here changed => exact sound.restack rfl
  | pause w frame budget visit stack cursor node outcome status here effect stops =>
    exact (sound.record (.stepFinished ..) (sound.activation_drawn mem_cons_self)).leave (by simp)
  | fail w frame budget visit stack cursor node outcome here effect goes failed =>
    exact (sound.record (.stepFinished ..) (sound.activation_drawn mem_cons_self)).leave (by simp)
  | move w frame budget visit stack cursor node outcome here effect goes passed =>
    refine ((sound.record (.stepFinished ..) (sound.activation_drawn mem_cons_self)).changeRun _ _
      (by simp) fun other member => ?_).restack rfl
    exact (sound.occupied other member).changeRun (by simp) (movedRow_occupied _)
  | missing w frame budget stack cursor given named absent =>
    have failed := sound.changeRun frame.run.id (missingRow cursor) (fun _ => rfl)
      fun other member => (sound.occupied other member).changeRun (fun _ => rfl) fun _ _ => rfl
    exact failed.leave (by simp)
  | exhausted w frame budget stack cursor given named =>
    exact (sound.record (.stepBudgetExhausted ..) (sound.activation_drawn mem_cons_self)).leave (by simp)
  | ended w frame budget stack exhausted => exact sound.leave (by simp)
  | abandon w activation stack => exact sound.pop

theorem Sound.steps (sound : Sound env before) (steps : Steps env terms before after) :
    Sound env after := by
  induction steps with
  | refl => exact sound
  | tail _ step ih => exact ih.step step

theorem Reachable.sound {machine : Machine} (reachable : Reachable env terms machine) : Sound env machine :=
  Sound.initial.steps reachable

end Troop.Workflow
