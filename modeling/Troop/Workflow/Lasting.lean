import Troop.Workflow.Stranded

namespace Troop.Workflow

open List

variable {env : Env} {terms : Terms} {w after : World} {run : WorkflowRun} {version : WorkflowVersion}

/-- What a run was started as. -/
def origin (run : WorkflowRun) : (String × String × String) × Option String × Option String × Option String :=
  (identity run, run.projectId, run.taskId, run.createdBy)

def Lasts (row : WorkflowRun) (runs : Dict WorkflowRun) : Prop :=
  ∃ now, runs.get? row.id = some now ∧ origin now = origin row ∧ (row.status.resumable = false → now = row)

/-- The row stays, in the session and as committed; where it does not wait, no activation is at it. -/
structure Lasting (row : WorkflowRun) (machine : Machine) : Prop where
  stored : Lasts row machine.1.db.runs
  saved : Lasts row machine.1.committed.runs
  apart : row.status.resumable = false → ∀ activation ∈ machine.2, activation.frame.run.id ≠ row.id

variable {row : WorkflowRun}

theorem Lasts.changeRun {id : String} {change : WorkflowRun → WorkflowRun} (lasts : Lasts row w.db.runs)
    (same : ∀ run, origin (change run) = origin run) (apart : row.status.resumable = false → id ≠ row.id) :
    Lasts row (w.changeRun id change).db.runs := by
  obtain ⟨now, found, began, kept⟩ := lasts
  by_cases here : id = row.id
  · refine ⟨change now, ?_, (same now).trans began, fun ended => absurd here (apart ended)⟩
    simp [World.changeRun, Dict.get?_modify, found, here]
  · exact ⟨now, (get?_changeRun_ne here).trans found, began, kept⟩

theorem Lasts.create (lasts : Lasts row w.db.runs) (drawn : Drawn env w row.id) (new : NewRun)
    (definition : WorkflowDefinition) (version : WorkflowVersion) : Lasts row (w.create env new definition version).db.runs := by
  obtain ⟨now, found, kept⟩ := lasts
  exact ⟨now, (get?_create_ne drawn).trans found, kept⟩

theorem Lasts.waits (lasts : Lasts row w.db.runs) (waiting : Waiting w run version) (ended : row.status.resumable = false) :
    run.id ≠ row.id := by
  intro same
  obtain ⟨now, found, -, kept⟩ := lasts
  have read := waiting.row
  rw [same, found, kept ended] at read
  rw [Option.some.inj read, waiting.status] at ended
  cases ended

theorem rejectedRow_origin (continuation : Continuation) (rejection : Rejection) (vars : Dict Json) (run : WorkflowRun) :
    origin (rejectedRow continuation rejection vars run) = origin run := by
  cases continuation <;> rfl

theorem movedRow_origin (frame : Frame) (run : WorkflowRun) : origin (movedRow frame run) = origin run := by
  unfold movedRow
  split <;> rfl

theorem leftRow_origin (frame : Frame) (run : WorkflowRun) : origin (leftRow frame run) = origin run := by
  unfold leftRow
  split <;> rfl

theorem Lasting.step {before after : Machine} (lasting : Lasting row before) (sound : Sound env before)
    (step : Step env terms before after) : Lasting row after := by
  obtain ⟨stored, saved, apart⟩ := lasting
  have drawn : Drawn env before.1 row.id := by
    obtain ⟨now, found, -⟩ := stored
    exact (sound.rows _ _ found).2
  cases step with
  | aside | tick | consume => exact ⟨stored, saved, apart⟩
  | commit => exact ⟨stored, stored, apart⟩
  | rollback => exact ⟨saved, saved, apart⟩
  | changed w change possible fits same =>
    have runs : ∀ db : Db, (change.apply db).runs = db.runs := by
      intro db
      cases change <;> rfl
    exact ⟨(runs _).symm ▸ stored, (runs _).symm ▸ saved, apart⟩
  | start w new definition version resolved fits root =>
    refine ⟨stored.create drawn _ _ _, saved, fun _ => forall_mem_singleton.mpr ?_⟩
    exact drawn.fresh.symm
  | startChild w frame budget visit stack cursor key workflowId node childNode config input definition version here
      found type place read named given resolved =>
    refine ⟨stored.create drawn _ _ _, saved, fun ended => forall_mem_cons.mpr ⟨drawn.fresh.symm, ?_⟩⟩
    exact forall_mem_cons.mpr (forall_mem_cons.mp (apart ended))
  | exceeded | abandon => exact ⟨stored, saved, fun ended => (forall_mem_cons.mp (apart ended)).2⟩
  | visit | report | branch => exact ⟨stored, saved, fun ended => forall_mem_cons.mpr (forall_mem_cons.mp (apart ended))⟩
  | resume w stack run version vars waiting granted =>
    have other := stored.waits waiting
    exact ⟨stored.changeRun (fun _ => rfl) other, saved, fun ended => forall_mem_cons.mpr ⟨other ended, apart ended⟩⟩
  | reject w stack run version approval rejection continuation waiting =>
    exact ⟨stored.changeRun (rejectedRow_origin _ _ _) (stored.waits waiting), saved, apart⟩
  | reroute w stack run version approval rejection config target waiting =>
    have other := stored.waits waiting
    exact ⟨stored.changeRun (fun _ => rfl) other, saved, fun ended => forall_mem_cons.mpr ⟨other ended, apart ended⟩⟩
  | pause | fail =>
    exact ⟨stored.changeRun (fun _ => rfl) fun ended => (forall_mem_cons.mp (apart ended)).1, saved,
      fun ended => (forall_mem_cons.mp (apart ended)).2⟩
  | move =>
    exact ⟨stored.changeRun (movedRow_origin _) fun ended => (forall_mem_cons.mp (apart ended)).1, saved,
      fun ended => forall_mem_cons.mpr (forall_mem_cons.mp (apart ended))⟩
  | missing w frame budget stack cursor given named absent =>
    have missing : Lasts row (w.changeRun frame.run.id (missingRow cursor)).db.runs :=
      stored.changeRun (fun _ => rfl) fun ended => (forall_mem_cons.mp (apart ended)).1
    exact ⟨missing.changeRun (leftRow_origin _) fun ended => (forall_mem_cons.mp (apart ended)).1, saved,
      fun ended => (forall_mem_cons.mp (apart ended)).2⟩
  | exhausted | ended =>
    exact ⟨stored.changeRun (leftRow_origin _) fun ended => (forall_mem_cons.mp (apart ended)).1, saved,
      fun ended => (forall_mem_cons.mp (apart ended)).2⟩

/-- No request, hook, wake-up or change made elsewhere deletes a run or makes it another's; a run that does not wait (it is completed,
    failed or cancelled, or was left running) is never written again. -/
theorem runs_last (ran : Run env terms w) {labels : List Label} (possible : Possible env terms labels w)
    (found : w.db.runs.get? row.id = some row) : Lasts row (w.after env labels).db.runs := by
  have lasting : Lasts row w.db.runs := ⟨row, found, rfl, fun _ => rfl⟩
  clear found
  induction labels generalizing w with
  | nil => exact lasting
  | cons label rest ih =>
    obtain ⟨enabled, fits, possible⟩ := possible
    refine ih (ran.step enabled fits) possible ?_
    obtain ⟨reachable, same⟩ := ran.reachable
    have steps := (Label.next_follows reachable.sound .refl same enabled fits).1
    have kept : ∀ machine, Steps env terms (w, []) machine → Lasting row machine := by
      intro machine reached
      induction reached with
      | refl => exact ⟨lasting, same ▸ lasting, fun _ _ none => absurd none not_mem_nil⟩
      | tail earlier step ih => exact ih.step (reachable.sound.steps earlier) step
    exact (kept _ steps).stored

def rungWorld : World := (bellWorld []).after stillEnv [.start (startOf "bell" []) "dev"]

def rungRow : WorkflowRun := (rungWorld.db.runs.get? "r").getD default

theorem completed_run_lasts : rungRow.status = .completed ∧
    Lasts rungRow (rungWorld.after stillEnv [.resume "owner" "r" .plain, .reject "owner" "r" "a"]).db.runs := by
  have ran : Run stillEnv .any rungWorld := (bellWorld_run []).after ⟨trivial, trivial, trivial⟩
  refine ⟨by decide +kernel, runs_last ran ⟨trivial, trivial, trivial, trivial, trivial⟩ ?_⟩
  decide +kernel

end Troop.Workflow
