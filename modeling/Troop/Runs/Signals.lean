import Mathlib.Data.List.Nodup
import Mathlib.Logic.Function.Basic
import Troop.Execution.Lifecycle
import Troop.Runs.Checkpoint

namespace Troop.Runs.Signals

open Execution (RunStatus)
open Systems (Reaches runWhere)
open List

inductive Session where
  | signalling (base copy : Checkpoint) (id : Nat)
  /-- `execute_run`, with the signals that it has consumed since its last commit -/
  | working (base copy : Checkpoint) (consumed : List Nat)
deriving DecidableEq

/-- What `execute_run` does to its copy. -/
inductive Edit where
  | markStep (now stepId status : String) (error : Option String) (metadata : Dict Json)
  | setArtifact (now key : String) (value : Json)
  | updateQuerySnapshot (now : String) (data : Dict Json)
deriving DecidableEq

inductive Action where
  /-- `signal_run_workflow` up to its commit -/
  | signal (session : Nat) (now name : String) (payload : Dict Json) (userId : Option String)
  | accept (session : Nat)
  /-- `execute_run` up to the signals that it finds -/
  | claim (session : Nat) (now runId : String) (steps : List WorkflowStep) (data : Dict Json)
  | edit (session : Nat) (edit : Edit)
  /-- a commit of `execute_run`, with its result or without one -/
  | commit (session : Nat) (result : Option RunStatus)
  /-- the session returns, fails or crashes -/
  | leave (session : Nat)
  /-- another session commits a status: a resume, a cancellation, a recovery -/
  | move (status : RunStatus)
deriving DecidableEq

/-- One committed run with the lock of its row, and its sessions. `accepted` and `consumed` are the signals that a
    commit of `signal_run_workflow` and of `execute_run` has answered for, `recorded` the steps and artifacts that
    the last commit of `execute_run` left. -/
structure World where
  status : RunStatus
  stored : Checkpoint
  lock : Option Nat
  sessions : Nat → Option Session
  issued : Nat
  accepted : List Nat
  consumed : List Nat
  recorded : List WorkflowStep × Dict Json

def signalNames : List String := ["pause", "resume", "retry_step", "update_objective", "add_note"]

def Edit.apply (copy : Checkpoint) : Edit → Checkpoint
  | .markStep now stepId status error metadata =>
    { copy with workflow := copy.workflow.markStep now stepId status error metadata }
  | .setArtifact now key value => { copy with workflow := copy.workflow.setArtifact now key value }
  | .updateQuerySnapshot now data => { copy with workflow := copy.workflow.updateQuerySnapshot now data }

/-- The copy of `execute_run` once it has consumed the signals. -/
def claimed (stored : Checkpoint) (now runId : String) (steps : List WorkflowStep) (data : Dict Json) : Checkpoint :=
  let consumed := (stored.workflow.ensure steps).consumeSignalQueue now
  { executionThreadId := some runId
    workflow := consumed.1.updateQuerySnapshot now (data.set "signal_count" (.num consumed.2.length)) }

theorem Edit.apply_queue (copy : Checkpoint) (edit : Edit) :
    (edit.apply copy).workflow.signalQueue = copy.workflow.signalQueue := by
  cases edit <;> rfl

theorem claimed_queue (stored : Checkpoint) (now runId : String) (steps : List WorkflowStep) (data : Dict Json) :
    (claimed stored now runId steps data).workflow.signalQueue = [] :=
  WorkflowState.consumeSignalQueue_queue now

namespace World

def start (status : RunStatus) (checkpoint : Checkpoint) : World :=
  { status, stored := { checkpoint with workflow := { checkpoint.workflow with signalQueue := [] } }, lock := none
    sessions := fun _ => none, issued := 0, accepted := [], consumed := []
    recorded := (checkpoint.workflow.steps, checkpoint.workflow.artifacts) }

variable (w : World)

def setSession (session : Nat) (held : Option Session) : World :=
  { w with sessions := Function.update w.sessions session held }

def queued : List Nat := w.stored.workflow.signalQueue.map Signal.id

def step : Action → Option World
  | .signal session now name payload userId =>
    if name ∈ signalNames ∧ w.sessions session = none then
      let workflow := w.stored.workflow.enqueueSignal now w.issued name payload userId
      some { w.setSession session (some (.signalling w.stored { w.stored with workflow } w.issued)) with
        issued := w.issued + 1 }
    else none
  | .accept session =>
    match w.sessions session with
    | some (.signalling _ copy id) =>
      if w.lock = none then some { w.setSession session none with stored := copy, accepted := w.accepted ++ [id] }
      else none
    | _ => none
  | .claim session now runId steps data =>
    if w.status.isExecutionClaimable ∧ w.lock = none ∧ w.sessions session = none then
      some { w.setSession session (some (.working w.stored (claimed w.stored now runId steps data) w.queued)) with
        lock := some session }
    else none
  | .edit session edit =>
    match w.sessions session with
    | some (.working base copy consumed) => some (w.setSession session (some (.working base (edit.apply copy) consumed)))
    | _ => none
  | .commit session result =>
    match w.sessions session with
    | some (.working base copy consumed) =>
      if (w.lock = none ∨ w.lock = some session) ∧ result.all (· ∈ [RunStatus.completed, .failed, .blocked]) then
        some { w.setSession session (some (.working copy copy [])) with
          status := result.getD (if w.lock = some session then .inProgress else w.status)
          -- the column is written when its value has changed
          stored := if copy = base then w.stored else copy
          recorded := if copy = base then w.recorded else (copy.workflow.steps, copy.workflow.artifacts)
          lock := none
          consumed := w.consumed ++ consumed }
      else none
    | _ => none
  | .leave session =>
    if w.sessions session = none then none
    else some { w.setSession session none with lock := if w.lock = some session then none else w.lock }
  | .move status => if w.lock = none then some { w with status } else none

/-- The signal waits in the stored queue, or exactly one `execute_run` has consumed it. -/
def Once (id : Nat) : Prop :=
  (id ∈ w.queued ∧ id ∉ w.consumed) ∨ (id ∉ w.queued ∧ w.consumed.count id = 1)

/-- A copy is committed over the queue that it was made from, and that of a signal over the steps and artifacts too. -/
def Current : Action → Prop
  | .accept session => ∀ base copy id, w.sessions session = some (.signalling base copy id) →
      w.stored.workflow.signalQueue = base.workflow.signalQueue ∧ w.stored.workflow.steps = base.workflow.steps ∧
        w.stored.workflow.artifacts = base.workflow.artifacts
  | .commit session _ => ∀ base copy consumed, w.sessions session = some (.working base copy consumed) →
      copy = base ∨ w.lock = some session ∨ w.stored.workflow.signalQueue = base.workflow.signalQueue
  | _ => True

variable {w} {after : World} {session other : Nat}

@[simp] theorem setSession_self (held : Option Session) : (w.setSession session held).sessions session = held :=
  Function.update_self _ _ _

theorem setSession_of_ne {held : Option Session} (different : other ≠ session) :
    (w.setSession session held).sessions other = w.sessions other := Function.update_of_ne different _ _

structure Pending (w : World) (base copy : Checkpoint) (id : Nat) : Prop where
  queue : copy.workflow.signalQueue.map Signal.id = base.workflow.signalQueue.map Signal.id ++ [id]
  steps : copy.workflow.steps = base.workflow.steps
  artifacts : copy.workflow.artifacts = base.workflow.artifacts
  issued : id < w.issued
  fresh : id ∉ w.queued ++ w.consumed

structure Executing (w : World) (session : Nat) (base copy : Checkpoint) (consumed : List Nat) : Prop where
  claiming : w.lock = some session → base = w.stored ∧ copy.workflow.signalQueue = [] ∧ consumed = w.queued
  committed : w.lock ≠ some session → copy.workflow.signalQueue = base.workflow.signalQueue ∧ consumed = []

structure Safe (w : World) : Prop where
  pending : ∀ session base copy id, w.sessions session = some (.signalling base copy id) → w.Pending base copy id
  executing : ∀ session base copy consumed, w.sessions session = some (.working base copy consumed) →
    w.Executing session base copy consumed
  distinct : ∀ session base copy other base' copy' id, w.sessions session = some (.signalling base copy id) →
    w.sessions other = some (.signalling base' copy' id) → session = other
  issued : ∀ id ∈ w.queued ++ w.consumed, id < w.issued
  nodup : (w.queued ++ w.consumed).Nodup
  accounted : ∀ id ∈ w.accepted, id ∈ w.queued ++ w.consumed
  recorded : (w.stored.workflow.steps, w.stored.workflow.artifacts) = w.recorded

variable {base copy : Checkpoint} {id : Nat}

theorem Safe.once (safe : w.Safe) (accepted : id ∈ w.accepted) : w.Once id := by
  have apart := nodup_append.mp safe.nodup
  rcases mem_append.mp (safe.accounted id accepted) with waiting | taken
  · exact .inl ⟨waiting, fun taken => apart.2.2 id waiting id taken rfl⟩
  · refine .inr ⟨fun waiting => apart.2.2 id waiting id taken rfl, ?_⟩
    exact count_eq_one_of_mem apart.2.1 taken

theorem Pending.apart (pending : w.Pending base copy id) :
    id ∉ w.queued ∧ id ∉ w.consumed := by
  have fresh := pending.fresh
  rwa [mem_append, not_or] at fresh

theorem Pending.later (pending : w.Pending base copy id) (issued : w.issued ≤ after.issued)
    (fresh : id ∉ after.queued ++ after.consumed) : after.Pending base copy id :=
  ⟨pending.queue, pending.steps, pending.artifacts, Nat.lt_of_lt_of_le pending.issued issued, fresh⟩

theorem Safe.of_session (safe : w.Safe) (session : Nat)
    (others : ∀ other, other ≠ session → after.sessions other = w.sessions other)
    (issued : w.issued ≤ after.issued)
    (mine : ∀ base copy id, after.sessions session = some (.signalling base copy id) → after.Pending base copy id ∧
      ∀ other base' copy' id', other ≠ session → w.sessions other = some (.signalling base' copy' id') → id' ≠ id)
    (works : ∀ base copy consumed, after.sessions session = some (.working base copy consumed) →
      after.Executing session base copy consumed)
    (spares : ∀ other base copy id, other ≠ session → w.sessions other = some (.signalling base copy id) →
      id ∉ after.queued ++ after.consumed)
    (works' : ∀ other base copy consumed, other ≠ session → w.Executing other base copy consumed →
      after.Executing other base copy consumed)
    (bounded : ∀ id ∈ after.queued ++ after.consumed, id < after.issued)
    (nodup : (after.queued ++ after.consumed).Nodup)
    (accounted : ∀ id ∈ after.accepted, id ∈ after.queued ++ after.consumed)
    (recorded : (after.stored.workflow.steps, after.stored.workflow.artifacts) = after.recorded) : after.Safe := by
  refine ⟨?_, ?_, ?_, bounded, nodup, accounted, recorded⟩
  · intro other base copy id held
    by_cases same : other = session
    · grind
    · rw [others other same] at held
      exact (safe.pending other base copy id held).later issued (spares other base copy id same held)
  · intro other base copy consumed held
    by_cases same : other = session
    · simp_all
    · rw [others other same] at held
      exact works' other base copy consumed same (safe.executing other base copy consumed held)
  · intro first base copy second base' copy' id held held'
    by_cases here : first = session
    · by_cases there : second = session
      · exact here.trans there.symm
      · grind
    · rw [others first here] at held
      by_cases there : second = session
      · grind
      · rw [others second there] at held'
        exact safe.distinct first base copy second base' copy' id held held'

theorem Executing.commits {consumed : List Nat} (executing : w.Executing session base copy consumed)
    (current : copy = base ∨ w.lock = some session ∨ w.stored.workflow.signalQueue = base.workflow.signalQueue) :
    ((if copy = base then w.stored else copy).workflow.signalQueue.map Signal.id ++ (w.consumed ++ consumed)).Perm
      (w.queued ++ w.consumed) := by
  by_cases locked : w.lock = some session
  · obtain ⟨stored, empty, taken⟩ := executing.claiming locked
    have queue : (if copy = base then w.stored else copy).workflow.signalQueue = [] := by
      split
      · simp_all
      · exact empty
    rw [queue, taken, map_nil, nil_append]
    exact perm_append_comm
  · obtain ⟨kept, taken⟩ := executing.committed locked
    have queue : (if copy = base then w.stored else copy).workflow.signalQueue = w.stored.workflow.signalQueue := by
      split
      · rfl
      rename_i changed
      rcases current with unchanged | mine | same
      · exact absurd unchanged changed
      · exact absurd mine locked
      · exact kept.trans same.symm
    rw [queue, taken, append_nil]
    exact Perm.refl _

theorem Safe.step {action : Action} (safe : w.Safe) (current : w.Current action) (stepped : w.step action = some after) :
    after.Safe := by
  cases action with
  | signal session now name payload userId =>
    dsimp only [World.step] at stepped
    split at stepped
    · cases stepped
      have fresh : w.issued ∉ w.queued ++ w.consumed := by
        intro member
        have less := safe.issued _ member
        omega
      apply safe.of_session session
      · intro other different
        exact setSession_of_ne different
      · exact Nat.le_succ _
      · intro base copy id held
        have shape := (setSession_self _).symm.trans held
        cases shape
        refine ⟨⟨?_, rfl, rfl, Nat.lt_succ_self _, fresh⟩, ?_⟩
        · simp [WorkflowState.enqueueSignal]
        · intro other base' copy' id' _ theirs same
          have less := (safe.pending other base' copy' id' theirs).issued
          omega
      · simp_all
      · intro other base copy id _ theirs
        exact (safe.pending other base copy id theirs).fresh
      · intro other base copy consumed _ executing
        exact ⟨executing.claiming, executing.committed⟩
      · intro id member
        exact Nat.lt_succ_of_lt (safe.issued id member)
      · exact safe.nodup
      · exact safe.accounted
      · exact safe.recorded
    · cases stepped
  | accept session =>
    dsimp only [World.step] at stepped
    split at stepped
    · rename_i base copy id held
      split at stepped
      · cases stepped
        have pending := safe.pending session base copy id held
        have same := current base copy id held
        have queued : copy.workflow.signalQueue.map Signal.id = w.queued ++ [id] := by
          rw [pending.queue, ← same.1]
          rfl
        have apart := pending.apart
        apply safe.of_session session
        · intro other different
          exact setSession_of_ne different
        · exact Nat.le_refl _
        · simp_all
        · simp_all
        · intro other base' copy' id' different theirs member
          have fresh := (safe.pending other base' copy' id' theirs).apart
          rcases mem_append.mp member with waiting | taken
          · rw [World.queued, queued] at waiting
            rcases mem_append.mp waiting with before | here
            · exact fresh.1 before
            · rw [mem_singleton.mp here] at theirs
              exact different (safe.distinct other base' copy' session base copy id theirs held)
          · exact fresh.2 taken
        · intro other base copy consumed _ executing
          have unlocked : w.lock ≠ some other := by simp_all
          exact ⟨fun locked => absurd locked unlocked, fun _ => executing.committed unlocked⟩
        · intro other member
          rcases mem_append.mp member with waiting | taken
          · rw [World.queued, queued] at waiting
            rcases mem_append.mp waiting with before | here
            · exact safe.issued other (mem_append_left _ before)
            · rw [mem_singleton.mp here]
              exact pending.issued
          · exact safe.issued other (mem_append_right _ taken)
        · rw [World.queued, queued, append_assoc]
          have split := nodup_append.mp safe.nodup
          refine nodup_append.mpr ⟨split.1, nodup_cons.mpr ⟨apart.2, split.2.1⟩, ?_⟩
          intro first waiting second member
          rcases mem_cons.mp member with here | taken
          · grind
          · exact split.2.2 first waiting second taken
        · intro other member
          rw [World.queued, queued]
          rcases mem_append.mp member with before | here
          · rcases mem_append.mp (safe.accounted other before) with waiting | taken
            · exact mem_append_left _ (mem_append_left _ waiting)
            · exact mem_append_right _ taken
          · exact mem_append_left _ (mem_append_right _ here)
        · rw [pending.steps, pending.artifacts, ← same.2.1, ← same.2.2]
          exact safe.recorded
      · cases stepped
    · cases stepped
  | claim session now runId steps data =>
    dsimp only [World.step] at stepped
    split at stepped
    · cases stepped
      apply safe.of_session session
      · intro other different
        exact setSession_of_ne different
      · exact Nat.le_refl _
      · simp_all
      · intro base copy consumed held
        have shape := (setSession_self _).symm.trans held
        cases shape
        exact ⟨fun _ => ⟨rfl, claimed_queue _ _ _ _ _, rfl⟩, fun unlocked => absurd rfl unlocked⟩
      · intro other base copy id _ theirs
        exact (safe.pending other base copy id theirs).fresh
      · intro other base copy consumed different executing
        have unlocked : w.lock ≠ some other := by simp_all
        have elsewhere : some session ≠ some other := fun same => different (Option.some.inj same).symm
        exact ⟨fun locked => absurd locked elsewhere, fun _ => executing.committed unlocked⟩
      · exact safe.issued
      · exact safe.nodup
      · exact safe.accounted
      · exact safe.recorded
    · cases stepped
  | edit session edit =>
    dsimp only [World.step] at stepped
    split at stepped
    · rename_i base copy consumed held
      cases stepped
      have executing := safe.executing session base copy consumed held
      apply safe.of_session session
      · intro other different
        exact setSession_of_ne different
      · exact Nat.le_refl _
      · simp_all
      · intro base' copy' consumed' held'
        have shape := (setSession_self _).symm.trans held'
        cases shape
        refine ⟨fun locked => ?_, fun unlocked => ?_⟩
        · have before := executing.claiming locked
          exact ⟨before.1, (edit.apply_queue copy).trans before.2.1, before.2.2⟩
        · have before := executing.committed unlocked
          exact ⟨(edit.apply_queue copy).trans before.1, before.2⟩
      · intro other base copy id _ theirs
        exact (safe.pending other base copy id theirs).fresh
      · intro other base copy consumed _ executing
        exact ⟨executing.claiming, executing.committed⟩
      · exact safe.issued
      · exact safe.nodup
      · exact safe.accounted
      · exact safe.recorded
    · cases stepped
  | commit session result =>
    dsimp only [World.step] at stepped
    split at stepped
    · rename_i base copy consumed held
      split at stepped
      · rename_i allowed
        cases stepped
        have executing := safe.executing session base copy consumed held
        have moved := executing.commits (current base copy consumed held)
        apply safe.of_session session
        · intro other different
          exact setSession_of_ne different
        · exact Nat.le_refl _
        · simp_all
        · intro base' copy' consumed' held'
          have shape := (setSession_self _).symm.trans held'
          cases shape
          exact ⟨fun locked => absurd locked (by simp), fun _ => ⟨rfl, rfl⟩⟩
        · intro other base copy id _ theirs member
          exact (safe.pending other base copy id theirs).fresh (moved.subset member)
        · intro other base copy consumed different executing
          have unlocked : w.lock ≠ some other := by
            intro locked
            rcases allowed.1 with free | mine
            · simp [free] at locked
            · simp_all
          exact ⟨fun locked => absurd locked (by simp), fun _ => executing.committed unlocked⟩
        · intro id member
          exact safe.issued id (moved.subset member)
        · exact moved.nodup_iff.mpr safe.nodup
        · intro id member
          exact moved.symm.subset (safe.accounted id member)
        · dsimp only
          split
          · exact safe.recorded
          · rfl
      · cases stepped
    · cases stepped
  | leave session =>
    dsimp only [World.step] at stepped
    split at stepped
    · cases stepped
    cases stepped
    apply safe.of_session session
    · intro other different
      exact setSession_of_ne different
    · exact Nat.le_refl _
    · simp_all
    · simp_all
    · intro other base copy id _ theirs
      exact (safe.pending other base copy id theirs).fresh
    · intro other base copy consumed different executing
      by_cases locked : w.lock = some other
      · exact ⟨fun _ => executing.claiming locked, fun unlocked => by
          have elsewhere : w.lock ≠ some session := by simp_all
          exact absurd ((if_neg elsewhere).trans locked) unlocked⟩
      · refine ⟨fun later => ?_, fun _ => executing.committed locked⟩
        by_cases mine : w.lock = some session
        · simp_all
        · exact absurd ((if_neg mine).symm.trans later) locked
    · exact safe.issued
    · exact safe.nodup
    · exact safe.accounted
    · exact safe.recorded
  | move status =>
    dsimp only [World.step] at stepped
    split at stepped
    · cases stepped
      refine ⟨?_, ?_, safe.distinct, safe.issued, safe.nodup, safe.accounted, safe.recorded⟩
      · intro other base copy id held
        have pending := safe.pending other base copy id held
        exact ⟨pending.queue, pending.steps, pending.artifacts, pending.issued, pending.fresh⟩
      · intro other base copy consumed held
        have executing := safe.executing other base copy consumed held
        exact ⟨executing.claiming, executing.committed⟩
    · cases stepped

theorem Safe.start (status : RunStatus) (checkpoint : Checkpoint) : (World.start status checkpoint).Safe := by
  refine ⟨?_, ?_, ?_, ?_, nodup_nil, ?_, rfl⟩
  · intro session base copy id held
    cases held
  · intro session base copy consumed held
    cases held
  · intro session base copy other base' copy' id held
    cases held
  · intro id member
    cases member
  · intro id member
    cases member

end World

/-- While every copy is committed over the queue that it was made from, and that of a signal over the same steps and
    artifacts, each accepted signal waits in the stored queue or has been consumed once, and the steps and artifacts
    are those that `execute_run` committed last. -/
theorem signals_kept (status : RunStatus) (checkpoint : Checkpoint) (w : World)
    (reached : Reaches World.step World.Current (World.start status checkpoint) w) :
    (∀ id ∈ w.accepted, w.Once id) ∧ (w.stored.workflow.steps, w.stored.workflow.artifacts) = w.recorded := by
  have safe : w.Safe := by
    apply reached.invariant (World.Safe.start status checkpoint)
    intro state after action holds current stepped
    exact holds.step current stepped
  exact ⟨fun id accepted => safe.once accepted, safe.recorded⟩

def isCurrent (w : World) : Action → Bool
  | .accept session =>
    match w.sessions session with
    | some (.signalling base _ _) => w.stored = base
    | _ => true
  | .commit session _ =>
    match w.sessions session with
    | some (.working base _ _) => w.lock = some session ∨ w.stored = base
    | _ => true
  | _ => true

theorem isCurrent_current (w : World) (action : Action) (checked : isCurrent w action = true) : w.Current action := by
  cases action with
  | accept session =>
    intro base copy id held
    simp only [isCurrent, held, decide_eq_true_eq] at checked
    simp_all
  | commit session result =>
    intro base copy consumed held
    simp only [isCurrent, held, decide_eq_true_eq] at checked
    rcases checked with locked | same
    · exact .inr (.inl locked)
    · simp_all
  | _ => trivial

def buildPrompt : WorkflowStep :=
  { id := "build_prompt", title := "Build prompt", actor := "system", status := "pending", startedAt := none
    completedAt := none, resumable := true, attempts := 0, lastError := none, metadata := [] }

def queuedRun : Checkpoint :=
  { executionThreadId := none
    workflow :=
      { status := "pending", steps := [buildPrompt], currentStepId := none, lastCompletedStepId := none
        lastFailure := none, recoveryCount := 0, signalQueue := [], signalHistory := [], querySnapshot := []
        artifacts := [], updatedAt := "t0" } }

def signalledActions : List Action :=
  [.signal 1 "t1" "add_note" [] none, .accept 1, .claim 0 "t2" "run" [] [], .commit 0 none,
    .edit 0 (.markStep "t3" "build_prompt" "completed" none []), .commit 0 none, .signal 1 "t4" "pause" [] none, .accept 1]

theorem signalled_run_kept :
    ∃ w, runWhere World.step isCurrent (World.start .queued queuedRun) signalledActions = some w ∧
      w.accepted = [0, 1] ∧ w.consumed = [0] ∧ w.queued = [1] ∧ (∀ id ∈ w.accepted, w.Once id) ∧
        (w.stored.workflow.steps, w.stored.workflow.artifacts) = w.recorded := by
  obtain ⟨w, ran, accepted, consumed, queued⟩ : ∃ w,
      runWhere World.step isCurrent (World.start .queued queuedRun) signalledActions = some w ∧
        w.accepted = [0, 1] ∧ w.consumed = [0] ∧ w.queued = [1] := ⟨_, rfl, rfl, rfl, rfl⟩
  have reached : Reaches World.step World.Current (World.start .queued queuedRun) w :=
    Reaches.start.runs isCurrent_current ran
  exact ⟨w, ran, accepted, consumed, queued, signals_kept .queued queuedRun w reached⟩

def overwrittenActions : List Action :=
  [.claim 0 "t1" "run" [] [], .commit 0 none, .signal 1 "t2" "pause" [] none, .accept 1,
    .edit 0 (.markStep "t3" "build_prompt" "in_progress" none []), .commit 0 none]

def undoneActions : List Action :=
  [.claim 0 "t1" "run" [] [], .commit 0 none, .signal 1 "t2" "pause" [] none,
    .edit 0 (.markStep "t3" "build_prompt" "completed" none []), .commit 0 none, .accept 1]

theorem signal_lost_and_step_undone :
    (∃ w, runWhere World.step (fun _ _ => true) (World.start .queued queuedRun) overwrittenActions = some w ∧
      0 ∈ w.accepted ∧ 0 ∉ w.queued ∧ 0 ∉ w.consumed) ∧
    ∃ w, runWhere World.step (fun _ _ => true) (World.start .queued queuedRun) undoneActions = some w ∧
      w.recorded.1.map WorkflowStep.status = ["completed"] ∧
        w.stored.workflow.steps.map WorkflowStep.status = ["pending"] :=
  ⟨⟨_, rfl, by decide, by decide, by decide⟩, ⟨_, rfl, rfl, rfl⟩⟩

end Troop.Runs.Signals
