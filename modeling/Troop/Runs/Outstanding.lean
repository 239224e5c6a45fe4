import Troop.Runs.Deliveries

namespace Troop.Runs

open Execution (RunStatus)
open Systems (Reaches runWhere)
open List
open Option (some)
open Function (update update_of_ne update_self)

/-- The session will see to a delivery of the run: it submits one, or has one that it has not begun. -/
def Phase.covers (run : String) : Phase → Bool
  | .submitting other => other = run
  | .claiming delivery => delivery.run = run
  | _ => false

def Phase.serves (run : String) (phase : Phase) : Bool :=
  phase = .submitting run || phase.delivery?.any fun delivery => delivery.run = run

namespace World

def Queued (w : World) (run : String) : Prop := ∃ delivery ∈ w.queue, delivery.run = run

def Covered (w : World) (run : String) : Prop :=
  w.Queued run ∨ ∃ session phase, w.sessions session = some phase ∧ phase.covers run = true

def Outstanding (w : World) (run : String) : Prop :=
  w.Queued run ∨ ∃ session phase, w.sessions session = some phase ∧ phase.serves run = true

def Spared (w : World) (session : Nat) (run : String) : Prop :=
  ∀ row, w.rows run = some row → row.status = .queued →
    w.Queued run ∨ ∃ other phase, other ≠ session ∧ w.sessions other = some phase ∧ phase.covers run = true

/-- No submission is lost after its commit, and nothing but a transient exception, while retries are left, ends an
    execution before its first commit; unless the run is spared. -/
def Keeping (w : World) : Action → Prop
  | .forgo session => ∀ run, w.sessions session = some (.submitting run) → w.Spared session run
  | .refuse session transient => ∀ delivery, w.sessions session = some (.claiming delivery) →
      (transient = true ∧ delivery.retries < maxRetries) ∨ w.Spared session delivery.run
  | _ => True

variable {w : World} {run : String}

theorem Covered.outstanding (covered : w.Covered run) : w.Outstanding run := by
  rcases covered with queued | ⟨session, phase, mine, covers⟩
  · exact .inl queued
  · refine .inr ⟨session, phase, mine, ?_⟩
    cases phase <;> simp_all [Phase.covers, Phase.serves, Phase.delivery?]

theorem Covered.push (covered : w.Covered run) (delivery : Delivery) : (w.push delivery).Covered run := by
  rcases covered with ⟨queued, member, same⟩ | mine
  · exact .inl ⟨queued, mem_append_left _ member, same⟩
  · exact .inr mine

theorem covered_pushed (delivery : Delivery) : (w.push delivery).Covered delivery.run :=
  .inl ⟨delivery, mem_append_right _ mem_cons_self, rfl⟩

variable {session : Nat} {status : RunStatus} {after : World}

theorem Covered.setSession (covered : w.Covered run) (phase : Option Phase)
    (idle : ∀ old, w.sessions session = some old → old.covers run = false) :
    (w.setSession session phase).Covered run := by
  rcases covered with queued | ⟨other, held, mine, covers⟩
  · exact .inl queued
  have different : other ≠ session := by grind
  refine .inr ⟨other, held, ?_, covers⟩
  have kept : update w.sessions session phase other = w.sessions other :=
    update_of_ne different _ _
  exact kept.trans mine

theorem Covered.of_spared {row : Row} (spared : w.Spared session run) (found : w.rows run = some row)
    (queued : row.status = .queued) (phase : Option Phase) : (w.setSession session phase).Covered run := by
  rcases spared row found queued with waiting | ⟨other, held, different, mine, covers⟩
  · exact .inl waiting
  · refine .inr ⟨other, held, ?_, covers⟩
    have kept : update w.sessions session phase other = w.sessions other :=
      update_of_ne different _ _
    exact kept.trans mine

structure Safe (w : World) : Prop where
  covered : ∀ run row, w.rows run = some row → row.status = .queued → w.Covered run
  started : ∀ run row, w.rows run = some row → row.status = .inProgress → row.started = true

theorem Safe.settle {phase : Option Phase} (safe : Safe w)
    (idle : ∀ other old, other ≠ run → w.sessions session = some old → old.covers other = false)
    (ended : status ≠ .queued ∧ status ≠ .inProgress) : Safe ((w.setStatus run status).setSession session phase) := by
  refine ⟨?_, ?_⟩
  · intro other row found queued
    rcases setStatus_rows found with ⟨_, same⟩ | ⟨different, old⟩
    · exact absurd (same.symm.trans queued) ended.1
    · exact (safe.covered other row old queued).setSession phase fun held mine => idle other held different mine
  · intro other row found running
    rcases setStatus_rows found with ⟨_, same⟩ | ⟨_, old⟩
    · exact absurd (same.symm.trans running) ended.2
    · exact safe.started other row old running

theorem Safe.decided {from? : RunStatus → Bool} (safe : Safe w)
    (stepped : w.deciding session from? (fun run => (w.setStatus run status).setSession session none) = some after)
    (ended : status ≠ .queued ∧ status ≠ .inProgress) : Safe after := by
  obtain ⟨run, read, mine, _, _, rfl⟩ := deciding_some stepped
  apply safe.settle ?_ ended
  intro other old _ held
  rw [mine] at held
  cases held
  rfl

theorem Safe.submitting {rows : String → Option Row} (safe : Safe w)
    (idle : ∀ old, w.sessions session = some old → ∀ other, old.covers other = false)
    (others : ∀ other row, other ≠ run → rows other = some row → w.rows other = some row)
    (queued : ∀ row, rows run = some row → row.status = .queued) :
    Safe (({ w with rows } : World).submitting session run) := by
  refine ⟨?_, ?_⟩
  · intro other row found waiting
    by_cases same : other = run
    · have mine : (Phase.submitting run).covers run = true := decide_eq_true rfl
      rw [same]
      exact .inr ⟨session, .submitting run, update_self _ _ _, mine⟩
    · have before : w.Covered other := safe.covered other row (others other row same found) waiting
      exact before.setSession _ fun old held => idle old held other
  · intro other row found running
    by_cases same : other = run
    · rw [same] at found
      have status := queued row found
      simp [status] at running
    · exact safe.started other row (others other row same found) running

theorem Covered.setLock (covered : w.Covered run) (other : String) (holder : Option Nat) :
    (w.setLock other holder).Covered run := covered

theorem Covered.requeue (covered : w.Covered run) (delivery : Delivery) (transient : Bool) :
    (w.requeue delivery transient).Covered run := by
  unfold World.requeue
  split
  · exact covered.push _
  · exact covered

theorem requeue_rows (delivery : Delivery) (transient : Bool) : (w.requeue delivery transient).rows = w.rows := by
  unfold World.requeue
  split <;> rfl

theorem Safe.step {action : Action} (safe : Safe w) (keeping : w.Keeping action)
    (stepped : w.step action = some after) : Safe after := by
  cases action with
  | create session run =>
    dsimp only [World.step] at stepped
    split at stepped
    · rename_i fresh
      cases stepped
      apply safe.submitting
      · simp [fresh.2]
      · simp_all
      · simp_all
    · cases stepped
  | read session run =>
    dsimp only [World.step] at stepped
    split at stepped
    · split at stepped
      · rename_i free
        cases stepped
        refine ⟨?_, safe.started⟩
        intro other row found queued
        apply (safe.covered other row found queued).setSession
        simp [free]
      · cases stepped
    · cases stepped
  | resume session =>
    obtain ⟨run, status, mine, _, _, rfl⟩ := deciding_some stepped
    apply safe.submitting
    · intro old held other
      rw [mine] at held
      cases held
      rfl
    · intro other row different found
      rcases setStatus_rows found with ⟨here, _⟩ | ⟨_, old⟩
      · exact absurd here different
      · exact old
    · intro row found
      rcases setStatus_rows found with ⟨_, queued⟩ | ⟨different, _⟩
      · exact queued
      · exact absurd rfl different
  | submit session =>
    dsimp only [World.step] at stepped
    split at stepped
    · rename_i run mine
      cases stepped
      refine ⟨?_, safe.started⟩
      intro other row found queued
      by_cases same : other = run
      · rw [same]
        exact .inl ⟨⟨run, 0⟩, mem_append_right _ mem_cons_self, rfl⟩
      · have before := (safe.covered other row found queued).push ⟨run, 0⟩
        apply before.setSession
        intro old held
        have idle : old = .submitting run := some.inj (held.symm.trans mine)
        rw [idle]
        exact decide_eq_false (Ne.symm same)
    · cases stepped
  | forgo session =>
    dsimp only [World.step] at stepped
    split at stepped
    · rename_i run mine
      cases stepped
      refine ⟨?_, safe.started⟩
      intro other row found queued
      by_cases same : other = run
      · rw [same] at found ⊢
        exact Covered.of_spared (keeping run mine) found queued none
      · apply (safe.covered other row found queued).setSession
        intro old held
        have idle : old = .submitting run := some.inj (held.symm.trans mine)
        rw [idle]
        exact decide_eq_false (Ne.symm same)
    · cases stepped
  | duplicate delivery =>
    dsimp only [World.step] at stepped
    split at stepped
    · cases stepped
      exact ⟨fun other row found queued => (safe.covered other row found queued).push delivery, safe.started⟩
    · cases stepped
  | redeliver session =>
    obtain ⟨delivery, _, rfl⟩ := Option.map_eq_some_iff.mp stepped
    exact ⟨fun other row found queued => (safe.covered other row found queued).push delivery, safe.started⟩
  | deliver session delivery =>
    dsimp only [World.step] at stepped
    split at stepped
    · have erased : ∀ other, other ≠ delivery.run → w.Queued other →
          ∃ waiting ∈ w.queue.erase delivery, waiting.run = other := by
        intro other different queued
        obtain ⟨waiting, member, same⟩ := queued
        have apart : waiting ≠ delivery := by grind
        exact ⟨waiting, (mem_erase_of_ne apart).mpr member, same⟩
      split at stepped
      · cases stepped
        refine ⟨?_, safe.started⟩
        intro other row found queued
        by_cases same : other = delivery.run
        · have mine : (Phase.claiming delivery).covers delivery.run = true := decide_eq_true rfl
          rw [same]
          exact .inr ⟨session, .claiming delivery, update_self _ _ _, mine⟩
        · rcases safe.covered other row found queued with waiting | ⟨held, phase, mine, covers⟩
          · exact .inl (erased other same waiting)
          · have different : held ≠ session := by grind
            have kept : update w.sessions session (some (.claiming delivery)) held = w.sessions held :=
              update_of_ne different _ _
            exact .inr ⟨held, phase, kept.trans mine, covers⟩
      · rename_i ignored
        cases stepped
        refine ⟨?_, safe.started⟩
        intro other row found queued
        by_cases same : other = delivery.run
        · have claimable : (w.rows delivery.run).any (fun row => row.status.isExecutionClaimable) = true := by
            have here : w.rows other = some row := found
            rw [same] at here
            rw [here, Option.any_some, queued]
            rfl
          exact absurd claimable ignored
        · rcases safe.covered other row found queued with waiting | held
          · exact .inl (erased other same waiting)
          · exact .inr held
    · cases stepped
  | begin session =>
    obtain ⟨delivery, mine, rfl⟩ := claiming_some stepped
    refine ⟨?_, ?_⟩
    · intro other row found queued
      dsimp only at found
      by_cases here : other = delivery.run
      · grind
      rw [update_of_ne here] at found
      apply (safe.covered other row found queued).setSession
      intro old held
      have idle : old = .claiming delivery := some.inj (held.symm.trans mine)
      rw [idle]
      exact decide_eq_false (Ne.symm here)
    · intro other row found running
      dsimp only at found
      by_cases here : other = delivery.run
      · grind
      · rw [update_of_ne here] at found
        exact safe.started other row found running
  | refuse session transient =>
    obtain ⟨delivery, mine, rfl⟩ := claiming_some stepped
    refine ⟨?_, ?_⟩
    · intro other row found queued
      rw [requeue_rows] at found
      by_cases here : other = delivery.run
      · rcases keeping delivery mine with again | spared
        · rw [here]
          unfold World.requeue
          rw [if_pos again]
          exact covered_pushed { delivery with retries := delivery.retries + 1 }
        · rw [here] at found ⊢
          exact ((Covered.of_spared spared found queued none).setLock _ none).requeue _ _
      · apply Covered.requeue
        apply Covered.setLock
        apply (safe.covered other row found queued).setSession
        intro old held
        have idle : old = .claiming delivery := some.inj (held.symm.trans mine)
        rw [idle]
        exact decide_eq_false (Ne.symm here)
    · intro other row found running
      rw [requeue_rows] at found
      exact safe.started other row found running
  | timeLimit session =>
    obtain ⟨delivery, mine, rfl⟩ := claiming_some stepped
    have settled : Safe ((w.setStatus delivery.run .failed).setSession session none) := by
      apply safe.settle ?_ (by decide)
      intro other old different held
      have idle : old = .claiming delivery := some.inj (held.symm.trans mine)
      rw [idle]
      exact decide_eq_false (Ne.symm different)
    exact ⟨settled.covered, settled.started⟩
  | finish session result =>
    dsimp only [World.step] at stepped
    split at stepped
    · rename_i phase mine
      split at stepped
      · split at stepped
        · rename_i allowed
          cases stepped
          have ended : result ≠ .queued ∧ result ≠ .inProgress := by
            have listed := Phase.mayFinish_ended allowed.1
            constructor <;> grind
          apply safe.settle ?_ ended
          intro other old _ held
          have same : old = phase := some.inj (held.symm.trans mine)
          rw [same]
          have finishes := allowed.1
          cases phase with
          | executing delivery => rfl
          | closing delivery result => rfl
          | _ => cases finishes
        · cases stepped
      · cases stepped
    · cases stepped
  | close session =>
    dsimp only [World.step] at stepped
    split at stepped
    · rename_i delivery result mine
      cases stepped
      refine ⟨?_, safe.started⟩
      intro other row found queued
      apply (safe.covered other row found queued).setSession
      intro old held
      have idle : old = .closing delivery result := some.inj (held.symm.trans mine)
      rw [idle]
      rfl
    · cases stepped
  | escape session transient =>
    have quiet : ∀ delivery old, (old = Phase.executing delivery ∨ ∃ result, old = .closing delivery result) →
        w.sessions session = some old → Safe ((w.setSession session none).requeue delivery transient) := by
      intro delivery old shape mine
      refine ⟨?_, ?_⟩
      · intro other row found queued
        rw [requeue_rows] at found
        apply Covered.requeue
        apply (safe.covered other row found queued).setSession
        intro held here
        have same : held = old := some.inj (here.symm.trans mine)
        rw [same]
        rcases shape with running | ⟨result, ending⟩
        · rw [running]
          rfl
        · rw [ending]
          rfl
      · intro other row found running
        rw [requeue_rows] at found
        exact safe.started other row found running
    dsimp only [World.step] at stepped
    split at stepped
    · simp_all
    · grind
    · cases stepped
  | crash session =>
    have back : ∀ delivery old, (∀ other, other ≠ delivery.run → old.covers other = false) →
        w.sessions session = some old → Safe ((w.push delivery).setSession session none) := by
      intro delivery old idle mine
      refine ⟨?_, safe.started⟩
      intro other row found queued
      by_cases here : other = delivery.run
      · rw [here]
        exact .inl ⟨delivery, mem_append_right _ mem_cons_self, rfl⟩
      · apply ((safe.covered other row found queued).push delivery).setSession
        intro held mine'
        have same : held = old := some.inj (mine'.symm.trans mine)
        rw [same]
        exact idle other here
    dsimp only [World.step] at stepped
    split at stepped
    · rename_i delivery mine
      cases stepped
      have kept := back delivery (.claiming delivery) (fun other different => decide_eq_false (Ne.symm different)) mine
      exact ⟨kept.covered, kept.started⟩
    · rename_i delivery mine
      cases stepped
      exact back delivery _ (fun _ _ => rfl) mine
    · rename_i delivery result mine
      cases stepped
      exact back delivery _ (fun _ _ => rfl) mine
    · cases stepped
  | _ => exact safe.decided stepped (by decide)

end World

theorem Safe.empty : World.Safe World.empty := by
  refine ⟨?_, ?_⟩
  · intro run row found
    cases found
  · intro run row found
    cases found

/-- While every step keeps its runs, a run that is queued has a delivery outstanding or being executed, and one that is
    in progress has that or is seen by the recovery of stale runs. -/
theorem queued_runs_outstanding (w : World) (reached : Reaches World.step World.Keeping World.empty w) :
    ∀ run row, w.rows run = some row →
      (row.status = .queued → w.Outstanding run) ∧
        (row.status = .inProgress → w.Outstanding run ∨ row.started = true) := by
  have safe : w.Safe := by
    apply reached.invariant Safe.empty
    intro state after action holds keeping stepped
    exact holds.step keeping stepped
  intro run row found
  exact ⟨fun queued => (safe.covered run row found queued).outstanding, fun running => .inr (safe.started run row found running)⟩

def keepsAlone (w : World) : Action → Bool
  | .forgo _ => false
  | .refuse session transient =>
    match w.sessions session with
    | some (.claiming delivery) => transient && delivery.retries < maxRetries
    | _ => true
  | _ => true

theorem keepsAlone_keeping (w : World) (action : Action) (alone : keepsAlone w action = true) : w.Keeping action := by
  cases action with
  | forgo session => cases alone
  | refuse session transient =>
    intro delivery mine
    simp only [keepsAlone, mine, Bool.and_eq_true, decide_eq_true_eq] at alone
    exact .inl alone
  | _ => trivial

def retriedActions : List Action :=
  [.create 0 "run", .submit 0, .deliver 0 ⟨"run", 0⟩, .refuse 0 true, .deliver 0 ⟨"run", 1⟩]

theorem retried_run_outstanding :
    ∃ w, runWhere World.step keepsAlone World.empty retriedActions = some w ∧
      w.rows "run" = some ⟨.queued, false⟩ ∧ w.Outstanding "run" := by
  obtain ⟨w, ran, waiting⟩ : ∃ w, runWhere World.step keepsAlone World.empty retriedActions = some w ∧
      w.rows "run" = some ⟨.queued, false⟩ := ⟨_, rfl, rfl⟩
  have reached : Reaches World.step World.Keeping World.empty w := Reaches.start.runs keepsAlone_keeping ran
  exact ⟨w, ran, waiting, (queued_runs_outstanding w reached "run" ⟨.queued, false⟩ waiting).1 rfl⟩

def refusedActions : List Action := [.create 0 "run", .submit 0, .deliver 0 ⟨"run", 0⟩, .refuse 0 false]

theorem refused_run_forgotten :
    ∃ w, runWhere World.step (fun _ _ => true) World.empty refusedActions = some w ∧
      w.rows "run" = some ⟨.queued, false⟩ ∧ ¬ w.Outstanding "run" := by
  refine ⟨_, rfl, rfl, ?_⟩
  rintro (⟨delivery, member, _⟩ | ⟨session, phase, mine, _⟩)
  · cases member
  · cases session with
    | _ => cases mine

end Troop.Runs
