import Troop.Runs.Deliveries

namespace Troop.Runs

open Execution (RunStatus)
open Systems (Reaches runWhere)
open Function (update update_of_ne update_self)

namespace World

def ClaimsKept (w after : World) : Prop :=
  ∀ session delivery, after.sessions session = some (.claiming delivery) → w.sessions session = some (.claiming delivery)

inductive Effect (w : World) (action : Action) (after : World) : Prop where
  | quiet (claims : w.ClaimsKept after) (rows : after.rows = w.rows) (locks : after.locks = w.locks)
      (executions : after.executions = w.executions) (submissions : after.submissions = w.submissions)
  /-- a status is committed over a row that nobody holds -/
  | writes (run : String) (status : RunStatus) (claims : w.ClaimsKept after)
      (free : w.locks run = none ∨ w.rows run = none) (locks : after.locks = w.locks)
      (others : ∀ other, other ≠ run → after.rows other = w.rows other)
      (row : ∀ row, after.rows run = some row → row.status = status) (executions : after.executions = w.executions)
      (submitted : (status = .queued ∧ after.submissions = Function.update w.submissions run (w.submissions run + 1)) ∨
        (status ≠ .queued ∧ status ≠ .running ∧ after.submissions = w.submissions))
  | takes (session : Nat) (delivery : Delivery) (free : w.locks delivery.run = none)
      (claimable : (w.rows delivery.run).any (fun row => row.status.isExecutionClaimable) = true)
      (sessions : after.sessions = Function.update w.sessions session (some (.claiming delivery)))
      (locks : after.locks = Function.update w.locks delivery.run (some session)) (rows : after.rows = w.rows)
      (executions : after.executions = w.executions) (submissions : after.submissions = w.submissions)
  /-- a claim ends before the first commit -/
  | releases (session : Nat) (delivery : Delivery) (mine : w.sessions session = some (.claiming delivery))
      (gone : ∀ other, after.sessions session ≠ some (.claiming other)) (claims : w.ClaimsKept after)
      (locks : ∀ other, other ≠ delivery.run → after.locks other = w.locks other)
      (others : ∀ other, other ≠ delivery.run → after.rows other = w.rows other)
      (row : ∀ row, after.rows delivery.run = some row → w.rows delivery.run = some row ∨ row.status = .failed)
      (executions : after.executions = w.executions) (submissions : after.submissions = w.submissions)
  | begins (session : Nat) (delivery : Delivery) (begun : action = .begin session)
      (mine : w.sessions session = some (.claiming delivery))
      (gone : ∀ other, after.sessions session ≠ some (.claiming other)) (claims : w.ClaimsKept after)
      (locks : ∀ other, other ≠ delivery.run → after.locks other = w.locks other)
      (rows : after.rows = Function.update w.rows delivery.run (some ⟨.inProgress, true⟩))
      (executions : after.executions = Function.update w.executions delivery.run (w.executions delivery.run + 1))
      (submissions : after.submissions = w.submissions)

variable {w after : World} {run : String} {session other : Nat} {action : Action}

theorem setSession_kept {phase : Option Phase} (quiet : ∀ claimed, phase ≠ some (.claiming claimed)) :
    w.ClaimsKept (w.setSession session phase) := by
  intro other delivery mine
  by_cases same : other = session
  · have updated : (w.setSession session phase).sessions other = phase := by
      rw [same]
      exact update_self _ _ _
    exact absurd (updated.symm.trans mine) (quiet delivery)
  · have kept : (w.setSession session phase).sessions other = w.sessions other := update_of_ne same _ _
    exact kept.symm.trans mine

theorem setSession_gone (other : Delivery) : (w.setSession session none).sessions session ≠ some (.claiming other) := by
  have updated : (w.setSession session none).sessions session = none := update_self _ _ _
  simp_all

theorem requeue_eq (delivery : Delivery) (transient : Bool) :
    ∃ queue, w.requeue delivery transient = { w with queue } := by
  unfold requeue
  split
  · exact ⟨_, rfl⟩
  · exact ⟨w.queue, rfl⟩

variable {status : RunStatus} {used spare : Nat}

theorem setStatus_others {other : String} (different : other ≠ run) :
    (w.setStatus run status).rows other = w.rows other := update_of_ne different _ _

theorem setStatus_row {row : Row} (found : (w.setStatus run status).rows run = some row) :
    row.status = status := by
  rcases setStatus_rows found with ⟨_, same⟩ | ⟨different, _⟩
  · exact same
  · exact absurd rfl different

theorem effect_of_decided {from? : RunStatus → Bool}
    (stepped : w.deciding session from? (fun run => (w.setStatus run status).setSession session none) = some after)
    (ended : status ≠ .queued ∧ status ≠ .running) : w.Effect action after := by
  obtain ⟨run, read, mine, _, free, rfl⟩ := deciding_some stepped
  have claims : w.ClaimsKept ((w.setStatus run status).setSession session none) :=
    setSession_kept (w := w.setStatus run status) (by intro claimed same; cases same)
  exact .writes run status claims (.inl free) rfl (fun other different => setStatus_others different)
    (fun row found => setStatus_row found) rfl (.inr ⟨ended.1, ended.2, rfl⟩)

theorem step_effect (stepped : w.step action = some after) : w.Effect action after := by
  cases action with
  | create session run =>
    dsimp only [World.step] at stepped
    split at stepped
    · rename_i fresh
      cases stepped
      have claims : w.ClaimsKept (w.setSession session (some (.submitting run))) :=
        setSession_kept (by intro claimed same; cases same)
      refine .writes run .queued claims (.inr fresh.1) rfl ?_ ?_ rfl (.inl ⟨rfl, rfl⟩)
      · intro other different
        exact update_of_ne different _ _
      · intro row found
        have updated : update w.rows run (some (⟨.queued, false⟩ : Row)) run = some row := found
        grind
    · cases stepped
  | read session run =>
    dsimp only [World.step] at stepped
    split at stepped
    · split at stepped
      · cases stepped
        exact .quiet (setSession_kept (by intro claimed same; cases same)) rfl rfl rfl rfl
      · cases stepped
    · cases stepped
  | resume session =>
    obtain ⟨run, status, mine, _, free, rfl⟩ := deciding_some stepped
    have claims : w.ClaimsKept (w.setSession session (some (.submitting run))) :=
      setSession_kept (by intro claimed same; cases same)
    exact .writes run .queued claims (.inl free) rfl (fun other different => setStatus_others different)
      (fun row found => setStatus_row found) rfl (.inl ⟨rfl, rfl⟩)
  | cancel session => exact effect_of_decided stepped (by decide)
  | reject session => exact effect_of_decided stepped (by decide)
  | recover session => exact effect_of_decided stepped (by decide)
  | submit session =>
    dsimp only [World.step] at stepped
    split at stepped
    · cases stepped
      exact .quiet (setSession_kept (w := w) (by intro claimed same; cases same)) rfl rfl rfl rfl
    · cases stepped
  | duplicate delivery =>
    dsimp only [World.step] at stepped
    split at stepped
    · cases stepped
      exact .quiet (fun _ _ mine => mine) rfl rfl rfl rfl
    · cases stepped
  | redeliver session =>
    obtain ⟨delivery, _, rfl⟩ := Option.map_eq_some_iff.mp stepped
    exact .quiet (fun _ _ mine => mine) rfl rfl rfl rfl
  | deliver session delivery =>
    dsimp only [World.step] at stepped
    split at stepped
    · rename_i ready
      split at stepped
      · rename_i claimable
        cases stepped
        exact .takes session delivery ready.2.2 claimable rfl rfl rfl rfl rfl
      · cases stepped
        exact .quiet (fun _ _ mine => mine) rfl rfl rfl rfl
    · cases stepped
  | begin session =>
    obtain ⟨delivery, mine, rfl⟩ := claiming_some stepped
    have claims : w.ClaimsKept (w.setSession session (some (.executing delivery))) :=
      setSession_kept (by intro claimed same; cases same)
    refine .begins session delivery rfl mine ?_ claims ?_ rfl rfl rfl
    · intro other claimed
      have updated : update w.sessions session (some (.executing delivery)) session = some (.claiming other) :=
        claimed
      simp [update_self] at updated
    · intro other different
      exact update_of_ne different _ _
  | refuse session transient =>
    obtain ⟨delivery, mine, same⟩ := claiming_some stepped
    obtain ⟨queue, again⟩ := requeue_eq (w := (w.setSession session none).setLock delivery.run none) delivery transient
    rw [same, again]
    exact .releases session delivery mine setSession_gone (setSession_kept (w := w) (by intro claimed same; cases same))
      (fun other different => update_of_ne different _ _) (fun _ _ => rfl) (fun row found => .inl found) rfl rfl
  | timeLimit session =>
    obtain ⟨delivery, mine, rfl⟩ := claiming_some stepped
    exact .releases session delivery mine (setSession_gone (w := w))
      (setSession_kept (w := w) (by intro claimed same; cases same))
      (fun other different => update_of_ne different _ _) (fun other different => setStatus_others different)
      (fun row found => .inr (setStatus_row found)) rfl rfl
  | finish session result =>
    dsimp only [World.step] at stepped
    split at stepped
    · split at stepped
      · rename_i delivery _
        split at stepped
        · rename_i allowed
          cases stepped
          have ended : result ≠ .queued ∧ result ≠ .running := by
            have listed := Phase.mayFinish_ended allowed.1
            simp only [List.mem_cons, List.not_mem_nil, or_false] at listed
            rcases listed with same | same | same <;> rw [same] <;> decide
          have claims : w.ClaimsKept (w.setSession session (some (.closing delivery result))) :=
            setSession_kept (by intro claimed same; cases same)
          exact .writes delivery.run result claims (.inl allowed.2) rfl (fun other different => setStatus_others different)
            (fun row found => setStatus_row found) rfl (.inr ⟨ended.1, ended.2, rfl⟩)
        · cases stepped
      · cases stepped
    · cases stepped
  | escape session transient =>
    have left : ∀ delivery, w.Effect (.escape session transient) ((w.setSession session none).requeue delivery transient) := by
      intro delivery
      obtain ⟨queue, again⟩ := requeue_eq (w := w.setSession session none) delivery transient
      rw [again]
      exact .quiet (setSession_kept (w := w) (by intro claimed same; cases same)) rfl rfl rfl rfl
    dsimp only [World.step] at stepped
    split at stepped
    · grind
    · grind
    · cases stepped
  | crash session =>
    dsimp only [World.step] at stepped
    split at stepped
    · rename_i delivery mine
      cases stepped
      exact .releases session delivery mine (setSession_gone (w := w))
        (setSession_kept (w := w) (by intro claimed same; cases same))
        (fun other different => update_of_ne different _ _) (fun _ _ => rfl) (fun row found => .inl found) rfl rfl
    · cases stepped
      exact .quiet (setSession_kept (w := w) (by intro claimed same; cases same)) rfl rfl rfl rfl
    · cases stepped
      exact .quiet (setSession_kept (w := w) (by intro claimed same; cases same)) rfl rfl rfl rfl
    · cases stepped
  | _ =>
    dsimp only [World.step] at stepped
    split at stepped
    · cases stepped
      exact .quiet (setSession_kept (by intro claimed same; cases same)) rfl rfl rfl rfl
    · cases stepped

def Claimed (w : World) : Prop :=
  ∀ session delivery, w.sessions session = some (.claiming delivery) → w.locks delivery.run = some session ∧
    (w.rows delivery.run).any (fun row => row.status.isExecutionClaimable) = true

theorem Claimed.apart (claimed : w.Claimed) {held delivery : Delivery}
    (mine : w.sessions session = some (.claiming held)) (theirs : w.sessions other = some (.claiming delivery))
    (different : other ≠ session) : delivery.run ≠ held.run := by
  intro same
  have first := (claimed other delivery theirs).1
  have second := (claimed session held mine).1
  rw [same, second] at first
  exact different (Option.some.inj first).symm

theorem Claimed.ended (claimed : w.Claimed) {held : Delivery} (mine : w.sessions session = some (.claiming held))
    (gone : ∀ other, after.sessions session ≠ some (.claiming other)) (claims : w.ClaimsKept after)
    (locks : ∀ other, other ≠ held.run → after.locks other = w.locks other)
    (others : ∀ other, other ≠ held.run → after.rows other = w.rows other) : after.Claimed := by
  intro other delivery theirs
  have different : other ≠ session := by grind
  have before := claims other delivery theirs
  have apart := claimed.apart mine before different
  rw [locks delivery.run apart, others delivery.run apart]
  exact claimed other delivery before

theorem Claimed.step (claimed : w.Claimed) (effect : w.Effect action after) : after.Claimed := by
  cases effect with
  | quiet claims rows locks _ _ =>
    intro other delivery theirs
    rw [rows, locks]
    exact claimed other delivery (claims other delivery theirs)
  | writes run status claims free locks others _ _ _ =>
    intro other delivery theirs
    have before := claimed other delivery (claims other delivery theirs)
    have apart : delivery.run ≠ run := by
      intro same
      rcases free with unlocked | absent <;> simp_all
    rwa [locks, others delivery.run apart]
  | takes session delivery free claimable sessions locks rows _ _ =>
    intro other claim theirs
    rw [sessions] at theirs
    rw [locks, rows]
    by_cases same : other = session
    · simp_all
    · rw [update_of_ne same] at theirs
      have before := claimed other claim theirs
      have apart : claim.run ≠ delivery.run := by grind
      rwa [update_of_ne apart]
  | releases session delivery mine gone claims locks others _ _ _ => exact claimed.ended mine gone claims locks others
  | begins session delivery _ mine gone claims locks rows _ _ =>
    apply claimed.ended mine gone claims locks
    intro other different
    rw [rows]
    exact update_of_ne different _ _

def isQueued (w : World) (run : String) : Bool := (w.rows run).any fun row => row.status = .queued

def owed (w : World) (run : String) : Nat := if w.isQueued run then 1 else 0

theorem owed_le (w : World) (run : String) : w.owed run ≤ 1 := by
  unfold owed
  split <;> omega

theorem owed_congr (same : after.rows run = w.rows run) : after.owed run = w.owed run := by
  unfold owed isQueued
  rw [same]

theorem owed_ended (ended : ∀ row, w.rows run = some row → row.status ≠ .queued) : w.owed run = 0 := by
  have idle : w.isQueued run = false := by
    unfold isQueued
    cases found : w.rows run with
    | none => rfl
    | some row => exact decide_eq_false (ended row found)
  unfold owed
  rw [idle]
  rfl

def Fresh (w : World) : Action → Prop
  | .begin session => ∀ delivery row, w.sessions session = some (.claiming delivery) →
      w.rows delivery.run = some row → row.status ≠ .failed ∧ row.status ≠ .blocked
  | _ => True

def NoneRunning (w : World) : Prop := ∀ run row, w.rows run = some row → row.status ≠ .running

theorem NoneRunning.step (idle : w.NoneRunning) (effect : w.Effect action after) : after.NoneRunning := by
  intro run row found
  cases effect with
  | quiet _ rows _ _ _ =>
    rw [rows] at found
    exact idle run row found
  | writes written status _ _ _ others row? _ submitted =>
    by_cases same : run = written
    · rw [same] at found
      rw [row? row found]
      rcases submitted with ⟨queued, _⟩ | ⟨_, other, _⟩
      · simp [queued]
      · exact other
    · rw [others run same] at found
      exact idle run row found
  | takes _ _ _ _ _ _ rows _ _ =>
    rw [rows] at found
    exact idle run row found
  | releases session delivery _ _ _ _ others row? _ _ =>
    by_cases same : run = delivery.run
    · rw [same] at found
      rcases row? row found with before | failed
      · exact idle delivery.run row before
      · simp [failed]
    · rw [others run same] at found
      exact idle run row found
  | begins session delivery _ _ _ _ _ rows _ _ =>
    rw [rows] at found
    by_cases same : run = delivery.run
    · grind
    · rw [update_of_ne same] at found
      exact idle run row found

theorem Fresh.queued (fresh : w.Fresh (.begin session)) (claimed : w.Claimed) (idle : w.NoneRunning) {delivery : Delivery}
    (mine : w.sessions session = some (.claiming delivery)) : w.isQueued delivery.run = true := by
  have claimable := (claimed session delivery mine).2
  unfold isQueued
  cases found : w.rows delivery.run with
  | none => simp [found] at claimable
  | some row =>
    rw [found] at claimable
    have resting := idle delivery.run row found
    have new := fresh delivery row mine found
    have started : row.status.isExecutionClaimable = true := claimable
    show decide (row.status = .queued) = true
    cases status : row.status <;> rw [status] at resting new started <;>
      first | rfl | exact absurd rfl new.1 | exact absurd rfl new.2 | exact absurd rfl resting | cases started

theorem count_step (claimed : w.Claimed) (idle : w.NoneRunning) (fresh : w.Fresh action) (effect : w.Effect action after) (count : w.executions run + w.owed run + used ≤ w.submissions run + spare) :
    after.executions run + after.owed run + used ≤ after.submissions run + spare := by
  cases effect with
  | quiet _ rows _ executions submissions =>
    rwa [executions, submissions, owed_congr (congrFun rows run)]
  | takes _ _ _ _ _ _ rows executions submissions =>
    rwa [executions, submissions, owed_congr (congrFun rows run)]
  | writes written status _ _ _ others row? executions submitted =>
    rw [executions]
    by_cases same : run = written
    · rcases submitted with ⟨_, submissions⟩ | ⟨ended, _, submissions⟩
      · have bound := after.owed_le run
        rw [submissions, same, update_self]
        rw [same] at count bound
        omega
      · have settled : after.owed run = 0 := by
          apply owed_ended
          simp_all
        rw [submissions, settled]
        omega
    · have rows := others run same
      rw [owed_congr rows]
      rcases submitted with ⟨_, submissions⟩ | ⟨_, _, submissions⟩
      · rwa [submissions, update_of_ne same]
      · rwa [submissions]
  | releases session delivery _ _ _ _ others row? executions submissions =>
    rw [executions, submissions]
    have less : after.owed run ≤ w.owed run := by
      by_cases same : run = delivery.run
      · by_cases ended : ∀ row, after.rows run = some row → row.status ≠ .queued
        · rw [owed_ended ended]
          exact Nat.zero_le _
        · push Not at ended
          obtain ⟨row, found, queued⟩ := ended
          rw [same] at found
          rcases row? row found with before | failed
          · have kept : after.rows run = w.rows run := by
              rw [same]
              exact found.trans before.symm
            rw [owed_congr kept]
          · simp [failed] at queued
      · rw [owed_congr (others run same)]
    omega
  | begins session delivery begun mine _ _ _ rows executions submissions =>
    rw [submissions]
    by_cases same : run = delivery.run
    · rw [begun] at fresh
      have queued := fresh.queued claimed idle mine
      have before : w.owed run = 1 := by
        unfold owed
        simp [same, queued]
      have later : after.owed run = 0 := by
        apply owed_ended
        simp_all
      simp_all
    · have kept : after.rows run = w.rows run := by
        rw [rows]
        exact update_of_ne same _ _
      rwa [owed_congr kept, executions, update_of_ne same]

structure Counted (w : World) (run : String) (used spare : Nat) : Prop where
  claimed : w.Claimed
  idle : w.NoneRunning
  count : w.executions run + w.owed run + used ≤ w.submissions run + spare

theorem Counted.reached (counted : w.Counted run used spare) (reached : Reaches World.step World.Fresh w after) :
    after.Counted run used spare := by
  apply reached.invariant counted
  intro state next action holds fresh stepped
  have effect := step_effect stepped
  exact ⟨holds.claimed.step effect, holds.idle.step effect, count_step holds.claimed holds.idle fresh effect holds.count⟩

theorem Counted.empty (run : String) : World.empty.Counted run 0 0 := by
  refine ⟨?_, ?_, Nat.le_refl _⟩
  · intro session delivery mine
    cases mine
  · intro run row found
    cases found

end World

/-- While no execution begins on a failed or blocked run, a run is executed at most once for each of its submissions; and
    from when it is not queued, it is executed again only after it is submitted again. -/
theorem executed_once_per_submission (w : World) (reached : Reaches World.step World.Fresh World.empty w) (run : String) :
    w.executions run ≤ w.submissions run ∧
      ∀ row later, w.rows run = some row → row.status ≠ .queued → Reaches World.step World.Fresh w later →
        later.executions run + w.submissions run ≤ w.executions run + later.submissions run := by
  have counted := (World.Counted.empty run).reached reached
  have count := counted.count
  refine ⟨by omega, ?_⟩
  intro row later found resting further
  have owes : w.owed run = 0 := by grind [World.owed_ended]
  have here : w.Counted run (w.submissions run) (w.executions run) := by
    refine ⟨counted.claimed, counted.idle, ?_⟩
    omega
  have there := (here.reached further).count
  omega

def beginsQueued (w : World) : Action → Bool
  | .begin session =>
    match w.sessions session with
    | some (.claiming delivery) => w.isQueued delivery.run
    | _ => true
  | _ => true

theorem beginsQueued_fresh (w : World) (action : Action) (begins : beginsQueued w action = true) : w.Fresh action := by
  cases action with
  | begin session =>
    intro delivery row mine found
    simp only [beginsQueued, mine, World.isQueued, found, Option.any_some, decide_eq_true_eq] at begins
    simp_all
  | _ => trivial

def resumedActions : List Action :=
  [.create 0 "run", .submit 0, .duplicate ⟨"run", 0⟩, .deliver 0 ⟨"run", 0⟩, .begin 0, .deliver 1 ⟨"run", 0⟩,
    .finish 0 .failed, .close 0]

def resumedAgain : List Action := [.read 1 "run", .resume 1, .submit 1, .deliver 0 ⟨"run", 0⟩, .begin 0]

theorem resumed_run_executed :
    ∃ w row later, runWhere World.step beginsQueued World.empty resumedActions = some w ∧ w.rows "run" = some row ∧
      row.status = .failed ∧ runWhere World.step beginsQueued w resumedAgain = some later ∧
        w.executions "run" = 1 ∧ later.executions "run" + w.submissions "run" ≤ w.executions "run" + later.submissions "run" := by
  obtain ⟨w, later, ran, found, again, count⟩ : ∃ w later,
      runWhere World.step beginsQueued World.empty resumedActions = some w ∧
        w.rows "run" = some ⟨.failed, true⟩ ∧ runWhere World.step beginsQueued w resumedAgain = some later ∧
        w.executions "run" = 1 := ⟨_, _, rfl, rfl, rfl, rfl⟩
  have reached : Reaches World.step World.Fresh World.empty w := Reaches.start.runs beginsQueued_fresh ran
  have further : Reaches World.step World.Fresh w later := Reaches.start.runs beginsQueued_fresh again
  have bound := (executed_once_per_submission w reached "run").2 ⟨.failed, true⟩ later found (by decide) further
  exact ⟨w, ⟨.failed, true⟩, later, ran, found, rfl, again, count, bound⟩

def failedTwice : List Action :=
  [.create 0 "run", .submit 0, .duplicate ⟨"run", 0⟩, .deliver 0 ⟨"run", 0⟩, .begin 0, .finish 0 .failed, .close 0,
    .deliver 0 ⟨"run", 0⟩, .begin 0]

theorem failed_run_executed_twice :
    ∃ w, runWhere World.step (fun _ _ => true) World.empty failedTwice = some w ∧
      w.submissions "run" = 1 ∧ w.executions "run" = 2 := ⟨_, rfl, rfl, rfl⟩

end Troop.Runs
