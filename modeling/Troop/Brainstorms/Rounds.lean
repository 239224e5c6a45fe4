import Mathlib.Data.List.Nodup
import Troop.Execution.Lifecycle

namespace Troop.Brainstorms

open Systems Execution
open List

inductive BrainstormStatus where
  | draft | running | completed
deriving DecidableEq

inductive Entry where
  | roundSummary (round : Nat)
  | finalOutput
deriving DecidableEq

structure Brainstorm where
  status : BrainstormStatus := .draft
  decisionLog : List Entry := []
deriving DecidableEq

/-- What does not change while the brainstorm is worked on. No agent takes part twice. -/
structure Circle where
  participants : List String
  distinct : participants.Nodup
  maxRounds : Nat

structure Message where
  agentId : String
  roundNumber : Nat
deriving DecidableEq

structure TaskRun where
  status : RunStatus
  targetRound : Nat
deriving DecidableEq

inductive Phase where
  | arguing (left : List String)
  | summarised (finalize : Bool)
  | ended
deriving DecidableEq

structure Attempt where
  brainstorm : Brainstorm
  targetRound : Nat
  phase : Phase
deriving DecidableEq

/-- A call of `start_brainstorm`. -/
inductive Starter where
  | loaded (brainstorm : Brainstorm)
  | checked (brainstorm : Brainstorm) (targetRound : Nat)
  | ended
deriving DecidableEq

structure World where
  brainstorm : Brainstorm := {}
  messages : List Message := []
  runs : List TaskRun := []
  attempts : List Attempt := []
  starters : List Starter := []
  /-- the calls of `force_brainstorm_summary` -/
  forcers : List (Option Brainstorm) := []
deriving DecidableEq

inductive Action where
  | loadStart
  | checkStart (starter : Nat)
  | commitStart (starter : Nat)
  | execute (run : Nat)
  | argue (attempt : Nat)
  | summarise (attempt : Nat) (stop : Bool)
  | conclude (attempt : Nat)
  | fail (attempt : Nat)
  | loadForce
  | commitForce (forcer : Nat)
  | again (run : Nat)
  | move (run : Nat) (status : RunStatus)
deriving DecidableEq

def rounds (decisionLog : List Entry) : List Nat :=
  decisionLog.filterMap fun
    | .roundSummary round => some round
    | .finalOutput => none

def currentRound (decisionLog : List Entry) : Nat := (rounds decisionLog).foldr max 0

def written (held stored status : BrainstormStatus) : BrainstormStatus := if held = status then stored else status

def Attempt.isArguing (attempt : Attempt) : Bool :=
  match attempt.phase with
  | .arguing _ => true
  | .summarised _ | .ended => false

namespace World

variable (circle : Circle) (w : World)

def step : Action → Option World
  | .loadStart =>
    if w.brainstorm.status = .completed then none else some { w with starters := w.starters ++ [.loaded w.brainstorm] }
  | .checkStart starter =>
    match w.starters[starter]? with
    | some (.loaded brainstorm) =>
      if w.runs.any fun run => run.status ∈ [.queued, .inProgress, .blocked] then none
      else if circle.maxRounds ≤ currentRound brainstorm.decisionLog then none
      else some { w with
        starters := w.starters.set starter (.checked brainstorm (currentRound brainstorm.decisionLog + 1)) }
    | _ => none
  | .commitStart starter =>
    match w.starters[starter]? with
    | some (.checked brainstorm targetRound) =>
      some { w with
        brainstorm.status := written brainstorm.status w.brainstorm.status .running
        runs := w.runs ++ [⟨.queued, targetRound⟩]
        starters := w.starters.set starter .ended }
    | _ => none
  | .execute run =>
    match w.runs[run]? with
    | some row =>
      if row.status.isExecutionClaimable ∧ circle.participants ≠ [] then
        let targetRound := if row.targetRound = 0 then currentRound w.brainstorm.decisionLog + 1 else row.targetRound
        some { w with
          runs := w.runs.set run { row with status := .inProgress }
          attempts := w.attempts ++ [⟨w.brainstorm, targetRound, .arguing circle.participants⟩] }
      else none
    | none => none
  | .argue attempt =>
    match w.attempts[attempt]? with
    | some ⟨brainstorm, targetRound, .arguing (participant :: left)⟩ =>
      some { w with
        messages := w.messages ++ [⟨participant, targetRound⟩]
        attempts := w.attempts.set attempt ⟨brainstorm, targetRound, .arguing left⟩ }
    | _ => none
  | .summarise attempt stop =>
    match w.attempts[attempt]? with
    | some ⟨brainstorm, targetRound, .arguing []⟩ =>
      let decisionLog := brainstorm.decisionLog ++ [.roundSummary targetRound]
      some { w with
        brainstorm.decisionLog := decisionLog
        attempts := w.attempts.set attempt
          ⟨{ brainstorm with decisionLog := decisionLog }, targetRound, .summarised (stop || circle.maxRounds ≤ targetRound)⟩ }
    | _ => none
  | .conclude attempt =>
    match w.attempts[attempt]? with
    | some ⟨brainstorm, targetRound, .summarised finalize⟩ =>
      let ended : List Attempt := w.attempts.set attempt ⟨brainstorm, targetRound, .ended⟩
      if finalize then
        some { w with
          brainstorm := ⟨written brainstorm.status w.brainstorm.status .completed, brainstorm.decisionLog ++ [.finalOutput]⟩
          attempts := ended }
      else
        some { w with
          brainstorm.status := written brainstorm.status w.brainstorm.status .running
          attempts := ended }
    | _ => none
  | .fail attempt =>
    match w.attempts[attempt]? with
    | some held => some { w with attempts := w.attempts.set attempt { held with phase := .ended } }
    | none => none
  | .loadForce =>
    if w.brainstorm.status = .completed then none else some { w with forcers := w.forcers ++ [some w.brainstorm] }
  | .commitForce forcer =>
    match w.forcers[forcer]? with
    | some (some brainstorm) =>
      some { w with
        brainstorm := ⟨written brainstorm.status w.brainstorm.status .completed, brainstorm.decisionLog ++ [.finalOutput]⟩
        forcers := w.forcers.set forcer none }
    | _ => none
  | .again run =>
    match w.runs[run]? with
    | some old => some { w with runs := w.runs ++ [{ old with status := .queued }] }
    | none => none
  | .move run status =>
    match w.runs[run]? with
    | some row => some { w with runs := w.runs.set run { row with status := status } }
    | none => none

def keepsCompleted (held : Brainstorm) : Bool := held.status = .running || w.brainstorm.status ≠ .completed

/-- A run is executed for the round after the last recorded one, which nobody has argued in and no execution is arguing
    in, and before the brainstorm is completed; and while a start or an execution is under way, the brainstorm is not
    completed unless that changes nothing. -/
def careful : Action → Bool
  | .execute run =>
    w.runs[run]?.all fun row =>
      decide (w.brainstorm.status ≠ .completed ∧ row.targetRound = currentRound w.brainstorm.decisionLog + 1) &&
        (w.messages.all fun message => message.roundNumber ≠ row.targetRound) &&
          w.attempts.all fun attempt => ! attempt.isArguing || attempt.targetRound ≠ row.targetRound
  | .summarise .. => w.brainstorm.status ≠ .completed
  | .conclude attempt =>
    w.attempts[attempt]?.all fun attempt => attempt.phase = .summarised true || w.keepsCompleted attempt.brainstorm
  | .commitStart starter =>
    w.starters[starter]?.all fun
      | .checked brainstorm _ => w.keepsCompleted brainstorm
      | .loaded _ | .ended => true
  | .loadStart | .checkStart _ | .argue _ | .fail _ | .loadForce | .commitForce _ | .again _ | .move .. => true

/-- The rounds, the arguments and the outcome of the brainstorm fit together. -/
structure Consistent : Prop where
  rounds : ∃ k ≤ circle.maxRounds, rounds w.brainstorm.decisionLog = List.range' 1 k
  arguments : w.messages.Nodup
  completed : w.brainstorm.status = .completed ↔ .finalOutput ∈ w.brainstorm.decisionLog
  once : w.brainstorm.decisionLog.count .finalOutput ≤ 1

end World

section Logs

variable {circle : Circle} {decisionLog : List Entry} {k : Nat}

@[simp] theorem rounds_summary (round : Nat) :
    rounds (decisionLog ++ [.roundSummary round]) = rounds decisionLog ++ [round] := by
  simp [rounds]

@[simp] theorem rounds_final : rounds (decisionLog ++ [.finalOutput]) = rounds decisionLog := by
  simp [rounds]

theorem foldr_max_range' (least : Nat) : (List.range' 1 k).foldr max least = max least k := by
  induction k generalizing least with
  | zero => simp
  | succ k ih =>
    rw [range'_concat, foldr_append, ih]
    simp only [foldr_cons, foldr_nil]
    omega

theorem currentRound_eq (recorded : rounds decisionLog = List.range' 1 k) : currentRound decisionLog = k := by
  unfold currentRound
  rw [recorded, foldr_max_range']
  omega

structure Open (circle : Circle) (decisionLog : List Entry) : Prop where
  rounds : ∃ k ≤ circle.maxRounds, rounds decisionLog = List.range' 1 k
  unfinished : .finalOutput ∉ decisionLog

structure Recorded (circle : Circle) (brainstorm : Brainstorm) : Prop where
  rounds : ∃ k ≤ circle.maxRounds, rounds brainstorm.decisionLog = List.range' 1 k
  completed : brainstorm.status = .completed ↔ .finalOutput ∈ brainstorm.decisionLog
  once : brainstorm.decisionLog.count .finalOutput ≤ 1

theorem Open.summary (isOpen : Open circle decisionLog) {round : Nat} (next : round = currentRound decisionLog + 1)
    (bounded : round ≤ circle.maxRounds) : Open circle (decisionLog ++ [.roundSummary round]) where
  rounds := by
    obtain ⟨k, -, recorded⟩ := isOpen.rounds
    rw [currentRound_eq recorded] at next
    refine ⟨round, bounded, ?_⟩
    rw [rounds_summary, recorded, next, range'_concat]
    simp [Nat.add_comm]
  unfinished := by
    have unfinished := isOpen.unfinished
    simp [unfinished]

variable {status : BrainstormStatus} {brainstorm : Brainstorm}

theorem Open.stored (isOpen : Open circle decisionLog) (running : status ≠ .completed) :
    Recorded circle ⟨status, decisionLog⟩ where
  rounds := isOpen.rounds
  completed := ⟨fun completed => absurd completed running, fun finished => absurd finished isOpen.unfinished⟩
  once := by
    rw [count_eq_zero_of_not_mem isOpen.unfinished]
    omega

theorem Open.closed (isOpen : Open circle decisionLog) : Recorded circle ⟨.completed, decisionLog ++ [.finalOutput]⟩ where
  rounds := by
    rw [rounds_final]
    exact isOpen.rounds
  completed := by simp
  once := by
    rw [count_append, count_eq_zero_of_not_mem isOpen.unfinished]
    simp

theorem Recorded.isOpen (recorded : Recorded circle brainstorm)
    (running : brainstorm.status ≠ .completed) : Open circle brainstorm.decisionLog :=
  ⟨recorded.rounds, fun finished => running (recorded.completed.mpr finished)⟩

theorem Recorded.moved (recorded : Recorded circle brainstorm)
    (same : status = .completed ↔ brainstorm.status = .completed) :
    Recorded circle { brainstorm with status := status } :=
  ⟨recorded.rounds, same.trans recorded.completed, recorded.once⟩

theorem written_completed {held stored : BrainstormStatus} (running : held ≠ .completed) :
    written held stored .completed = .completed := if_neg running

end Logs

namespace World

variable (circle : Circle) (w : World)

theorem written_running {w : World} {held : Brainstorm} (keeps : w.keepsCompleted held = true) :
    written held.status w.brainstorm.status .running = .completed ↔ w.brainstorm.status = .completed := by
  unfold written
  split
  · exact Iff.rfl
  rename_i other
  simp only [keepsCompleted, Bool.or_eq_true, decide_eq_true_eq] at keeps
  rcases keeps with running | stored
  · exact absurd running other
  · simp [stored]

def AttemptFits (messages : List Message) (attempt : Attempt) : Prop :=
  match attempt.phase with
  | .arguing left =>
    Open circle attempt.brainstorm.decisionLog ∧ attempt.brainstorm.status ≠ .completed ∧
      attempt.targetRound = currentRound attempt.brainstorm.decisionLog + 1 ∧ attempt.targetRound ≤ circle.maxRounds ∧
      left.Nodup ∧ ∀ participant ∈ left, ⟨participant, attempt.targetRound⟩ ∉ messages
  | .summarised _ => Open circle attempt.brainstorm.decisionLog ∧ attempt.brainstorm.status ≠ .completed
  | .ended => True

def StarterFits : Starter → Prop
  | .loaded _ | .ended => True
  | .checked _ targetRound => 1 ≤ targetRound ∧ targetRound ≤ circle.maxRounds

def Apart (attempts : List Attempt) : Prop :=
  ∀ (i j : Nat) (first second : Attempt), attempts[i]? = some first → attempts[j]? = some second → i ≠ j →
    first.isArguing = true → second.isArguing = true → first.targetRound ≠ second.targetRound

structure Sound : Prop where
  recorded : Recorded circle w.brainstorm
  arguments : w.messages.Nodup
  runs : ∀ run ∈ w.runs, 1 ≤ run.targetRound ∧ run.targetRound ≤ circle.maxRounds
  attempts : ∀ attempt ∈ w.attempts, AttemptFits circle w.messages attempt
  apart : Apart w.attempts
  starters : ∀ starter ∈ w.starters, StarterFits circle starter
  forcers : ∀ brainstorm, some brainstorm ∈ w.forcers → Open circle brainstorm.decisionLog ∧ brainstorm.status ≠ .completed

section Steps

variable {circle w} {i : Nat} {held new : Attempt}

variable {after : World} {attempt : Nat} {attempts : List Attempt} {action : Action} {starter : Nat} {α : Type}

theorem Apart.set (apart : Apart attempts) (found : attempts[i]? = some held)
    (argues : new.isArguing = true → held.isArguing = true ∧ new.targetRound = held.targetRound) : Apart (attempts.set i new) := by
  have before {j : Nat} {attempt : Attempt} (isThere : (attempts.set i new)[j]? = some attempt)
      (arguing : attempt.isArguing = true) :
      ∃ old, attempts[j]? = some old ∧ old.isArguing = true ∧ old.targetRound = attempt.targetRound := by
    rw [getElem?_set] at isThere
    split at isThere
    · split at isThere
      · simp_all
      · cases isThere
    · exact ⟨attempt, isThere, arguing, rfl⟩
  intro j l first second isFirst isSecond differ firstArgues secondArgues
  obtain ⟨old, isOld, oldArgues, oldRound⟩ := before isFirst firstArgues
  obtain ⟨other, isOther, otherArgues, otherRound⟩ := before isSecond secondArgues
  rw [← oldRound, ← otherRound]
  exact apart j l old other isOld isOther differ oldArgues otherArgues

theorem Apart.append (apart : Apart attempts)
    (fresh : ∀ attempt ∈ attempts, attempt.isArguing = true → attempt.targetRound ≠ new.targetRound) :
    Apart (attempts ++ [new]) := by
  have before {j : Nat} {attempt : Attempt} (isThere : (attempts ++ [new])[j]? = some attempt) :
      attempts[j]? = some attempt ∨ (j = attempts.length ∧ attempt = new) := by
    rw [getElem?_append] at isThere
    split at isThere
    · exact .inl isThere
    · grind
  intro j l first second isFirst isSecond differ firstArgues secondArgues
  rcases before isFirst with oldFirst | ⟨firstIndex, rfl⟩
  · rcases before isSecond with oldSecond | ⟨-, rfl⟩
    · exact apart j l first second oldFirst oldSecond differ firstArgues secondArgues
    · exact fresh first (mem_of_getElem? oldFirst) firstArgues
  · rcases before isSecond with oldSecond | ⟨secondIndex, -⟩
    · exact (fresh second (mem_of_getElem? oldSecond) secondArgues).symm
    · exact absurd (firstIndex.trans secondIndex.symm) differ

theorem forall_set {Holds : α → Prop} {list : List α} {new : α} (all : ∀ x ∈ list, Holds x) (one : Holds new) :
    ∀ x ∈ list.set i new, Holds x := by
  intro x isThere
  rcases mem_or_eq_of_mem_set isThere with old | rfl
  · exact all x old
  · exact one

theorem forall_append {Holds : α → Prop} {list : List α} {new : α} (all : ∀ x ∈ list, Holds x) (one : Holds new) :
    ∀ x ∈ list ++ [new], Holds x := by
  intro x isThere
  rcases mem_append.mp isThere with old | isNew
  · exact all x old
  · rwa [mem_singleton.mp isNew]

theorem Sound.fits (sound : w.Sound circle) (found : w.attempts[i]? = some held) : AttemptFits circle w.messages held :=
  sound.attempts held (mem_of_getElem? found)

theorem Sound.execute {run : Nat} (sound : w.Sound circle) (careful : w.careful (.execute run) = true)
    (stepped : w.step circle (.execute run) = some after) : after.Sound circle := by
  dsimp only [step] at stepped
  split at stepped
  · rename_i row found
    split at stepped
    · cases stepped
      dsimp only [World.careful] at careful
      simp only [found, Option.all_some, Bool.and_eq_true, decide_eq_true_eq, List.all_eq_true, Bool.or_eq_true,
        Bool.not_eq_true'] at careful
      obtain ⟨⟨⟨running, next⟩, silent⟩, alone⟩ := careful
      obtain ⟨positive, bounded⟩ := sound.runs row (mem_of_getElem? found)
      have target : (if row.targetRound = 0 then currentRound w.brainstorm.decisionLog + 1 else row.targetRound) =
          row.targetRound := if_neg (by omega)
      rw [target]
      have fits : AttemptFits circle w.messages ⟨w.brainstorm, row.targetRound, .arguing circle.participants⟩ := by
        refine ⟨sound.recorded.isOpen running, running, next, bounded, circle.distinct, ?_⟩
        intro participant _ argued
        exact silent _ argued rfl
      have runs : ∀ run' ∈ w.runs.set run { row with status := .inProgress },
          1 ≤ run'.targetRound ∧ run'.targetRound ≤ circle.maxRounds := forall_set sound.runs ⟨positive, bounded⟩
      refine ⟨sound.recorded, sound.arguments, runs, forall_append sound.attempts fits, sound.apart.append ?_,
        sound.starters, sound.forcers⟩
      intro attempt isThere arguing
      rcases alone attempt isThere with idle | other
      · simp [arguing] at idle
      · exact other
    · cases stepped
  · cases stepped

theorem AttemptFits.argued {messages : List Message} {message : Message} (fits : AttemptFits circle messages held)
    (elsewhere : held.isArguing = true → held.targetRound ≠ message.roundNumber) :
    AttemptFits circle (messages ++ [message]) held := by
  obtain ⟨brainstorm, targetRound, phase⟩ := held
  cases phase with
  | arguing left =>
    obtain ⟨isOpen, running, next, bounded, distinct, silent⟩ := fits
    refine ⟨isOpen, running, next, bounded, distinct, ?_⟩
    intro participant waits argued
    rcases mem_append.mp argued with earlier | now
    · exact silent participant waits earlier
    · have same : (⟨participant, targetRound⟩ : Message) = message := mem_singleton.mp now
      exact elsewhere rfl (by rw [← same])
  | summarised finalize => exact fits
  | ended => trivial

theorem Sound.argue (sound : w.Sound circle)
    (stepped : w.step circle (.argue attempt) = some after) : after.Sound circle := by
  dsimp only [step] at stepped
  split at stepped
  · rename_i targetRound participant left found
    cases stepped
    obtain ⟨isOpen, running, next, bounded, distinct, silent⟩ := sound.fits found
    obtain ⟨absent, distinct⟩ := nodup_cons.mp distinct
    refine ⟨sound.recorded, ?_, sound.runs, ?_, sound.apart.set found fun _ => ⟨rfl, rfl⟩, sound.starters, sound.forcers⟩
    · rw [← concat_eq_append]
      exact sound.arguments.concat (silent participant mem_cons_self)
    · intro other isThere
      obtain ⟨j, isAt⟩ := getElem?_of_mem isThere
      rw [getElem?_set] at isAt
      split at isAt
      · split at isAt
        · cases isAt
          refine ⟨isOpen, running, next, bounded, distinct, ?_⟩
          intro waiting waits argued
          rcases mem_append.mp argued with earlier | now
          · exact silent waiting (mem_cons_of_mem _ waits) earlier
          · simp_all
        · cases isAt
      · rename_i differs
        have elsewhere : other.isArguing = true → other.targetRound ≠ targetRound := fun arguing =>
          sound.apart j attempt other _ isAt found (Ne.symm differs) arguing rfl
        exact (sound.fits isAt).argued elsewhere
  · cases stepped

theorem Sound.summarise {stop : Bool} (sound : w.Sound circle)
    (running : w.brainstorm.status ≠ .completed) (stepped : w.step circle (.summarise attempt stop) = some after) :
    after.Sound circle := by
  dsimp only [step] at stepped
  split at stepped
  · rename_i found
    cases stepped
    obtain ⟨isOpen, heldRunning, next, bounded, -⟩ := sound.fits found
    have summary := isOpen.summary next bounded
    refine ⟨summary.stored running, sound.arguments, sound.runs, forall_set sound.attempts ⟨summary, heldRunning⟩,
      sound.apart.set found ?_, sound.starters, sound.forcers⟩
    nofun
  · cases stepped

theorem Sound.conclude (sound : w.Sound circle)
    (careful : w.careful (.conclude attempt) = true) (stepped : w.step circle (.conclude attempt) = some after) :
    after.Sound circle := by
  dsimp only [step] at stepped
  split at stepped
  · rename_i brainstorm targetRound finalize found
    obtain ⟨isOpen, heldRunning⟩ := sound.fits found
    have ended : ∀ other ∈ w.attempts.set attempt ⟨brainstorm, targetRound, .ended⟩, AttemptFits circle w.messages other :=
      forall_set sound.attempts trivial
    have apart : Apart (w.attempts.set attempt ⟨brainstorm, targetRound, .ended⟩) :=
      sound.apart.set found fun arguing => nomatch arguing
    split at stepped
    · cases stepped
      refine ⟨?_, sound.arguments, sound.runs, ended, apart, sound.starters, sound.forcers⟩
      rw [written_completed heldRunning]
      exact isOpen.closed
    · rename_i goesOn
      cases stepped
      dsimp only [World.careful] at careful
      rw [found] at careful
      have keeps : w.keepsCompleted brainstorm = true := by
        simpa [goesOn] using careful
      exact ⟨sound.recorded.moved (written_running keeps), sound.arguments, sound.runs, ended, apart, sound.starters,
        sound.forcers⟩
  · cases stepped

theorem Sound.checkStart (sound : w.Sound circle)
    (stepped : w.step circle (.checkStart starter) = some after) : after.Sound circle := by
  dsimp only [step] at stepped
  split at stepped
  · rename_i brainstorm found
    split at stepped
    · cases stepped
    split at stepped
    · cases stepped
    cases stepped
    have fits : StarterFits circle (.checked brainstorm (currentRound brainstorm.decisionLog + 1)) :=
      ⟨by omega, by omega⟩
    exact ⟨sound.recorded, sound.arguments, sound.runs, sound.attempts, sound.apart, forall_set sound.starters fits,
      sound.forcers⟩
  · cases stepped

theorem Sound.commitStart (sound : w.Sound circle)
    (careful : w.careful (.commitStart starter) = true) (stepped : w.step circle (.commitStart starter) = some after) :
    after.Sound circle := by
  dsimp only [step] at stepped
  split at stepped
  · rename_i brainstorm targetRound found
    cases stepped
    dsimp only [World.careful] at careful
    rw [found, Option.all_some] at careful
    have fits : StarterFits circle (.checked brainstorm targetRound) := sound.starters _ (mem_of_getElem? found)
    exact ⟨sound.recorded.moved (written_running careful), sound.arguments, forall_append sound.runs fits, sound.attempts,
      sound.apart, forall_set sound.starters trivial, sound.forcers⟩
  · cases stepped

theorem Sound.commitForce {forcer : Nat} (sound : w.Sound circle)
    (stepped : w.step circle (.commitForce forcer) = some after) : after.Sound circle := by
  dsimp only [step] at stepped
  split at stepped
  · rename_i brainstorm found
    cases stepped
    obtain ⟨isOpen, running⟩ := sound.forcers brainstorm (mem_of_getElem? found)
    refine ⟨?_, sound.arguments, sound.runs, sound.attempts, sound.apart, sound.starters, ?_⟩
    · rw [written_completed running]
      exact isOpen.closed
    · intro other isThere
      rcases mem_or_eq_of_mem_set isThere with waits | isOver
      · exact sound.forcers other waits
      · cases isOver
  · cases stepped

theorem Sound.step (sound : w.Sound circle) (careful : w.careful action = true)
    (stepped : w.step circle action = some after) : after.Sound circle := by
  cases action with
  | execute run => exact sound.execute careful stepped
  | argue attempt => exact sound.argue stepped
  | summarise attempt stop => exact sound.summarise (of_decide_eq_true careful) stepped
  | conclude attempt => exact sound.conclude careful stepped
  | checkStart starter => exact sound.checkStart stepped
  | commitStart starter => exact sound.commitStart careful stepped
  | commitForce forcer => exact sound.commitForce stepped
  | loadStart =>
    dsimp only [World.step] at stepped
    split at stepped
    · cases stepped
    · cases stepped
      exact ⟨sound.recorded, sound.arguments, sound.runs, sound.attempts, sound.apart, forall_append sound.starters trivial,
        sound.forcers⟩
  | loadForce =>
    dsimp only [World.step] at stepped
    split at stepped
    · cases stepped
    rename_i running
    cases stepped
    refine ⟨sound.recorded, sound.arguments, sound.runs, sound.attempts, sound.apart, sound.starters, ?_⟩
    intro brainstorm isThere
    rcases mem_append.mp isThere with waits | isNew
    · exact sound.forcers brainstorm waits
    · cases mem_singleton.mp isNew
      exact ⟨sound.recorded.isOpen running, running⟩
  | fail attempt =>
    dsimp only [World.step] at stepped
    split at stepped
    · rename_i found
      cases stepped
      exact ⟨sound.recorded, sound.arguments, sound.runs, forall_set sound.attempts trivial,
        sound.apart.set found (fun arguing => nomatch arguing), sound.starters, sound.forcers⟩
    · cases stepped
  | again run =>
    dsimp only [World.step] at stepped
    split at stepped
    · rename_i old found
      cases stepped
      have bounded := sound.runs old (mem_of_getElem? found)
      exact ⟨sound.recorded, sound.arguments, forall_append sound.runs bounded, sound.attempts, sound.apart, sound.starters,
        sound.forcers⟩
    · cases stepped
  | move run status =>
    dsimp only [World.step] at stepped
    split at stepped
    · rename_i row found
      cases stepped
      have bounded := sound.runs row (mem_of_getElem? found)
      exact ⟨sound.recorded, sound.arguments, forall_set sound.runs bounded, sound.attempts, sound.apart, sound.starters,
        sound.forcers⟩
    · cases stepped

theorem stays_completed (sound : w.Sound circle) (careful : w.careful action = true)
    (stepped : w.step circle action = some after) (completed : w.brainstorm.status = .completed) :
    after.brainstorm.status = .completed := by
  cases action with
  | summarise attempt stop => exact absurd completed (of_decide_eq_true careful)
  | conclude attempt =>
    dsimp only [World.step] at stepped
    split at stepped
    · rename_i brainstorm targetRound finalize found
      split at stepped
      · cases stepped
        exact written_completed (sound.fits found).2
      · rename_i goesOn
        cases stepped
        dsimp only [World.careful] at careful
        rw [found] at careful
        have keeps : w.keepsCompleted brainstorm = true := by
          simpa [goesOn] using careful
        exact (written_running keeps).mpr completed
    · cases stepped
  | commitStart starter =>
    dsimp only [World.step] at stepped
    split at stepped
    · rename_i found
      cases stepped
      dsimp only [World.careful] at careful
      rw [found, Option.all_some] at careful
      exact (written_running careful).mpr completed
    · cases stepped
  | commitForce forcer =>
    dsimp only [World.step] at stepped
    split at stepped
    · rename_i brainstorm found
      cases stepped
      exact written_completed (sound.forcers brainstorm (mem_of_getElem? found)).2
    · cases stepped
  | loadStart | loadForce => simp_all [World.step]
  | checkStart starter | argue attempt | fail attempt | again run | move run status => grind [World.step]
  | execute run =>
    dsimp only [World.careful] at careful
    dsimp only [World.step] at stepped
    split at stepped
    · simp_all
    · cases stepped

end Steps

end World

theorem World.Sound.consistent {circle : Circle} {w : World} (sound : w.Sound circle) : w.Consistent circle :=
  ⟨sound.recorded.rounds, sound.arguments, sound.recorded.completed, sound.recorded.once⟩

theorem initial_sound (circle : Circle) : World.Sound circle {} where
  recorded := ⟨⟨0, Nat.zero_le _, rfl⟩, by simp, by simp⟩
  arguments := nodup_nil
  runs := by simp
  attempts := by simp
  apart := by
    intro i j first second found
    simp at found
  starters := by simp
  forcers := by simp

theorem rounds_consistent (circle : Circle) {w : World}
    (reached : Reaches (World.step circle) (fun w action => w.careful action = true) {} w) :
    w.Consistent circle ∧ ∀ later, Reaches (World.step circle) (fun w action => w.careful action = true) w later →
      w.brainstorm.status = .completed → later.brainstorm.status = .completed := by
  have sound : w.Sound circle := by
    apply @Reaches.invariant _ _ _ _ _ _ (World.Sound circle) reached
    · exact initial_sound circle
    · intro state after action sound careful stepped
      exact sound.step careful stepped
  refine ⟨sound.consistent, fun later reaches completed => ?_⟩
  have both : later.Sound circle ∧ later.brainstorm.status = .completed := by
    apply @Reaches.invariant _ _ _ _ _ _ (fun w => w.Sound circle ∧ w.brainstorm.status = .completed) reaches
    · exact ⟨sound, completed⟩
    · intro state after action held careful stepped
      exact ⟨held.1.step careful stepped, World.stays_completed held.1 careful stepped held.2⟩
  exact both.2

def pair : Circle := ⟨["ada", "bob"], by decide, 2⟩

def twoRounds : List Action :=
  [.loadStart, .checkStart 0, .commitStart 0, .execute 0, .argue 0, .argue 0, .summarise 0 false, .conclude 0,
    .move 0 .completed, .loadStart, .checkStart 1, .commitStart 1, .execute 1, .fail 1, .move 1 .failed, .again 1, .execute 2,
    .argue 2, .argue 2, .summarise 2 false, .conclude 2, .move 2 .completed]

theorem twoRounds_consistent :
    ∃ w, runWhere (World.step pair) World.careful {} twoRounds = some w ∧ w.Consistent pair ∧
      w.brainstorm = ⟨.completed, [.roundSummary 1, .roundSummary 2, .finalOutput]⟩ := by
  obtain ⟨w, ran, log⟩ : ∃ w, runWhere (World.step pair) World.careful {} twoRounds = some w ∧
      w.brainstorm = ⟨.completed, [.roundSummary 1, .roundSummary 2, .finalOutput]⟩ := ⟨_, rfl, by decide⟩
  exact ⟨w, ran, (rounds_consistent pair (Reaches.start.runs (fun _ _ careful => careful) ran)).1, log⟩

def brokenRound : List Action :=
  [.loadStart, .checkStart 0, .commitStart 0, .execute 0, .argue 0, .fail 0, .move 0 .failed, .loadStart, .checkStart 1,
    .commitStart 1, .execute 1, .argue 1]

theorem brokenRound_argues_twice :
    ¬ ∀ (circle : Circle) (w : World), Reaches (World.step circle) (fun _ _ => True) {} w → w.Consistent circle := by
  intro every
  obtain ⟨w, ran, twice⟩ : ∃ w, runWhere (World.step pair) (fun _ _ => true) {} brokenRound = some w ∧
      ¬ w.messages.Nodup := ⟨_, rfl, by decide⟩
  exact twice (every pair w (Reaches.start.runs (fun _ _ _ => trivial) ran)).arguments

end Troop.Brainstorms
