import Mathlib.Logic.Function.Basic
import Mathlib.Data.List.Count
import Troop.Systems.Runs

namespace Troop.RateLimits

open List

structure Counter where
  value : Int
  expires : Bool
deriving DecidableEq

/-- `INCR`, which answers the new value -/
def incr : Option Counter → Counter
  | none => ⟨1, false⟩
  | some counter => { counter with value := counter.value + 1 }

def decr : Option Counter → Counter
  | none => ⟨-1, false⟩
  | some counter => { counter with value := counter.value - 1 }

def expire (counter : Option Counter) : Option Counter := counter.map ({ · with expires := true })

/-- `TTL`; `remaining` are the seconds left. -/
def ttl (remaining : Nat) : Option Counter → Int
  | none => -2
  | some counter => if counter.expires then remaining else -1

/-- The function that counts the calls at a key, with what it is given. -/
inductive Limiter where
  /-- `check_rate_limit` -/
  | check (maxAttempts : Int)
  /-- `_enforce_orchestration_run_rate_limit`; `dev` is that `APP_ENV` is "dev" -/
  | orchestration (limit : Int) (dev : Bool)
deriving DecidableEq

structure HttpException where
  statusCode : Nat
  detail : String
  retryAfter : String
deriving DecidableEq

inductive Stage where
  | incrementing
  | expiring
  | refunding
  | asking
  | accepted
  | rejected (exception : HttpException)
  | crashed
deriving DecidableEq

def Stage.running : Stage → Bool
  | .incrementing | .expiring | .refunding | .asking => true
  | .accepted | .rejected _ | .crashed => false

namespace Limiter

def limit : Limiter → Int
  | .check maxAttempts => maxAttempts
  | .orchestration limit _ => limit

def enabled : Limiter → Bool
  | .check _ => true
  | .orchestration limit dev => 0 < limit ∧ ¬ dev

def refunds : Limiter → Bool
  | .check _ => false
  | .orchestration _ _ => true

def judge (limiter : Limiter) (count : Int) : Stage :=
  if limiter.limit < count then (if limiter.refunds then .refunding else .asking) else .accepted

def refusal (limiter : Limiter) (ttl : Int) : HttpException :=
  match limiter with
  | .check _ => ⟨429, s!"Too many attempts. Try again in {ttl} seconds.", toString ttl⟩
  | .orchestration limit _ =>
    let retryAfter := if 0 < ttl then max 1 ttl else 60
    ⟨429, s!"Orchestration run rate limit exceeded ({limit} starts per rolling minute). Retry in ~{retryAfter}s.",
      toString retryAfter⟩

end Limiter

/-- A key, and the calls that are counted at it. `admitted` are the calls whose `INCR` answered a value within the limit since
    the key expired last. -/
structure Slot where
  counter : Option Counter := none
  calls : List Stage := []
  admitted : Nat := 0
deriving DecidableEq

inductive Action where
  | arrive
  | advance (call remaining : Nat)
  | expire
  | crash (call : Nat)
deriving DecidableEq

namespace Slot

variable (limiter : Limiter) (slot : Slot)

def step : Action → Option Slot
  | .arrive =>
    if limiter.enabled then some { slot with calls := slot.calls ++ [.incrementing] }
    else some { slot with calls := slot.calls ++ [.accepted], admitted := slot.admitted + 1 }
  | .advance call remaining =>
    match slot.calls[call]? with
    | some .incrementing =>
      let counter := incr slot.counter
      some {
        counter := some counter
        calls := slot.calls.set call (if counter.value = 1 then .expiring else limiter.judge counter.value)
        admitted := if counter.value ≤ limiter.limit then slot.admitted + 1 else slot.admitted }
    | some .expiring =>
      some { slot with counter := RateLimits.expire slot.counter, calls := slot.calls.set call (limiter.judge 1) }
    | some .refunding => some { slot with counter := some (decr slot.counter), calls := slot.calls.set call .asking }
    | some .asking =>
      some { slot with calls := slot.calls.set call (.rejected (limiter.refusal (ttl remaining slot.counter))) }
    | _ => none
  | .expire =>
    match slot.counter with
    | some ⟨_, true⟩ => some { slot with counter := none, admitted := 0 }
    | _ => none
  | .crash call =>
    match slot.calls[call]? with
    | some stage => if stage.running then some { slot with calls := slot.calls.set call .crashed } else none
    | none => none

def Stuck : Prop :=
  ∃ counter, slot.counter = some counter ∧ counter.expires = false ∧ limiter.limit ≤ counter.value ∧ .expiring ∉ slot.calls

/-- The limiter limits, rejections cost nothing, and the key recovers. -/
structure Fair : Prop where
  bounded : (slot.admitted : Int) ≤ max 0 limiter.limit
  unspent : limiter.refunds = true → .refunding ∉ slot.calls → ∀ counter, slot.counter = some counter →
    counter.value ≤ slot.admitted
  recovers : ¬ slot.Stuck limiter

/-- The limiter is enabled; no process crashes between the two commands that belong together, and the key does not expire while
    a rejected call is about to give its slot back. -/
def careful : Action → Bool
  | .arrive | .advance _ _ => limiter.enabled
  | .expire => limiter.enabled && .refunding ∉ slot.calls
  | .crash call => limiter.enabled && slot.calls[call]? ≠ some .expiring && slot.calls[call]? ≠ some .refunding

structure Counted : Prop where
  absent : slot.counter = none → slot.admitted = 0 ∧ .refunding ∉ slot.calls
  bounded : (slot.admitted : Int) ≤ max 0 limiter.limit
  refunded : .refunding ∈ slot.calls → limiter.refunds = true
  held : limiter.refunds = true → ∀ counter, slot.counter = some counter →
    1 ≤ slot.admitted ∧ counter.value = slot.admitted + slot.calls.count .refunding
  attempts : limiter.refunds = false → ∀ counter, slot.counter = some counter →
    1 ≤ counter.value ∧ (slot.admitted : Int) = min counter.value (max 0 limiter.limit)
  timed : ∀ counter, slot.counter = some counter → counter.expires = false → .expiring ∈ slot.calls

section Steps

variable {limiter slot} {call remaining : Nat} {stage next : Stage} {after : Slot}

theorem mem_set_of_ne {other : Stage} (found : slot.calls[call]? = some stage) (differs : other ≠ stage)
    (member : other ∈ slot.calls) : other ∈ slot.calls.set call next := by
  obtain ⟨i, isThere⟩ := getElem?_of_mem member
  have apart : call ≠ i := by grind
  apply mem_of_getElem?
  rwa [getElem?_set_ne apart]

theorem count_set_of_ne (found : slot.calls[call]? = some stage) (old : stage ≠ .refunding) (new : next ≠ .refunding) :
    (slot.calls.set call next).count .refunding = slot.calls.count .refunding := by
  obtain ⟨within, same⟩ := List.getElem?_eq_some_iff.mp found
  rw [List.count_set within, same]
  simp [old, new]

theorem refunding_of_set (new : next ≠ .refunding) (member : .refunding ∈ slot.calls.set call next) :
    .refunding ∈ slot.calls := (mem_or_eq_of_mem_set member).resolve_right new.symm

theorem judge_refunding {count : Int} (refunding : limiter.judge count = .refunding) : limiter.refunds = true := by
  unfold Limiter.judge at refunding
  split at refunding
  · split at refunding
    · assumption
    · cases refunding
  · cases refunding

theorem Counted.value_pos (counted : slot.Counted limiter) {counter : Counter} (present : slot.counter = some counter) :
    1 ≤ counter.value := by
  cases kind : limiter.refunds with
  | true =>
    obtain ⟨some_, held⟩ := counted.held kind counter present
    omega
  | false => exact (counted.attempts kind counter present).1

theorem Counted.start : Slot.Counted limiter {} where
  absent _ := ⟨rfl, not_mem_nil⟩
  bounded := Int.le_max_left _ _
  refunded member := absurd member not_mem_nil
  held _ _ absent := nomatch absent
  attempts _ _ absent := nomatch absent
  timed _ absent := nomatch absent

theorem Counted.goesOn (counted : slot.Counted limiter) (found : slot.calls[call]? = some stage) (old : stage ≠ .refunding)
    (new : next ≠ .refunding) (untimed : stage ≠ .expiring) :
    Slot.Counted limiter { slot with calls := slot.calls.set call next } where
  absent none_ := by
    obtain ⟨zero, unheld⟩ := counted.absent none_
    refine ⟨zero, ?_⟩
    grind
  bounded := counted.bounded
  refunded member := counted.refunded (refunding_of_set new member)
  held kind counter present := by
    rw [count_set_of_ne found old new]
    exact counted.held kind counter present
  attempts := counted.attempts
  timed counter present lasting := mem_set_of_ne found untimed.symm (counted.timed counter present lasting)

/-- The first `INCR` of a key's life, and a later one. -/
theorem step_first (found : slot.calls[call]? = some .incrementing) (absent : slot.counter = none) :
    slot.step limiter (.advance call remaining) = some {
      counter := some ⟨1, false⟩
      calls := slot.calls.set call .expiring
      admitted := if 1 ≤ limiter.limit then slot.admitted + 1 else slot.admitted } := by
  simp [step, found, absent, incr]

theorem step_later {counter : Counter} (found : slot.calls[call]? = some .incrementing) (present : slot.counter = some counter)
    (positive : 1 ≤ counter.value) : slot.step limiter (.advance call remaining) = some {
      counter := some { counter with value := counter.value + 1 }
      calls := slot.calls.set call (limiter.judge (counter.value + 1))
      admitted := if counter.value + 1 ≤ limiter.limit then slot.admitted + 1 else slot.admitted } := by
  have later : counter.value + 1 ≠ 1 := by omega
  simp only [step, found, present, incr, if_neg later]

theorem Counted.increments (counted : slot.Counted limiter) (enabled : limiter.enabled = true)
    (found : slot.calls[call]? = some .incrementing) (stepped : slot.step limiter (.advance call remaining) = some after) :
    after.Counted limiter := by
  have within : call < slot.calls.length := (List.getElem?_eq_some_iff.mp found).1
  have limited : limiter.refunds = true → 1 ≤ limiter.limit := by
    intro kind
    cases limiter with
    | check maxAttempts => cases kind
    | orchestration limit dev => exact (of_decide_eq_true enabled).1
  have bounded := counted.bounded
  have counts (next : Stage) : (slot.calls.set call next).count .refunding =
      slot.calls.count .refunding + if next = .refunding then 1 else 0 := by
    rw [List.count_set within, (List.getElem?_eq_some_iff.mp found).2]
    simp
  cases present : slot.counter with
  | none =>
    obtain ⟨zero, unheld⟩ := counted.absent present
    have unheld := count_eq_zero.mpr unheld
    rw [step_first found present, zero] at stepped
    cases stepped
    refine ⟨(fun absent => nomatch absent), ?_, ?_, ?_, ?_, ?_⟩
    · grind
    · grind
    · simp_all
    · grind
    · simp_all [mem_set]
  | some counter =>
    have positive := counted.value_pos present
    rw [step_later found present positive] at stepped
    cases stepped
    refine ⟨(fun absent => nomatch absent), ?_, ?_, ?_, ?_, ?_⟩
    · dsimp only
      cases kind : limiter.refunds with
      | true =>
        have held := counted.held kind counter present
        split <;> omega
      | false =>
        have attempts := counted.attempts kind counter present
        split <;> omega
    · intro member
      rcases mem_or_eq_of_mem_set member with old | new
      · exact counted.refunded old
      · exact judge_refunding new.symm
    · intro kind other same
      cases same
      obtain ⟨some_, held⟩ := counted.held kind counter present
      rw [counts, Limiter.judge, kind]
      by_cases beyond : limiter.limit < counter.value + 1 <;> grind
    · intro kind other same
      cases same
      have attempts := counted.attempts kind counter present
      refine ⟨by dsimp only; omega, ?_⟩
      dsimp only
      split <;> omega
    · intro other same lasting
      cases same
      exact mem_set_of_ne found (by simp) (counted.timed counter present lasting)

theorem Counted.expires (counted : slot.Counted limiter) (enabled : limiter.enabled = true)
    (found : slot.calls[call]? = some .expiring) (stepped : slot.step limiter (.advance call remaining) = some after) :
    after.Counted limiter := by
  simp only [step, found, Option.some.injEq] at stepped
  subst stepped
  have quiet : limiter.judge 1 ≠ .refunding := by
    unfold Limiter.judge
    cases limiter with
    | check maxAttempts => grind [Limiter.refunds]
    | orchestration limit dev =>
      have positive := (of_decide_eq_true enabled).1
      have within : ¬ limit < 1 := by omega
      simp [Limiter.limit, within]
  have same := count_set_of_ne found (by simp) quiet
  refine ⟨?_, counted.bounded, fun member => counted.refunded (refunding_of_set quiet member), ?_, ?_, ?_⟩
  · intro absent
    obtain ⟨zero, unheld⟩ := counted.absent (Option.map_eq_none_iff.mp absent)
    refine ⟨zero, ?_⟩
    grind
  · intro kind counter present
    obtain ⟨old, was, rfl⟩ := Option.map_eq_some_iff.mp present
    rw [same]
    exact counted.held kind old was
  · intro kind counter present
    obtain ⟨old, was, rfl⟩ := Option.map_eq_some_iff.mp present
    exact counted.attempts kind old was
  · intro counter present lasting
    obtain ⟨old, was, rfl⟩ := Option.map_eq_some_iff.mp present
    cases lasting

theorem Counted.refunds (counted : slot.Counted limiter) (found : slot.calls[call]? = some .refunding) (stepped : slot.step limiter (.advance call remaining) = some after) :
    after.Counted limiter := by
  simp only [step, found, Option.some.injEq] at stepped
  subst stepped
  have member : .refunding ∈ slot.calls := mem_of_getElem? found
  have kind := counted.refunded member
  have counts : (slot.calls.set call .asking).count .refunding + 1 = slot.calls.count .refunding := by
    grind
  cases present : slot.counter with
  | none => exact absurd member (counted.absent present).2
  | some counter =>
    obtain ⟨some_, held⟩ := counted.held kind counter present
    refine ⟨(fun absent => nomatch absent), counted.bounded, fun _ => kind, ?_, ?_, ?_⟩
    · intro _ other same
      cases same
      refine ⟨some_, ?_⟩
      dsimp only [decr]
      omega
    · simp [kind]
    · intro other same lasting
      cases same
      exact mem_set_of_ne found (by simp) (counted.timed counter present lasting)

theorem Counted.arrives (counted : slot.Counted limiter) :
    Slot.Counted limiter { slot with calls := slot.calls ++ [.incrementing] } where
  absent none_ := by
    obtain ⟨zero, unheld⟩ := counted.absent none_
    refine ⟨zero, ?_⟩
    simpa using unheld
  bounded := counted.bounded
  refunded member := counted.refunded (by simpa using member)
  held kind counter present := by simpa using counted.held kind counter present
  attempts := counted.attempts
  timed counter present lasting := mem_append_left _ (counted.timed counter present lasting)

theorem Counted.step {action : Action} (counted : slot.Counted limiter) (careful : slot.careful limiter action = true)
    (stepped : slot.step limiter action = some after) : after.Counted limiter := by
  cases action with
  | arrive =>
    have enabled : limiter.enabled = true := careful
    dsimp only [Slot.step] at stepped
    rw [if_pos enabled] at stepped
    cases stepped
    exact counted.arrives
  | advance call remaining =>
    have enabled : limiter.enabled = true := careful
    cases found : slot.calls[call]? with
    | none => simp [Slot.step, found] at stepped
    | some stage =>
      cases stage with
      | incrementing => exact counted.increments enabled found stepped
      | expiring => exact counted.expires enabled found stepped
      | refunding => exact counted.refunds found stepped
      | asking =>
        simp only [Slot.step, found, Option.some.injEq] at stepped
        subst stepped
        exact counted.goesOn found (by simp) (by simp) (by simp)
      | _ => simp [Slot.step, found] at stepped
  | expire =>
    simp only [Slot.careful, Bool.and_eq_true, decide_eq_true_eq] at careful
    dsimp only [Slot.step] at stepped
    split at stepped
    · cases stepped
      refine ⟨fun _ => ⟨rfl, careful.2⟩, Int.le_max_left _ _, fun member => absurd member careful.2, ?_, ?_, ?_⟩
      · exact fun _ _ absent => nomatch absent
      · exact fun _ _ absent => nomatch absent
      · exact fun _ absent => nomatch absent
    · cases stepped
  | crash call =>
    simp only [Slot.careful, Bool.and_eq_true, decide_eq_true_eq] at careful
    obtain ⟨⟨_, timed⟩, held⟩ := careful
    dsimp only [Slot.step] at stepped
    split at stepped
    · rename_i found
      split at stepped
      · cases stepped
        rw [found] at timed held
        exact counted.goesOn found (fun same => held (congrArg some same)) (by simp) (fun same => timed (congrArg some same))
      · cases stepped
    · cases stepped

theorem Counted.fair (counted : slot.Counted limiter) : slot.Fair limiter where
  bounded := counted.bounded
  unspent kind unheld counter present := by
    obtain ⟨_, held⟩ := counted.held kind counter present
    rw [count_eq_zero.mpr unheld] at held
    omega
  recovers stuck := by
    obtain ⟨counter, present, lasting, _, untimed⟩ := stuck
    exact untimed (counted.timed counter present lasting)

end Steps

end Slot

abbrev Keys := String → Slot

def step (limiters : String → Limiter) (keys : Keys) (move : String × Action) : Option Keys :=
  ((keys move.1).step (limiters move.1) move.2).map (Function.update keys move.1)

def careful (limiters : String → Limiter) (keys : Keys) (move : String × Action) : Bool :=
  (keys move.1).careful (limiters move.1) move.2

def unused : Keys := fun _ => {}

def Counted (limiters : String → Limiter) (keys : Keys) : Prop := ∀ key, (keys key).Counted (limiters key)

open Systems

/-- In every interleaving of careful steps each limiter admits no more calls than its limit while its key lives, takes no slot
    for a rejected start, and never gets stuck. -/
theorem rate_limits_fair (limiters : String → Limiter) (keys : Keys)
    (reached : Reaches (step limiters) (fun keys move => careful limiters keys move = true) unused keys) (key : String) :
    (keys key).Fair (limiters key) := by
  have counted : Counted limiters keys := by
    apply reached.invariant
    · exact fun _ => Slot.Counted.start
    intro state after move counted careful stepped key
    obtain ⟨slot, moved, rfl⟩ := Option.map_eq_some_iff.mp stepped
    by_cases same : key = move.1
    · subst same
      rw [Function.update_self]
      exact (counted _).step careful moved
    · rw [Function.update_of_ne same]
      exact counted key
  exact (counted key).fair

def oneStart : String → Limiter := fun _ => .orchestration 1 false

def secondRejected : List (String × Action) :=
  [("user", .arrive), ("user", .arrive), ("user", .advance 0 0), ("user", .advance 0 0), ("user", .advance 1 0),
    ("user", .advance 1 0), ("user", .advance 1 30)]

theorem second_start_rejected : ∃ keys, runWhere (step oneStart) (careful oneStart) unused secondRejected = some keys ∧
    (keys "user").Fair (oneStart "user") := by
  have ran : (runWhere (step oneStart) (careful oneStart) unused secondRejected).isSome = true := by decide
  obtain ⟨keys, ran⟩ := Option.isSome_iff_exists.mp ran
  exact ⟨keys, ran, rate_limits_fair oneStart keys (Reaches.start.runs (fun _ _ checked => checked) ran) "user"⟩

def crashedBeforeExpire : List (String × Action) := [("user", .arrive), ("user", .advance 0 0), ("user", .crash 0)]

def crashedBeforeRefund : List (String × Action) :=
  [("user", .arrive), ("user", .advance 0 0), ("user", .advance 0 0), ("user", .arrive), ("user", .advance 1 0),
    ("user", .crash 1)]

def refundedLate : List (String × Action) :=
  [("user", .arrive), ("user", .advance 0 0), ("user", .advance 0 0), ("user", .arrive), ("user", .advance 1 0),
    ("user", .expire), ("user", .advance 1 0), ("user", .arrive), ("user", .advance 2 0), ("user", .arrive),
    ("user", .advance 3 0)]

def after (moves : List (String × Action)) : Option Slot :=
  (runWhere (step oneStart) (fun _ _ => true) unused moves).map fun keys => keys "user"

theorem key_stuck_and_overrun :
    after crashedBeforeExpire = some ⟨some ⟨1, false⟩, [.crashed], 1⟩ ∧
    after crashedBeforeRefund = some ⟨some ⟨2, true⟩, [.accepted, .crashed], 1⟩ ∧
    (after refundedLate).map Slot.admitted = some 2 ∧
    ¬ ∀ limiters keys, Reaches (step limiters) (fun _ _ => True) unused keys → ∀ key, (keys key).Fair (limiters key) := by
  refine ⟨by decide, by decide, by decide, fun claimed => ?_⟩
  have stuck : after crashedBeforeExpire = some ⟨some ⟨1, false⟩, [.crashed], 1⟩ := by decide
  obtain ⟨keys, ran, same⟩ := Option.map_eq_some_iff.mp stuck
  have reached : Reaches (step oneStart) (fun _ _ => True) unused keys := Reaches.start.runs (fun _ _ _ => trivial) ran
  apply (claimed oneStart keys reached "user").recovers
  rw [same]
  exact ⟨⟨1, false⟩, rfl, rfl, by decide, by decide⟩

end Troop.RateLimits
