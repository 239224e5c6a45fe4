import Mathlib.Data.List.Nodup
import Troop.Systems.Runs

namespace Troop.Cache.SingleFlight

open List

/-- An `asyncio.Lock`, with the calls that wait for it. While it is free and has waiters, the first of them has been woken and
    has yet to go on. -/
structure Lock where
  locked : Bool := false
  waiters : List Nat := []

variable {ρ : Type}

/-- How far a call of `run` has come; `ρ` is what loaders return or raise. -/
inductive Stage (ρ : Type) where
  | waiting
  | loading
  | returned (result : ρ)

def Stage.unfinished : Stage ρ → Bool
  | .waiting | .loading => true
  | .returned _ => false

/-- A call of `run`, with the lock that it was handed; `loader` is what its loader will return or raise. -/
structure Call (ρ : Type) where
  key : String
  lock : Nat
  loader : ρ
  stage : Stage ρ

/-- `table` is `_locks`, oldest first; `locks` are all the locks made so far. The guard is free at each await, so that what it
    guards is part of one step. -/
structure World (ρ : Type) where
  table : List (String × Nat) := []
  locks : List Lock := []
  calls : List (Call ρ) := []

inductive Action (ρ : Type) where
  /-- a new call runs up to its first suspension -/
  | enter (key : String) (loader : ρ)
  /-- a woken waiter takes its lock -/
  | resume (number : Nat)
  /-- a loader has ended -/
  | finish (number : Nat)

/-- `self._max_keys` -/
def bound (maxKeys : Int) : Nat := (max 1 maxKeys).toNat

/-- The loop of `_evict_unlocked`; `excess` is how far the table is out of bounds. -/
def evict (locked : Nat → Bool) : Nat → List (String × Nat) → List (String × Nat)
  | 0, table => table
  | excess + 1, table =>
    match table.find? fun entry => !locked entry.2 with
    | none => table
    | some victim => evict locked excess (table.erase victim)

def moveToEnd (table : List (String × Nat)) (key : String) : List (String × Nat) :=
  table.filter (fun entry => entry.1 ≠ key) ++ table.filter fun entry => !decide (entry.1 ≠ key)

namespace World

variable (maxKeys : Int) (world : World ρ)

def lockAt (id : Nat) : Lock := (world.locks[id]?).getD {}

def locked (id : Nat) : Bool := (world.lockAt id).locked

def getOrCreate (key : String) : World ρ × Nat :=
  match world.table.find? fun entry => entry.1 = key with
  | some entry => (world, entry.2)
  | none =>
    ({ world with table := world.table ++ [(key, world.locks.length)], locks := world.locks ++ [{}] }, world.locks.length)

/-- `run` up to the eviction -/
def hand (key : String) : World ρ × Nat :=
  let (made, id) := world.getOrCreate key
  ({ made with table := moveToEnd made.table key }, id)

def evictUnlocked : World ρ :=
  { world with table := evict world.locked (world.table.length - bound maxKeys) world.table }

/-- `async with lock` by a new call, which waits where the lock is held or has waiters. -/
def acquire (key : String) (id : Nat) (loader : ρ) : World ρ :=
  match world.lockAt id with
  | ⟨false, []⟩ =>
    { world with locks := world.locks.set id ⟨true, []⟩, calls := world.calls ++ [⟨key, id, loader, .loading⟩] }
  | lock =>
    { world with
      locks := world.locks.set id { lock with waiters := lock.waiters ++ [world.calls.length] }
      calls := world.calls ++ [⟨key, id, loader, .waiting⟩] }

def takeOver (number : Nat) (call : Call ρ) : World ρ :=
  { world with
    locks := world.locks.set call.lock { locked := true, waiters := (world.lockAt call.lock).waiters.tail }
    calls := world.calls.set number { call with stage := .loading } }

def release (number : Nat) (call : Call ρ) : World ρ :=
  { world with
    locks := world.locks.set call.lock { world.lockAt call.lock with locked := false }
    calls := world.calls.set number { call with stage := .returned call.loader } }

def step : Action ρ → Option (World ρ)
  | .enter key loader =>
    let (handed, id) := world.hand key
    some ((handed.evictUnlocked maxKeys).acquire key id loader)
  | .resume number =>
    match world.calls[number]? with
    | some call =>
      match call.stage, world.lockAt call.lock with
      | .waiting, ⟨false, first :: _⟩ => if first = number then some (world.takeOver number call) else none
      | _, _ => none
    | none => none
  | .finish number =>
    match world.calls[number]? with
    | some call =>
      match call.stage with
      | .loading => some ((world.evictUnlocked maxKeys).release number call)
      | _ => none
    | none => none

/-- One loader for each key at a time, each call with the result of its own loader, and the table within bounds. -/
structure Single : Prop where
  oneLoader : ∀ (i j : Nat) (first second : Call ρ), world.calls[i]? = some first → world.calls[j]? = some second →
    first.stage = .loading → second.stage = .loading → first.key = second.key → i = j
  ownResult : ∀ call ∈ world.calls, ∀ result, call.stage = .returned result → result = call.loader
  bounded : world.table.length ≤ bound maxKeys

def spares (id : Option Nat) : Bool :=
  world.table.all fun entry => entry ∈ (world.evictUnlocked maxKeys).table ||
    id != some entry.2 && world.calls.all fun call => !call.stage.unfinished || call.lock != entry.2

def careful : Action ρ → Bool
  | .enter key _ => (world.hand key).1.spares maxKeys (world.hand key).2
  | .resume _ => true
  | .finish _ => world.spares maxKeys none

/-- The locks of unfinished calls are in the table, and loaders hold theirs alone. -/
structure Orderly : Prop where
  keys : (world.table.map Prod.fst).Nodup
  drawn : ∀ entry ∈ world.table, entry.2 < world.locks.length
  listed : ∀ call ∈ world.calls, call.stage.unfinished = true → (call.key, call.lock) ∈ world.table
  held : ∀ call ∈ world.calls, call.stage = .loading → world.locked call.lock = true
  alone : ∀ (i j : Nat) (first second : Call ρ), world.calls[i]? = some first → world.calls[j]? = some second →
    first.stage = .loading → second.stage = .loading → first.lock = second.lock → i = j
  ownResult : ∀ call ∈ world.calls, ∀ result, call.stage = .returned result → result = call.loader

end World

theorem evict_sublist {locked : Nat → Bool} (excess : Nat) (table : List (String × Nat)) :
    (evict locked excess table).Sublist table := by
  induction excess generalizing table with
  | zero => exact Sublist.refl _
  | succ excess ih =>
    unfold evict
    split
    · exact Sublist.refl _
    · exact (ih _).trans erase_sublist

theorem evict_one {locked : Nat → Bool} {table : List (String × Nat)} {entry : String × Nat} (listed : entry ∈ table)
    (free : locked entry.2 = false) : (evict locked 1 table).length + 1 = table.length := by
  unfold evict
  split
  · grind
  rename_i present
  have victimListed := mem_of_find?_eq_some present
  rw [evict, length_erase_of_mem victimListed]
  have positive := length_pos_of_mem victimListed
  omega

theorem moveToEnd_perm (table : List (String × Nat)) (key : String) : (moveToEnd table key).Perm table :=
  filter_append_perm _ _

namespace World

variable {world after : World ρ} {maxKeys : Int} {key : String} {id number : Nat} {loader : ρ} {call : Call ρ}

variable {action : Action ρ} {lock : Lock} {calls : List (Call ρ)} {new found : Call ρ} {given : Option Nat} {i : Nat}

theorem locked_set (other : Nat) (differs : lock.locked = true ∨ other ≠ id) (held : world.locked other = true) :
    World.locked { world with locks := world.locks.set id lock } other = true := by
  unfold locked lockAt at held ⊢
  by_cases same : other = id
  · grind
  · rwa [getElem?_set_ne (fun wrong => same wrong.symm)]

theorem locked_set_self (within : id < world.locks.length) :
    World.locked { world with locks := world.locks.set id lock } id = lock.locked := by
  unfold locked lockAt
  rw [getElem?_set_self within, Option.getD_some]

/-- What `getOrCreate` makes: nothing where the key is listed, else a free lock at the end of the table. -/
theorem getOrCreate_cases (world : World ρ) (key : String) :
    (∃ id, (key, id) ∈ world.table ∧ world.getOrCreate key = (world, id)) ∨
    (key ∉ world.table.map Prod.fst ∧ world.getOrCreate key =
      ({ world with table := world.table ++ [(key, world.locks.length)], locks := world.locks ++ [{}] },
        world.locks.length)) := by
  unfold getOrCreate
  split <;> grind

theorem Orderly.alone_of_free {first : Call ρ} (orderly : world.Orderly) (free : world.locked id = false)
    (found : world.calls[i]? = some first) (loading : first.stage = .loading) : first.lock ≠ id := by
  rintro rfl
  have held := orderly.held first (mem_of_getElem? found) loading
  simp [free] at held

theorem Orderly.hand (orderly : world.Orderly) (key : String) :
    (world.hand key).1.Orderly ∧ (key, (world.hand key).2) ∈ (world.hand key).1.table := by
  have made : (world.getOrCreate key).1.Orderly ∧
      (key, (world.getOrCreate key).2) ∈ (world.getOrCreate key).1.table := by
    rcases getOrCreate_cases world key with ⟨id, listed, same⟩ | ⟨unlisted, same⟩
    · simp_all
    rw [same]
    refine ⟨{ orderly with keys := ?_, drawn := ?_, listed := ?_, held := ?_ }, ?_⟩
    · rw [map_append]
      apply nodup_append.mpr
      refine ⟨orderly.keys, by simp, ?_⟩
      intro name listed other new
      rw [map_singleton, mem_singleton] at new
      rintro rfl
      rw [new] at listed
      exact unlisted listed
    · intro entry isThere
      rw [length_append]
      rcases mem_append.mp isThere with old | new
      · have drawn := orderly.drawn entry old
        omega
      · simp_all
    · intro call isThere unfinished
      exact mem_append_left _ (orderly.listed call isThere unfinished)
    · intro call isThere loading
      have held := orderly.held call isThere loading
      unfold locked lockAt at held ⊢
      cases found : world.locks[call.lock]? with
      | none => simp [found] at held
      | some lock => grind
    · exact mem_append_right _ (mem_singleton_self _)
  have perm := moveToEnd_perm (world.getOrCreate key).1.table key
  refine ⟨{ made.1 with keys := ?_, drawn := ?_, listed := ?_ }, ?_⟩
  · exact (perm.map Prod.fst).nodup_iff.mpr made.1.keys
  · intro entry isThere
    exact made.1.drawn entry (perm.mem_iff.mp isThere)
  · intro call isThere unfinished
    exact perm.mem_iff.mpr (made.1.listed call isThere unfinished)
  · exact perm.mem_iff.mpr made.2

theorem evicted_sublist (world : World ρ) (maxKeys : Int) : (world.evictUnlocked maxKeys).table.Sublist world.table :=
  evict_sublist _ _

theorem spared (spares : world.spares maxKeys given = true) {entry : String × Nat} (listed : entry ∈ world.table)
    (used : given = some entry.2 ∨ ∃ call ∈ world.calls, call.stage.unfinished = true ∧ call.lock = entry.2) :
    entry ∈ (world.evictUnlocked maxKeys).table := by
  have judged := all_eq_true.mp spares entry listed
  rw [Bool.or_eq_true, decide_eq_true_iff] at judged
  refine judged.resolve_right ?_
  intro unused
  rcases used with same | ⟨call, isThere, unfinished, same⟩
  · simp [same] at unused
  · grind

theorem Orderly.evicts (orderly : world.Orderly) (spares : world.spares maxKeys given = true) :
    (world.evictUnlocked maxKeys).Orderly where
  keys := orderly.keys.sublist ((evicted_sublist world maxKeys).map Prod.fst)
  drawn entry isThere := orderly.drawn entry ((evicted_sublist world maxKeys).subset isThere)
  listed call isThere unfinished :=
    spared spares (orderly.listed call isThere unfinished) (.inr ⟨call, isThere, unfinished, rfl⟩)
  held := orderly.held
  alone := orderly.alone
  ownResult := orderly.ownResult

theorem append_cases (isThere : (calls ++ [new])[i]? = some found) :
    calls[i]? = some found ∨ i = calls.length ∧ found = new := by
  by_cases within : i < calls.length <;> grind

theorem set_cases {i number : Nat} (isThere : (calls.set number new)[i]? = some found) :
    i ≠ number ∧ calls[i]? = some found ∨ i = number ∧ found = new := by
  by_cases same : number = i <;> grind

theorem Orderly.waits (orderly : world.Orderly) (listed : (key, id) ∈ world.table)
    (kept : lock.locked = world.locked id) :
    Orderly { world with
      locks := world.locks.set id lock
      calls := world.calls ++ [⟨key, id, loader, .waiting⟩] } where
  keys := orderly.keys
  drawn entry isThere := by
    rw [length_set]
    exact orderly.drawn entry isThere
  listed call isThere unfinished := by
    rcases mem_append.mp isThere with old | new
    · exact orderly.listed call old unfinished
    · rwa [mem_singleton.mp new]
  held call isThere loading := by
    rcases mem_append.mp isThere with old | new
    · have held := orderly.held call old loading
      by_cases same : call.lock = id
      · rw [same] at held ⊢
        rw [← kept] at held
        exact (locked_set_self (orderly.drawn _ listed)).trans held
      · exact locked_set _ (.inr same) held
    · simp [mem_singleton.mp new] at loading
  alone i j first second firstThere secondThere firstLoads secondLoads same := by
    rcases append_cases firstThere with firstOld | ⟨_, rfl⟩
    · rcases append_cases secondThere with secondOld | ⟨_, rfl⟩
      · exact orderly.alone i j first second firstOld secondOld firstLoads secondLoads same
      · cases secondLoads
    · cases firstLoads
  ownResult call isThere result returned := by
    rcases mem_append.mp isThere with old | new
    · exact orderly.ownResult call old result returned
    · simp [mem_singleton.mp new] at returned

theorem Orderly.loads (orderly : world.Orderly) (listed : (key, id) ∈ world.table) (free : world.locked id = false) :
    Orderly { world with
      locks := world.locks.set id ⟨true, []⟩
      calls := world.calls ++ [⟨key, id, loader, .loading⟩] } where
  keys := orderly.keys
  drawn entry isThere := by
    rw [length_set]
    exact orderly.drawn entry isThere
  listed call isThere unfinished := by
    rcases mem_append.mp isThere with old | new
    · exact orderly.listed call old unfinished
    · rwa [mem_singleton.mp new]
  held call isThere loading := by
    rcases mem_append.mp isThere with old | new
    · exact locked_set _ (.inl rfl) (orderly.held call old loading)
    · rw [mem_singleton.mp new]
      exact locked_set_self (orderly.drawn _ listed)
  alone i j first second firstThere secondThere firstLoads secondLoads same := by
    rcases append_cases firstThere with firstOld | ⟨firstLast, rfl⟩
    · rcases append_cases secondThere with secondOld | ⟨_, rfl⟩
      · exact orderly.alone i j first second firstOld secondOld firstLoads secondLoads same
      · exact absurd same (orderly.alone_of_free free firstOld firstLoads)
    · rcases append_cases secondThere with secondOld | ⟨secondLast, _⟩
      · exact absurd same.symm (orderly.alone_of_free free secondOld secondLoads)
      · exact firstLast.trans secondLast.symm
  ownResult call isThere result returned := by
    rcases mem_append.mp isThere with old | new
    · exact orderly.ownResult call old result returned
    · simp [mem_singleton.mp new] at returned

theorem Orderly.acquire (orderly : world.Orderly) (listed : (key, id) ∈ world.table) :
    (world.acquire key id loader).Orderly := by
  unfold World.acquire
  split
  · rename_i free
    exact orderly.loads listed (congrArg Lock.locked free)
  · exact orderly.waits listed rfl

theorem Orderly.takesOver (orderly : world.Orderly) (found : world.calls[number]? = some call)
    (waiting : call.stage = .waiting) (free : world.locked call.lock = false) : (world.takeOver number call).Orderly where
  keys := orderly.keys
  drawn entry isThere := by
    rw [takeOver, length_set]
    exact orderly.drawn entry isThere
  listed other isThere unfinished := by
    rcases mem_or_eq_of_mem_set isThere with old | rfl
    · exact orderly.listed other old unfinished
    · exact orderly.listed call (mem_of_getElem? found) (by rw [waiting]; rfl)
  held other isThere loading := by
    rcases mem_or_eq_of_mem_set isThere with old | rfl
    · exact locked_set _ (.inl rfl) (orderly.held other old loading)
    · have listed := orderly.listed call (mem_of_getElem? found) (by rw [waiting]; rfl)
      exact locked_set_self (orderly.drawn _ listed)
  alone i j first second firstThere secondThere firstLoads secondLoads same := by
    rcases set_cases firstThere with ⟨_, firstOld⟩ | ⟨firstIs, rfl⟩
    · rcases set_cases secondThere with ⟨_, secondOld⟩ | ⟨_, rfl⟩
      · exact orderly.alone i j first second firstOld secondOld firstLoads secondLoads same
      · exact absurd same (orderly.alone_of_free free firstOld firstLoads)
    · rcases set_cases secondThere with ⟨_, secondOld⟩ | ⟨secondIs, _⟩
      · exact absurd same.symm (orderly.alone_of_free free secondOld secondLoads)
      · exact firstIs.trans secondIs.symm
  ownResult other isThere result returned := by
    rcases mem_or_eq_of_mem_set isThere with old | rfl
    · exact orderly.ownResult other old result returned
    · cases returned

theorem Orderly.releases (orderly : world.Orderly) (found : world.calls[number]? = some call)
    (loading : call.stage = .loading) : (world.release number call).Orderly where
  keys := orderly.keys
  drawn entry isThere := by
    rw [release, length_set]
    exact orderly.drawn entry isThere
  listed other isThere unfinished := by
    rcases mem_or_eq_of_mem_set isThere with old | rfl
    · exact orderly.listed other old unfinished
    · cases unfinished
  held other isThere loads := by
    obtain ⟨i, isThere⟩ := getElem?_of_mem isThere
    rcases set_cases isThere with ⟨apart, old⟩ | ⟨_, rfl⟩
    · refine locked_set _ (.inr ?_) (orderly.held other (mem_of_getElem? old) loads)
      intro same
      exact apart (orderly.alone i number other call old found loads loading same)
    · cases loads
  alone i j first second firstThere secondThere firstLoads secondLoads same := by
    rcases set_cases firstThere with ⟨_, firstOld⟩ | ⟨_, rfl⟩
    · rcases set_cases secondThere with ⟨_, secondOld⟩ | ⟨_, rfl⟩
      · exact orderly.alone i j first second firstOld secondOld firstLoads secondLoads same
      · cases secondLoads
    · cases firstLoads
  ownResult other isThere result returned := by
    rcases mem_or_eq_of_mem_set isThere with old | rfl
    · exact orderly.ownResult other old result returned
    · simp_all

theorem step_cases (stepped : world.step maxKeys action = some after) :
    (∃ key loader, action = .enter key loader ∧
      after = ((world.hand key).1.evictUnlocked maxKeys).acquire key (world.hand key).2 loader) ∨
    (∃ number call, action = .resume number ∧ world.calls[number]? = some call ∧ call.stage = .waiting ∧
      world.locked call.lock = false ∧ after = world.takeOver number call) ∨
    ∃ number call, action = .finish number ∧ world.calls[number]? = some call ∧ call.stage = .loading ∧
      after = (world.evictUnlocked maxKeys).release number call := by
  cases action with
  | enter key loader => exact .inl ⟨key, loader, rfl, (Option.some.inj stepped).symm⟩
  | resume number =>
    unfold step at stepped
    dsimp only at stepped
    split at stepped
    · rename_i call found
      split at stepped
      · rename_i waiting free
        split at stepped
        · exact .inr (.inl ⟨number, call, rfl, found, waiting, congrArg Lock.locked free, (Option.some.inj stepped).symm⟩)
        · cases stepped
      · cases stepped
    · cases stepped
  | finish number =>
    unfold step at stepped
    dsimp only at stepped
    split at stepped
    · split at stepped
      · simp_all
      · cases stepped
    · cases stepped

theorem Orderly.steps (orderly : world.Orderly) (careful : world.careful maxKeys action = true)
    (stepped : world.step maxKeys action = some after) : after.Orderly := by
  rcases step_cases stepped with ⟨key, loader, rfl, rfl⟩ | ⟨number, call, rfl, found, waiting, free, rfl⟩ |
      ⟨number, call, rfl, found, loading, rfl⟩
  · obtain ⟨handed, listed⟩ := orderly.hand key
    exact (handed.evicts careful).acquire (spared careful listed (.inl rfl))
  · exact orderly.takesOver found waiting free
  · exact (orderly.evicts careful).releases found loading

theorem hand_bounded (within : world.table.length ≤ bound maxKeys) :
    ((world.hand key).1.evictUnlocked maxKeys).table.length ≤ bound maxKeys := by
  have moved : (world.hand key).1.table.length = (world.getOrCreate key).1.table.length :=
    (moveToEnd_perm _ key).length_eq
  rcases getOrCreate_cases world key with ⟨id, _, same⟩ | ⟨_, same⟩
  · rw [same] at moved
    have shorter := (evicted_sublist (world.hand key).1 maxKeys).length_le
    dsimp only at moved
    omega
  · have listed : (key, world.locks.length) ∈ (world.hand key).1.table := by
      unfold hand
      rw [same]
      exact (moveToEnd_perm _ key).mem_iff.mpr (mem_append_right _ (mem_singleton_self _))
    have free : (world.hand key).1.locked world.locks.length = false := by
      unfold hand
      rw [same]
      simp [locked, lockAt]
    rw [same, length_append, length_singleton] at moved
    by_cases full : world.table.length = bound maxKeys
    · have evicted := evict_one listed free
      unfold evictUnlocked
      simp_all
    · have shorter := (evicted_sublist (world.hand key).1 maxKeys).length_le
      omega

theorem step_bounded (within : world.table.length ≤ bound maxKeys)
    (stepped : world.step maxKeys action = some after) : after.table.length ≤ bound maxKeys := by
  rcases step_cases stepped with ⟨key, loader, rfl, rfl⟩ | ⟨number, call, rfl, found, waiting, free, rfl⟩ |
      ⟨number, call, rfl, found, loading, rfl⟩
  · have same : (((world.hand key).1.evictUnlocked maxKeys).acquire key (world.hand key).2 loader).table =
        ((world.hand key).1.evictUnlocked maxKeys).table := by
      unfold World.acquire
      split <;> rfl
    rw [same]
    exact hand_bounded within
  · exact within
  · exact Nat.le_trans (evicted_sublist world maxKeys).length_le within

theorem Orderly.start : Orderly ({} : World ρ) where
  keys := nodup_nil
  drawn _ isThere := absurd isThere not_mem_nil
  listed _ isThere := absurd isThere not_mem_nil
  held _ isThere := absurd isThere not_mem_nil
  alone _ _ _ _ isThere := by cases isThere
  ownResult _ isThere := absurd isThere not_mem_nil

theorem Orderly.single (orderly : world.Orderly) (within : world.table.length ≤ bound maxKeys) : world.Single maxKeys where
  oneLoader i j first second firstThere secondThere firstLoads secondLoads same := by
    have firstListed := orderly.listed first (mem_of_getElem? firstThere) (by rw [firstLoads]; rfl)
    have secondListed := orderly.listed second (mem_of_getElem? secondThere) (by rw [secondLoads]; rfl)
    have one := inj_on_of_nodup_map orderly.keys firstListed secondListed same
    exact orderly.alone i j first second firstThere secondThere firstLoads secondLoads (congrArg Prod.snd one)
  ownResult := orderly.ownResult
  bounded := within

end World

/-- Single flight is single in every run whose evictions spare the locks of unfinished calls. -/
theorem single_flight {maxKeys : Int} {world : World ρ}
    (reached : Systems.Reaches (World.step maxKeys) (fun state action => state.careful maxKeys action = true) {} world) :
    world.Single maxKeys := by
  have within : world.table.length ≤ bound maxKeys :=
    reached.invariant (Nat.zero_le _) fun held _ stepped => World.step_bounded held stepped
  have orderly : world.Orderly :=
    reached.invariant World.Orderly.start fun held careful stepped => held.steps careful stepped
  exact orderly.single within

def handedOver : List (Action Nat) := [.enter "a" 1, .enter "a" 2, .finish 0, .resume 1, .finish 1]

theorem handed_over : ∃ world, Systems.runWhere (World.step 2) (World.careful 2) {} handedOver = some world ∧
    world.Single 2 := by
  obtain ⟨world, ran⟩ : ∃ world, Systems.runWhere (World.step 2) (World.careful 2) {} handedOver = some world := ⟨_, rfl⟩
  refine ⟨world, ran, single_flight (Systems.Reaches.runs ?_ .start ran)⟩
  simp_all

theorem two_loaders : ¬ ∀ maxKeys : Int, 1 ≤ maxKeys → ∀ world : World Nat,
    Systems.Reaches (World.step maxKeys) (fun _ _ => True) {} world → world.Single maxKeys := by
  intro single
  have reached := Systems.Reaches.runs (fun _ _ _ => trivial) .start
    (show Systems.runWhere (World.step 1) (fun _ _ => true) ({} : World Nat)
      [.enter "a" 0, .enter "b" 1, .enter "b" 2] = some _ from rfl)
  have same := (single 1 (Int.le_refl 1) _ reached).oneLoader 1 2 _ _ rfl rfl rfl rfl rfl
  cases same

end Troop.Cache.SingleFlight
