import Troop.Orchestration.Repeats
import Troop.Systems.Runs

namespace Troop.Orchestration

open Systems (Reaches)
open Tools
open List

section Loops

def collect (groupId : String) (cursor : Nat) : List (Dict Json) → List Item × List (Dict Json)
  | [] => ([], [])
  | nextCall :: rest =>
    if parallelGroupId nextCall ≠ some groupId then ([], nextCall :: rest)
    else
      let (grouped, left) := collect groupId (cursor + 1) rest
      ((cursor, nextCall) :: grouped, left)

theorem length_collect (groupId : String) (cursor : Nat) (calls : List (Dict Json)) :
    (collect groupId cursor calls).2.length ≤ calls.length := by
  induction calls generalizing cursor with
  | nil => exact Nat.le_refl _
  | cons call rest ih =>
    have shorter := ih (cursor + 1)
    unfold collect
    split
    · exact Nat.le_refl _
    · exact Nat.le_succ_of_le shorter

/-- The outer loop of `partition_tool_calls`, over the calls from an index on. -/
def partitionLoop (index : Nat) : List (Dict Json) → List Batch
  | [] => []
  | call :: rest =>
    match parallelGroupId call with
    | none => .serial (index, call) :: partitionLoop (index + 1) rest
    | some groupId =>
      let grouped := (index, call) :: (collect groupId (index + 1) rest).1
      batchesOf grouped ++ partitionLoop (index + grouped.length) (collect groupId (index + 1) rest).2
termination_by calls => calls.length
decreasing_by
  · simp
  · exact Nat.lt_succ_of_le (length_collect groupId (index + 1) rest)

def itemsFrom (index : Nat) (calls : List (Dict Json)) : List Item := (calls.zipIdx index).map Prod.swap

def ofGroup (groupId : String) (item : Item) : Bool := parallelGroupId item.2 = some groupId

theorem collect_eq (groupId : String) (cursor : Nat) (calls : List (Dict Json)) :
    (collect groupId cursor calls).1 = (itemsFrom cursor calls).takeWhile (ofGroup groupId) ∧
      itemsFrom (cursor + (collect groupId cursor calls).1.length) (collect groupId cursor calls).2 =
        (itemsFrom cursor calls).dropWhile (ofGroup groupId) := by
  induction calls generalizing cursor with
  | nil => exact ⟨rfl, rfl⟩
  | cons call rest ih =>
    obtain ⟨taken, left⟩ := ih (cursor + 1)
    have split : itemsFrom cursor (call :: rest) = (cursor, call) :: itemsFrom (cursor + 1) rest := rfl
    rw [split]
    unfold collect
    by_cases same : parallelGroupId call = some groupId
    · have inside : ofGroup groupId (cursor, call) = true := decide_eq_true same
      rw [if_neg (not_not.mpr same), takeWhile_cons_of_pos inside, dropWhile_cons_of_pos inside, ← left, ← taken]
      refine ⟨rfl, ?_⟩
      congr 1
      simp only [length_cons]
      omega
    · have outside : ¬ ofGroup groupId (cursor, call) = true := by simpa [ofGroup] using same
      rw [if_pos same, takeWhile_cons_of_neg outside, dropWhile_cons_of_neg outside]
      exact ⟨rfl, rfl⟩

theorem groupNeighbours_head (item : Item) (rest : List Item) :
    ∃ more groups, groupNeighbours (item :: rest) = (item :: more) :: groups := by
  unfold groupNeighbours
  split
  · split <;> exact ⟨_, _, rfl⟩
  · exact ⟨_, _, rfl⟩

theorem groupNeighbours_none {item : Item} (rest : List Item) (lone : parallelGroupId item.2 = none) :
    groupNeighbours (item :: rest) = [item] :: groupNeighbours rest := by
  rw [groupNeighbours, lone]

theorem groupNeighbours_some {item : Item} {groupId : String} (rest : List Item) (named : parallelGroupId item.2 = some groupId) :
    groupNeighbours (item :: rest) = (item :: rest.takeWhile (ofGroup groupId)) ::
      groupNeighbours (rest.dropWhile (ofGroup groupId)) := by
  induction rest generalizing item with
  | nil => simp [groupNeighbours, named]
  | cons next more ih =>
    by_cases same : parallelGroupId next.2 = some groupId
    · rw [groupNeighbours, ih same, named]
      simp [ofGroup, same]
    · obtain ⟨tail, groups, shape⟩ := groupNeighbours_head next more
      rw [groupNeighbours, shape, named]
      simp [ofGroup, same, shape]

theorem partitionLoop_eq (index : Nat) (calls : List (Dict Json)) :
    partitionLoop index calls = (groupNeighbours (itemsFrom index calls)).flatMap batchesOf := by
  induction index, calls using partitionLoop.induct with
  | case1 index => simp [partitionLoop, itemsFrom, groupNeighbours]
  | case2 index call rest lone ih =>
    have split : itemsFrom index (call :: rest) = (index, call) :: itemsFrom (index + 1) rest := rfl
    have alone := @groupNeighbours_none (index, call) (itemsFrom (index + 1) rest) lone
    rw [partitionLoop, lone, split, alone, flatMap_cons, ih]
    rfl
  | case3 index call rest groupId named grouped ih =>
    have split : itemsFrom index (call :: rest) = (index, call) :: itemsFrom (index + 1) rest := rfl
    obtain ⟨taken, left⟩ := collect_eq groupId (index + 1) rest
    have after : index + grouped.length = index + 1 + (collect groupId (index + 1) rest).1.length := by
      simp only [grouped, length_cons]
      omega
    have together := @groupNeighbours_some (index, call) groupId (itemsFrom (index + 1) rest) named
    rw [partitionLoop, named, split, together, flatMap_cons, ← taken, ← left, ← after]
    exact congrArg _ ih

end Loops

section Runs

/-- A call may run beside others. -/
def ParallelEligible (call : Dict Json) : Prop :=
  toolCallParallelEligible (toolNameOf call) = true ∧
    ((call.get "approval_granted").truthy = true ∨ ¬ (call.get "requires_approval").truthy = true)

/-- At least two neighbours of one group, and no more of it beside them. -/
def MaximalRun (items run : List Item) : Prop :=
  ∃ before after groupId, items = before ++ (run ++ after) ∧ 2 ≤ run.length ∧
    (∀ item ∈ run, parallelGroupId item.2 = some groupId) ∧
    (∀ item ∈ before.getLast?, parallelGroupId item.2 ≠ some groupId) ∧
    ∀ item ∈ after.head?, parallelGroupId item.2 ≠ some groupId

theorem maximalRun_append {block left run : List Item} {name : Option String} (some_ : block ≠ [])
    (named : ∀ item ∈ block, parallelGroupId item.2 = name)
    (apart : ∀ item ∈ left.head?, name ≠ none → parallelGroupId item.2 ≠ name) :
    MaximalRun (block ++ left) run ↔ (run = block ∧ 2 ≤ block.length ∧ name ≠ none) ∨ MaximalRun left run := by
  constructor
  · rintro ⟨before, after, groupId, split, long, same, first, last⟩
    obtain ⟨head, tail, rfl⟩ := exists_cons_of_ne_nil (ne_nil_of_length_pos (Nat.lt_of_lt_of_le Nat.zero_lt_two long))
    have begun := same head mem_cons_self
    rcases append_eq_append_iff.mp split with ⟨more, rfl, rest⟩ | ⟨inner, rfl, rest⟩
    · -- the run begins behind the block
      refine .inr ⟨more, after, groupId, rest, long, same, ?_, last⟩
      intro item isThere
      apply first
      rw [getLast?_append, Option.mem_def.mp isThere]
      rfl
    · cases inner with
      | nil =>
        refine .inr ⟨[], after, groupId, rest.symm, long, same, ?_, last⟩
        intro item isThere
        cases isThere
      | cons other inner =>
        have started : other = head := (cons.inj rest).1.symm
        have name_eq : name = some groupId := by
          rw [← begun, ← started]
          exact (named other (mem_append_right _ mem_cons_self)).symm
        -- the block and the run are of one group, so that neither goes on where the other ends
        have alone : before = [] := by
          cases ended : before.getLast? with
          | none => exact getLast?_eq_none_iff.mp ended
          | some item =>
            have inside := named item (mem_append_left _ (mem_of_getLast? ended))
            exact absurd (inside.trans name_eq) (first item ended)
        subst alone
        rcases append_eq_append_iff.mp rest with ⟨more, whole, later⟩ | ⟨more, whole, later⟩
        · cases more with
          | nil =>
            have all : head :: tail = other :: inner := by simpa using whole.symm
            exact .inl ⟨all, by simpa [← all] using long, by simp [name_eq]⟩
          | cons item more =>
            have inside := named item (by simp [whole])
            exact absurd (inside.trans name_eq) (last item (by simp [later]))
        · cases more with
          | nil =>
            have all : head :: tail = other :: inner := by simpa using whole
            exact .inl ⟨all, by simpa [← all] using long, by simp [name_eq]⟩
          | cons item more =>
            have inside := same item (by simp [whole])
            exact absurd (inside.trans name_eq.symm) (apart item (by simp [later]) (by simp [name_eq]))
  · rintro (⟨rfl, long, given⟩ | ⟨before, after, groupId, split, long, same, first, last⟩)
    · obtain ⟨groupId, rfl⟩ := Option.ne_none_iff_exists'.mp given
      exact ⟨[], left, groupId, rfl, long, named, by simp, fun item isThere => apart item isThere (by simp)⟩
    · refine ⟨block ++ before, after, groupId, by rw [split, append_assoc], long, same, ?_, last⟩
      intro item isThere
      rw [getLast?_append] at isThere
      cases ended : before.getLast? with
      | some other =>
        rw [ended] at isThere
        cases isThere
        exact first item ended
      | none =>
        rw [ended] at isThere
        have inside := named item (mem_of_getLast? isThere)
        rw [getLast?_eq_none_iff.mp ended, nil_append] at split
        obtain ⟨head, tail, rfl⟩ := exists_cons_of_ne_nil (ne_nil_of_length_pos (Nat.lt_of_lt_of_le Nat.zero_lt_two long))
        rw [inside]
        rintro rfl
        exact apart head (by simp [split]) (by simp) (same head mem_cons_self)

theorem parallelGroupEligible_iff {calls : List (Dict Json)} {name : Option String} (long : 2 ≤ calls.length)
    (named : ∀ call ∈ calls, parallelGroupId call = name) :
    parallelGroupEligible calls = true ↔ name ≠ none ∧ ∀ call ∈ calls, ParallelEligible call := by
  obtain ⟨head, tail, rfl⟩ := exists_cons_of_ne_nil (ne_nil_of_length_pos (Nat.lt_of_lt_of_le Nat.zero_lt_two long))
  have first := named head mem_cons_self
  unfold parallelGroupEligible
  rw [head?_cons, Option.bind_some, first]
  cases name with
  | none => simp
  | some groupId =>
    simp only [long, true_and, decide_eq_true_eq, all_eq_true, ne_eq, reduceCtorEq, not_false_eq_true, ParallelEligible]
    constructor
    · intro all call isThere
      exact (all call isThere).2
    · intro all call isThere
      exact ⟨named call isThere, all call isThere⟩

theorem parallel_mem_batchesOf {block run : List Item} {name : Option String}
    (named : ∀ item ∈ block, parallelGroupId item.2 = name) :
    Batch.parallel run ∈ batchesOf block ↔
      (run = block ∧ 2 ≤ block.length ∧ name ≠ none) ∧ ∀ item ∈ run, ParallelEligible item.2 := by
  unfold batchesOf
  have eligible (long : 2 ≤ block.length) := @parallelGroupEligible_iff (block.map Prod.snd) name (by simpa using long)
    (by simpa using fun call index isThere => named (index, call) isThere)
  split
  · rename_i passes
    obtain ⟨given, all⟩ := (eligible passes.1).mp passes.2
    simp only [mem_singleton, Batch.parallel.injEq]
    constructor
    · rintro rfl
      exact ⟨⟨rfl, passes.1, given⟩, fun item isThere => all item.2 (mem_map_of_mem isThere)⟩
    · exact fun same => same.1.1
  · rename_i fails
    simp only [mem_map, reduceCtorEq, and_false, exists_false, false_iff]
    rintro ⟨⟨rfl, long, given⟩, all⟩
    refine fails ⟨long, (eligible long).mpr ⟨given, ?_⟩⟩
    intro call isThere
    obtain ⟨item, inside, rfl⟩ := mem_map.mp isThere
    exact all item inside

theorem parallel_mem_iff (items run : List Item) :
    Batch.parallel run ∈ (groupNeighbours items).flatMap batchesOf ↔
      MaximalRun items run ∧ ∀ item ∈ run, ParallelEligible item.2 := by
  have block {block left : List Item} {name : Option String} (some_ : block ≠ [])
      (named : ∀ item ∈ block, parallelGroupId item.2 = name)
      (apart : ∀ item ∈ left.head?, name ≠ none → parallelGroupId item.2 ≠ name)
      (ih : Batch.parallel run ∈ (groupNeighbours left).flatMap batchesOf ↔
        MaximalRun left run ∧ ∀ item ∈ run, ParallelEligible item.2) :
      Batch.parallel run ∈ (block :: groupNeighbours left).flatMap batchesOf ↔
        MaximalRun (block ++ left) run ∧ ∀ item ∈ run, ParallelEligible item.2 := by
    rw [flatMap_cons, mem_append, parallel_mem_batchesOf named, ih, maximalRun_append some_ named apart, or_and_right]
  match items with
  | [] =>
    constructor
    · intro isThere
      cases isThere
    · rintro ⟨⟨before, after, _, split, long, _⟩, _⟩
      have none := (append_eq_nil_iff.mp (append_eq_nil_iff.mp split.symm).2).1
      simp [none] at long
  | item :: rest =>
    cases name : parallelGroupId item.2 with
    | none =>
      rw [groupNeighbours_none rest name]
      exact @block [item] rest none (cons_ne_nil _ _) (by simpa using name) (fun _ _ given => absurd rfl given)
        (parallel_mem_iff rest run)
    | some groupId =>
      rw [groupNeighbours_some rest name]
      have together := @block (item :: rest.takeWhile (ofGroup groupId)) (rest.dropWhile (ofGroup groupId)) (some groupId)
        (cons_ne_nil _ _) ?_ ?_ (parallel_mem_iff (rest.dropWhile (ofGroup groupId)) run)
      · rwa [cons_append, takeWhile_append_dropWhile] at together
      · intro other isThere
        rcases mem_cons.mp isThere with rfl | later
        · exact name
        · exact of_decide_eq_true (mem_takeWhile_imp (p := ofGroup groupId) later)
      · intro other isThere _ same
        have outside := head?_dropWhile_not (ofGroup groupId) rest
        rw [Option.mem_def.mp isThere] at outside
        simp [ofGroup, same] at outside
termination_by items.length
decreasing_by
  · simp
  · exact Nat.lt_succ_of_le (dropWhile_sublist _).length_le

end Runs

section Gather

def providerKeyForTool (toolSlug : String) : String :=
  let slug := Text.strip toolSlug
  if '.' ∈ slug.toList then (Text.splitDots slug).headD ""
  else if Text.startsWith "github_" slug then "github"
  else if Text.startsWith "mcp." slug ∨ Text.startsWith "a2a." slug then (Text.splitDots slug).headD ""
  else "native"

abbrev Outcome := Except Stop (Dict Json)

/-- Where a task of `run_parallel_group` is: before the group's semaphore, before the limiter of the workspace, before that of
    the provider, in `execute_call`, or done. -/
inductive Phase where
  | waiting
  | admitted
  | inWorkspace
  | executing
  | ended (outcome : Outcome)

def Phase.inside : Phase → Bool
  | .admitted | .inWorkspace | .executing => true
  | _ => false

def Phase.outcome? : Phase → Option Outcome
  | .ended outcome => some outcome
  | _ => none

/-- The steps a task still has to take. -/
def Phase.left : Phase → Nat
  | .waiting => 4
  | .admitted => 3
  | .inWorkspace => 2
  | .executing => 1
  | .ended _ => 0

/-- The tasks of a group, and the permits that the limiters have left. -/
structure Group where
  phases : List Phase
  workspace : Nat
  provider : String → Nat

inductive Move where
  | enterGroup
  | enterWorkspace
  | enterProvider
  | finish (outcome : Outcome)

inductive Action where
  | move (task : Nat) (move : Move)
  | others (workspace : Nat) (provider : String → Nat)

/-- `max_concurrency or settings.PARALLEL_READ_GROUP_MAX_CONCURRENCY`, at least one and at most one for each call -/
def groupLimit (maxConcurrency : Option Int) (setting : Int) (items : List Item) : Nat :=
  let limit := match maxConcurrency with
    | none => setting
    | some given => if given = 0 then setting else given
  min (max 1 limit).toNat items.length

variable (items : List Item) (limit : Nat)

def Group.advance (g : Group) (task : Nat) (move : Move) : Option Group :=
  match items[task]?, g.phases[task]?, move with
  | some _, some .waiting, .enterGroup =>
    if g.phases.countP Phase.inside < limit then some { g with phases := g.phases.set task .admitted } else none
  | some _, some .admitted, .enterWorkspace =>
    if 0 < g.workspace then some { g with phases := g.phases.set task .inWorkspace, workspace := g.workspace - 1 } else none
  | some item, some .inWorkspace, .enterProvider =>
    let key := providerKeyForTool (toolNameOf item.2)
    if 0 < g.provider key then
      some { g with phases := g.phases.set task .executing, provider := Function.update g.provider key (g.provider key - 1) }
    else none
  | some item, some .executing, .finish outcome =>
    let key := providerKeyForTool (toolNameOf item.2)
    some ⟨g.phases.set task (.ended outcome), g.workspace + 1, Function.update g.provider key (g.provider key + 1)⟩
  | _, _, _ => none

def Group.step (g : Group) : Action → Option Group
  | .move task move => g.advance items limit task move
  | .others workspace provider => some { g with workspace, provider }

def Group.start (workspace : Nat) (provider : String → Nat) : Group := ⟨items.map fun _ => .waiting, workspace, provider⟩

/-- `asyncio.gather` with `return_exceptions`, in the order of the calls; it waits for every task. -/
def gatheredOutcomes : List Phase → Option (List Outcome)
  | [] => some []
  | .ended outcome :: rest => (gatheredOutcomes rest).map (outcome :: ·)
  | _ :: _ => none

def payloadsOf : List Outcome → Except Stop (List (Dict Json))
  | [] => .ok []
  | .ok payload :: rest => (payloadsOf rest).map (payload :: ·)
  | .error stop :: _ => .error stop

/-- What `run_parallel_group` returns or raises once all its tasks have ended. -/
def Group.returned (g : Group) : Option (Except Stop (List Item)) :=
  (gatheredOutcomes g.phases).map fun gathered =>
    (payloadsOf gathered).map fun payloads => ((items.map Prod.fst).zip payloads).mergeSort fun a b => a.1 ≤ b.1

def Group.left (g : Group) : Nat := (g.phases.map Phase.left).sum

variable {items} {limit}

variable {provider : String → Nat} {task : Nat} {g : Group} {workspace : Nat} {move : Move}

theorem advance_some {g after : Group} (moved : g.advance items limit task move = some after) :
    ∃ old new, g.phases[task]? = some old ∧ after.phases = g.phases.set task new ∧ old.left = new.left + 1 := by
  unfold Group.advance at moved
  split at moved
  · rename_i here
    split at moved <;> cases moved
    exact ⟨_, _, here, rfl, rfl⟩
  · rename_i here
    split at moved <;> cases moved
    exact ⟨_, _, here, rfl, rfl⟩
  · rename_i here
    dsimp only at moved
    split at moved <;> cases moved
    exact ⟨_, _, here, rfl, rfl⟩
  · rename_i here
    cases moved
    exact ⟨_, _, here, rfl, rfl⟩
  · cases moved

theorem sum_set {phases : List Phase} {old new : Phase} (here : phases[task]? = some old)
    (less : old.left = new.left + 1) : ((phases.set task new).map Phase.left).sum + 1 = (phases.map Phase.left).sum := by
  induction phases generalizing task with
  | nil => cases here
  | cons phase rest ih =>
    cases task with
    | zero =>
      cases here
      simp only [set_cons_zero, map_cons, sum_cons]
      omega
    | succ task =>
      have later := ih here
      simp only [set_cons_succ, map_cons, sum_cons]
      omega

theorem left_advance {g after : Group} (moved : g.advance items limit task move = some after) :
    after.left + 1 = g.left := by
  obtain ⟨old, new, here, same, less⟩ := advance_some moved
  unfold Group.left
  rw [same]
  exact sum_set here less

theorem length_phases
    (reached : Reaches (Group.step items limit) (fun _ _ => True) (Group.start items workspace provider) g) :
    g.phases.length = items.length := by
  apply reached.invariant (length_map _)
  intro state after action kept _ stepped
  cases action with
  | others workspace provider =>
    cases stepped
    exact kept
  | move task move =>
    obtain ⟨_, _, _, same, _⟩ := advance_some stepped
    rw [same, length_set, kept]

theorem group_moves (sized : g.phases.length = items.length) (room : items ≠ [] → 0 < limit) :
    (∃ task move after, g.advance items limit task move = some after) ∨ (∀ phase ∈ g.phases, phase.outcome?.isSome) ∨
      Phase.executing ∉ g.phases ∧
        (g.workspace = 0 ∨ ∃ item ∈ items, g.provider (providerKeyForTool (toolNameOf item.2)) = 0) := by
  by_cases moves : ∃ task move after, g.advance items limit task move = some after
  · exact .inl moves
  have stuck {phase : Phase} (isThere : phase ∈ g.phases) : ∃ task item, g.phases[task]? = some phase ∧
      items[task]? = some item ∧ ∀ move, g.advance items limit task move = none := by
    obtain ⟨task, here⟩ := mem_iff_getElem?.mp isThere
    have short : task < items.length := sized ▸ (List.getElem?_eq_some_iff.mp here).1
    refine ⟨task, items[task], here, List.getElem?_eq_getElem short, ?_⟩
    intro move
    by_contra goes
    exact moves ⟨task, move, Option.ne_none_iff_exists'.mp goes⟩
  have idle : Phase.executing ∉ g.phases := by
    intro isThere
    obtain ⟨task, item, here, there, none⟩ := stuck isThere
    have finishes := none (.finish (.ok []))
    simp [Group.advance, here, there] at finishes
  refine .inr (or_iff_not_imp_left.mpr ?_)
  intro open_
  refine ⟨idle, ?_⟩
  by_contra free
  rw [not_or, not_exists] at free
  have outside {phase : Phase} (isThere : phase ∈ g.phases) : phase.inside = false := by
    obtain ⟨task, item, here, there, none⟩ := stuck isThere
    cases phase with
    | waiting | ended outcome => rfl
    | executing => exact absurd isThere idle
    | admitted =>
      have enters := none .enterWorkspace
      simp [Group.advance, here, there, free.1] at enters
    | inWorkspace =>
      have enters := none .enterProvider
      have permits := free.2 item
      simp_all [Group.advance, mem_of_getElem? there]
  apply open_
  intro phase isThere
  have apart := outside isThere
  obtain ⟨task, item, here, there, none⟩ := stuck isThere
  cases phase with
  | ended outcome => rfl
  | waiting =>
    have admits := none .enterGroup
    have empty : g.phases.countP Phase.inside = 0 :=
      countP_eq_zero.mpr fun other inside => by simp [outside inside]
    have positive := room (ne_nil_of_mem (mem_of_getElem? there))
    simp [Group.advance, here, there, empty, positive] at admits
  | _ => cases apart

theorem gatheredOutcomes_iff (phases : List Phase) (gathered : List Outcome) :
    gatheredOutcomes phases = some gathered ↔ phases = gathered.map .ended := by
  induction phases generalizing gathered with
  | nil => cases gathered <;> simp [gatheredOutcomes]
  | cons phase rest ih => cases phase <;> cases gathered <;> simp_all [gatheredOutcomes, and_comm]

theorem payloadsOf_iff (gathered : List Outcome) (payloads : List (Dict Json)) :
    payloadsOf gathered = .ok payloads ↔ gathered = payloads.map .ok := by
  induction gathered generalizing payloads with
  | nil => cases payloads <;> simp [payloadsOf]
  | cons outcome rest ih =>
    cases outcome with
    | error stop => cases payloads <;> simp [payloadsOf]
    | ok payload =>
      cases later : payloadsOf rest <;> cases payloads <;> simp_all [payloadsOf, Except.map]

theorem returned_iff (g : Group) (ordered : List Item) : g.returned items = some (.ok ordered) ↔
    ∃ payloads, g.phases = payloads.map (fun payload => Phase.ended (.ok payload)) ∧
      ordered = ((items.map Prod.fst).zip payloads).mergeSort fun a b => a.1 ≤ b.1 := by
  unfold Group.returned
  rw [Option.map_eq_some_iff]
  constructor
  · rintro ⟨gathered, ended, sorted⟩
    cases read : payloadsOf gathered with
    | error stop => simp [read, Except.map] at sorted
    | ok payloads =>
      rw [gatheredOutcomes_iff, (payloadsOf_iff gathered payloads).mp read, map_map] at ended
      rw [read] at sorted
      exact ⟨payloads, ended, (Except.ok.inj sorted).symm⟩
  · rintro ⟨payloads, ended, rfl⟩
    refine ⟨payloads.map .ok, (gatheredOutcomes_iff _ _).mpr (by rw [ended, map_map]; rfl), ?_⟩
    rw [(payloadsOf_iff _ payloads).mpr rfl]
    rfl

/-- A group at work ends, when all its tasks do, with one payload for each call, by their indexes. -/
structure Orderly (items : List Item) (limit : Nat) (g : Group) : Prop where
  moves : (∃ task move after, g.advance items limit task move = some after) ∨ (∀ phase ∈ g.phases, phase.outcome?.isSome) ∨
    Phase.executing ∉ g.phases ∧ (g.workspace = 0 ∨ ∃ item ∈ items, g.provider (providerKeyForTool (toolNameOf item.2)) = 0)
  nearer : ∀ task move after, g.advance items limit task move = some after → after.left + 1 = g.left
  returns : ∀ payloads : List (Dict Json), g.phases = payloads.map (fun payload => Phase.ended (.ok payload)) → ∃ ordered,
    g.returned items = some (.ok ordered) ∧ ordered.length = items.length ∧
      ordered.Perm ((items.map Prod.fst).zip payloads) ∧ ordered.Pairwise (·.1 ≤ ·.1) ∧
      ((items.map Prod.fst).Pairwise (· < ·) → ordered = (items.map Prod.fst).zip payloads)
  ended : ∀ ordered, g.returned items = some (.ok ordered) →
    ∃ payloads : List (Dict Json), g.phases = payloads.map fun payload => Phase.ended (.ok payload)

theorem reaches_orderly (maxConcurrency : Option Int) (setting : Int)
    (reached : Reaches (Group.step items (groupLimit maxConcurrency setting items)) (fun _ _ => True)
      (Group.start items workspace provider) g) : Orderly items (groupLimit maxConcurrency setting items) g := by
  have sized := length_phases reached
  refine ⟨group_moves sized ?_, fun _ _ _ => left_advance, ?_, ?_⟩
  · intro some_
    have long := length_pos_of_ne_nil some_
    have one (limit : Int) : 0 < (max 1 limit).toNat := by omega
    exact Nat.lt_min.mpr ⟨one _, long⟩
  · intro payloads ended
    have whole : payloads.length = items.length := by rw [← sized, ended, length_map]
    refine ⟨_, (returned_iff g _).mpr ⟨payloads, ended, rfl⟩, ?_, mergeSort_perm _ _, ?_, ?_⟩
    · simp [whole]
    · have sorted := @List.pairwise_mergeSort Item (fun a b => decide (a.1 ≤ b.1))
        (fun a b c => by simpa using Nat.le_trans) (fun a b => by simpa using Nat.le_total a.1 b.1)
        ((items.map Prod.fst).zip payloads)
      exact sorted.imp of_decide_eq_true
    · intro ascending
      apply mergeSort_of_pairwise
      rw [← @List.map_fst_zip _ _ (items.map Prod.fst) payloads (by simp [whole]), pairwise_map] at ascending
      exact ascending.imp fun less => decide_eq_true (Nat.le_of_lt less)
  · intro ordered returned
    obtain ⟨payloads, ended, _⟩ := (returned_iff g ordered).mp returned
    exact ⟨payloads, ended⟩

end Gather

section Partition

theorem map_fst_enumerated (calls : List (Dict Json)) : (enumerated calls).map Prod.fst = List.range calls.length := by
  rw [enumerated, map_map, range_eq_range']
  exact zipIdx_map_snd 0 calls

theorem map_snd_enumerated (calls : List (Dict Json)) : (enumerated calls).map Prod.snd = calls := by
  rw [enumerated, map_map]
  exact zipIdx_map_fst 0 calls

end Partition

end Troop.Orchestration
