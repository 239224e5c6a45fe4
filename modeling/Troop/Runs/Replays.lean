import Mathlib.Data.List.Nodup
import Troop.Projects.Updates

namespace Troop.Runs

open Projects (HttpException)
open List

/-- A step of a mode handler. `takes` is what the step takes from the artifacts of the checkpoint: its own result, and then
    it is not performed, or something it works with. -/
structure Stage where
  step : String
  replaces : Bool
  takes : Dict Json → Option Json
  record : Json → Dict Json → Dict Json

def Stage.kept (step key : String) (usable : Json → Bool) : Stage :=
  { step := step
    replaces := true
    takes := fun artifacts => (artifacts.get? key).filter usable
    record := fun result artifacts => artifacts.set key result }

def Stage.always (step : String) : Stage :=
  { step := step, replaces := false, takes := fun _ => none, record := fun _ artifacts => artifacts }

def isText : Json → Bool
  | .str value => Text.strip value ≠ ""
  | _ => false

def isPlan : Json → Bool
  | .obj members => members ≠ []
  | _ => false

def isList : Json → Bool
  | .arr _ => true
  | _ => false

def isFullList : Json → Bool
  | .arr items => items ≠ []
  | _ => false

/-- `specialist_prompt` of the input takes the place of the step that builds the prompt. -/
def singleAgentStages (specialistPrompt : Option String) : List Stage :=
  (if (specialistPrompt.map Text.strip).getD "" = "" then [Stage.kept "build_prompt" "single_agent.prompt" isText] else []) ++
    [.kept "plan_execution" "single_agent.plan" isPlan, .kept "run_tools" "single_agent.tool_results" isList,
      .always "model_response", .always "persist_output"]

def reviewStage : Stage :=
  { step := "review"
    replaces := false
    takes := fun artifacts => (artifacts.get? "manager_worker.review_round").filter Json.truthy
    record := fun _ artifacts => artifacts.set "manager_worker.review_round"
      (.num ((match (artifacts.get "manager_worker.review_round").toInt with | .ok round => round | .error _ => 0) + 1)) }

def managerWorkerStages : List Stage :=
  [.kept "planning" "manager_worker.plan" isPlan,
    .kept "subtask_dispatch" "manager_worker.routed_sub_tasks" isFullList,
    .kept "worker_execution" "manager_worker.branch_results" isList,
    .always "blocker_resolution", .always "synthesis", reviewStage, .always "artifact_publish"]

def reviewStages : List Stage := [.always "review", .always "artifact_publish"]

def brainstormStages : List Stage := [.always "brainstorm_round", .always "brainstorm_round_summary"]

structure Debaters where
  first : String
  second : String
  distinct : first ≠ second
deriving DecidableEq

def statements (artifacts : Dict Json) : List Json :=
  match artifacts.get? "debate.statements" with
  | some (.arr items) => items
  | _ => []

def isStatement (round : Int) (agentId : String) (item : Json) : Bool :=
  (match ((item.get "round").pyOr (.num 0)).toInt with | .ok value => value = round | .error _ => false) &&
    (item.get "agent_id").strOrEmpty = agentId

def statementStage (step : String) (round : Int) (agentId : String) : Stage :=
  { step := step
    replaces := true
    takes := fun artifacts => (statements artifacts).find? (isStatement round agentId)
    record := fun text artifacts => artifacts.set "debate.statements"
      (.arr (statements artifacts ++ [.obj [("round", .num round), ("agent_id", .str agentId), ("text", text)]])) }

def debateStages (debaters : Debaters) : List Stage :=
  [statementStage "debate_r1_s1" 1 debaters.first, statementStage "debate_r1_s2" 1 debaters.second,
    statementStage "debate_r2_s1" 2 debaters.first, statementStage "debate_r2_s2" 2 debaters.second,
    .kept "debate_moderate" "debate.moderator" fun payload => isPlan payload && (payload.get "final_output").truthy]

inductive Work where
  | singleAgent (specialistPrompt : Option String)
  | managerWorker
  | review
  | brainstorm
  | debate (debaters : Debaters)
deriving DecidableEq

def Work.stages : Work → List Stage
  | .singleAgent specialistPrompt => singleAgentStages specialistPrompt
  | .managerWorker => managerWorkerStages
  | .review => reviewStages
  | .brainstorm => brainstormStages
  | .debate debaters => debateStages debaters

structure RunEvent where
  eventType : String
  message : String
  recorded : Dict Json
deriving DecidableEq

structure TaskRun where
  work : Work
  taskStatus : Option String
  priorTranscript : String
  /-- the artifacts of the checkpoint the run was created with -/
  carried : Dict Json
  events : List RunEvent
deriving DecidableEq

def recordAll (artifacts : Dict Json) (events : List RunEvent) : Dict Json :=
  events.foldl (fun artifacts event => artifacts.update event.recorded) artifacts

def TaskRun.checkpoint (run : TaskRun) : Dict Json := recordAll run.carried run.events

def TaskRun.recordedBy (run : TaskRun) (count : Nat) : Dict Json := recordAll [] (run.events.take count)

/-- What `replay_run` meets: the refusals of the budgets and of the rate limit, and the events that one page lists. -/
structure Platform where
  budgets : Except HttpException Unit
  rateLimit : Except HttpException Unit
  eventLimit : Nat

def transcript (events : List RunEvent) : String :=
  String.ofList ((String.intercalate "\n" (events.map fun event => "[" ++ event.eventType ++ "] " ++ event.message)).toList.take 12000)

def replayed (old : TaskRun) (prior : List RunEvent) (fromEventIndex : Int) : TaskRun :=
  { work := old.work
    taskStatus := old.taskStatus.map fun _ => "queued"
    priorTranscript := transcript prior
    carried := old.checkpoint
    events := [⟨"replay_queued", "Replay from run starting after event index " ++ toString fromEventIndex ++ ".", []⟩] }

def replayRun (platform : Platform) (old : TaskRun) (fromEventIndex : Int) : Except HttpException TaskRun := do
  platform.budgets
  let events := old.events.take platform.eventLimit
  if fromEventIndex < 0 ∨ (events.length : Int) < fromEventIndex then
    throw ⟨400, .str "from_event_index is out of range for this run"⟩
  platform.rateLimit
  if (old.taskStatus.all fun status => Projects.isValidTaskTransition status "queued") = false then
    throw ⟨409, .str ("Invalid task transition from " ++ old.taskStatus.getD "" ++ " to queued")⟩
  return replayed old (events.take fromEventIndex.toNat) fromEventIndex

structure Outcome where
  step : String
  taken : Option Json
  performed : Bool
  result : Except String Json

abbrev Surroundings := String → String → Option Json → List Json → Except String Json

def executeStages (env : Surroundings) (transcript : String) : List Stage → Dict Json → List Json → List Outcome
  | [], _, _ => []
  | stage :: rest, artifacts, done =>
    let taken := stage.takes artifacts
    match stage.replaces, taken with
    | true, some result => ⟨stage.step, taken, false, .ok result⟩ :: executeStages env transcript rest artifacts (done ++ [result])
    | _, _ =>
      match env transcript stage.step taken done with
      | .ok result =>
        ⟨stage.step, taken, true, .ok result⟩ ::
          executeStages env transcript rest (stage.record result artifacts) (done ++ [result])
      | .error error => [⟨stage.step, taken, true, .error error⟩]

def TaskRun.execute (env : Surroundings) (run : TaskRun) : List Outcome :=
  executeStages env run.priorTranscript run.work.stages run.checkpoint []

def TaskRun.fresh (run : TaskRun) : TaskRun := { run with priorTranscript := "", carried := [], events := [] }

/-- The replay is accepted, and however its steps go, a step takes from the checkpoint only what the first `k` events have
    recorded, is performed where they have recorded nothing for it, and goes like a fresh run's where `k` is 0. -/
def ReplaysAfter (platform : Platform) (run : TaskRun) (k : Nat) : Prop :=
  ∃ new, replayRun platform run k = .ok new ∧ ∀ env,
    (∀ outcome ∈ new.execute env, ∀ stage ∈ run.work.stages, stage.step = outcome.step →
      (∀ taken, outcome.taken = some taken → stage.takes (run.recordedBy k) = some taken) ∧
        (stage.takes (run.recordedBy k) = none → outcome.performed = true)) ∧
    (k = 0 → new.execute env = run.fresh.execute env)

/-- One page lists the first `k` events, the task can be queued, and nothing that the steps of the run take from its
    checkpoint was recorded otherwise than by the first `k` events. -/
def Replayable (platform : Platform) (run : TaskRun) (k : Nat) : Prop :=
  k ≤ platform.eventLimit ∧ (∀ status, run.taskStatus = some status → Projects.isValidTaskTransition status "queued" = true) ∧
    ∀ stage ∈ run.work.stages, ∀ taken, stage.takes run.checkpoint = some taken → stage.takes (run.recordedBy k) = some taken

section Stages

variable {env : Surroundings} {transcript : String} {stages : List Stage} {artifacts other : Dict Json} {done : List Json}

def Independent (stages : List Stage) : Prop :=
  stages.Pairwise fun earlier later => ∀ result artifacts, later.takes (earlier.record result artifacts) = later.takes artifacts

def Outcome.Of (outcome : Outcome) (artifacts : Dict Json) (stage : Stage) : Prop :=
  outcome.step = stage.step ∧ outcome.taken = stage.takes artifacts ∧
    (stage.takes artifacts = none → outcome.performed = true)

theorem executeStages_of (independent : Independent stages) :
    ∀ outcome ∈ executeStages env transcript stages artifacts done, ∃ stage ∈ stages, outcome.Of artifacts stage := by
  induction stages generalizing artifacts done with
  | nil => simp [executeStages]
  | cons stage rest ih =>
    obtain ⟨apart, independent⟩ := pairwise_cons.mp independent
    intro outcome isThere
    unfold executeStages at isThere
    dsimp only at isThere
    split at isThere
    · rename_i found
      rcases mem_cons.mp isThere with rfl | later
      · exact ⟨stage, mem_cons_self, rfl, found.symm ▸ rfl, fun absent => by rw [absent] at found; cases found⟩
      · obtain ⟨other, isOther, same⟩ := ih independent outcome later
        exact ⟨other, mem_cons_of_mem _ isOther, same⟩
    · split at isThere
      · rcases mem_cons.mp isThere with rfl | later
        · exact ⟨stage, mem_cons_self, rfl, rfl, fun _ => rfl⟩
        · obtain ⟨other, isOther, step, taken, again⟩ := ih independent outcome later
          rw [apart other isOther] at taken again
          exact ⟨other, mem_cons_of_mem _ isOther, step, taken, again⟩
      · rw [mem_singleton.mp isThere]
        exact ⟨stage, mem_cons_self, rfl, rfl, fun _ => rfl⟩

theorem executeStages_all (independent : Independent stages) :
    ∀ stage ∈ stages, ∃ outcome ∈ executeStages (fun _ _ _ _ => .ok .null) transcript stages artifacts done,
      outcome.Of artifacts stage := by
  induction stages generalizing artifacts done with
  | nil => simp
  | cons stage rest ih =>
    obtain ⟨apart, independent⟩ := pairwise_cons.mp independent
    intro wanted isThere
    unfold executeStages
    dsimp only
    split
    · rename_i found
      rcases mem_cons.mp isThere with rfl | later
      · exact ⟨_, mem_cons_self, rfl, found.symm ▸ rfl, fun absent => by rw [absent] at found; cases found⟩
      · obtain ⟨outcome, isOutcome, same⟩ := ih independent wanted later
        exact ⟨outcome, mem_cons_of_mem _ isOutcome, same⟩
    · rcases mem_cons.mp isThere with rfl | later
      · exact ⟨_, mem_cons_self, rfl, rfl, fun _ => rfl⟩
      · obtain ⟨outcome, isOutcome, step, taken, again⟩ := @ih (stage.record .null artifacts) (done ++ [.null]) independent wanted later
        rw [apart wanted later] at taken again
        exact ⟨outcome, mem_cons_of_mem _ isOutcome, step, taken, again⟩

theorem executeStages_congr (independent : Independent stages) (same : ∀ stage ∈ stages, stage.takes artifacts = stage.takes other) :
    executeStages env transcript stages artifacts done = executeStages env transcript stages other done := by
  induction stages generalizing artifacts other done with
  | nil => rfl
  | cons stage rest ih =>
    obtain ⟨apart, independent⟩ := pairwise_cons.mp independent
    have later : ∀ stage ∈ rest, stage.takes artifacts = stage.takes other :=
      fun stage isThere => same stage (mem_cons_of_mem _ isThere)
    unfold executeStages
    rw [same stage mem_cons_self]
    dsimp only
    split
    · rw [ih independent later]
    split
    · rename_i result performed
      have recorded : ∀ next ∈ rest, next.takes (stage.record result artifacts) = next.takes (stage.record result other) := by
        intro next isThere
        rw [apart next isThere, apart next isThere]
        exact later next isThere
      rw [ih independent recorded]
    · rfl

structure Stage.Owns (stage : Stage) (key : String) : Prop where
  reads : ∀ {artifacts other : Dict Json}, artifacts.get? key = other.get? key → stage.takes artifacts = stage.takes other
  writes : ∀ {result : Json} {artifacts : Dict Json} {other : String}, other ≠ key →
    (stage.record result artifacts).get? other = artifacts.get? other

theorem kept_owns (step key : String) (usable : Json → Bool) : (Stage.kept step key usable).Owns key where
  reads same := by
    dsimp only [Stage.kept]
    rw [same]
  writes differ := Dict.get?_set_of_ne _ _ (Ne.symm differ)

theorem always_owns (step key : String) : (Stage.always step).Owns key := ⟨fun _ => rfl, fun _ => rfl⟩

theorem reviewStage_owns : reviewStage.Owns "manager_worker.review_round" where
  reads same := by
    dsimp only [reviewStage]
    rw [same]
  writes differ := Dict.get?_set_of_ne _ _ (Ne.symm differ)

theorem Stage.Owns.apart {earlier later : Stage} {key other : String} (owns : earlier.Owns key) (owned : later.Owns other)
    (differ : other ≠ key) (result : Json) (artifacts : Dict Json) :
    later.takes (earlier.record result artifacts) = later.takes artifacts :=
  owned.reads (owns.writes differ)

theorem independent_of_keys {keyed : List (Stage × String)} (owns : ∀ entry ∈ keyed, entry.1.Owns entry.2)
    (distinct : (keyed.map Prod.snd).Nodup) : Independent (keyed.map Prod.fst) := by
  unfold Independent
  rw [pairwise_map]
  refine Pairwise.imp_of_mem ?_ (pairwise_map.mp distinct)
  intro earlier later isEarlier isLater differ result artifacts
  exact (owns earlier isEarlier).apart (owns later isLater) (Ne.symm differ) result artifacts

theorem statements_set {items : List Json} : statements (artifacts.set "debate.statements" (.arr items)) = items := by
  unfold statements
  rw [Dict.get?_set, if_pos rfl]

variable {agentId speaker : String} {round spoken : Int} {text : Json}

theorem isStatement_of_other (differ : spoken ≠ round ∨ speaker ≠ agentId) :
    isStatement round agentId (.obj [("round", .num spoken), ("agent_id", .str speaker), ("text", text)]) = false := by
  have heard : (if Json.truthy (.str speaker) then speaker else "") = speaker := by
    by_cases silent : speaker = ""
    · simp [silent]
    · simp [Json.truthy, silent]
  have counted : Json.pyOr (.num spoken) (.num 0) = .num spoken := by
    by_cases zero : spoken = 0
    · simp [Json.pyOr, zero]
    · simp [Json.pyOr, Json.truthy, zero]
  unfold isStatement
  simp [Json.get, Dict.get?, counted, Json.toInt, Json.strOrEmpty, Json.pyStr, heard]
  tauto

theorem statement_takes_record {step said : String} (differ : spoken ≠ round ∨ speaker ≠ agentId) :
    (statementStage step round agentId).takes ((statementStage said spoken speaker).record text artifacts) =
      (statementStage step round agentId).takes artifacts := by
  unfold statementStage
  dsimp only
  rw [statements_set, find?_append]
  simp [isStatement_of_other differ]

def singleAgentKeys (specialistPrompt : Option String) : List (Stage × String) :=
  (if (specialistPrompt.map Text.strip).getD "" = "" then
      [(.kept "build_prompt" "single_agent.prompt" isText, "single_agent.prompt")] else []) ++
    [(.kept "plan_execution" "single_agent.plan" isPlan, "single_agent.plan"),
      (.kept "run_tools" "single_agent.tool_results" isList, "single_agent.tool_results"),
      (.always "model_response", "model_response"), (.always "persist_output", "persist_output")]

def managerWorkerKeys : List (Stage × String) :=
  [(.kept "planning" "manager_worker.plan" isPlan, "manager_worker.plan"),
    (.kept "subtask_dispatch" "manager_worker.routed_sub_tasks" isFullList, "manager_worker.routed_sub_tasks"),
    (.kept "worker_execution" "manager_worker.branch_results" isList, "manager_worker.branch_results"),
    (.always "blocker_resolution", "blocker_resolution"), (.always "synthesis", "synthesis"),
    (reviewStage, "manager_worker.review_round"), (.always "artifact_publish", "artifact_publish")]

variable (specialistPrompt : Option String)

theorem singleAgentKeys_own :
    ∀ entry ∈ singleAgentKeys specialistPrompt, entry.1.Owns entry.2 := by
  intro entry isThere
  rcases mem_append.mp isThere with first | rest
  · split at first
    · rw [mem_singleton.mp first]
      exact kept_owns _ _ _
    · cases first
  · simp only [mem_cons, not_mem_nil, or_false] at rest
    rcases rest with rfl | rfl | rfl | rfl
    · exact kept_owns _ _ _
    · exact kept_owns _ _ _
    · exact always_owns _ _
    · exact always_owns _ _

theorem managerWorkerKeys_own : ∀ entry ∈ managerWorkerKeys, entry.1.Owns entry.2 := by
  intro entry isThere
  simp only [managerWorkerKeys, mem_cons, not_mem_nil, or_false] at isThere
  rcases isThere with rfl | rfl | rfl | rfl | rfl | rfl | rfl
  · exact kept_owns _ _ _
  · exact kept_owns _ _ _
  · exact kept_owns _ _ _
  · exact always_owns _ _
  · exact always_owns _ _
  · exact reviewStage_owns
  · exact always_owns _ _

theorem singleAgent_independent : Independent (singleAgentStages specialistPrompt) := by
  have distinct : ((singleAgentKeys specialistPrompt).map Prod.snd).Nodup := by
    unfold singleAgentKeys
    split <;> decide
  have independent := independent_of_keys (singleAgentKeys_own specialistPrompt) distinct
  have same : (singleAgentKeys specialistPrompt).map Prod.fst = singleAgentStages specialistPrompt := by
    unfold singleAgentKeys singleAgentStages
    split <;> rfl
  rwa [same] at independent

theorem debate_independent (debaters : Debaters) : Independent (debateStages debaters) := by
  have sides := debaters.distinct
  have moderate (step : String) (round : Int) (agentId : String) (usable : Json → Bool) (result : Json) (artifacts : Dict Json) :
      (Stage.kept "debate_moderate" "debate.moderator" usable).takes ((statementStage step round agentId).record result artifacts) =
        (Stage.kept "debate_moderate" "debate.moderator" usable).takes artifacts := by
    dsimp only [Stage.kept, statementStage]
    rw [Dict.get?_set_of_ne artifacts _ (by decide)]
  have other (step said : String) {round spoken : Int} {agentId speaker : String} (differ : spoken ≠ round ∨ speaker ≠ agentId)
      (text : Json) (artifacts : Dict Json) :
      (statementStage step round agentId).takes ((statementStage said spoken speaker).record text artifacts) =
        (statementStage step round agentId).takes artifacts := statement_takes_record differ
  refine .cons ?_ (.cons ?_ (.cons ?_ (.cons ?_ (.cons ?_ .nil))))
  all_goals simp only [mem_cons, not_mem_nil, or_false, forall_eq_or_imp, forall_eq]
  · exact ⟨other _ _ (.inr sides), other _ _ (.inl (by decide)), other _ _ (.inl (by decide)), moderate _ _ _ _⟩
  · exact ⟨other _ _ (.inl (by decide)), other _ _ (.inl (by decide)), moderate _ _ _ _⟩
  · exact ⟨other _ _ (.inr sides), moderate _ _ _ _⟩
  · exact moderate _ _ _ _
  · exact fun _ absurd => absurd.elim

theorem stages_independent (work : Work) : Independent work.stages := by
  cases work with
  | review => simp [Independent, Work.stages, reviewStages, Stage.always]
  | brainstorm => simp [Independent, Work.stages, brainstormStages, Stage.always]
  | singleAgent specialistPrompt => exact singleAgent_independent specialistPrompt
  | managerWorker => exact independent_of_keys managerWorkerKeys_own (by decide)
  | debate debaters => exact debate_independent debaters

theorem stages_distinct (work : Work) : (work.stages.map Stage.step).Nodup := by
  cases work with
  | singleAgent specialistPrompt =>
    simp only [Work.stages, singleAgentStages]
    split <;> decide
  | debate debaters => simp [Work.stages, debateStages, statementStage, Stage.kept]
  | _ => decide

theorem takes_nil {work : Work} : ∀ stage ∈ work.stages, stage.takes [] = none := by
  intro stage isThere
  cases work with
  | singleAgent specialistPrompt =>
    rcases mem_append.mp isThere with first | rest
    · split at first
      · rw [mem_singleton.mp first]
        rfl
      · cases first
    · simp only [mem_cons, not_mem_nil, or_false] at rest
      rcases rest with rfl | rfl | rfl | rfl
      all_goals rfl
  | managerWorker =>
    simp only [Work.stages, managerWorkerStages, mem_cons, not_mem_nil, or_false] at isThere
    rcases isThere with rfl | rfl | rfl | rfl | rfl | rfl | rfl
    all_goals rfl
  | review =>
    simp only [Work.stages, reviewStages, mem_cons, not_mem_nil, or_false] at isThere
    rcases isThere with rfl | rfl
    all_goals rfl
  | brainstorm =>
    simp only [Work.stages, brainstormStages, mem_cons, not_mem_nil, or_false] at isThere
    rcases isThere with rfl | rfl
    all_goals rfl
  | debate debaters =>
    simp only [Work.stages, debateStages, mem_cons, not_mem_nil, or_false] at isThere
    rcases isThere with rfl | rfl | rfl | rfl | rfl
    all_goals rfl

end Stages

section Replays

variable {platform : Platform} {run new : TaskRun} {k : Nat}

def Accepts (platform : Platform) (run : TaskRun) (k : Nat) : Prop :=
  k ≤ platform.eventLimit ∧ ∀ status, run.taskStatus = some status → Projects.isValidTaskTransition status "queued" = true

theorem replayRun_accepted (budgets : platform.budgets = .ok ()) (rate : platform.rateLimit = .ok ())
    (within : k ≤ run.events.length) (accepts : Accepts platform run k) :
    replayRun platform run k = .ok (replayed run ((run.events.take platform.eventLimit).take k) k) := by
  obtain ⟨listed, queueable⟩ := accepts
  have inRange : ¬ ((k : Int) < 0 ∨ ((run.events.take platform.eventLimit).length : Int) < k) := by grind
  have queues : ¬ (run.taskStatus.all fun status => Projects.isValidTaskTransition status "queued") = false := by
    rwa [Bool.not_eq_false, Option.all_eq_true]
  unfold replayRun
  rw [budgets, rate]
  simp only [bind, Except.bind, if_neg inRange, if_neg queues, pure, Except.pure]
  rfl

theorem replayRun_accepts (budgets : platform.budgets = .ok ()) (rate : platform.rateLimit = .ok ())
    (replays : replayRun platform run k = .ok new) : Accepts platform run k := by
  unfold replayRun at replays
  rw [budgets, rate] at replays
  simp only [bind, Except.bind] at replays
  split at replays
  · cases replays
  rename_i inRange
  rw [length_take] at inRange
  split at replays
  · cases replays
  · rename_i queues
    refine ⟨by omega, ?_⟩
    rwa [Bool.not_eq_false, Option.all_eq_true] at queues

theorem replayed_checkpoint {prior : List RunEvent} {index : Int} : (replayed run prior index).checkpoint = run.checkpoint := by
  simp [TaskRun.checkpoint, replayed, recordAll, Dict.update]

end Replays

def openPlatform : Platform := { budgets := .ok (), rateLimit := .ok (), eventLimit := 50 }

def samplePlan : Json := .obj [("summary", .str "Read the log."), ("tool_calls", .arr [])]

def failedRun : TaskRun :=
  { work := .singleAgent none
    taskStatus := some "failed"
    priorTranscript := ""
    carried := []
    events := [⟨"workflow_step", "Task prompt checkpoint saved.", [("single_agent.prompt", .str "Find the cause.")]⟩,
      ⟨"workflow_step", "Execution plan checkpoint saved.", [("single_agent.plan", samplePlan)]⟩,
      ⟨"workflow_step", "Executing planned tools.", []⟩] }

end Troop.Runs
