import Troop.Parking.Operations

namespace Troop.Parking

open Execution (RunStatus RunMode Exn)
open Runs (WorkflowState WorkflowStep)

section Steps

def workflowStep (id title actor : String) : WorkflowStep :=
  { id, title, actor, status := "pending", startedAt := none, completedAt := none, resumable := true, attempts := 0
    lastError := none, metadata := [] }

def externalActionWorkflowStep : WorkflowStep := workflowStep "external_action_sync" "External action sync" "system"

def workflowStepsForRun : RunMode → List WorkflowStep
  | .managerWorker =>
    [workflowStep "planning" "Planning" "supervisor", workflowStep "subtask_dispatch" "Subtask dispatch" "supervisor",
      workflowStep "worker_execution" "Worker execution" "worker_pool",
      workflowStep "blocker_resolution" "Blocker resolution" "supervisor", workflowStep "review" "Review" "reviewer",
      workflowStep "artifact_publish" "Artifact publish" "system", externalActionWorkflowStep]
  | .review =>
    [workflowStep "review" "Review" "reviewer", workflowStep "artifact_publish" "Artifact publish" "system",
      externalActionWorkflowStep]
  | .singleAgent | .brainstorm | .debate =>
    [workflowStep "build_prompt" "Build prompt" "system", workflowStep "plan_execution" "Plan execution" "supervisor",
      workflowStep "run_tools" "Run tools" "worker_pool", workflowStep "model_response" "Model response" "worker",
      workflowStep "persist_output" "Persist outputs" "system"]

/-- `_workflow_steps_for_run(run)[-1]["id"]` -/
def lastStepId : RunMode → String
  | .managerWorker | .review => "external_action_sync"
  | .singleAgent | .brainstorm | .debate => "persist_output"

/-- `normalize_workflow_steps`: a step without an id is dropped. -/
def normalizeWorkflowSteps (steps : List WorkflowStep) : List WorkflowStep :=
  (steps.map fun step => { step with id := Text.strip step.id }).filter (·.id ≠ "")

def ensureRunWorkflow (mode : RunMode) (state : WorkflowState) : WorkflowState :=
  let kept := normalizeWorkflowSteps (state.ensure (workflowStepsForRun mode)).steps
  { state with steps := if kept = [] then normalizeWorkflowSteps (workflowStepsForRun mode) else kept }

end Steps

section Handlers

def calls (names : List String) : List Op := names.map Op.call

/-- `_mark_run_step`: the mark and its event -/
def beginning (stepId : String) : List Op := [.begins stepId, .event]

def completing (stepId : String) (metadata : Dict Json) : List Op := [.completes stepId metadata, .event]

def inStep (stepId : String) (ops : List Op) (metadata : Dict Json) : List Op :=
  beginning stepId ++ ops ++ completing stepId metadata

def onlyIf (condition : Bool) (ops : List Op) : List Op := if condition then ops else []

def repeated (n : Nat) (ops : List Op) : List Op := (List.replicate n ops).flatten

/-- What decides on the course of `_execute_single_agent_run`: which artifacts are there, and what it counts. -/
structure SingleAgent where
  hasPrompt : Bool
  hasPlan : Bool
  hasToolResults : Bool
  toolCalls : Nat
  completedTools : Nat
  outputChars : Nat

def executeSingleAgentRun (o : SingleAgent) : List Op :=
  calls ["_load_agent_for_run", "_resolve_provider_for_run", "db.get", "db.get"] ++
  onlyIf (!o.hasPrompt)
    (inStep "build_prompt" [.event, .call "_build_task_prompt", .stores "single_agent.prompt"] []) ++
  onlyIf (!o.hasPlan)
    (inStep "plan_execution" [.call "_plan_agent_execution", .stores "single_agent.plan"] [("tool_call_count", .num o.toolCalls)]) ++
  onlyIf (!o.hasToolResults)
    (inStep "run_tools" [.call "_execute_tool_calls", .stores "single_agent.tool_results"]
      [("completed_tools", .num o.completedTools)]) ++
  calls ["_build_final_prompt"] ++
  inStep "model_response" [.event, .call "_execute_with_routing", .stores "single_agent.output_payload"]
    [("output_chars", .num o.outputChars)] ++
  inStep "persist_output" (calls ["_write_artifact"]) []

/-- What decides on the course of `_execute_manager_worker_run`. -/
structure ManagerWorker where
  hasTask : Bool
  hasManager : Bool
  hasReviewer : Bool
  hasPlan : Bool
  hasRoutes : Bool
  hasBranchResults : Bool
  subTasks : Nat
  branches : Nat
  blocked : Nat
  approved : Bool

def resolveBlockers (o : ManagerWorker) : List Op :=
  beginning "blocker_resolution" ++ onlyIf o.hasManager [.call "_execute_with_routing", .event] ++
  repeated o.blocked (calls ["_escalate_blocker"]) ++
  [Op.refuse (.blockedExecution "Delegated sub-task execution is blocked and requires escalation")]

def followReview (o : ManagerWorker) : List Op :=
  if o.approved then
    completing "review" [] ++ onlyIf o.hasTask (calls ["_transition_task_status"]) ++
    inStep "artifact_publish" (calls ["_publish_final_artifacts", "_write_artifact"]) [] ++
    inStep "external_action_sync" (onlyIf o.hasTask (calls ["_sync_manager_run_to_github"])) []
  else
    onlyIf o.hasTask (calls ["_transition_task_status"]) ++ calls ["_child_runs_for_parent"] ++
    [Op.refuse (.blockedExecution "Reviewer requested rework on one or more delegated branches")]

def executeManagerWorkerRun (o : ManagerWorker) : List Op :=
  calls ["_load_agent_for_run", "_load_agent_for_run", "_resolve_provider_for_run", "db.get", "db.get",
    "_delegation_edge_allowed"] ++ [Op.event] ++
  onlyIf (!o.hasPlan)
    (inStep "planning" [.call "_build_task_prompt", .call "_plan_agent_execution", .stores "manager_worker.plan"]
      [("sub_task_count", .num o.subTasks)]) ++
  onlyIf (!o.hasRoutes)
    (inStep "subtask_dispatch" [.call "_candidate_workers", .call "_route_sub_tasks_to_agents",
      .stores "manager_worker.routed_sub_tasks", .event] []) ++
  onlyIf (!o.hasBranchResults)
    (inStep "worker_execution"
      (repeated o.branches (calls ["_create_child_run", "_execute_subtask_branch"]) ++ [Op.stores "manager_worker.branch_results"])
      [("branch_count", .num o.branches)]) ++
  [Op.stores "manager_worker.blocker_queue"] ++
  if o.blocked ≠ 0 then resolveBlockers o
  else
    completing "blocker_resolution" [] ++
    [Op.call "_execute_with_routing", .stores "manager_worker.output_payload", .stores "manager_worker.review_round"] ++
    beginning "review" ++ onlyIf o.hasReviewer (calls ["_load_agent_for_run", "_execute_with_routing"]) ++
    [Op.stores "manager_worker.review_state"] ++ followReview o

/-- What decides on the course of `_execute_review_run`. -/
structure Review where
  hasTask : Bool
  approved : Bool
  advanced : Bool

def executeReviewRun (o : Review) : List Op :=
  calls ["_load_agent_for_run", "_resolve_provider_for_run", "db.get"] ++
  inStep "review" (calls ["_execute_with_routing"]) [] ++
  onlyIf o.hasTask
    (onlyIf o.approved (calls ["db.get", "_advance_task_reviewer_chain"] ++ onlyIf o.advanced [.event] ++
      onlyIf (!o.advanced) (calls ["_transition_task_status"])) ++
    onlyIf (!o.approved) [.call "_transition_task_status", .event] ++
    calls ["_post_reviewer_pr_comment"] ++ inStep "artifact_publish" (calls ["_write_artifact"]) [] ++
    inStep "external_action_sync" (calls ["_sync_run_completion_to_github"]) [])

/-- What decides on the course of `_execute_brainstorm_run`. -/
structure Brainstorm where
  participants : Nat
  finalizes : Bool
  escalates : Bool
  hasTask : Bool

def executeBrainstormRun (o : Brainstorm) : List Op :=
  calls ["db.get", "list_brainstorm_participants", "_load_agent_for_run", "_resolve_provider_for_run", "list_brainstorm_messages"] ++
  repeated o.participants
    [.call "_load_agent_for_run", .call "_execute_with_routing", .call "create_brainstorm_message", .event] ++
  [Op.call "_generate_brainstorm_round_summary", .call "list_brainstorm_runs", .event] ++
  onlyIf o.finalizes [.call "_finalize_brainstorm_output", .event] ++ onlyIf o.escalates (calls ["db.get", "_escalate_blocker"]) ++
  calls ["db.get", "db.get"] ++ onlyIf o.hasTask (calls ["_apply_project_escalation_rules"])

/-- What decides on the course of `_execute_debate_run`: the two sides, which statements are there, and whether a decision is. -/
structure Debate where
  first : String
  second : String
  stated : Nat → Nat → Bool
  moderated : Bool

def digit (n : Nat) : String := if n = 1 then "1" else "2"

def debateArgument (o : Debate) (round side : Nat) : List Op :=
  onlyIf (!o.stated round side)
    ([Op.call "_execute_with_routing", .stores "debate.statements"] ++
    completing ("debate_r" ++ digit round ++ "_s" ++ digit side)
      [("agent_id", .str (if side = 1 then o.first else o.second)), ("round", .num round)] ++ [Op.event])

def executeDebateRun (o : Debate) : List Op :=
  calls ["db.get", "db.get", "_load_agent_for_run", "_debate_participants", "_resolve_provider_for_run", "_build_task_prompt"] ++
  debateArgument o 1 1 ++ debateArgument o 1 2 ++ debateArgument o 2 1 ++ debateArgument o 2 2 ++
  onlyIf (!o.moderated)
    ([Op.call "_execute_with_routing", .stores "debate.moderator"] ++ completing "debate_moderate" []) ++
  calls ["_write_artifact"]

inductive Work where
  | singleAgent (o : SingleAgent)
  | managerWorker (o : ManagerWorker)
  | review (o : Review)
  | brainstorm (o : Brainstorm)
  | debate (o : Debate)

def Work.mode : Work → RunMode
  | singleAgent _ => .singleAgent
  | managerWorker _ => .managerWorker
  | review _ => .review
  | brainstorm _ => .brainstorm
  | debate _ => .debate

def Work.handler : Work → List Op
  | singleAgent o => executeSingleAgentRun o
  | managerWorker o => executeManagerWorkerRun o
  | review o => executeReviewRun o
  | brainstorm o => executeBrainstormRun o
  | debate o => executeDebateRun o

end Handlers

/-- What decides on the course of `execute_run` beside the handler. -/
structure Occasion where
  work : Work
  hasTask : Bool
  /-- the task is queued -/
  queued : Bool
  /-- the task is planned or blocked when the work begins -/
  waiting : Bool
  /-- the task is closed when the run is -/
  closes : Bool
  /-- the task is blocked when the run fails -/
  blocked : Bool
  data : Dict Json

section Executing

variable (now : String) (o : Occasion)

/-- Before the `try`. -/
def startOps (prior : RunStatus) (signalled : Bool) : List Op :=
  calls ["db.get", "db.get", "_enforce_agent_token_budget", "_enforce_agent_token_budget", "_enforce_agent_cost_budget",
    "_enforce_agent_cost_budget"] ++
  onlyIf o.queued (calls ["_transition_task_status"]) ++ [Op.event] ++ onlyIf (prior = .failed ∨ prior = .blocked) [.event] ++
  onlyIf signalled [.event]

/-- What follows the handler in the `try`. -/
def completeOps : List Op :=
  [Op.call "_enforce_run_output_schema", .enters .completed, .attempt "record_skill_usage_for_run",
    .completes (lastStepId o.work.mode) [], .stores "final_status", .snapshot [("latest_status", .str "completed")]] ++
  onlyIf (o.hasTask ∧ o.work.mode ≠ .brainstorm)
    (calls ["_transition_task_status", "_update_task_execution_memory", "_detect_and_log_task_output_conflict"]) ++
  [Op.event, .call "_persist_agent_memory_from_run", .call "_apply_run_completion_external_actions", .commit,
    .attempt "on_task_run_terminal"] ++
  onlyIf o.closes
    (calls ["db.refresh", "db.get", "_maybe_promote_task_close_working_memory", "_run_task_close_memory_lifecycle",
      "_enqueue_classifier_job_for_task"]) ++
  onlyIf o.hasTask (calls ["_apply_project_escalation_rules"])

/-- The `try`. -/
def tryOps : List Op :=
  calls ["_compress_run_context_if_needed"] ++ onlyIf o.waiting (calls ["_transition_task_status"]) ++ o.work.handler ++
  completeOps o

/-- The mark in an `except` clause, if a step is current. -/
def markOps (step : Option WorkflowStep) (exn : Exn) : List Op :=
  match step, exn with
  | some found, .blockedExecution reason => [.stops found.id true reason]
  | some found, .other detail => [.stops found.id false detail]
  | none, _ => []

def parkOps (step : Option WorkflowStep) : Exn → List Op
  | .blockedExecution reason =>
    onlyIf step.isSome [.event] ++ onlyIf o.hasTask (calls ["_transition_task_status"]) ++
    [Op.event, .snapshot [("latest_status", .str "blocked"), ("last_error", .str reason)], .commit,
      .attempt "safe_record_skill_usage_for_run"] ++ onlyIf o.hasTask (calls ["_apply_project_escalation_rules"])
  | .other detail =>
    onlyIf step.isSome [.event] ++ onlyIf (o.hasTask && !o.blocked) (calls ["_transition_task_status"]) ++
    [Op.event, .snapshot [("latest_status", .str "failed"), ("last_error", .str detail)], .commit,
      .attempt "safe_record_skill_usage_for_run", .attempt "on_task_run_terminal"] ++
    onlyIf o.hasTask (calls ["_apply_project_escalation_rules"])

def statusOf : Exn → RunStatus
  | .blockedExecution _ => .blocked
  | .other _ => .failed

/-- The `except` clauses, with the step that is current when they are entered. -/
def exceptOps (step : Option WorkflowStep) (exn : Exn) : List Op :=
  .enters (statusOf exn) :: (markOps step exn ++ parkOps o step exn)

def Session.loaded (status : RunStatus) (workflow : WorkflowState) : Session := ⟨status, workflow, status, workflow⟩

def begun (workflow : WorkflowState) : WorkflowState :=
  ((ensureRunWorkflow o.work.mode workflow).consumeSignalQueue now).1.updateQuerySnapshot now o.data

/-- `execute_run`; `recovery` says how the calls of the `except` clauses end. -/
def executeRun (answers recovery : Nat → Answer) (status : RunStatus) (workflow : WorkflowState) : Session :=
  let loaded := Session.loaded status workflow
  if status.isExecutionClaimable then
    let starts := startOps o status (decide ((ensureRunWorkflow o.work.mode workflow).signalQueue ≠ []))
    match runOps now answers 0 starts { loaded with status := .inProgress, workflow := begun now o workflow } with
    | (s, some _) => s
    | (s, none) =>
      match runOps now answers starts.length (tryOps o) s with
      | (s, none) => s
      | (s, some exn) => (runOps now recovery 0 (exceptOps o (currentStep s.workflow) exn) s).1
  else loaded

end Executing

end Troop.Parking
