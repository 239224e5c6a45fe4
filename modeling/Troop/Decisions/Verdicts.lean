import Troop.Decisions.Frames

namespace Troop.Decisions

open Approvals (BoundApproval Decision)
open Projects (actionRequiresApproval isValidTaskTransition)
open Transaction

def andThen (first second : Verdict) : Verdict :=
  match first with
  | .quiet => second
  | other => other

section Definitions

variable (around : Surroundings) (db : Db)

def taskFor (approval : BoundApproval) : Option OrchestratorTask := (given approval.taskId).bind db.tasks

def runFor (approval : BoundApproval) : Option TaskRun := (given approval.runId).bind db.run?

def hasRun (task : OrchestratorTask) : Bool := (db.latestRun? task.projectId task.id).isSome

def transitionVerdict (task : OrchestratorTask) (next : String) : Verdict :=
  if task.status = next then .quiet
  else if ¬ isValidTaskTransition task.status next then .refused
  else if hasRun db task then .committed else .quiet

def workspaceVerdict (userId : String) : Verdict :=
  match around.namedWorkspace with
  | some none => .quiet
  | some (some _) => .refused
  | none => if userId ∈ db.workspaces then .quiet else .committed

def persistVerdict (project : OrchestratorProject) (payload : Dict Json) : Verdict :=
  if (around.draftFault payload).isSome then .refused
  else if project.companyId = none ∧ project.ownerId ∉ db.companies then .committed
  else if (around.rowFault project payload).isSome then .refused
  else match around.stored db.entries project payload with
    | .blocked => .refused
    | .duplicate => .quiet
    | .row _ => .committed

def createVerdict (userId projectId : String) (payload : Dict Json) (bypass : Bool) : Verdict :=
  andThen (workspaceVerdict around db userId) <|
    match readProject around userId projectId db with
    | .error _ => .refused
    | .ok project =>
      let gated :=
        actionRequiresApproval project.executionSettings "write_memory" || project.semanticWriteRequiresApproval
      if (gated && !bypass) || around.conflicts db.entries project payload then .committed
      else persistVerdict around db project payload

def promotionVerdict (userId : String) (project : OrchestratorProject) (memory : AgentMemoryEntry) : Verdict :=
  if ¬ project.autoPromoteApprovedAgentMemory ∨ db.entries.any fun entry =>
      entry.projectId = some project.id ∧ entry.agentMemoryId = some memory.id then .quiet
  else match around.promotion memory with
    | none => .quiet
    | some (payload, auto) =>
      createVerdict around db userId project.id payload (project.autoIngestBypassesSemanticApproval && auto)

def memoryVerdict (userId : String) (approval : BoundApproval) : Verdict :=
  if ¬ (approval.payloadJson.get "memory_entry_id").truthy then .quiet
  else match (db.memories (approval.payloadJson.get "memory_entry_id").pyStr).filter fun memory =>
      memory.ownerId = userId with
    | none => .quiet
    | some memory =>
      match (given memory.projectId).bind db.projects with
      | none => .quiet
      | some project =>
        promotionVerdict around db userId project
          { memory with status := "approved", approvedByUserId := some userId }

def operationVerdict (projectId : String) (payload : Dict Json) (project : OrchestratorProject) : Verdict :=
  let entry := readEntry projectId (payload.get "entry_id").strOrEmpty project db
  if payload.get "operation" = .str "create" then
    match (payload.get "payload").toDict with
    | .error _ => .refused
    | .ok written => persistVerdict around db project written
  else if payload.get "operation" = .str "update" then
    match (payload.get "updates").toDict, entry with
    | .ok updates, .ok entry => if (around.applied entry updates).isOk then .committed else .refused
    | _, _ => .refused
  else if payload.get "operation" = .str "delete" then
    if entry.isOk then .committed else .refused
  else .quiet

def semanticVerdict (userId : String) (approval : BoundApproval) : Verdict :=
  match given approval.projectId with
  | none => .quiet
  | some projectId =>
    let requester := (given approval.requestedByUserId).getD userId
    andThen (workspaceVerdict around db requester) <|
      match readProject around requester projectId db with
      | .error _ => .refused
      | .ok project => operationVerdict around db projectId approval.payloadJson project

def commentedTaskVerdict (approval : BoundApproval) : Verdict :=
  match taskFor db approval with
  | none => .quiet
  | some task => if task.status ∈ ["approved", "completed"] ∧ hasRun db task then .committed else .quiet

def commentVerdict (approval : BoundApproval) : Verdict :=
  if postingOwner approval = "" ∨ approval.issueLinkId.getD "" = "" then .refused
  else if (approval.payloadJson.get "posted_comment_id").truthy then .quiet
  else match authorizedLink (postingOwner approval) approval db with
    | .error _ => .refused
    | .ok link =>
      if ¬ (commentBody approval).truthy then .refused
      else match around.claim approval approval.payloadJson with
        | .error _ => .refused
        | .ok (.replayed _) => .quiet
        | .ok .claimed =>
          match around.comment link approval.payloadJson with
          | none => .refused
          | some _ => if closesIssue approval ∧ ¬ around.closes link then .refused else commentedTaskVerdict db approval

def pullRequestVerdict (approval : BoundApproval) : Verdict :=
  let taskId := (given approval.taskId).getD (approval.payloadJson.get "task_id").strOrEmpty
  let runId := approval.payloadJson.get "run_id"
  match db.issueLinks (approval.issueLinkId.getD "") with
  | none => .refused
  | some link =>
    if runId.truthy ∧ taskId ≠ "" ∧ (db.run? runId.pyStr).isSome ∧ (db.tasks taskId).isSome ∧
      (db.repositories link.repositoryId).isSome then .quiet else .refused

def reviewVerdict (approval : BoundApproval) : Verdict :=
  match connectedLink approval db with
  | none => .refused
  | some (link, connected) =>
    if connected ∧ (approval.payloadJson.get "pr_number").truthy ∧
      Text.strip (approval.payloadJson.get "body").strOrEmpty ≠ "" ∧ around.review link approval.payloadJson then .quiet
    else .refused

def syncVerdict (approval : BoundApproval) : Verdict :=
  match connectedLink approval db, (approval.payloadJson.get "issue_update").toDict with
  | some (_, connected), .ok update => if connected ∧ update ≠ [] then .quiet else .refused
  | _, _ => .refused

def completionVerdict (approval : BoundApproval) : Verdict :=
  match taskFor db approval with
  | none => .quiet
  | some task => transitionVerdict db task (targetStatus approval)

def sharingVerdict (approval : BoundApproval) : Verdict :=
  match taskFor db approval with
  | none => .quiet
  | some task =>
    if (sharedMetadata task (approval.payloadJson.get "shared").strOrEmpty).isOk then .quiet else .refused

def grantVerdict (userId : String) (approval : BoundApproval) : Verdict :=
  if approval.approvalType ∈ githubCommentTypes ∧ given approval.issueLinkId ≠ none then commentVerdict around db approval
  else if approval.approvalType = "github_create_pr" then pullRequestVerdict db approval
  else if approval.approvalType = "github_pr_review_comment" then reviewVerdict around db approval
  else if approval.approvalType = "github_issue_sync" then syncVerdict db approval
  else if approval.approvalType = "agent_memory_write" then memoryVerdict around db userId approval
  else if approval.approvalType = "semantic_memory_write" then semanticVerdict around db userId approval
  else if approval.approvalType = "task_mark_complete" then completionVerdict db approval
  else if approval.approvalType = "shared_memory_write" then sharingVerdict db approval
  else .quiet

def GrantTorn (userId : String) (approval : BoundApproval) : Prop :=
  grantVerdict around db userId approval = .committed ∨
    grantVerdict around db userId approval = .quiet ∧
      ∃ run, runFor db approval = some run ∧ run.status = "blocked"

def RefusalTorn (approval : BoundApproval) : Prop :=
  given approval.taskId ≠ none ∧
    ((∃ run, runFor db approval = some run ∧ openRun run = true) ∨
      ∃ task, taskFor db approval = some task ∧ task.status ∈ ["blocked", "approved", "completed"] ∧
        hasRun db task = true)

end Definitions

section Steps

variable {around : Surroundings} {db : Db}

@[simp] theorem verdict_orRaise_ok {ε α β : Type} {fault : ε → Fault} {value : α} {next : α → Work β} :
    (orRaise fault (.ok value) >>= next).verdict db = (next value).verdict db := rfl

@[simp] theorem verdict_orRaise_error {ε α β : Type} {fault : ε → Fault} {error : ε} {next : α → Work β} :
    (orRaise fault (.error error) >>= next).verdict db = .refused := rfl

variable {β : Type} {task : OrchestratorTask} {α : Type} {next : String}

@[simp] theorem verdict_refuse (statusCode : Nat) (detail : String) :
    (refuse statusCode detail : Work α).verdict db = .refused := rfl

theorem verdict_discard (work : Work α) : (discard work : Work PUnit).verdict db = work.verdict db := by
  change (work >>= fun _ => pure PUnit.unit).verdict db = _
  rw [verdict_bind]
  unfold verdict
  cases work.reachesCommit db with
  | true => rfl
  | false =>
    cases work.outcome db with
    | mk result after => cases result <;> rfl

theorem outcome_discard {work : Work α} {value : α} {after : Db} (ran : work.outcome db = (.ok value, after)) :
    (discard work : Work PUnit).outcome db = (.ok ⟨⟩, after) := by
  change (work >>= fun _ => pure PUnit.unit).outcome db = _
  rw [outcome_bind, ran]
  rfl

variable (approval : BoundApproval)

theorem verdict_taskOf (next : Option OrchestratorTask → Work β) :
    (taskOf approval >>= next).verdict db = (next (taskFor db approval)).verdict db := by
  unfold taskOf taskFor
  cases given approval.taskId <;> rfl

theorem verdict_runOf (next : Option TaskRun → Work β) :
    (runOf approval >>= next).verdict db = (next (runFor db approval)).verdict db := by
  unfold runOf runFor
  cases given approval.runId <;> rfl

theorem verdict_transition (task : OrchestratorTask) (next : String) :
    (transitionTaskStatus around task next none).verdict db = transitionVerdict db task next := by
  unfold transitionTaskStatus transitionVerdict
  by_cases same : task.status = next
  · simp_all
  rw [if_neg same, if_neg same]
  by_cases invalid : ¬ isValidTaskTransition task.status next = true
  · simp_all
  rw [if_neg invalid, if_neg invalid]
  rw [verdict_change_bind]
  have read : reportedRun task none = rows fun db => db.latestRun? task.projectId task.id := rfl
  have same : (db.putTask (moved around task next)).latestRun? task.projectId task.id =
      db.latestRun? task.projectId task.id := rfl
  rw [read, verdict_rows_bind, same]
  unfold hasRun
  cases db.latestRun? task.projectId task.id <;> rfl

theorem moved_same (task : OrchestratorTask) (next : String) :
    (moved around task next).projectId = task.projectId ∧ (moved around task next).id = task.id ∧
      (moved around task next).status = next := by
  unfold moved
  by_cases blocked : next = "blocked"
  · simp only [blocked, if_true, and_self]
  · simp only [blocked, if_false, and_self]

theorem outcome_transition (passed : transitionVerdict db task next ≠ .refused) :
    ∃ after tasks runEvents, (transitionTaskStatus around task next none).outcome db =
      (.ok after, { db with tasks, runEvents }) ∧ after.projectId = task.projectId ∧ after.id = task.id ∧
      after.status = next ∧ ∀ key row, tasks key = some row → db.tasks key = some row ∨ row = after := by
  have rows : ∀ key row, (db.putTask (moved around task next)).tasks key = some row →
      db.tasks key = some row ∨ row = moved around task next := by
    intro key row found
    by_cases same : key = (moved around task next).id
    · simp only [Db.putTask, same, Function.update_self, Option.some.injEq] at found
      exact .inr found.symm
    · simp only [Db.putTask, ne_eq, same, not_false_eq_true, Function.update_of_ne] at found
      exact .inl found
  unfold transitionTaskStatus
  unfold transitionVerdict at passed
  by_cases same : task.status = next
  · rw [if_pos same]
    exact ⟨task, db.tasks, db.runEvents, rfl, rfl, rfl, same, fun _ _ found => .inl found⟩
  rw [if_neg same] at passed ⊢
  by_cases invalid : ¬ isValidTaskTransition task.status next = true
  · simp_all
  rw [if_neg invalid]
  have reported : (reportedRun task none).outcome (db.putTask (moved around task next)) =
      (.ok (db.latestRun? task.projectId task.id), db.putTask (moved around task next)) := rfl
  obtain ⟨project, id, status⟩ := @moved_same around task next
  rw [outcome_bind, outcome_change]
  dsimp only
  rw [outcome_bind, reported]
  cases db.latestRun? task.projectId task.id with
  | none => exact ⟨_, _, db.runEvents, rfl, project, id, status, rows⟩
  | some run => exact ⟨_, _, _, rfl, project, id, status, rows⟩

theorem verdict_getProject (userId projectId : String) (next : OrchestratorProject → Work β) :
    (getProject around userId projectId >>= next).verdict db = andThen (workspaceVerdict around db userId)
      (match readProject around userId projectId db with
        | .error _ => .refused
        | .ok project => (next project).verdict db) := by
  have read : ((rows (readProject around userId projectId) >>= orRaise id : Work OrchestratorProject) >>= next).verdict db =
      (match readProject around userId projectId db with
        | .error _ => .refused
        | .ok project => (next project).verdict db) := by
    change (orRaise id (readProject around userId projectId db) >>= next).verdict db = _
    cases readProject around userId projectId db <;> rfl
  unfold getProject resolveActiveWorkspace workspaceVerdict
  cases around.namedWorkspace with
  | some answer =>
    cases answer with
    | some fault => rfl
    | none => exact read
  | none =>
    by_cases member : userId ∈ db.workspaces
    · rwa [if_pos member, assoc, assoc, verdict_statement_bind, assoc, verdict_loaded_bind, if_pos member]
    · rw [if_neg member, assoc, assoc, verdict_statement_bind, assoc, verdict_loaded_bind, if_neg member, assoc,
        verdict_insert_bind, verdict_commits_bind]
      rfl

theorem verdict_refuseIf (fault : Option Fault) (next : PUnit → Work β) :
    (refuseIf fault >>= next).verdict db = if fault.isSome then .refused else (next ⟨⟩).verdict db := by
  cases fault <;> rfl

theorem verdict_persist (project : OrchestratorProject) (payload : Dict Json) :
    (persistSemanticMemoryRow around project payload).verdict db = persistVerdict around db project payload := by
  have written : ∀ after : Db, after.entries = db.entries →
      (do
        refuseIf (around.rowFault project payload)
        statement
        match ← rows fun db => around.stored db.entries project payload with
        | .blocked => refuse 422 "Memory content was blocked by privacy filters"
        | .duplicate => statement
        | .row entry =>
          insert fun db => { db with entries := db.entries ++ [entry] }
          commits
          statement : Work PUnit).verdict after =
        if (around.rowFault project payload).isSome then .refused
        else match around.stored db.entries project payload with
          | .blocked => .refused
          | .duplicate => .quiet
          | .row _ => .committed := by
    intro after same
    rw [verdict_refuseIf, verdict_statement_bind, verdict_rows_bind, same]
    cases around.stored db.entries project payload <;> rfl
  unfold persistSemanticMemoryRow persistVerdict
  rw [verdict_refuseIf]
  by_cases draft : (around.draftFault payload).isSome
  · rw [if_pos draft, if_pos draft]
  rw [if_neg draft, if_neg draft]
  unfold ensureCompanyIdForProject
  by_cases company : project.companyId = none
  · rw [if_pos company, assoc, verdict_statement_bind, assoc, verdict_loaded_bind]
    by_cases known : project.ownerId ∉ db.companies
    · rw [if_pos known, if_pos ⟨company, known⟩, assoc, verdict_insert_bind, assoc, verdict_commits_bind]
    · rw [if_neg known, if_neg fun both => known both.2, verdict_change_bind]
      exact written _ rfl
  · rw [if_neg company, if_neg fun both => company both.1, verdict_pure_bind]
    exact written _ rfl

theorem verdict_create (userId projectId : String) (payload : Dict Json) (bypass : Bool) :
    (createSemanticMemoryEntryForProject around userId projectId payload bypass).verdict db =
      createVerdict around db userId projectId payload bypass := by
  unfold createSemanticMemoryEntryForProject createVerdict
  rw [verdict_getProject]
  cases readProject around userId projectId db with
  | error fault => rfl
  | ok project =>
    dsimp only
    rw [verdict_rows_bind]
    split
    · rfl
    · rw [verdict_persist]

theorem verdict_promotion (userId : String) (project : OrchestratorProject) (memory : AgentMemoryEntry) :
    (maybePromoteAgentMemoryToSemantic around userId project memory).verdict db =
      promotionVerdict around db userId project memory := by
  unfold maybePromoteAgentMemoryToSemantic promotionVerdict
  by_cases auto : project.autoPromoteApprovedAgentMemory = true
  · rw [if_pos auto, verdict_rows_bind]
    by_cases promoted : (db.entries.any fun entry =>
        entry.projectId = some project.id ∧ entry.agentMemoryId = some memory.id) = true
    · simp_all
    · rw [if_neg promoted, if_neg (not_or.mpr ⟨not_not.mpr auto, promoted⟩)]
      cases around.promotion memory with
      | none => rfl
      | some promotion => exact verdict_create _ _ _ _
  · simp_all

theorem verdict_memory (userId : String) (approval : BoundApproval) :
    (decideAgentMemory around userId .approved approval).verdict db = memoryVerdict around db userId approval := by
  unfold decideAgentMemory memoryVerdict
  by_cases named : (approval.payloadJson.get "memory_entry_id").truthy = true
  · rw [if_pos named, if_neg (not_not.mpr named), verdict_rows_bind]
    cases (db.memories (approval.payloadJson.get "memory_entry_id").pyStr).filter fun memory =>
        decide (memory.ownerId = userId) with
    | none => rfl
    | some memory =>
      dsimp only
      rw [verdict_change_bind]
      cases given memory.projectId with
      | none => rfl
      | some projectId =>
        rw [verdict_rows_bind, Option.bind_some]
        change (match db.projects projectId with
          | none => pure ⟨⟩
          | some project => _ : Work PUnit).verdict _ = _
        cases db.projects projectId with
        | none => rfl
        | some project => exact verdict_promotion _ _ _
  · simp_all

theorem verdict_operation {userId projectId : String} {payload : Dict Json} {project : OrchestratorProject}
    (calm : workspaceVerdict around db userId = .quiet) (read : readProject around userId projectId db = .ok project) :
    (semanticOperation around userId projectId payload).verdict db = operationVerdict around db projectId payload project := by
  have entry : ∀ {β : Type} (next : SemanticMemoryEntry → Work β),
      (getSemanticMemoryEntryForProject around userId projectId (payload.get "entry_id").strOrEmpty >>= next).verdict db =
        match readEntry projectId (payload.get "entry_id").strOrEmpty project db with
        | .error _ => .refused
        | .ok entry => (next entry).verdict db := by
    intro β next
    unfold getSemanticMemoryEntryForProject
    rw [assoc, verdict_getProject, calm, read]
    dsimp only [andThen]
    rw [assoc, verdict_rows_bind]
    cases readEntry projectId (payload.get "entry_id").strOrEmpty project db <;> rfl
  unfold semanticOperation operationVerdict
  rw [verdict_getProject, calm, read]
  dsimp only [andThen]
  split
  · cases (payload.get "payload").toDict with
    | error error => rfl
    | ok written => exact verdict_persist _ _
  split
  · cases (payload.get "updates").toDict with
    | error error => rfl
    | ok updates =>
      rw [verdict_orRaise_ok, entry]
      cases readEntry projectId (payload.get "entry_id").strOrEmpty project db with
      | error fault => rfl
      | ok found =>
        dsimp only
        cases around.applied found updates <;> rfl
  split
  · rw [entry]
    cases readEntry projectId (payload.get "entry_id").strOrEmpty project db <;> rfl
  · rfl

theorem verdict_semantic (userId : String) (approval : BoundApproval) :
    (decideSemanticMemory around userId .approved approval).verdict db = semanticVerdict around db userId approval := by
  unfold decideSemanticMemory semanticVerdict
  rw [verdict_statement_bind]
  cases given approval.projectId with
  | none => rfl
  | some projectId =>
    dsimp only
    generalize (given approval.requestedByUserId).getD userId = requester
    cases calm : workspaceVerdict around db requester with
    | quiet =>
      cases read : readProject around requester projectId db with
      | ok project => exact verdict_operation calm read
      | error fault =>
        unfold semanticOperation
        rw [verdict_getProject, calm, read]
    | _ =>
      unfold semanticOperation
      rw [verdict_getProject, calm]
      rfl

theorem transition_valid {status next : String} (pair : (status, next) ∈
    [("approved", "completed"), ("completed", "synced_to_github"), ("blocked", "planned"), ("approved", "planned"),
      ("completed", "planned")]) : status ≠ next ∧ isValidTaskTransition status next = true := by
  simp only [List.mem_cons, Prod.mk.injEq, List.not_mem_nil, or_false] at pair
  rcases pair with ⟨rfl, rfl⟩ | ⟨rfl, rfl⟩ | ⟨rfl, rfl⟩ | ⟨rfl, rfl⟩ | ⟨rfl, rfl⟩ <;> decide

theorem transitionVerdict_valid (valid : task.status ≠ next ∧ isValidTaskTransition task.status next = true) :
    transitionVerdict db task next = if hasRun db task then .committed else .quiet := by
  unfold transitionVerdict
  rw [if_neg valid.1, if_neg (not_not.mpr valid.2)]

theorem verdict_commented (link : GithubIssueLink) :
    (do
      syncCommentedTask around approval
      recordSync link "post_comment" true : Work PUnit).verdict db = commentedTaskVerdict db approval := by
  unfold syncCommentedTask commentedTaskVerdict
  rw [assoc, verdict_taskOf]
  cases taskFor db approval with
  | none => rfl
  | some task =>
    dsimp only
    have synced : ∀ (after : Db) (row : OrchestratorTask), after.runs = db.runs → row.projectId = task.projectId →
        row.id = task.id → row.status = "completed" →
        ((if row.status = "completed" then discard (transitionTaskStatus around row "synced_to_github" none)
            else pure ⟨⟩ : Work PUnit) >>= fun _ => recordSync link "post_comment" true).verdict after =
          if hasRun db task then .committed else .quiet := by
      intro after row runs project id completed
      have same : hasRun after row = hasRun db task := by
        unfold hasRun Db.latestRun?
        rw [runs, project, id]
      have verdict : transitionVerdict after row "synced_to_github" = if hasRun db task then .committed else .quiet := by
        rw [← same]
        exact transitionVerdict_valid (completed ▸ transition_valid (by decide))
      rw [if_pos completed, verdict_bind, verdict_discard, verdict_transition, verdict]
      by_cases run : hasRun db task = true
      · rw [if_pos run]
      rw [if_neg run] at verdict ⊢
      have passed : transitionVerdict after row "synced_to_github" ≠ .refused := by simp [verdict]
      obtain ⟨_, _, _, outcome, _⟩ := @outcome_transition around _ _ _ passed
      rw [outcome_discard outcome]
      rfl
    unfold completeApproved
    by_cases approved : task.status = "approved"
    · have verdict : transitionVerdict db task "completed" = if hasRun db task then .committed else .quiet :=
        transitionVerdict_valid (approved ▸ transition_valid (by decide))
      rw [if_pos approved, assoc, verdict_bind, verdict_transition, verdict]
      by_cases run : hasRun db task = true
      · simp [run, approved]
      rw [if_neg run] at verdict ⊢
      have passed : transitionVerdict db task "completed" ≠ .refused := by simp [verdict]
      obtain ⟨row, tasks, runEvents, outcome, project, id, status, _⟩ := @outcome_transition around _ _ _ passed
      rw [outcome]
      refine (synced { db with tasks, runEvents } row rfl project id status).trans ?_
      simp [run]
    · rw [if_neg approved, assoc, verdict_pure_bind]
      by_cases completed : task.status = "completed"
      · rw [synced db task rfl rfl rfl completed]
        by_cases run : hasRun db task = true <;> simp [run, completed]
      · simp [approved, completed]
        rfl

theorem verdict_comment :
    (postApprovedGithubComment around approval).verdict db = commentVerdict around db approval := by
  unfold postApprovedGithubComment commentVerdict
  split
  · rfl
  split
  · rfl
  rw [verdict_statement_bind, verdict_statement_bind, verdict_rows_bind]
  cases authorizedLink (postingOwner approval) approval db with
  | error fault => rfl
  | ok link =>
    rw [verdict_orRaise_ok]
    dsimp only
    split
    · rfl
    rw [verdict_statement_bind]
    cases around.claim approval approval.payloadJson with
    | error detail => rfl
    | ok claim =>
      rw [verdict_orRaise_ok]
      cases claim with
      | replayed receipt => rfl
      | claimed =>
        rw [verdict_statement_bind, verdict_statement_bind]
        cases around.comment link approval.payloadJson with
        | none => rfl
        | some receipt =>
          by_cases closing : closesIssue approval = true
          · rw [if_pos closing, verdict_statement_bind]
            by_cases closed : around.closes link = true
            · rw [if_neg (not_not.mpr closed), if_neg fun both => both.2 closed, verdict_change_bind]
              exact verdict_commented approval link
            · rw [if_pos closed, if_pos ⟨closing, closed⟩]
              rfl
          · rw [if_neg closing, if_neg fun both => closing both.1]
            exact verdict_commented approval link

theorem verdict_pullRequest :
    (approveGithubCreatePr around approval).verdict db = pullRequestVerdict db approval := by
  unfold approveGithubCreatePr pullRequestVerdict
  rw [verdict_statement_bind]
  generalize (given approval.taskId).getD (approval.payloadJson.get "task_id").strOrEmpty = taskId
  rw [verdict_loaded_bind]
  cases db.issueLinks (approval.issueLinkId.getD "") with
  | none => rfl
  | some link =>
    dsimp only
    by_cases run : (approval.payloadJson.get "run_id").truthy = true
    · by_cases task : taskId = ""
      · simp [task]
      rw [if_neg (not_or.mpr ⟨not_not.mpr run, task⟩), verdict_statement_bind, verdict_rows_bind]
      cases db.run? (approval.payloadJson.get "run_id").pyStr <;> cases db.tasks taskId <;>
        cases db.repositories link.repositoryId <;> try simp
      rename_i run task repository
      rw [if_pos ⟨‹_›, ‹_›⟩]
      cases db.connections repository.connectionId with
      | none => rfl
      | some connection =>
        cases around.pullRequest run task <;> rfl
    · simp [run]

theorem verdict_review :
    (approveGithubPrReviewComment around approval).verdict db = reviewVerdict around db approval := by
  unfold approveGithubPrReviewComment reviewVerdict
  rw [verdict_statement_bind, verdict_rows_bind]
  cases connectedLink approval db with
  | none => rfl
  | some target =>
    obtain ⟨link, connected⟩ := target
    dsimp only
    generalize (approval.payloadJson.get "pr_number").truthy = number
    generalize Text.strip (approval.payloadJson.get "body").strOrEmpty = body
    by_cases missing : ¬ connected = true ∨ ¬ number = true ∨ body = ""
    · have incomplete : ¬ (connected = true ∧ number = true ∧ body ≠ "" ∧
          around.review link approval.payloadJson = true) := fun all =>
        missing.elim (fun apart => apart all.1) fun rest => rest.elim (fun none => none all.2.1) all.2.2.1
      simp_all
    · obtain ⟨there, numbered, written⟩ := (not_or.mp missing).imp_right not_or.mp
      rw [if_neg missing, verdict_statement_bind]
      by_cases posted : around.review link approval.payloadJson = true
      · rw [if_neg (not_not.mpr posted), if_pos ⟨not_not.mp there, not_not.mp numbered, written, posted⟩]
        rfl
      · simp_all

theorem verdict_sync :
    (approveGithubIssueSync around approval).verdict db = syncVerdict db approval := by
  unfold approveGithubIssueSync syncVerdict
  rw [verdict_statement_bind, verdict_rows_bind]
  cases connectedLink approval db with
  | none => rfl
  | some target =>
    obtain ⟨link, connected⟩ := target
    cases (approval.payloadJson.get "issue_update").toDict with
    | error error => rfl
    | ok update =>
      rw [verdict_orRaise_ok]
      dsimp only
      by_cases missing : ¬ connected = true ∨ update = []
      · rw [if_pos missing, if_neg fun both => missing.elim (fun apart => apart both.1) both.2]
        rfl
      · obtain ⟨there, given⟩ := not_or.mp missing
        rw [if_neg missing, verdict_statement_bind, if_pos (And.intro (not_not.mp there) given)]
        cases around.updates link update <;> rfl

theorem verdict_completion :
    (completeTask around approval).verdict db = completionVerdict db approval := by
  unfold completeTask completionVerdict
  rw [verdict_taskOf]
  cases taskFor db approval with
  | none => rfl
  | some task => exact (verdict_discard _).trans (verdict_transition _ _)

theorem verdict_sharing : (shareMemory approval).verdict db = sharingVerdict db approval := by
  unfold shareMemory sharingVerdict
  rw [verdict_taskOf]
  cases taskFor db approval with
  | none => rfl
  | some task =>
    dsimp only
    cases sharedMetadata task (approval.payloadJson.get "shared").strOrEmpty <;> rfl

theorem verdict_assignment : (assignTask approval).verdict db = .quiet := by
  unfold assignTask
  rw [verdict_taskOf]
  cases taskFor db approval <;> rfl

theorem verdict_grant (userId : String) (reason : Option String) (approval : BoundApproval) :
    (sideEffect around userId .approved reason approval).verdict db = grantVerdict around db userId approval := by
  unfold sideEffect grantVerdict
  simp only [true_and, reduceCtorEq, false_and, if_false, if_true]
  split
  · exact verdict_comment _
  split
  · exact verdict_pullRequest _
  split
  · exact verdict_review _
  split
  · exact verdict_sync _
  split
  · exact verdict_memory _ _
  split
  · exact verdict_semantic _ _
  split
  · rename_i assignment
    rw [if_neg (by rw [assignment]; decide), if_neg (by rw [assignment]; decide)]
    exact verdict_assignment _
  split
  · exact verdict_completion _
  split
  · exact verdict_sharing _
  split <;> rfl

end Steps

end Troop.Decisions
