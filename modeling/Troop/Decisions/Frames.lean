import Troop.Decisions.Decide

namespace Troop.Decisions

open Approvals (BoundApproval Decision Receipt isApprovalExpired)
open Projects (isValidTaskTransition)
open Transaction
open Keeps (change insert loaded rows)

def ledger (id : String) (db : Db) : Option Workflow.ApprovalStatus × List AuditLog :=
  ((db.approval? id).map fun row => row.status, db.auditLogs)

structure Aside {γ : Type} (view : Db → γ) : Prop where
  projects : ∀ db projects, view { db with projects } = view db
  tasks : ∀ db tasks, view { db with tasks } = view db
  memories : ∀ db memories, view { db with memories } = view db
  entries : ∀ db entries, view { db with entries } = view db
  issueLinks : ∀ db issueLinks, view { db with issueLinks } = view db
  workspaces : ∀ db workspaces, view { db with workspaces } = view db
  companies : ∀ db companies, view { db with companies } = view db
  suggested : ∀ db suggested, view { db with suggested } = view db
  syncEvents : ∀ db syncEvents, view { db with syncEvents } = view db
  runEvents : ∀ db runEvents, view { db with runEvents } = view db
  payload : ∀ (db : Db) id payload, view (db.putPayload id payload) = view db

theorem ledger_putPayload {id : String} (db : Db) (other : String) (payload : Dict Json) :
    ledger id (db.putPayload other payload) = ledger id db := by
  have test : (fun row : BoundApproval => decide (row.id = id)) ∘
      (fun row : BoundApproval => if row.id = other then { row with payloadJson := payload } else row) =
        fun row => decide (row.id = id) := by
    funext row
    by_cases same : row.id = other <;> simp [same]
  have shown : (fun row : BoundApproval => row.status) ∘
      (fun row : BoundApproval => if row.id = other then { row with payloadJson := payload } else row) =
        fun row => row.status := by
    funext row
    by_cases same : row.id = other <;> simp [same]
  simp only [ledger, Db.approval?, Db.putPayload, List.find?_map, Option.map_map, test, shown]

theorem ledger_aside (id : String) : Aside (ledger id) where
  projects _ _ := rfl
  tasks _ _ := rfl
  memories _ _ := rfl
  entries _ _ := rfl
  issueLinks _ _ := rfl
  workspaces _ _ := rfl
  companies _ _ := rfl
  suggested _ _ := rfl
  syncEvents _ _ := rfl
  runEvents _ _ := rfl
  payload db other payload := ledger_putPayload db other payload

theorem runs_aside : Aside Db.runs where
  projects _ _ := rfl
  tasks _ _ := rfl
  memories _ _ := rfl
  entries _ _ := rfl
  issueLinks _ _ := rfl
  workspaces _ _ := rfl
  companies _ _ := rfl
  suggested _ _ := rfl
  syncEvents _ _ := rfl
  runEvents _ _ := rfl
  payload _ _ _ := rfl

section Aside

variable {around : Surroundings} {γ : Type} {view : Db → γ}

theorem orRaise_keeps {ε α : Type} (fault : ε → Fault) (answer : Except ε α) :
    (orRaise fault answer).Keeps view := by
  cases answer <;> trivial

theorem refuseIf_keeps (fault : Option Fault) : (refuseIf fault).Keeps view := by
  cases fault <;> trivial

theorem discard_keeps {α : Type} {work : Work α} (keeps : work.Keeps view) :
    (discard work : Work PUnit).Keeps view :=
  keeps.bind fun _ => trivial

theorem reportedRun_keeps (task : OrchestratorTask) (run : Option TaskRun) :
    (reportedRun task run).Keeps view := by
  cases run
  · exact rows _
  · trivial

theorem taskOf_keeps (approval : BoundApproval) : (taskOf approval).Keeps view := by
  unfold taskOf
  cases given approval.taskId with
  | none => trivial
  | some taskId => exact rows _

theorem runOf_keeps (approval : BoundApproval) : (runOf approval).Keeps view := by
  unfold runOf
  cases given approval.runId with
  | none => trivial
  | some runId => exact rows _

variable (aside : Aside view)
include aside

theorem transitionTaskStatus_keeps (task : OrchestratorTask) (next : String) (run : Option TaskRun) :
    (transitionTaskStatus around task next run).Keeps view := by
  apply Keeps.ite
  · trivial
  apply Keeps.ite
  · trivial
  refine Keeps.bind (change fun db => aside.tasks db _) fun _ =>
    Keeps.bind (reportedRun_keeps _ _) fun target => ?_
  cases target with
  | none => trivial
  | some run => exact Keeps.bind (insert fun db => aside.runEvents db _) fun _ => trivial

theorem emitRunEvent_keeps (run : TaskRun) (eventType : String) : (emitRunEvent run eventType).Keeps view :=
  Keeps.bind (insert fun db => aside.runEvents db _) fun _ => trivial

variable (userId projectId : String)

theorem getProject_keeps : (getProject around userId projectId).Keeps view := by
  have workspace : (resolveActiveWorkspace around userId).Keeps view := by
    unfold resolveActiveWorkspace
    cases around.namedWorkspace with
    | some answer => exact Keeps.bind trivial fun _ => refuseIf_keeps answer
    | none =>
      refine Keeps.bind trivial fun _ => Keeps.bind (loaded _) fun _ => Keeps.ite trivial ?_
      exact Keeps.bind (insert fun db => aside.workspaces db _) fun _ => trivial
  exact workspace.bind fun _ => Keeps.bind (rows _) fun _ => orRaise_keeps _ _

theorem ensureCompanyIdForProject_keeps (project : OrchestratorProject) :
    (ensureCompanyIdForProject project).Keeps view := by
  refine Keeps.ite (Keeps.bind trivial fun _ => Keeps.bind (loaded _) fun _ => ?_) trivial
  refine Keeps.ite ?_ (change fun db => aside.projects db _)
  exact Keeps.bind (insert fun db => aside.companies db _) fun _ =>
    Keeps.bind trivial fun _ => change fun db => aside.projects db _

theorem persistSemanticMemoryRow_keeps (project : OrchestratorProject) (payload : Dict Json) :
    (persistSemanticMemoryRow around project payload).Keeps view := by
  refine Keeps.bind (refuseIf_keeps _) fun _ => Keeps.bind (ensureCompanyIdForProject_keeps aside project) fun _ =>
    Keeps.bind (refuseIf_keeps _) fun _ => Keeps.bind trivial fun _ => Keeps.bind (rows _) fun stored => ?_
  cases stored with
  | row entry => exact Keeps.bind (insert fun db => aside.entries db _) fun _ => trivial
  | _ => trivial

theorem createSemanticMemoryEntryForProject_keeps (payload : Dict Json) (bypass : Bool) :
    (createSemanticMemoryEntryForProject around userId projectId payload bypass).Keeps view := by
  refine Keeps.bind (getProject_keeps aside _ _) fun project =>
    Keeps.bind (rows _) fun conflict => Keeps.ite ?_ ?_
  · exact Keeps.bind (insert fun db => aside.suggested db _) fun _ => trivial
  · exact persistSemanticMemoryRow_keeps aside _ _

theorem maybePromote_keeps (userId : String) (project : OrchestratorProject) (memory : AgentMemoryEntry) :
    (maybePromoteAgentMemoryToSemantic around userId project memory).Keeps view := by
  refine Keeps.ite (Keeps.bind (rows _) fun promoted => Keeps.ite trivial ?_) trivial
  cases around.promotion memory with
  | none => trivial
  | some promotion => exact createSemanticMemoryEntryForProject_keeps aside _ _ _ _

theorem decideAgentMemory_keeps (userId : String) (decision : Decision) (approval : BoundApproval) :
    (decideAgentMemory around userId decision approval).Keeps view := by
  refine Keeps.ite (Keeps.bind (rows _) fun found => ?_) trivial
  cases found with
  | none => trivial
  | some memory =>
    cases decision with
    | rejected => exact change fun db => aside.memories db _
    | approved =>
      refine Keeps.bind (change fun db => aside.memories db _) fun _ => ?_
      cases given memory.projectId with
      | none => trivial
      | some projectId =>
        refine Keeps.bind (rows _) fun project => ?_
        cases project with
        | none => trivial
        | some project => exact maybePromote_keeps aside _ _ _

theorem getSemanticMemoryEntryForProject_keeps (userId projectId entryId : String) :
    (getSemanticMemoryEntryForProject around userId projectId entryId).Keeps view :=
  Keeps.bind (getProject_keeps aside _ _) fun _ => Keeps.bind (rows _) fun _ => orRaise_keeps _ _

theorem semanticOperation_keeps (payload : Dict Json) :
    (semanticOperation around userId projectId payload).Keeps view := by
  refine Keeps.bind (getProject_keeps aside _ _) fun project => ?_
  apply Keeps.ite
  · exact Keeps.bind (orRaise_keeps _ _) fun _ => persistSemanticMemoryRow_keeps aside _ _
  apply Keeps.ite
  · exact Keeps.bind (orRaise_keeps _ _) fun _ =>
      Keeps.bind (getSemanticMemoryEntryForProject_keeps aside _ _ _) fun _ =>
      Keeps.bind (orRaise_keeps _ _) fun _ => Keeps.bind (change fun db => aside.entries db _) fun _ => trivial
  apply Keeps.ite
  · exact Keeps.bind (getSemanticMemoryEntryForProject_keeps aside _ _ _) fun _ =>
      Keeps.bind (insert fun db => aside.entries db _) fun _ => trivial
  · trivial

theorem decideSemanticMemory_keeps (userId : String) (decision : Decision) (approval : BoundApproval) :
    (decideSemanticMemory around userId decision approval).Keeps view := by
  refine Keeps.bind trivial fun _ => ?_
  cases given approval.projectId with
  | none => trivial
  | some projectId =>
    cases decision with
    | approved => exact semanticOperation_keeps aside _ _ _
    | rejected => trivial

theorem assignTask_keeps (approval : BoundApproval) : (assignTask approval).Keeps view := by
  refine Keeps.bind (taskOf_keeps _) fun found => ?_
  cases found with
  | none => trivial
  | some task => exact change fun db => aside.tasks db _

theorem completeTask_keeps (approval : BoundApproval) : (completeTask around approval).Keeps view := by
  refine Keeps.bind (taskOf_keeps _) fun found => ?_
  cases found with
  | none => trivial
  | some task => exact discard_keeps (transitionTaskStatus_keeps aside _ _ _)

theorem shareMemory_keeps (approval : BoundApproval) : (shareMemory approval).Keeps view := by
  refine Keeps.bind (taskOf_keeps _) fun found => ?_
  cases found with
  | none => trivial
  | some task => exact Keeps.bind (orRaise_keeps _ _) fun _ => change fun db => aside.tasks db _

theorem recordSync_keeps (link : GithubIssueLink) (action : String) (completed : Bool) :
    (recordSync link action completed).Keeps view := insert fun db => aside.syncEvents db _

theorem syncCommentedTask_keeps (approval : BoundApproval) :
    (syncCommentedTask around approval).Keeps view := by
  refine Keeps.bind (taskOf_keeps _) fun found => ?_
  cases found with
  | none => trivial
  | some task =>
    have completed : (completeApproved around task).Keeps view :=
      Keeps.ite (transitionTaskStatus_keeps aside _ _ _) trivial
    refine Keeps.bind completed fun task => ?_
    exact Keeps.ite (discard_keeps (transitionTaskStatus_keeps aside _ _ _)) trivial

theorem postApprovedGithubComment_keeps (approval : BoundApproval) :
    (postApprovedGithubComment around approval).Keeps view := by
  apply Keeps.ite
  · trivial
  apply Keeps.ite
  · trivial
  refine Keeps.bind trivial fun _ => Keeps.bind trivial fun _ => Keeps.bind (rows _) fun _ =>
    Keeps.bind (orRaise_keeps _ _) fun link => Keeps.ite trivial (Keeps.bind trivial fun _ => ?_)
  refine Keeps.bind (orRaise_keeps _ _) fun claim => ?_
  cases claim with
  | replayed receipt => exact change fun db => aside.payload db _ _
  | claimed =>
    refine Keeps.bind trivial fun _ => Keeps.bind trivial fun _ => ?_
    cases around.comment link approval.payloadJson with
    | none => trivial
    | some receipt =>
      have posted : (do
          syncCommentedTask around approval
          recordSync link "post_comment" true : Work PUnit).Keeps view :=
        Keeps.bind (syncCommentedTask_keeps aside _) fun _ => recordSync_keeps aside _ _ _
      refine Keeps.bind trivial fun _ => Keeps.bind (change fun db => aside.payload db _ _) fun _ => ?_
      refine Keeps.ite (Keeps.bind trivial fun _ => Keeps.ite ?_ ?_) posted
      · exact Keeps.bind trivial fun _ => posted
      · exact Keeps.bind (change fun db => aside.issueLinks db _) fun _ => posted

theorem approveGithubCreatePr_keeps (approval : BoundApproval) :
    (approveGithubCreatePr around approval).Keeps view := by
  refine Keeps.bind trivial fun _ => Keeps.bind (loaded _) fun found => ?_
  cases found with
  | none => trivial
  | some link =>
    refine Keeps.ite trivial (Keeps.bind trivial fun _ => Keeps.bind (rows _) fun target => ?_)
    obtain ⟨run, task, repository⟩ := target
    cases run <;> cases task <;> cases repository <;> try trivial
    refine Keeps.bind (rows _) fun connection => ?_
    cases connection with
    | none => trivial
    | some connection =>
      refine Keeps.bind trivial fun _ => ?_
      split
      · exact recordSync_keeps aside _ _ _
      · exact Keeps.bind (change fun db => aside.tasks db _) fun _ =>
          Keeps.bind trivial fun _ => recordSync_keeps aside _ _ _

theorem approveGithubPrReviewComment_keeps (approval : BoundApproval) :
    (approveGithubPrReviewComment around approval).Keeps view := by
  refine Keeps.bind trivial fun _ => Keeps.bind (rows _) fun found => ?_
  cases found with
  | none => trivial
  | some target =>
    refine Keeps.ite trivial (Keeps.bind trivial fun _ => Keeps.ite trivial ?_)
    exact recordSync_keeps aside _ _ _

theorem approveGithubIssueSync_keeps (approval : BoundApproval) :
    (approveGithubIssueSync around approval).Keeps view := by
  refine Keeps.bind trivial fun _ => Keeps.bind (rows _) fun found => ?_
  cases found with
  | none => trivial
  | some target =>
    refine Keeps.bind (orRaise_keeps _ _) fun update => Keeps.ite trivial (Keeps.bind trivial fun _ => Keeps.ite ?_ ?_)
    · exact Keeps.bind (change fun db => aside.issueLinks db _) fun _ => recordSync_keeps aside _ _ _
    · exact recordSync_keeps aside _ _ _

theorem unblockTask_keeps (run : TaskRun) : (unblockTask around run).Keeps view := by
  unfold unblockTask
  cases given run.taskId with
  | none => trivial
  | some taskId =>
    refine Keeps.bind (rows _) fun found => ?_
    cases found with
    | none => trivial
    | some task => exact Keeps.ite (discard_keeps (transitionTaskStatus_keeps aside _ _ _)) trivial

theorem sideEffect_keeps (userId : String) (decision : Decision) (reason : Option String) (approval : BoundApproval)
    (replanned : (replan around reason approval).Keeps view ∨ decision = .approved) :
    (sideEffect around userId decision reason approval).Keeps view := by
  refine Keeps.ite (postApprovedGithubComment_keeps aside _) (Keeps.ite (approveGithubCreatePr_keeps aside _)
    (Keeps.ite (approveGithubPrReviewComment_keeps aside _) (Keeps.ite (approveGithubIssueSync_keeps aside _)
    (Keeps.ite (decideAgentMemory_keeps aside _ _ _) (Keeps.ite (decideSemanticMemory_keeps aside _ _ _) ?_)))))
  refine Keeps.ite (Keeps.ite (assignTask_keeps aside _) trivial)
    (Keeps.ite (Keeps.ite (completeTask_keeps aside _) trivial) ?_)
  refine Keeps.ite (Keeps.ite (shareMemory_keeps aside _) trivial) (Keeps.ite trivial ?_)
  split
  · simp_all
  · trivial

section Runs

variable (settled : ∀ (db : Db) row, view (db.putRun row) = view db)
include settled

theorem failRejectedRun_keeps (reason : Option String) (approval : BoundApproval) :
    (failRejectedRun reason approval).Keeps view := by
  refine Keeps.bind (runOf_keeps _) fun found => ?_
  cases found with
  | none => trivial
  | some run =>
    refine Keeps.ite (Keeps.bind (change fun db => settled db _) fun _ => ?_) trivial
    exact Keeps.bind (emitRunEvent_keeps aside _ _) fun _ => trivial

theorem replan_keeps (reason : Option String) (approval : BoundApproval) :
    (replan around reason approval).Keeps view := by
  refine Keeps.bind (taskOf_keeps _) fun found => ?_
  cases found with
  | none => exact discard_keeps (failRejectedRun_keeps aside settled _ _)
  | some task =>
    have reopened : (reopenDone around task).Keeps view := Keeps.ite (transitionTaskStatus_keeps aside _ _ _) trivial
    refine Keeps.bind reopened fun task => Keeps.bind (failRejectedRun_keeps aside settled _ _) fun failed => ?_
    cases failed with
    | none => trivial
    | some run => exact discard_keeps (transitionTaskStatus_keeps aside _ _ _)

theorem returnRejected_keeps (decision : Decision) (reason : Option String) (approval : BoundApproval) :
    (returnRejected around decision reason approval).Keeps view := by
  have returned : (returnTask around approval).Keeps view := by
    refine Keeps.bind (taskOf_keeps _) fun found => ?_
    cases found with
    | none => trivial
    | some task => exact Keeps.ite (discard_keeps (transitionTaskStatus_keeps aside _ _ _)) trivial
  exact Keeps.ite (Keeps.bind returned fun _ => discard_keeps (failRejectedRun_keeps aside settled _ _)) trivial

theorem resumeApproved_keeps (decision : Decision) (approval : BoundApproval) :
    (resumeApproved around decision approval).Keeps view := by
  refine Keeps.ite (Keeps.bind (runOf_keeps _) fun found => ?_) trivial
  cases found with
  | none => trivial
  | some run =>
    refine Keeps.ite (Keeps.bind (change fun db => settled db _) fun _ => ?_) trivial
    exact Keeps.bind (unblockTask_keeps aside _) fun _ => Keeps.bind (emitRunEvent_keeps aside _ _) fun _ => trivial

theorem consequences_keeps (userId : String) (decision : Decision) (reason : Option String) (approval : BoundApproval) :
    (consequences around userId decision reason approval).Keeps view :=
  Keeps.bind (sideEffect_keeps aside _ _ _ _ (.inl (replan_keeps aside settled _ _))) fun _ =>
    Keeps.bind (returnRejected_keeps aside settled _ _ _) fun _ => resumeApproved_keeps aside settled _ _

end Runs

end Aside

end Troop.Decisions
