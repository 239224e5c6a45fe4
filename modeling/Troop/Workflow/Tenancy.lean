import Troop.Workflow.Refinement

namespace Troop.Workflow

open Prog (exec_bind_ok exec_get)

variable {env : Env} {terms : Terms}

def Authorised (db : Db) (owner : String) (row : WorkflowRun) : Prop :=
  row.createdBy = some owner ∨
    ∃ definition, db.definitions.get? row.workflowId = some definition ∧ definition.ownerId = owner

def OfTemplate (db : Db) (row : WorkflowRun) : Prop :=
  ∃ definition, db.definitions.get? row.workflowId = some definition ∧ definition.isTemplate = true

/-- A call of `resume_run` or of `apply_approval_rejection` by this user for this run. -/
inductive CallFor (owner runId : String) : Label → Prop
  | resume (given : Resumption) : CallFor owner runId (.resume owner runId given)
  | reject (approvalId : String) : CallFor owner runId (.reject owner runId approvalId)

def Label.by (owner : String) : Label → Label
  | .resume _ runId given => .resume owner runId given
  | .reject _ runId approvalId => .reject owner runId approvalId
  | label => label

theorem getRun_exec {w : World} {id : String} {row : WorkflowRun} (found : w.db.runs.get? id = some row) :
    (getRun id).exec w = (.ok row, w) := by
  unfold getRun
  rw [exec_bind_ok (exec_get w)]
  simp only [found, Prog.exec_pure]

theorem getDefinition_exec (w : World) (owner workflowId : String) :
    (getDefinition owner workflowId).exec w =
      match w.db.definitions.get? workflowId with
      | some definition =>
        if definition.ownerId = owner ∨ definition.isTemplate then (.ok definition, w)
        else (.error (.valueError "workflow not found"), w)
      | none => (.error (.valueError "workflow not found"), w) := by
  unfold getDefinition
  rw [exec_bind_ok (exec_get w)]
  cases w.db.definitions.get? workflowId with
  | none => rfl
  | some definition =>
    dsimp only
    split <;> rfl

theorem getDefinition_denied {w : World} {owner : String} {row : WorkflowRun} (stranger : ¬ Authorised w.db owner row)
    (hidden : ¬ OfTemplate w.db row) :
    (getDefinition owner row.workflowId).exec w = (.error (.valueError "workflow not found"), w) := by
  rw [getDefinition_exec]
  cases found : w.db.definitions.get? row.workflowId with
  | none => rfl
  | some definition =>
    have other : definition.ownerId ≠ owner := fun same => stranger (.inr ⟨definition, found, same⟩)
    have unread : definition.isTemplate = false := by
      by_contra template
      exact hidden ⟨definition, found, by simpa using template⟩
    simp [other, unread]

theorem called_error {α : Type} {program : Session α} {w : World} {error : PyError}
    (failed : program.exec w = (.error error, w)) (same : w.committed = w.db) : called program w = w := by
  unfold called
  rw [failed]
  cases w
  cases same
  rfl

theorem resumeRun_denied {w : World} {owner runId : String} {row : WorkflowRun}
    (found : w.db.runs.get? runId = some row) (stranger : ¬ Authorised w.db owner row) (hidden : ¬ OfTemplate w.db row)
    (given : Resumption) :
    (resumeRun env (service env) owner runId given).exec w = (.error (.valueError "workflow not found"), w) := by
  unfold resumeRun
  rw [exec_bind_ok (getRun_exec found)]
  exact Prog.exec_bind_error (getDefinition_denied stranger hidden)

theorem applyApprovalRejection_denied {w : World} {owner runId : String} {row : WorkflowRun}
    (found : w.db.runs.get? runId = some row) (stranger : ¬ Authorised w.db owner row) (hidden : ¬ OfTemplate w.db row)
    (approvalId : String) :
    (applyApprovalRejection env (service env) owner runId approvalId).exec w =
      (.error (.valueError "workflow not found"), w) := by
  unfold applyApprovalRejection
  rw [exec_bind_ok (getRun_exec found)]
  exact Prog.exec_bind_error (getDefinition_denied stranger hidden)

section Template

variable {w : World} {runId : String} {row : WorkflowRun} {definition : WorkflowDefinition}

theorem getDefinition_template (found : w.db.definitions.get? row.workflowId = some definition)
    (template : definition.isTemplate = true) (owner : String) :
    (getDefinition owner row.workflowId).exec w = (.ok definition, w) := by
  rw [getDefinition_exec, found]
  simp [template]

theorem checkAccess_template (template : definition.isTemplate = true) (owner : String) :
    checkAccess owner definition = pure ⟨⟩ := by
  simp [checkAccess, template]

theorem resumeRun_template (there : w.db.runs.get? runId = some row)
    (found : w.db.definitions.get? row.workflowId = some definition) (template : definition.isTemplate = true)
    (owner other : String) (given : Resumption) :
    (resumeRun env (service env) owner runId given).exec w = (resumeRun env (service env) other runId given).exec w := by
  unfold resumeRun
  rw [exec_bind_ok (getRun_exec there), exec_bind_ok (getRun_exec there)]
  rw [exec_bind_ok (getDefinition_template found template owner),
    exec_bind_ok (getDefinition_template found template other)]
  rw [checkAccess_template template owner, checkAccess_template template other]

theorem applyApprovalRejection_template (there : w.db.runs.get? runId = some row)
    (found : w.db.definitions.get? row.workflowId = some definition) (template : definition.isTemplate = true)
    (owner other : String) (approvalId : String) :
    (applyApprovalRejection env (service env) owner runId approvalId).exec w =
      (applyApprovalRejection env (service env) other runId approvalId).exec w := by
  unfold applyApprovalRejection
  rw [exec_bind_ok (getRun_exec there), exec_bind_ok (getRun_exec there)]
  rw [exec_bind_ok (getDefinition_template found template owner),
    exec_bind_ok (getDefinition_template found template other)]
  rw [checkAccess_template template owner, checkAccess_template template other]

end Template

/-- A call by a stranger changes nothing at all when the definition of the run is no template; when it
    is one, the call does what the same call by the owner of the definition does. -/
theorem strangers_are_turned_away {w : World} (run : Run env terms w) {owner runId : String} {row : WorkflowRun}
    (found : w.db.runs.get? runId = some row) (stranger : ¬ Authorised w.db owner row) {label : Label}
    (call : CallFor owner runId label) :
    (¬ OfTemplate w.db row → label.next env w = w) ∧
      (OfTemplate w.db row →
        ∃ entitled, Authorised w.db entitled row ∧ label.next env w = (label.by entitled).next env w) := by
  have same : w.committed = w.db := run.reachable.2
  constructor
  · intro hidden
    cases call with
    | resume given => exact called_error (resumeRun_denied found stranger hidden given) same
    | reject approvalId => exact called_error (applyApprovalRejection_denied found stranger hidden approvalId) same
  · rintro ⟨definition, defined, template⟩
    refine ⟨definition.ownerId, .inr ⟨definition, defined, rfl⟩, ?_⟩
    cases call with
    | resume given =>
      show called _ w = called _ w
      unfold called
      rw [resumeRun_template found defined template owner definition.ownerId given]
    | reject approvalId =>
      show called _ w = called _ w
      unfold called
      rw [applyApprovalRejection_template found defined template owner definition.ownerId approvalId]

def questionnaire : WorkflowVersion := published "questionnaire" [plainNode "ask" "human_input" []] [] "ask"

def askedWorld (template : Bool) : World :=
  World.after stillEnv
    [.changed (.definition { publishedDefinition questionnaire with isTemplate := template }),
      .changed (.version questionnaire), .start (startOf "questionnaire" []) "dev"] {}

variable (template : Bool)

theorem askedWorld_run : Run stillEnv .any (askedWorld template) := by
  apply Run.init.after
  refine ⟨trivial, trivial, ?_, trivial, trivial, trivial, trivial⟩
  intro old found
  cases found

def askedRow (template : Bool) : WorkflowRun := ((askedWorld template).db.runs.get? "r").getD default

theorem askedRow_found : (askedWorld template).db.runs.get? "r" = some (askedRow template) := by
  cases template <;> decide +kernel

theorem askedRow_defined :
    (askedWorld template).db.definitions.get? (askedRow template).workflowId =
      some { publishedDefinition questionnaire with isTemplate := template } := by
  cases template <;> decide +kernel

theorem mallory_is_a_stranger :
    ¬ Authorised (askedWorld template).db "mallory" (askedRow template) := by
  have creator : (askedRow template).createdBy ≠ some "mallory" := by
    cases template <;> decide +kernel
  rintro (same | ⟨definition, found, same⟩)
  · exact creator same
  · have defined := askedRow_defined template
    cases defined.symm.trans found
    have other : "owner" ≠ "mallory" := by decide
    exact other same

def answer : Label := .resume "mallory" "r" ⟨none, .obj [("answer", .str "yes")], some "mallory", false⟩

theorem stranger_cannot_answer : answer.next stillEnv (askedWorld false) = askedWorld false := by
  have stranger := mallory_is_a_stranger false
  apply (strangers_are_turned_away (askedWorld_run false) (askedRow_found false) stranger (.resume _)).1
  rintro ⟨definition, found, template⟩
  cases (askedRow_defined false).symm.trans found
  cases template

theorem reader_of_template_answers :
    Run stillEnv .any (askedWorld true) ∧ ¬ Authorised (askedWorld true).db "mallory" (askedRow true) ∧
      (askedRow true).status = .waitingInput ∧
      (((answer.next stillEnv (askedWorld true)).db.runs.get? "r").map WorkflowRun.status) = some .completed := by
  refine ⟨askedWorld_run true, mallory_is_a_stranger true, ?_, ?_⟩ <;> decide +kernel

end Troop.Workflow
