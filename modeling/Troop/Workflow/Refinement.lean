import Troop.Workflow.Following

namespace Troop.Workflow

variable {env : Env} {terms : Terms}

variable {origin : Machine} {w : World} {α : Type}

variable (committed : Bool)

theorem ends_follows (standing : Standing env terms origin [] w) :
    Standing env terms origin [] (Session.ends committed w) := by
  cases committed with
  | true => exact standing.tail (.commit w [])
  | false => exact standing.tail (.rollback w)

theorem ends_committed (w : World) :
    (Session.ends committed w).committed = (Session.ends committed w).db := by
  cases committed <;> rfl

theorem called_follows {program : Session α}
    (follows : Triple (Standing env terms origin []) program (fun _ => Standing env terms origin [])
      (Standing env terms origin [])) (standing : Standing env terms origin [] w) :
    Standing env terms origin [] (called program w) := by
  have ran := follows.run w standing
  unfold called
  cases outcome : program.exec w with
  | mk result after =>
    rw [outcome] at ran
    cases result with
    | ok value => exact ends_follows true ran
    | error error => exact ends_follows false ran

theorem called_committed (program : Session α) (w : World) :
    (called program w).committed = (called program w).db := by
  unfold called
  split <;> exact ends_committed _ _

theorem delivered_follows {program : Session PUnit}
    (follows : Triple (Standing env terms origin []) program (fun _ => Standing env terms origin [])
      (Standing env terms origin [])) (standing : Standing env terms origin [] w) :
    Standing env terms origin [] (delivered program committed w) := by
  have ran := follows.run w standing
  refine ends_follows committed ?_
  cases outcome : (program.exec w).1 with
  | _ => simpa [outcome] using ran

theorem Label.next_follows {label : Label} (sound : Sound env origin) (standing : Standing env terms origin [] w)
    (same : w.committed = w.db) (possible : label.enabled w) (fits : label.fits terms) :
    Standing env terms origin [] (label.next env w) ∧ (label.next env w).committed = (label.next env w).db := by
  cases label with
  | resume owner runId given =>
    exact ⟨called_follows (resumeRun_follows service_follows sound [] owner runId given) standing, called_committed _ _⟩
  | reject owner runId approvalId =>
    exact ⟨called_follows (applyApprovalRejection_follows service_follows sound [] owner runId approvalId) standing,
      called_committed _ _⟩
  | approvalDecided approvalId committed =>
    exact ⟨delivered_follows committed (onApprovalDecided_follows sound approvalId) standing, ends_committed _ _⟩
  | taskRunTerminal taskRunId status committed =>
    exact ⟨delivered_follows committed (onTaskRunTerminal_follows sound taskRunId status) standing, ends_committed _ _⟩
  | delayElapsed runId nodeId owner expected =>
    exact ⟨called_follows (resumeWorkflowAfterDelay_follows sound runId nodeId owner expected) standing,
      called_committed _ _⟩
  | changed change =>
    refine ⟨standing.tail (.changed w change possible fits same), ?_⟩
    simp only [Label.next, same]
  | tick now => exact ⟨standing.tail (.tick w _), same⟩
  | _ => exact ⟨called_follows (startRun_follows sound fits rfl) standing, called_committed _ _⟩

theorem Run.reachable (run : Run env terms w) : Reachable env terms (w, []) ∧ w.committed = w.db := by
  induction run with
  | init => exact ⟨Relation.ReflTransGen.refl, rfl⟩
  | step earlier possible fits ih => exact Label.next_follows Sound.initial ih.1 ih.2 possible fits

end Troop.Workflow
