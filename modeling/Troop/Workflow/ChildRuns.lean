import Troop.Workflow.Executors

namespace Troop.Workflow

theorem getDefinition_reads (owner workflowId : String) : ReadOnly (getDefinition owner workflowId) := by
  refine .bind .get fun w => ?_
  split
  · exact .ite .pure .throw
  · exact .throw

theorem getVersion_reads (versionId : Option String) : ReadOnly (getVersion versionId) :=
  .bind .get fun _ => .pure

theorem resolveVersionForEnvironment_reads (definition : WorkflowDefinition) (environment : String) :
    ReadOnly (resolveVersionForEnvironment definition environment) := by
  refine .bind .ofExcept fun e => .bind .get fun w => ?_
  split
  · refine .bind (getVersion_reads _) fun found => ?_
    cases found with
    | none => exact .throw
    | some version => exact .ite .pure .throw
  · refine .ite (.bind (getVersion_reads _) fun found => ?_) .throw
    cases found with
    | none => exact .throw
    | some version => exact .pure

theorem resolveStartVersion_reads (definition : WorkflowDefinition) (new : NewRun) :
    ReadOnly (resolveStartVersion definition new) := by
  refine .ite (.bind (getVersion_reads _) fun found => ?_) (.ite (.bind (getVersion_reads _) fun found => ?_) ?_)
  · cases found with
    | none => exact .throw
    | some version => exact .ite .pure .throw
  · cases found with
    | none => exact .throw
    | some version => exact .pure
  · exact .bind (resolveVersionForEnvironment_reads _ _) fun _ => .bind .ofExcept fun _ => .pure

theorem getRun_reads (id : String) : ReadOnly (getRun id) := by
  refine .bind .get fun w => ?_
  split
  · exact .pure
  · exact .throw

theorem createRunRecord_exec (env : Env) (new : NewRun) (w : World) :
    (∃ error, (createRunRecord env new).exec w = (.error error, w)) ∨
    ∃ definition version, Resolved new w definition version ∧
      (createRunRecord env new).exec w =
        (.ok (startedRow (env.uuid4 w.drawn) new definition version, version), w.create env new definition version) := by
  unfold createRunRecord
  have defined := (getDefinition_reads new.owner new.workflowId).exec w
  cases found : ((getDefinition new.owner new.workflowId).exec w).1 with
  | error error =>
    rw [found] at defined
    exact .inl ⟨error, Prog.exec_bind_error defined⟩
  | ok definition =>
    rw [found] at defined
    rw [Prog.exec_bind_ok defined]
    have resolved := (resolveStartVersion_reads definition new).exec w
    cases settled : ((resolveStartVersion definition new).exec w).1 with
    | error error =>
      rw [settled] at resolved
      exact .inl ⟨error, Prog.exec_bind_error resolved⟩
    | ok version =>
      rw [settled] at resolved
      rw [Prog.exec_bind_ok resolved]
      by_cases valid : validateGraph version.nodesJson version.edgesJson version.entryNodeId = []
      · refine .inr ⟨definition, version, ⟨defined, resolved, valid⟩, ?_⟩
        simp only [valid, ne_eq, not_true_eq_false, if_false]
        rfl
      · simp_all

variable {env : Env} {terms : Terms} {fact : World → Visit → Prop}

/-- The machine follows the nested calls: an `_advance` takes its activation off the stack, and a
    hook leaves the stack as it is. -/
structure Follows (env : Env) (terms : Terms) (calls : Calls) (budget : Nat) : Prop where
  advance : ∀ origin, Sound env origin → ∀ stack runId version arrival,
    Triple (fun w => ∃ row, w.db.runs.get? runId = some row ∧
        Steps env terms origin (w, .start row version arrival budget :: stack))
      (calls.advance runId version arrival) (fun _ w => Steps env terms origin (w, stack))
      (fun w => Steps env terms origin (w, stack))
  hook : ∀ origin, Sound env origin → ∀ stack runId status,
    Triple (fun w => Steps env terms origin (w, stack)) (calls.onWorkflowRunCompleted runId status)
      (fun _ w => Steps env terms origin (w, stack)) (fun w => Steps env terms origin (w, stack))

open Spot

variable {spot : Spot env terms} {nodeId : String} {calls : Calls} {track : Track} {budget : Nat} {childNode : Json}

theorem recordChildRun_does (stable : Stable fact) (track : Track) (id : String) (status : RunStatus) :
    spot.Does fact (recordChildRun env spot.frame.run track id status) (fun _ => fact) :=
  upsertChildExecution_does stable _

theorem getRun_does (id : String) :
    spot.Does fact (getRun id) (fun _ => fact) := by
  refine Does.read fun w => ?_
  split
  · exact Does.pure fun _ _ given => given
  · exact Does.throw

theorem childRunOutput_named (id : String) (status : RunStatus) :
    (childRunOutput id status).get "child_run_id" = .str id := by
  simp [childRunOutput, Dict.get, Dict.get?_cons]

theorem startedChild_does (stable : Stable fact)
    (follows : Follows env terms calls budget) (nested : spot.budget = budget + 1)
    {memo memo' base : Dict Json} {new : NewRun} {definition : WorkflowDefinition} {version : WorkflowVersion}
    {w : World} {visit : Visit} (tracked : track.nodeId = spot.cursor)
    (read : (spot.frame.vars.get "_subworkflow_runs").toDict = .ok memo)
    (kept : MemoBase "_subworkflow_runs" nodeId spot.frame.vars memo memo' base) (given : fact w visit)
    (steps : Steps env terms spot.origin
      ((w.create env new definition version).record
          (.childStarted spot.frame.run.id spot.cursor nodeId (env.uuid4 w.drawn)),
        .start (startedRow (env.uuid4 w.drawn) new definition version) version .start budget ::
          ⟨spot.frame, budget + 1, some { visit with
            own := .childStarted spot.frame.run.id spot.cursor nodeId (env.uuid4 w.drawn) :: visit.own }⟩ ::
          spot.stack)) :
    Triple (fun after => after = w.create env new definition version)
      (do
        emit (.childStarted spot.frame.run.id track.nodeId nodeId (env.uuid4 w.drawn))
        calls.advance (env.uuid4 w.drawn) version .start
        let child ← getRun (env.uuid4 w.drawn)
        recordChildRun env spot.frame.run track (env.uuid4 w.drawn) child.status
        return childRunOutcome (env.uuid4 w.drawn) child.status
          (base.set "_subworkflow_runs" (.obj (memo'.set nodeId (.str (env.uuid4 w.drawn))))))
      (fun outcome => spot.visiting fun w visit => fact w visit ∧
        SubworkflowEffect spot.runId nodeId track spot.frame.vars visit.own outcome)
      (spot.visiting fun _ _ => True) := by
  let event := Event.childStarted spot.frame.run.id spot.cursor nodeId (env.uuid4 w.drawn)
  let kept' : Visit := { visit with own := event :: visit.own }
  have started : Stable fun w visit => fact w visit ∧ event ∈ visit.own := stable.and (.owned event)
  rw [tracked]
  refine Triple.bind (R := fun _ after => ∃ row, after.db.runs.get? (env.uuid4 w.drawn) = some row ∧
    Steps env terms spot.origin (after, .start row version .start budget ::
      ⟨spot.frame, budget + 1, some kept'⟩ :: spot.stack)) ?_ fun _ => ?_
  · refine Triple.modify fun after same => ⟨startedRow (env.uuid4 w.drawn) new definition version, ?_, ?_⟩
    · rw [same]
      exact created_row env new definition version w
    · rwa [same]
  refine Triple.bind (R := fun _ => spot.visiting fun w visit => fact w visit ∧ event ∈ visit.own)
    ((follows.advance _ spot.sound _ _ _ _).weaken (fun _ reached => reached) (fun _ after reached => ⟨kept', ?_, ?_⟩)
      fun after reached => ⟨kept', trivial, ?_⟩) fun _ => ?_
  · exact ⟨stable.reported given, List.mem_cons_self⟩
  · rwa [Spot.machine, nested]
  · rwa [Spot.machine, nested]
  refine Does.triple (Does.bind (getRun_does _) fun child =>
    Does.bind (recordChildRun_does started _ _ _) fun _ => Does.pure fun _ _ given => ⟨given.1, ?_⟩)
  refine .started _ child.status memo memo' base read kept ?_
  rw [tracked]
  exact given.2

theorem startChildRun_does (stable : Stable fact)
    (follows : Follows env terms calls budget) (nested : spot.budget = budget + 1) {config memo memo' base : Dict Json} (tracked : track.nodeId = spot.cursor)
    (found : spot.frame.nodes.get? nodeId = some childNode) (type : nodeType childNode = some .subworkflow)
    (place : nodeId = spot.cursor ∨ nodeType spot.node = some .parallel)
    (configured : nodeConfig childNode = .ok config)
    (read : (spot.frame.vars.get "_subworkflow_runs").toDict = .ok memo)
    (kept : MemoBase "_subworkflow_runs" nodeId spot.frame.vars memo memo' base) :
    spot.Does fact (startChildRun env calls spot.frame.run config nodeId track memo' base)
      (fun outcome w visit => fact w visit ∧
        SubworkflowEffect spot.runId nodeId track spot.frame.vars visit.own outcome) := by
  refine Does.ite (fun _ => Does.pure fun _ _ given => ⟨given, .refused memo memo' base _ read kept rfl⟩) fun _ => ?_
  refine ⟨fun w ⟨visit, given, steps⟩ => ?_⟩
  rcases createRunRecord_exec env (childRequest spot.frame.run (config.get "workflow_id").pyStr base) w with
    ⟨error, ran⟩ | ⟨definition, version, resolved, ran⟩
  · rw [Prog.exec_bind_error ran]
    exact ⟨visit, trivial, steps⟩
  rw [Prog.exec_bind_ok ran]
  have step : Step env terms _ _ := .startChild w spot.frame budget visit spot.stack spot.cursor nodeId
    (config.get "workflow_id").pyStr spot.node childNode config base definition version spot.here found type place
    configured rfl ⟨memo, memo', read, kept⟩ resolved
  refine (startedChild_does stable follows nested tracked read kept given ?_).run _ rfl
  rw [Spot.machine, nested] at steps
  exact steps.tail step

theorem executeSubworkflowNode_does (stable : Stable fact)
    (follows : Follows env terms calls budget) (nested : spot.budget = budget + 1) (tracked : track.nodeId = spot.cursor)
    (found : spot.frame.nodes.get? nodeId = some childNode) (type : nodeType childNode = some .subworkflow)
    (place : nodeId = spot.cursor ∨ nodeType spot.node = some .parallel) :
    spot.Does fact (executeSubworkflowNode env calls spot.frame.run childNode nodeId track spot.frame.vars)
      (fun outcome w visit => fact w visit ∧
        SubworkflowEffect spot.runId nodeId track spot.frame.vars visit.own outcome) := by
  refine Does.attempt fun config configured => Does.attempt fun memo read => ?_
  split
  · rename_i existing known
    refine Does.read fun w => ?_
    split
    · rename_i child _
      let used := Event.childUsed spot.runId track.nodeId nodeId existing
      have keeps : Stable fun w visit => fact w visit ∧ used ∈ visit.own := stable.and (.owned used)
      refine Does.bind (Does.emit (Q := fun w visit => fact w visit ∧ used ∈ visit.own)
        (fun _ _ _ => tracked ▸ .childUsed _ _ (.inr (.inl ⟨memo, read, known⟩)))
        fun _ _ given => ⟨stable.reported given, List.mem_cons_self⟩) fun _ => ?_
      refine Does.bind (recordChildRun_does keeps _ _ _) fun _ => ?_
      exact Does.pure fun _ _ given => ⟨given.1, .known existing child.status memo read known given.2⟩
    · exact startChildRun_does stable follows nested tracked found type place configured read (.inr ⟨rfl, rfl⟩)
  · exact startChildRun_does stable follows nested tracked found type place configured read (.inl ⟨rfl, rfl⟩)

end Troop.Workflow
