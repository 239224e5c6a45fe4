import Troop.Workflow.Vars
import Troop.Workflow.Laws
import Troop.Workflow.ChildRuns

namespace Troop.Workflow

open List

variable {env : Env} {terms : Terms}

def VersionsFrom (terms : Terms) (versions : Dict WorkflowVersion) : Prop :=
  ∀ id row, versions.get? id = some row → row.id = id ∧ terms.changes (.version row)

def OutputsAdmitted (terms : Terms) (taskRuns : Dict TaskRun) : Prop :=
  ∀ id row, taskRuns.get? id = some row → row.outputPayloadJson = [] ∨
    ∃ given, terms.changes (.taskRun given) ∧ given.outputPayloadJson = row.outputPayloadJson

structure Admitted (terms : Terms) (db : Db) : Prop where
  versions : VersionsFrom terms db.versions
  taskRuns : OutputsAdmitted terms db.taskRuns

theorem OutputsAdmitted.from {before after : Dict TaskRun} (admitted : OutputsAdmitted terms before)
    (outputs : OutputsFrom before after) : OutputsAdmitted terms after := by
  intro id row found
  rcases outputs id row found with empty | ⟨old, there, same⟩
  · exact .inl empty
  · exact same ▸ admitted id old there

theorem Admitted.change {db : Db} (admitted : Admitted terms db) {change : Change} (fits : terms.changes change) :
    Admitted terms (change.apply db) := by
  cases change with
  | version row =>
    refine ⟨fun id other found => ?_, admitted.taskRuns⟩
    simp only [Change.apply, Dict.get?_set] at found
    split at found
    · simp_all
    · exact admitted.versions id other found
  | taskRun row =>
    refine ⟨admitted.versions, fun id other found => ?_⟩
    simp only [Change.apply, Dict.get?_set] at found
    split at found
    · grind
    · exact admitted.taskRuns id other found
  | user | definition | deployment | skill | skillVersion | approval => exact ⟨admitted.versions, admitted.taskRuns⟩

theorem Reachable.admitted {machine : Machine} (reachable : Reachable env terms machine) :
    Admitted terms machine.1.db ∧ Admitted terms machine.1.committed := by
  induction reachable with
  | refl =>
    refine ⟨⟨?_, ?_⟩, ⟨?_, ?_⟩⟩ <;> exact fun id row found => by cases found
  | tail earlier step ih =>
    obtain ⟨now, saved⟩ := ih
    cases step with
    | aside w stack drawn approvals taskRuns children outputs =>
      exact ⟨⟨now.versions, now.taskRuns.from outputs⟩, saved⟩
    | commit => exact ⟨now, now⟩
    | rollback => exact ⟨saved, saved⟩
    | changed w change possible fits same => exact ⟨now.change fits, saved.change fits⟩
    | _ => exact ⟨⟨now.versions, now.taskRuns⟩, saved⟩

def Merged (terms : Terms) (merged : Dict Json) : Prop :=
  merged = [] ∨ ∃ given, terms.changes (.taskRun given) ∧ merged = agentUpdate given.outputPayloadJson

theorem OutputsAdmitted.merged {taskRuns : Dict TaskRun} (admitted : OutputsAdmitted terms taskRuns) {id : String}
    {row : TaskRun} (found : taskRuns.get? id = some row) : Merged terms (agentUpdate row.outputPayloadJson) := by
  rcases admitted id row found with empty | ⟨given, fits, same⟩
  · rw [empty]
    exact .inl rfl
  · exact .inr ⟨given, fits, by rw [same]⟩

variable {stack : List Activation} {w : World} {definition : WorkflowDefinition} {row version : WorkflowVersion}
  {nodes : List Json} {new : NewRun}

theorem Reachable.merged (reachable : Reachable env terms (w, stack))
    {run node id : String} {merged : Dict Json} (reported : Event.agentMerged run node id merged ∈ w.log) :
    Merged terms merged := by
  have justified : Justified (fun _ event => ∀ run node id merged,
      event = .agentMerged run node id merged → Merged terms merged) w.log := by
    refine reachable.accounted (.inl rfl) ?_ fun _ _ _ _ _ _ _ _ _ same => by cases same
    rintro w stack event events earlier emission _ run node id merged rfl
    cases emission with
    | reported w frame budget visit stack cursor node event here reports =>
      cases reports with
      | agentMerged id row found => exact earlier.admitted.1.taskRuns.merged found
  obtain ⟨_, _, given⟩ := justified.mem reported
  exact given _ _ _ _ rfl

theorem NodeEffect.falsy {frame : Frame} {visit : Visit} {cursor key : String} {node : Json} {outcome : NodeOutcome}
    (effect : NodeEffect frame cursor node visit outcome) (reachable : Reachable env terms (w, stack))
    (known : visit.own ⊆ w.log) (unmerged : ∀ merged, Merged terms merged → (merged.get key).truthy = false)
    (apart : key ∉ writtenKeys cursor (nodeType node)) (unset : (frame.vars.get key).truthy = false) :
    (outcome.vars.get key).truthy = false := by
  rcases effect.inherits apart with same | null | ⟨run, node, id, merged, reported, same⟩
  · rw [same, unset]
  · rw [null]
    rfl
  · rw [same]
    exact unmerged merged (reachable.merged (known reported))

/-- The graph a run starts with: that of a version row, its nodes perhaps under an environment's
    bindings. -/
structure Overlaid (row version : WorkflowVersion) : Prop where
  same : version = { row with nodesJson := version.nodesJson }
  nodes : version.nodesJson = row.nodesJson ∨
    ∃ environment deployment, resolveNodes environment deployment row.nodesJson = .ok version.nodesJson

theorem Overlaid.refl (row : WorkflowVersion) : Overlaid row row := ⟨rfl, .inl rfl⟩

theorem Overlaid.id (overlaid : Overlaid row version) : version.id = row.id := by
  rw [overlaid.same]

theorem applyBindingsToGraph_node {bindings : Dict Json} {nodes resolved : List Json} {node : Json}
    (applied : applyBindingsToGraph bindings nodes = .ok resolved) (member : node ∈ resolved) :
    ∃ original ∈ nodes, ∀ key, key ≠ "config" → node.get key = original.get key := by
  induction nodes generalizing resolved with
  | nil =>
    cases applied
    cases member
  | cons first rest ih =>
    have later : ∀ {others}, applyBindingsToGraph bindings rest = .ok others → node ∈ others →
        ∃ original ∈ first :: rest, ∀ key, key ≠ "config" → node.get key = original.get key := by
      intro others applied inside
      obtain ⟨original, there, same⟩ := ih applied inside
      exact ⟨original, mem_cons_of_mem _ there, same⟩
    simp only [applyBindingsToGraph] at applied
    split at applied
    · exact later applied member
    rename_i members same
    cases config : nodeConfig (.obj members) with
    | error error => simp [applyBindingsToNode, config, bind, Except.bind] at applied
    | ok config' =>
      cases rest' : applyBindingsToGraph bindings rest with
      | error error => simp [applyBindingsToNode, config, rest', bind, Except.bind, pure, Except.pure] at applied
      | ok others =>
        simp only [applyBindingsToNode, config, rest', bind, Except.bind, pure, Except.pure] at applied
        cases applied
        rcases mem_cons.mp member with rfl | inside
        · refine ⟨first, mem_cons_self, fun key other => ?_⟩
          cases first with
          | obj given =>
            cases same
            exact Dict.get_set_of_ne _ _ (Ne.symm other)
          | null | bool | num | str | arr => cases same
        · exact later rest' inside

theorem resolveNodes_node {environment : String} {deployment : Option WorkflowEnvironmentDeployment}
    {nodes resolved : List Json} {node : Json} (applied : resolveNodes environment deployment nodes = .ok resolved)
    (member : node ∈ resolved) :
    ∃ original ∈ nodes, ∀ key, key ≠ "config" → node.get key = original.get key := by
  unfold resolveNodes at applied
  split at applied
  · exact applyBindingsToGraph_node applied member
  simp only [bind, Except.bind] at applied
  split at applied
  · cases applied
  split at applied
  · split at applied
    · cases applied
    · exact applyBindingsToGraph_node applied member
  · cases applied
    exact ⟨node, member, fun _ _ => rfl⟩

theorem Overlaid.node (overlaid : Overlaid row version) {node : Json} (member : node ∈ version.nodesJson) :
    ∃ original ∈ row.nodesJson, nodeId? node = nodeId? original ∧ nodeType node = nodeType original := by
  rcases overlaid.nodes with same | ⟨environment, deployment, resolved⟩
  · exact ⟨node, same ▸ member, rfl, rfl⟩
  · obtain ⟨original, there, kept⟩ := resolveNodes_node resolved member
    refine ⟨original, there, ?_, ?_⟩
    · simp only [nodeId?, kept "id" (by decide)]
    · simp only [nodeType, nodeTypeText, kept "type" (by decide)]

theorem getVersion_some {id : Option String} {version : WorkflowVersion}
    (ran : (getVersion id).exec w = (.ok (some version), w)) : ∃ key, w.db.versions.get? key = some version := by
  unfold getVersion at ran
  rw [Prog.exec_bind_ok (Prog.exec_get w)] at ran
  simp only [Prog.exec_pure, Prod.mk.injEq, Except.ok.injEq, Option.bind_eq_some_iff] at ran
  obtain ⟨⟨key, _, found⟩, _⟩ := ran
  split at found
  · cases found
  · exact ⟨key, found⟩

theorem ReadOnly.bind_ok {α β : Type} {first : Session α} {next : α → Session β} {w after : World} {value : β}
    (reads : ReadOnly first) (ran : (first >>= next).exec w = (.ok value, after)) :
    ∃ read, first.exec w = (.ok read, w) ∧ (next read).exec w = (.ok value, after) := by
  have same := reads w
  rw [Prog.exec_bind] at ran
  cases outcome : first.exec w with
  | mk result middle =>
    rw [outcome] at same ran
    cases same
    cases result with
    | ok read => exact ⟨read, rfl, ran⟩
    | error error => cases ran

theorem resolveVersionForEnvironment_found {environment : String}
    {found : WorkflowVersion × Option WorkflowEnvironmentDeployment}
    (ran : (resolveVersionForEnvironment definition environment).exec w = (.ok found, w)) :
    ∃ key, w.db.versions.get? key = some found.1 := by
  obtain ⟨normalized, _, ran⟩ := ReadOnly.bind_ok .ofExcept ran
  rw [Prog.exec_bind_ok (Prog.exec_get w)] at ran
  split at ran
  · obtain ⟨version, read, ran⟩ := ReadOnly.bind_ok (getVersion_reads _) ran
    cases version with
    | none => simp [raiseValueError] at ran
    | some version =>
      dsimp only at ran
      split at ran
      · simp only [Prog.exec_pure, Prod.mk.injEq, Except.ok.injEq, and_true] at ran
        exact ran ▸ getVersion_some read
      · simp [raiseValueError] at ran
  · split at ran
    · obtain ⟨version, read, ran⟩ := ReadOnly.bind_ok (getVersion_reads _) ran
      cases version with
      | none => simp [raiseValueError] at ran
      | some version =>
        simp only [Prog.exec_pure, Prod.mk.injEq, Except.ok.injEq, and_true] at ran
        exact ran ▸ getVersion_some read
    · simp [raiseValueError] at ran

theorem Resolved.overlaid {version : WorkflowVersion} (resolved : Resolved new w definition version) :
    ∃ key row, w.db.versions.get? key = some row ∧ Overlaid row version := by
  have ran := resolved.resolved
  unfold resolveStartVersion at ran
  split at ran
  · obtain ⟨found, read, ran⟩ := ReadOnly.bind_ok (getVersion_reads _) ran
    cases found with
    | none => simp [raiseValueError] at ran
    | some row =>
      dsimp only at ran
      split at ran
      · simp only [Prog.exec_pure, Prod.mk.injEq, Except.ok.injEq, and_true] at ran
        obtain ⟨key, there⟩ := getVersion_some read
        exact ⟨key, row, there, ran ▸ .refl row⟩
      · simp [raiseValueError] at ran
  · split at ran
    · obtain ⟨found, read, ran⟩ := ReadOnly.bind_ok (getVersion_reads _) ran
      cases found with
      | none => simp [raiseValueError] at ran
      | some row =>
        simp only [Prog.exec_pure, Prod.mk.injEq, Except.ok.injEq, and_true] at ran
        obtain ⟨key, there⟩ := getVersion_some read
        exact ⟨key, row, there, ran ▸ .refl row⟩
    · obtain ⟨found, read, ran⟩ := ReadOnly.bind_ok (resolveVersionForEnvironment_reads _ _) ran
      obtain ⟨key, there⟩ := resolveVersionForEnvironment_found read
      obtain ⟨nodes, applied, ran⟩ := ReadOnly.bind_ok .ofExcept ran
      simp only [Prog.exec_pure, Prod.mk.injEq, Except.ok.injEq, and_true] at ran
      simp only [Prog.exec_ofExcept, Prod.mk.injEq, and_true] at applied
      subst ran
      exact ⟨key, found.1, there, rfl, .inr ⟨new.environment, found.2, applied⟩⟩

theorem Overlaid.edges (overlaid : Overlaid row version) :
    version.edgesJson = row.edgesJson := by rw [overlaid.same]

structure Interprets (terms : Terms) (frame : Frame) (row : WorkflowVersion) : Prop where
  overlaid : Overlaid row frame.version
  admitted : terms.changes (.version row)
  named : frame.version.id = frame.run.workflowVersionId

theorem Waiting.interprets {run row : WorkflowRun} {version : WorkflowVersion}
    {arrival : Arrival} (waiting : Waiting w run version) (reachable : Reachable env terms (w, stack))
    (same : identity row = identity run) : Interprets terms (Frame.load row version arrival) version := by
  obtain ⟨named, admitted⟩ := reachable.admitted.1.versions _ _ waiting.version
  refine ⟨.refl version, admitted, named.trans ?_⟩
  exact (congrArg (fun ids => ids.2.2) same).symm

theorem Resolved.interprets {version : WorkflowVersion} (resolved : Resolved new w definition version)
    (reachable : Reachable env terms (w, stack)) (id : String) :
    ∃ row, Interprets terms (Frame.load (startedRow id new definition version) version .start) row := by
  obtain ⟨key, row, found, overlaid⟩ := resolved.overlaid
  exact ⟨row, overlaid, (reachable.admitted.1.versions _ _ found).2, rfl⟩

def graphs : Law env terms where
  row _ _ := True
  active _ activation := ∃ row, Interprets terms activation.frame row
  row_add _ _ _ := trivial
  row_lose _ _ := trivial
  active_add _ holds _ := holds
  start reachable resolved _ := resolved.interprets reachable _
  child reachable _ _ _ _ _ _ _ _ resolved := resolved.interprets reachable _
  resume reachable _ waiting _ := ⟨_, waiting.interprets reachable rfl⟩
  requestChanges _ _ _ _ := trivial
  reroute _ _ reachable _ waiting _ _ := ⟨_, waiting.interprets reachable rfl⟩
  visit holds _ := holds
  report holds _ _ := holds
  branch holds _ _ := holds
  pause _ _ _ _ _ _ _ := trivial
  move _ holds _ _ _ _ := by
    obtain ⟨row, interprets⟩ := holds
    exact ⟨row, interprets.overlaid, interprets.admitted, interprets.named⟩

theorem Reachable.interprets {activation : Activation}
    (reachable : Reachable env terms (w, activation :: stack)) : ∃ row, Interprets terms activation.frame row :=
  (graphs.holds reachable).stack _ mem_cons_self

theorem nodesById_mem {id : String} {node : Json} (found : (nodesById nodes).get? id = some node) :
    node ∈ nodes ∧ nodeId? node = some id := by
  rw [nodesById_last] at found
  obtain ⟨member, named⟩ := mem_filter.mp (mem_of_getLast? found)
  exact ⟨member, of_decide_eq_true named⟩

theorem currentNode_mem {id : String} {node : Json}
    (found : currentNode nodes (some id) = some node) : node ∈ nodes ∧ nodeId? node = some id := by
  simp only [currentNode] at found
  split at found
  · cases found
  · exact ⟨mem_of_find?_eq_some found, by simpa using find?_some found⟩

theorem currentNode_some {id : String} {node : Json} (named : id ≠ "") (member : node ∈ nodes)
    (same : nodeId? node = some id) : ∃ other, currentNode nodes (some id) = some other := by
  simp only [currentNode, named, if_false]
  exact Option.isSome_iff_exists.mp (find?_isSome.mpr ⟨node, member, by simpa using same⟩)

end Troop.Workflow
