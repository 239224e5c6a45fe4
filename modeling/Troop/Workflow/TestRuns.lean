import Troop.Workflow.Laws
import Troop.Workflow.Refinement

namespace Troop.Workflow

open List

variable {env : Env} {terms : Terms}

def Flagged (events : List Event) (run : WorkflowRun) : Prop :=
  (∃ parent, Event.runCreated run.id parent run.contextJson.testMode ∈ events) ∧
    run.contextJson.simulateExternalWrites = run.contextJson.testMode

variable {cursor nodeId toolSlug : String} {params context : Dict Json} {events : List Event} {frame : Frame}
  {node : Json}

theorem Flagged.cons {run : WorkflowRun} (flagged : Flagged events run) (event : Event) :
    Flagged (event :: events) run := by
  obtain ⟨⟨parent, created⟩, same⟩ := flagged
  exact ⟨⟨parent, mem_cons_of_mem _ created⟩, same⟩

theorem Flagged.started (events : List Event) (id : String) (new : NewRun) (definition : WorkflowDefinition)
    (version : WorkflowVersion) :
    Flagged (.runCreated id new.parent new.testMode :: events) (startedRow id new definition version) :=
  ⟨⟨new.parent, mem_cons_self⟩, rfl⟩

def flagged : Law env terms where
  row annals run := Flagged annals.history run
  active annals activation := Flagged annals.history activation.frame.run
  row_add event holds _ := holds.cons event
  row_lose _ holds := holds
  active_add event holds _ := holds.cons event
  start _ _ _ := Flagged.started _ _ _ _ _
  child _ _ _ _ _ _ _ _ _ _ := Flagged.started _ _ _ _ _
  resume _ holds _ _ := holds
  requestChanges _ _ holds _ := holds.cons _
  reroute _ _ _ holds _ _ _ := holds.cons _
  visit holds _ := holds.cons _
  report holds _ _ := holds.cons _
  branch holds _ _ := holds
  pause {w frame budget visit stack cursor node outcome status row'} _ holds _ _ _ _ same := by
    have id : row'.id = frame.run.id := identity_id same
    obtain ⟨⟨parent, created⟩, flags⟩ := holds
    refine ⟨⟨parent, List.mem_cons_of_mem _ ?_⟩, flags⟩
    show Event.runCreated row'.id parent frame.run.contextJson.testMode ∈ w.db.history
    rw [id]
    exact created
  move _ holds _ _ _ _ := holds.cons _

def CallsTool (version : WorkflowVersion) (nodeId : String) (vars : Dict Json) (toolSlug : String) : Prop :=
  ∃ node toolId toolNode, (nodesById version.nodesJson).get? nodeId = some node ∧
    (nodesById version.nodesJson).get? toolId = some toolNode ∧ nodeType toolNode = some .tool ∧
    (toolId = nodeId ∨ nodeType node = some .parallel) ∧ CalledTool toolNode toolId vars toolSlug

def Effects (env : Env) (older : List Event) : Event → Prop
  | .runCreated id _ _ => ∀ event ∈ older, event.run ≠ id
  | .toolExecuted runId _ _ toolSlug _ _ =>
    (∃ version nodeId arrival vars, Event.stepStarted runId version nodeId arrival vars ∈ older ∧
      CallsTool version nodeId vars toolSlug) ∧
    ∃ parent testMode, Event.runCreated runId parent testMode ∈ older ∧
      (testMode = true → env.isExternalMutatingTool toolSlug = false)
  | _ => True

theorem Dispatch.calls
    (here : At frame cursor node) (dispatch : Dispatch env frame cursor node nodeId toolSlug params context) :
    CallsTool frame.version cursor frame.vars toolSlug :=
  ⟨node, nodeId, dispatch.toolNode, here.found, dispatch.found, dispatch.type, dispatch.place, dispatch.called⟩

theorem Dispatch.internal (dispatch : Dispatch env frame cursor node nodeId toolSlug params context)
    (test : frame.run.contextJson.testMode = true) (simulate : frame.run.contextJson.simulateExternalWrites = true) :
    env.isExternalMutatingTool toolSlug = false := by
  have real := dispatch.real
  simpa [shouldSimulateExternalWrite, test, simulate] using real

theorem Reachable.effects {w : World} {stack : List Activation} (reachable : Reachable env terms (w, stack)) :
    Justified (Effects env) w.log := by
  have recorded : Recorded (Effects env) (fun _ _ => True) w := by
    refine reachable.recorded (fun w stack event earlier emission => ⟨?_, trivial⟩) fun _ _ _ _ _ => ⟨trivial, trivial⟩
    cases emission with
    | created w stack parent testMode =>
      intro event member
      exact (earlier.sound.events event member).fresh
    | reported w frame budget visit stack cursor node event here reports =>
      cases reports with
      | toolExecuted nodeId owner toolSlug params context dispatch =>
        obtain ⟨_, past, _, same⟩ := (earlier.chronicled.log.top).stepped here
        obtain ⟨⟨parent, created⟩, flags⟩ := (flagged.holds earlier).stack _ mem_cons_self
        refine ⟨⟨frame.version, cursor, frame.arrival, frame.vars, ?_, dispatch.calls here⟩,
          parent, frame.run.contextJson.testMode, earlier.sound.history created, fun test => ?_⟩
        · exact mem_of_ofRun (same ▸ mem_append_right _ mem_cons_self)
        · exact dispatch.internal test (flags.trans test)
      | _ => trivial
    | exceeded | consumed | rejected | visited | finished | exhausted => trivial
  exact recorded.1

theorem Justified.created_once (justified : Justified (Effects env) events) {id : String}
    {parent other : Option String} {testMode otherMode : Bool} (first : Event.runCreated id parent testMode ∈ events)
    (second : Event.runCreated id other otherMode ∈ events) : testMode = otherMode := by
  induction events with
  | nil => cases first
  | cons event older ih =>
    have reason := justified.1
    rcases mem_cons.mp first with newest | first <;> rcases mem_cons.mp second with same | second
    · grind
    · rw [← newest] at reason
      exact absurd rfl (reason _ second)
    · rw [← same] at reason
      exact absurd rfl (reason _ first)
    · exact ih justified.2 first second

/-- The runs created, directly or through others, by the children of a run. -/
inductive InTree (events : List Event) (root : String) : String → Prop
  | root : InTree events root root
  | child (runId parent : String) (testMode : Bool) (above : InTree events root parent)
      (created : Event.runCreated runId (some parent) testMode ∈ events) : InTree events root runId

def Harmless (env : Env) (events : List Event) (root : String) : Prop :=
  ∀ runId version nodeId arrival vars toolSlug, InTree events root runId → runId ≠ root →
    Event.stepStarted runId version nodeId arrival vars ∈ events → CallsTool version nodeId vars toolSlug →
      env.isExternalMutatingTool toolSlug = false

def sending : WorkflowVersion :=
  published "sending" [plainNode "send" "tool" [("tool", .str "mail")]] [] "send"

def testedWorld : World :=
  World.after stillEnv (publishing sending ++ [.startTest (startOf "sending" []) (some "sending")]) {}

theorem testedWorld_log : testedWorld.log = [.stepFinished "r" "send" "tool" .succeeded,
    .stepStarted "r" sending "send" .start [], .runCreated "r" none true] := by decide +kernel

def outer : WorkflowVersion :=
  published "outer" [plainNode "inner" "subworkflow" [("workflow_id", .str "sending")]] [] "inner"

def outerWorld : World :=
  World.after stillEnv
    (publishing sending ++ [.changed (.definition (publishedDefinition outer)), .changed (.version outer),
      .changed (.deployment ⟨"sending", "prod", "sending", []⟩),
      .startTest (startOf "outer" []) (some "outer")]) {}

end Troop.Workflow
