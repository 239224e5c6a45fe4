import Troop.Workflow.Soundness

namespace Troop.Workflow

open List

variable {env : Env} {terms : Terms}

def ofRun (runId : String) (events : List Event) : List Event := events.filter fun event => event.run = runId

@[simp] theorem ofRun_cons_self (event : Event) (events : List Event) :
    ofRun event.run (event :: events) = event :: ofRun event.run events := by simp [ofRun]

variable {activation : Activation} {runId : String}

theorem ofRun_cons {event : Event} (events : List Event) (mine : event.run = runId) :
    ofRun runId (event :: events) = event :: ofRun runId events := by simp [ofRun, mine]

theorem ofRun_cons_ne {event : Event} (events : List Event) (other : event.run ≠ runId) :
    ofRun runId (event :: events) = ofRun runId events := by simp [ofRun, other]

theorem mem_ofRun {event : Event} {events : List Event} :
    event ∈ ofRun runId events ↔ event ∈ events ∧ event.run = runId := by simp [ofRun]

theorem mem_of_ofRun {event : Event} {events : List Event} (member : event ∈ ofRun runId events) :
    event ∈ events := (mem_ofRun.mp member).1

theorem ofRun_subset {own rest events : List Event} (same : ofRun runId events = own ++ rest) :
    own ⊆ events :=
  fun _ member => mem_of_ofRun (same ▸ mem_append_left _ member)

theorem ofRun_head {event : Event} {events : List Event} (last : events.head? = some event) :
    (ofRun event.run events).head? = some event := by
  cases events with
  | nil => cases last
  | cons first rest => simp_all

theorem ofRun_fresh {w : World} {stack : List Activation} {events : List Event} (sound : Sound env (w, stack))
    (known : events ⊆ w.log) : ofRun (env.uuid4 w.drawn) events = [] := by
  refine filter_eq_nil_iff.mpr fun event member => ?_
  simpa using (sound.events event (known member)).fresh

theorem Granted.imp {last other : Event → Prop} {run : WorkflowRun} {node : Json} {vars : Dict Json}
    (granted : Granted last run node vars) (entails : ∀ event, event.run = run.id → last event → other event) :
    Granted other run node vars := by
  cases granted with
  | approval id approval actor vars type consumed granted =>
    exact .approval id approval actor vars type (entails _ rfl consumed) granted
  | pendingTool id approval call actor vars type parked read consumed granted =>
    exact .pendingTool id approval call actor vars type parked read (entails _ rfl consumed) granted
  | humanInput payload actor type => exact .humanInput payload actor type
  | unchanged noGate noCall => exact .unchanged noGate noCall

def Event.steps (runId : String) : Event → Prop
  | .stepStarted run .. => run = runId
  | _ => False

def Quiet (events : List Event) : Prop := ∀ event ∈ events, ∀ runId, ¬ event.steps runId

theorem Reports.quiet {w : World} {frame : Frame} {cursor : String} {node : Json} {visit : Visit} {event : Event}
    (report : Reports env w frame cursor node visit event) (runId : String) : ¬ event.steps runId := by
  cases report <;> exact fun steps => steps

inductive Came (past : List Event) (frame : Frame) : Prop
  | started (id : String) (new : NewRun) (definition : WorkflowDefinition) (version : WorkflowVersion)
      (fresh : past = [.runCreated id new.parent new.testMode])
      (same : frame = Frame.load (startedRow id new definition version) version .start)
  | resumed (run : WorkflowRun) (version : WorkflowVersion) (vars : Dict Json)
      (granted : Granted (fun event => past.head? = some event) run (waitingNode run version) vars)
      (same : frame = Frame.load (resumedRow vars run) version .resumed)
  | followed (prior : Frame) (cursor : String) (node : Json) (visit : Visit) (outcome : NodeOutcome)
      (rest : List Event) (here : At prior cursor node) (effect : NodeEffect prior cursor node visit outcome)
      (goes : outcome.pause = none) (passed : outcome.status ≠ .failed) (quiet : Quiet visit.own)
      (left : past = .stepFinished prior.run.id cursor (nodeTypeText node) outcome.status :: (visit.own ++
        .stepStarted prior.run.id prior.version cursor prior.arrival prior.vars :: rest))
      (same : frame = prior.follow cursor outcome.vars)
  | rejected (run : WorkflowRun) (version : WorkflowVersion) (approval : ApprovalRequest) (rejection : Rejection)
      (config : Dict Json) (target : String) (rest : List Event)
      (read : nodeConfig (waitingNode run version) = .ok config) (routed : continuationOf config = .routeTo target)
      (applied : past = .rejectionApplied run.id run.currentNodeId approval :: rest)
      (same : frame = Frame.load (rejectedRow (.routeTo target) rejection
        (rejectedVars rejection run.contextJson.vars) run) version (.rejected (run.currentNodeId.getD "")))

/-- What the events tell of an activation: how its frame came to the cursor, and since then the start
    of the step and what the visit reported. -/
def Traced (events : List Event) (activation : Activation) : Prop :=
  match activation.visit with
  | none => Came (ofRun activation.frame.run.id events) activation.frame
  | some visit => Quiet visit.own ∧ ∃ cursor past, activation.frame.cursor = some cursor ∧ Came past activation.frame ∧
      ofRun activation.frame.run.id events = visit.own ++
        .stepStarted activation.frame.run.id activation.frame.version cursor activation.frame.arrival
          activation.frame.vars :: past

theorem Traced.record_ne {events : List Event} (traced : Traced events activation)
    (event : Event) (other : event.run ≠ activation.frame.run.id) :
    Traced (event :: events) activation := by
  simpa only [Traced, ofRun_cons_ne events other] using traced

theorem Traced.visit {events : List Event} {frame : Frame} {budget : Nat} {cursor : String}
    (traced : Traced events ⟨frame, budget, none⟩) (reached : frame.cursor = some cursor) :
    Traced (.stepStarted frame.run.id frame.version cursor frame.arrival frame.vars :: events)
      ⟨frame, budget, some ⟨[], []⟩⟩ :=
  ⟨by simp [Quiet], cursor, _, reached, traced, ofRun_cons events rfl⟩

theorem Traced.report {events : List Event} {frame : Frame} {budget : Nat} {visit : Visit}
    (traced : Traced events ⟨frame, budget, some visit⟩) (event : Event) (quiet : ∀ runId, ¬ event.steps runId)
    (mine : event.run = frame.run.id) :
    Traced (event :: events) ⟨frame, budget, some { visit with own := event :: visit.own }⟩ := by
  obtain ⟨still, cursor, past, reached, came, same⟩ := traced
  refine ⟨forall_mem_cons.mpr ⟨quiet, still⟩, cursor, past, reached, came, ?_⟩
  rw [ofRun_cons events mine, same]
  rfl

theorem Traced.branch {events : List Event} {frame : Frame} {budget : Nat} {visit visit' : Visit}
    (traced : Traced events ⟨frame, budget, some visit⟩) (same : visit'.own = visit.own) :
    Traced events ⟨frame, budget, some visit'⟩ := by
  simpa only [Traced, same] using traced

theorem Traced.stepped {events : List Event} {frame : Frame} {budget : Nat} {visit : Visit} {cursor : String}
    {node : Json} (traced : Traced events ⟨frame, budget, some visit⟩) (here : At frame cursor node) :
    Quiet visit.own ∧ ∃ past, Came past frame ∧ ofRun frame.run.id events =
      visit.own ++ .stepStarted frame.run.id frame.version cursor frame.arrival frame.vars :: past := by
  obtain ⟨quiet, other, past, reached, came, same⟩ := traced
  cases here.reached.symm.trans reached
  exact ⟨quiet, past, came, same⟩

theorem Traced.owned {events : List Event} {frame : Frame} {budget : Nat} {visit : Visit}
    (traced : Traced events ⟨frame, budget, some visit⟩) : visit.own ⊆ events := by
  obtain ⟨_, _, _, _, _, same⟩ := traced
  exact ofRun_subset same

theorem Traced.move {events : List Event} {frame : Frame} {budget : Nat} {visit : Visit} {cursor : String}
    {node : Json} {outcome : NodeOutcome} (traced : Traced events ⟨frame, budget, some visit⟩)
    (here : At frame cursor node) (effect : NodeEffect frame cursor node visit outcome)
    (goes : outcome.pause = none) (passed : outcome.status ≠ .failed) :
    Traced (.stepFinished frame.run.id cursor (nodeTypeText node) outcome.status :: events)
      ⟨frame.follow cursor outcome.vars, budget, none⟩ := by
  obtain ⟨quiet, past, _, same⟩ := traced.stepped here
  refine .followed frame cursor node visit outcome past here effect goes passed quiet ?_ rfl
  rw [← same]
  exact ofRun_cons events rfl

def TracedBy (events : List Event) (stack : List Activation) : Prop :=
  ∀ activation ∈ stack, Traced events activation

theorem TracedBy.nil (events : List Event) : TracedBy events [] := by simp [TracedBy]

theorem TracedBy.push {events : List Event} {stack : List Activation}
    (rest : TracedBy events stack) (top : Traced events activation) : TracedBy events (activation :: stack) :=
  forall_mem_cons.mpr ⟨top, rest⟩

theorem TracedBy.pop {events : List Event} {stack : List Activation}
    (traced : TracedBy events (activation :: stack)) : TracedBy events stack :=
  (forall_mem_cons.mp traced).2

theorem TracedBy.top {events : List Event} {stack : List Activation}
    (traced : TracedBy events (activation :: stack)) : Traced events activation :=
  (forall_mem_cons.mp traced).1

theorem TracedBy.record {events : List Event} {stack : List Activation} (traced : TracedBy events stack)
    (event : Event) (others : ∀ activation ∈ stack, activation.frame.run.id ≠ event.run) :
    TracedBy (event :: events) stack :=
  fun activation member => (traced activation member).record_ne event (Ne.symm (others activation member))

theorem TracedBy.leave {w : World} {stack : List Activation} {events : List Event}
    (traced : TracedBy events (activation :: stack)) (sound : Sound env (w, activation :: stack)) (event : Event)
    (mine : event.run = activation.frame.run.id) : TracedBy (event :: events) stack :=
  traced.pop.record event fun other member => mine ▸ sound.below other member

section Pushing

variable {w : World} {stack : List Activation} {events : List Event}

theorem TracedBy.create (traced : TracedBy events stack) (sound : Sound env (w, stack)) (known : events ⊆ w.log)
    (new : NewRun) (definition : WorkflowDefinition) (version : WorkflowVersion) (budget : Nat) :
    TracedBy (.runCreated (env.uuid4 w.drawn) new.parent new.testMode :: events)
      (.start (startedRow (env.uuid4 w.drawn) new definition version) version .start budget :: stack) := by
  refine (traced.record (.runCreated ..) fun other member => (sound.activation_drawn member).fresh).push ?_
  refine .started (env.uuid4 w.drawn) new definition version ?_ rfl
  exact (ofRun_cons events rfl).trans (congrArg _ (ofRun_fresh sound known))

theorem TracedBy.createChild {frame : Frame} {budget : Nat} {visit : Visit}
    (traced : TracedBy events (⟨frame, budget + 1, some visit⟩ :: stack))
    (sound : Sound env (w, ⟨frame, budget + 1, some visit⟩ :: stack)) (known : events ⊆ w.log)
    (new : NewRun) (definition : WorkflowDefinition) (version : WorkflowVersion) (cursor key : String) :
    TracedBy (.childStarted frame.run.id cursor key (env.uuid4 w.drawn) ::
        .runCreated (env.uuid4 w.drawn) new.parent new.testMode :: events)
      (.start (startedRow (env.uuid4 w.drawn) new definition version) version .start budget ::
        ⟨frame, budget + 1, some { visit with
          own := .childStarted frame.run.id cursor key (env.uuid4 w.drawn) :: visit.own }⟩ :: stack) := by
  have created := traced.create sound known new definition version budget
  have apart : frame.run.id ≠ env.uuid4 w.drawn := (sound.activation_drawn mem_cons_self).fresh
  let started := Event.childStarted frame.run.id cursor key (env.uuid4 w.drawn)
  have parent := created.pop.top.report started (fun _ steps => steps) rfl
  exact ((created.pop.pop.record started sound.below).push parent).push (created.top.record_ne started apart)

theorem TracedBy.resume {run : WorkflowRun} {version : WorkflowVersion} {vars : Dict Json} {budget : Nat}
    (traced : TracedBy events stack)
    (granted : Granted (fun event => events.head? = some event) run (waitingNode run version) vars) :
    TracedBy events (.start (resumedRow vars run) version .resumed budget :: stack) :=
  traced.push (.resumed run version vars (granted.imp fun _ mine last => mine ▸ ofRun_head last) rfl)

theorem TracedBy.reroute {run : WorkflowRun} {version : WorkflowVersion} {approval : ApprovalRequest}
    {rejection : Rejection} {config : Dict Json} {target : String} {budget : Nat} (traced : TracedBy events stack)
    (apart : ∀ activation ∈ stack, activation.frame.run.id ≠ run.id)
    (read : nodeConfig (waitingNode run version) = .ok config) (routed : continuationOf config = .routeTo target) :
    TracedBy (.rejectionApplied run.id run.currentNodeId approval :: events)
      (.start (rejectedRow (.routeTo target) rejection (rejectedVars rejection run.contextJson.vars) run)
        version (.rejected (run.currentNodeId.getD "")) budget :: stack) := by
  refine (traced.record (.rejectionApplied ..) apart).push ?_
  exact .rejected run version approval rejection config target _ read routed (ofRun_cons events rfl) rfl

end Pushing

structure Chronicled (machine : Machine) : Prop where
  log : TracedBy machine.1.log machine.2
  history : TracedBy machine.1.db.history machine.2

theorem Chronicled.both {w w' : World} {stack stack' : List Activation} (chronicled : Chronicled (w, stack))
    (new : List Event) (log : w'.log = new ++ w.log) (history : w'.db.history = new ++ w.db.history)
    (goes : ∀ events, events = w.log ∨ events = w.db.history → TracedBy events stack →
      TracedBy (new ++ events) stack') : Chronicled (w', stack') where
  log := log ▸ goes _ (.inl rfl) chronicled.log
  history := history ▸ goes _ (.inr rfl) chronicled.history

theorem Chronicled.step {before after : Machine} (chronicled : Chronicled before) (sound : Sound env before)
    (step : Step env terms before after) : Chronicled after := by
  have known : ∀ events, events = before.1.log ∨ events = before.1.db.history → events ⊆ before.1.log := by
    rintro events (rfl | rfl)
    · exact Subset.refl _
    · exact sound.history
  cases step with
  | aside | commit => exact ⟨chronicled.log, chronicled.history⟩
  | rollback | changed | tick => exact ⟨.nil _, .nil _⟩
  | start w new definition version resolved fits root =>
    exact chronicled.both [_] rfl rfl fun events source traced =>
      traced.create sound (known events source) new definition version _
  | startChild w frame budget visit stack cursor key workflowId node childNode config input definition version here
      found type place read named given resolved =>
    exact chronicled.both [_, _] rfl rfl fun events source traced =>
      traced.createChild sound (known events source) (childRequest frame.run workflowId input) definition version
        cursor key
  | exceeded w frame stack =>
    exact chronicled.both [_] rfl rfl fun events _ traced => traced.leave sound _ rfl
  | consume w stack run version id approval tool pendingTool waiting checked =>
    exact chronicled.both [_] rfl rfl fun events _ traced => traced.record _ (sound.waiting_apart waiting)
  | resume w stack run version vars waiting granted =>
    exact chronicled.both [] rfl rfl fun events source traced =>
      traced.resume (granted.imp fun event _ last => source.elim (· ▸ last.1) (· ▸ last.2))
  | reject w stack run version approval rejection continuation waiting status rejected stops =>
    exact chronicled.both [_] rfl rfl fun events _ traced => traced.record _ (sound.waiting_apart waiting)
  | reroute w stack run version approval rejection config target waiting status rejected read routed =>
    exact chronicled.both [_] rfl rfl fun events _ traced =>
      traced.reroute (sound.waiting_apart waiting) read routed
  | visit w frame budget stack cursor node here =>
    exact chronicled.both [_] rfl rfl fun events _ traced =>
      (traced.leave sound _ rfl).push (traced.top.visit here.reached)
  | report w frame budget visit stack cursor node event here reports =>
    exact chronicled.both [_] rfl rfl fun events _ traced =>
      (traced.leave sound _ reports.run).push (traced.top.report event reports.quiet reports.run)
  | branch w frame budget visit visit' stack cursor node here changed =>
    have same : visit'.own = visit.own := by cases changed <;> rfl
    exact chronicled.both [] rfl rfl fun events _ traced => traced.pop.push (traced.top.branch same)
  | pause w frame budget visit stack cursor node outcome status here effect stops =>
    exact chronicled.both [_] rfl rfl fun events _ traced => traced.leave sound _ rfl
  | fail w frame budget visit stack cursor node outcome here effect goes failed =>
    exact chronicled.both [_] rfl rfl fun events _ traced => traced.leave sound _ rfl
  | move w frame budget visit stack cursor node outcome here effect goes passed =>
    exact chronicled.both [_] rfl rfl fun events _ traced =>
      (traced.leave sound _ rfl).push (traced.top.move here effect goes passed)
  | missing | ended | abandon =>
    exact chronicled.both [] rfl rfl fun events _ traced => traced.pop
  | exhausted w frame budget stack cursor given named =>
    exact chronicled.both [_] rfl rfl fun events _ traced => traced.leave sound _ rfl

theorem Reachable.chronicled {machine : Machine} (reachable : Reachable env terms machine) : Chronicled machine :=
  reachable.invariant ⟨.nil _, .nil _⟩ fun _ _ earlier chronicled step => chronicled.step earlier.sound step

end Troop.Workflow
