import Troop.Workflow.Traces

namespace Troop.Workflow

open List

variable {env : Env} {terms : Terms}

structure Annals where
  log : List Event
  history : List Event

def Annals.add (event : Event) (annals : Annals) : Annals := ⟨event :: annals.log, event :: annals.history⟩

def Annals.lose (event : Event) (annals : Annals) : Annals := { annals with log := event :: annals.log }

namespace World

def annals (w : World) : Annals := ⟨w.log, w.db.history⟩

def savedAnnals (w : World) : Annals := ⟨w.log, w.committed.history⟩

end World

structure Law (env : Env) (terms : Terms) where
  row : Annals → WorkflowRun → Prop
  active : Annals → Activation → Prop
  row_add : ∀ {annals run} event, row annals run → ¬ event.steps run.id → row (annals.add event) run
  row_lose : ∀ {annals run} event, row annals run → row (annals.lose event) run
  active_add : ∀ {annals activation} event, active annals activation → event.run ≠ activation.frame.run.id →
    active (annals.add event) activation
  start : ∀ {w new definition version}, Reachable env terms (w, []) → Resolved new w definition version →
    terms.starts new → active (w.create env new definition version).annals
      (.start (startedRow (env.uuid4 w.drawn) new definition version) version .start env.nesting)
  child : ∀ {w frame budget visit stack cursor key workflowId node childNode config input definition version},
    Reachable env terms (w, ⟨frame, budget + 1, some visit⟩ :: stack) →
    active w.annals ⟨frame, budget + 1, some visit⟩ → At frame cursor node →
    frame.nodes.get? key = some childNode → nodeType childNode = some .subworkflow →
    (key = cursor ∨ nodeType node = some .parallel) → nodeConfig childNode = .ok config →
    workflowId = (config.get "workflow_id").pyStr → ChildInput key frame.vars input →
    Resolved (childRequest frame.run workflowId input) w definition version →
    active (w.create env (childRequest frame.run workflowId input) definition version).annals
      (.start (startedRow (env.uuid4 w.drawn) (childRequest frame.run workflowId input) definition version) version
        .start budget)
  resume : ∀ {w stack run version vars}, Reachable env terms (w, stack) → row w.annals run → Waiting w run version →
    Granted w.Last run (waitingNode run version) vars →
    active w.annals (.start (resumedRow vars run) version .resumed env.nesting)
  requestChanges : ∀ {annals run} approval rejection, row annals run → run.status.resumable = true →
    row (annals.add (.rejectionApplied run.id run.currentNodeId approval))
      (rejectedRow .requestChanges rejection (rejectedVars rejection run.contextJson.vars) run)
  reroute : ∀ {w stack run version config target} approval rejection, Reachable env terms (w, stack) →
    row w.annals run → Waiting w run version → nodeConfig (waitingNode run version) = .ok config →
    continuationOf config = .routeTo target →
    active (w.annals.add (.rejectionApplied run.id run.currentNodeId approval))
      (.start (rejectedRow (.routeTo target) rejection (rejectedVars rejection run.contextJson.vars) run) version
        (.rejected (run.currentNodeId.getD "")) env.nesting)
  visit : ∀ {annals frame budget cursor node}, active annals ⟨frame, budget, none⟩ → At frame cursor node →
    active (annals.add (.stepStarted frame.run.id frame.version cursor frame.arrival frame.vars))
      ⟨frame, budget, some ⟨[], []⟩⟩
  report : ∀ {annals w frame budget visit cursor node event}, active annals ⟨frame, budget, some visit⟩ →
    At frame cursor node → Reports env w frame cursor node visit event →
    active (annals.add event) ⟨frame, budget, some { visit with own := event :: visit.own }⟩
  branch : ∀ {annals frame budget visit visit' cursor node}, active annals ⟨frame, budget, some visit⟩ →
    At frame cursor node → BranchStep frame cursor node visit visit' → active annals ⟨frame, budget, some visit'⟩
  pause : ∀ {w frame budget visit stack cursor node outcome status row'},
    Reachable env terms (w, ⟨frame, budget, some visit⟩ :: stack) → active w.annals ⟨frame, budget, some visit⟩ →
    At frame cursor node → NodeEffect frame cursor node visit outcome → outcome.pause = some status →
    status.resumable = true → identity row' = identity frame.run →
    row (w.annals.add (.stepFinished frame.run.id cursor (nodeTypeText node) outcome.status))
      (pausedRow { frame with vars := outcome.vars } cursor status row')
  move : ∀ {w frame budget visit stack cursor node outcome},
    Reachable env terms (w, ⟨frame, budget, some visit⟩ :: stack) → active w.annals ⟨frame, budget, some visit⟩ →
    At frame cursor node → NodeEffect frame cursor node visit outcome → outcome.pause = none →
    outcome.status ≠ .failed →
    active (w.annals.add (.stepFinished frame.run.id cursor (nodeTypeText node) outcome.status))
      ⟨frame.follow cursor outcome.vars, budget, none⟩

namespace Law

def Rows (law : Law env terms) (annals : Annals) (runs : Dict WorkflowRun) : Prop :=
  ∀ id run, runs.get? id = some run → run.status.resumable = true → law.row annals run

structure Holds (law : Law env terms) (machine : Machine) : Prop where
  rows : law.Rows machine.1.annals machine.1.db.runs
  saved : law.Rows machine.1.savedAnnals machine.1.committed.runs
  stack : ∀ activation ∈ machine.2, law.active machine.1.annals activation

variable {law : Law env terms} {w : World} {stack : List Activation}

variable {activation : Activation} {runs : Dict WorkflowRun} {annals : Annals} {run : WorkflowRun}

theorem Rows.lose (rows : law.Rows annals runs) (event : Event) :
    law.Rows (annals.lose event) runs :=
  fun id run found status => law.row_lose event (rows id run found status)

theorem Rows.add (rows : law.Rows annals runs) (event : Event)
    (apart : ∀ id run, runs.get? id = some run → run.status.resumable = true → ¬ event.steps run.id) :
    law.Rows (annals.add event) runs :=
  fun id run found status => law.row_add event (rows id run found status) (apart id run found status)

theorem Rows.modify (rows : law.Rows annals runs) (id : String) (change : WorkflowRun → WorkflowRun)
    (changed : ∀ run, runs.get? id = some run → (change run).status.resumable = true → law.row annals (change run)) :
    law.Rows annals (runs.modify id change) := by
  intro other run found status
  rw [Dict.get?_modify] at found
  split at found
  · cases stored : runs.get? other with
    | none => simp [stored] at found
    | some old => simp_all
  · exact rows other run found status

theorem apart_of_sound (sound : Sound env (w, stack)) (member : activation ∈ stack) :
    ∀ id run, w.db.runs.get? id = some run → run.status.resumable = true → run.id ≠ activation.frame.run.id := by
  intro id run found status same
  obtain ⟨row, occupied, busy, _⟩ := sound.occupied activation member
  rw [← same, (sound.rows id run found).1, found] at occupied
  simp_all

theorem Holds.record (holds : law.Holds (w, stack)) (event : Event) (quiet : ∀ runId, ¬ event.steps runId)
    (apart : ∀ activation ∈ stack, event.run ≠ activation.frame.run.id) : law.Holds (w.record event, stack) where
  rows := holds.rows.add event fun _ run _ _ => quiet run.id
  saved := holds.saved.lose event
  stack := fun activation member => law.active_add event (holds.stack activation member) (apart activation member)

theorem Holds.pop (holds : law.Holds (w, activation :: stack)) : law.Holds (w, stack) :=
  ⟨holds.rows, holds.saved, fun other member => holds.stack other (mem_cons_of_mem _ member)⟩

theorem Holds.push (holds : law.Holds (w, stack)) (active : law.active w.annals activation) :
    law.Holds (w, activation :: stack) :=
  ⟨holds.rows, holds.saved, forall_mem_cons.mpr ⟨active, holds.stack⟩⟩

theorem Holds.changeRun (holds : law.Holds (w, stack)) (id : String) (change : WorkflowRun → WorkflowRun)
    (changed : ∀ run, w.db.runs.get? id = some run → (change run).status.resumable = true →
      law.row w.annals (change run)) : law.Holds (w.changeRun id change, stack) :=
  ⟨holds.rows.modify id change changed, holds.saved, holds.stack⟩

theorem Holds.create (holds : law.Holds (w, stack)) (sound : Sound env (w, stack)) (new : NewRun)
    (definition : WorkflowDefinition) (version : WorkflowVersion) :
    law.Holds (w.create env new definition version, stack) := by
  refine ⟨?_, holds.saved.lose _, ?_⟩
  · intro id run found status
    simp only [World.create, World.record, Dict.get?_set] at found
    split at found
    · cases found
      cases status
    · exact law.row_add _ (holds.rows id run found status) (fun steps => steps)
  · exact fun activation member => law.active_add _ (holds.stack activation member)
      (sound.activation_drawn member).fresh.symm

theorem terminal_busy (status : RunStatus) (ended : status.terminal = true) : status.resumable = false := by
  cases status <;> first | rfl | cases ended

theorem leftRow_busy (frame : Frame) (run : WorkflowRun) (busy : run.status.resumable = false) :
    (leftRow frame run).status.resumable = false := by
  unfold leftRow
  split
  · rfl
  · exact busy

theorem missing_busy {id cursor : String}
    (found : (w.changeRun id (missingRow cursor)).db.runs.get? id = some run) : run.status.resumable = false := by
  simp only [World.changeRun, Dict.get?_modify, if_true, Option.map_eq_some_iff] at found
  obtain ⟨old, _, rfl⟩ := found
  rfl

theorem occupied_row (sound : Sound env (w, stack)) (member : activation ∈ stack) (found : w.db.runs.get? activation.frame.run.id = some run) :
    run.status.resumable = false ∧ identity run = identity activation.frame.run := by
  obtain ⟨row, there, busy, same⟩ := sound.occupied activation member
  simp_all

theorem Holds.finish (holds : law.Holds (w, activation :: stack))
    (sound : Sound env (w, activation :: stack)) (event : Event) (quiet : ∀ runId, ¬ event.steps runId)
    (mine : event.run = activation.frame.run.id) : law.Holds (w.record event, stack) :=
  holds.pop.record event quiet fun other member => mine ▸ (sound.below other member).symm

theorem Holds.step {before after : Machine} (holds : law.Holds before) (reachable : Reachable env terms before)
    (step : Step env terms before after) : law.Holds after := by
  have sound := reachable.sound
  cases step with
  | aside => exact ⟨holds.rows, holds.saved, holds.stack⟩
  | commit => exact ⟨holds.rows, holds.rows, holds.stack⟩
  | rollback => exact ⟨holds.saved, holds.saved, by simp⟩
  | changed w change possible fits same =>
    have kept : ∀ db : Db, (change.apply db).runs = db.runs ∧ (change.apply db).history = db.history := by
      intro db
      cases change <;> exact ⟨rfl, rfl⟩
    refine ⟨?_, ?_, by simp⟩
    · simpa only [World.annals, kept w.db] using holds.rows
    · simpa only [World.savedAnnals, kept w.committed] using holds.saved
  | tick => exact ⟨holds.rows, holds.saved, by simp⟩
  | start w new definition version resolved fits root =>
    exact (holds.create sound new definition version).push (law.start reachable resolved fits)
  | startChild w frame budget visit stack cursor key workflowId node childNode config input definition version here
      found type place read named given resolved =>
    have active := holds.stack _ mem_cons_self
    have apart : ∀ activation ∈ ⟨frame, budget + 1, some visit⟩ :: stack,
        activation.frame.run.id ≠ env.uuid4 w.drawn := fun _ member => (sound.activation_drawn member).fresh
    have created := holds.create sound (childRequest frame.run workflowId input) definition version
    have child := law.child reachable active here found type place read named given resolved
    refine Holds.push ?_ (law.active_add _ child (apart _ mem_cons_self))
    refine Holds.push (created.pop.record (.childStarted ..) (fun _ steps => steps) fun other member =>
      (sound.below other member).symm) ?_
    have parent := law.active_add (.runCreated (env.uuid4 w.drawn) (some frame.run.id) false) active
      (apart _ mem_cons_self).symm
    exact law.report parent here (.childStarted (w := w) key _)
  | exceeded w frame stack => exact holds.finish sound _ (fun _ steps => steps) rfl
  | consume w stack run version id approval tool pendingTool waiting checked =>
    exact holds.record _ (fun _ steps => steps) fun other member => (sound.waiting_apart waiting other member).symm
  | resume w stack run version vars waiting granted =>
    have active := law.resume reachable (holds.rows _ _ waiting.row waiting.status) waiting granted
    exact (holds.changeRun _ _ fun _ _ status => by cases status).push active
  | reject w stack run version approval rejection continuation waiting status rejected stops =>
    refine Holds.changeRun (holds.record (.rejectionApplied ..) (fun _ steps => steps)
      fun other member => (sound.waiting_apart waiting other member).symm) _ _ fun row found open_ => ?_
    cases waiting.row.symm.trans found
    cases continuation with
    | requestChanges => exact law.requestChanges approval rejection (holds.rows _ _ waiting.row waiting.status) waiting.status
    | routeTo target => cases stops
    | finish ended =>
      have busy := terminal_busy ended stops
      simp [show ended.resumable = true from open_] at busy
  | reroute w stack run version approval rejection config target waiting status rejected read routed =>
    have active := law.reroute approval rejection reachable (holds.rows _ _ waiting.row waiting.status) waiting read
      routed
    exact Holds.push ((holds.changeRun _ _ fun _ _ status => by cases status).record _ (fun _ steps => steps)
      fun other member => (sound.waiting_apart waiting other member).symm) active
  | visit w frame budget stack cursor node here =>
    have others := apart_of_sound sound mem_cons_self
    refine Holds.push ⟨?_, holds.saved.lose _, fun other member => ?_⟩ (law.visit (holds.stack _ mem_cons_self) here)
    · exact holds.rows.add _ fun id run found status same => others id run found status same.symm
    · exact law.active_add _ (holds.stack _ (mem_cons_of_mem _ member)) (sound.below other member).symm
  | report w frame budget visit stack cursor node event here reports =>
    exact (holds.finish sound event reports.quiet reports.run).push
      (law.report (holds.stack _ mem_cons_self) here reports)
  | branch w frame budget visit visit' stack cursor node here changed =>
    exact holds.pop.push (law.branch (holds.stack _ mem_cons_self) here changed)
  | pause w frame budget visit stack cursor node outcome status here effect stops =>
    refine (holds.finish sound (.stepFinished ..) (fun _ steps => steps) rfl).changeRun _ _ fun row found open_ => ?_
    have same := (occupied_row sound mem_cons_self found).2
    exact law.pause reachable (holds.stack _ mem_cons_self) here effect stops open_ same
  | fail w frame budget visit stack cursor node outcome here effect goes failed =>
    exact (holds.finish sound (.stepFinished ..) (fun _ steps => steps) rfl).changeRun _ _
      fun _ _ status => by cases status
  | move w frame budget visit stack cursor node outcome here effect goes passed =>
    refine Holds.push ((holds.finish sound (.stepFinished ..) (fun _ steps => steps) rfl).changeRun _ _
      fun row found status => ?_) ?_
    · have busy := movedRow_occupied (frame.follow cursor outcome.vars) row
        (occupied_row sound mem_cons_self found).1
      simp [status] at busy
    · exact law.move reachable (holds.stack _ mem_cons_self) here effect goes passed
  | missing w frame budget stack cursor given named absent =>
    refine (holds.pop.changeRun _ _ fun _ _ status => by cases status).changeRun _ _ fun row found status => ?_
    have busy := leftRow_busy frame row (missing_busy found)
    simp [status] at busy
  | exhausted w frame budget stack cursor given named =>
    refine (holds.finish sound (.stepBudgetExhausted ..) (fun _ steps => steps) rfl).changeRun _ _
      fun row found status => ?_
    have busy := leftRow_busy frame row (occupied_row sound mem_cons_self found).1
    simp [status] at busy
  | ended w frame budget stack exhausted =>
    refine holds.pop.changeRun _ _ fun row found status => ?_
    have busy := leftRow_busy frame row (occupied_row sound mem_cons_self found).1
    simp [status] at busy
  | abandon w activation stack => exact holds.pop

theorem holds (law : Law env terms) {machine : Machine} (reachable : Reachable env terms machine) :
    law.Holds machine := by
  refine reachable.invariant ⟨?_, ?_, by simp⟩ fun _ _ earlier holds step => holds.step earlier step <;>
    exact fun id run found => by cases found

end Law

def LastStep (events : List Event) (runId nodeId : String) : Prop :=
  ∃ since version arrival vars earlier, Quiet since ∧
    ofRun runId events = since ++ .stepStarted runId version nodeId arrival vars :: earlier

variable {because : List Event → Event → Prop} {events : List Event} {event : Event} {newer older : List Event}
  {runId nodeId : String}

theorem LastStep.cons (last : LastStep events runId nodeId) (event : Event)
    (other : ¬ event.steps runId) : LastStep (event :: events) runId nodeId := by
  obtain ⟨since, version, arrival, vars, earlier, quiet, same⟩ := last
  by_cases mine : event.run = runId
  · have still : ∀ id, ¬ event.steps id := by
      intro id steps
      cases event <;> first | exact steps | exact other mine
    refine ⟨event :: since, version, arrival, vars, earlier, forall_mem_cons.mpr ⟨still, quiet⟩, ?_⟩
    rw [ofRun_cons events mine, same]
    rfl
  · exact ⟨since, version, arrival, vars, earlier, quiet, by rw [ofRun_cons_ne events mine, same]⟩

theorem LastStep.mem (last : LastStep events runId nodeId) :
    ∃ version arrival vars, Event.stepStarted runId version nodeId arrival vars ∈ events := by
  obtain ⟨since, version, arrival, vars, earlier, _, same⟩ := last
  exact ⟨version, arrival, vars, mem_of_ofRun (same ▸ mem_append_right _ mem_cons_self)⟩

theorem steps_run {runId : String} (steps : event.steps runId) : event.run = runId := by
  cases event <;> first | exact steps | cases steps

def placed : Law env terms where
  row annals run := ∃ cursor, run.currentNodeId = some cursor ∧ cursor ≠ "" ∧ LastStep annals.history run.id cursor
  active annals activation := activation.visit = none → activation.frame.arrival = .resumed →
    ∃ cursor, activation.frame.cursor = some cursor ∧ LastStep annals.history activation.frame.run.id cursor
  row_add event := fun ⟨cursor, here, named, last⟩ other => ⟨cursor, here, named, last.cons event other⟩
  row_lose _ := id
  active_add event holds other between again := by
    obtain ⟨cursor, here, last⟩ := holds between again
    exact ⟨cursor, here, last.cons event fun steps => other (steps_run steps)⟩
  start _ _ _ _ again := by cases again
  child _ _ _ _ _ _ _ _ _ _ _ again := by cases again
  resume _ := fun ⟨cursor, here, _, last⟩ _ _ _ _ => ⟨cursor, here, last⟩
  requestChanges _ _ := fun ⟨cursor, here, named, last⟩ _ =>
    ⟨cursor, by rw [rejectedRow, here]; rfl, named, last.cons _ fun steps => steps⟩
  reroute _ _ _ _ _ _ _ _ again := by cases again
  visit _ _ between := by cases between
  report _ _ _ between := by cases between
  branch _ _ _ between := by cases between
  pause {w frame budget visit stack cursor node outcome status row'} reachable _ here _ _ _ same := by
    obtain ⟨quiet, past, _, events⟩ := (reachable.chronicled.history _ List.mem_cons_self).stepped here
    refine ⟨cursor, rfl, here.named, LastStep.cons ?_ _ fun steps => steps⟩
    have mine : (pausedRow { frame with vars := outcome.vars } cursor status row').id = frame.run.id := identity_id same
    rw [mine]
    exact ⟨visit.own, frame.version, frame.arrival, frame.vars, past, quiet, events⟩
  move _ _ _ _ _ _ _ again := by cases again

theorem Reachable.placed {w : World} {stack : List Activation} {run : WorkflowRun} {version : WorkflowVersion}
    (reachable : Reachable env terms (w, stack)) (waiting : Waiting w run version) :
    ∃ cursor, run.currentNodeId = some cursor ∧ cursor ≠ "" ∧ LastStep w.db.history run.id cursor :=
  (Workflow.placed.holds reachable).rows _ _ waiting.row waiting.status

inductive Emission (env : Env) : Machine → Event → Prop
  | created (w : World) (stack : List Activation) (parent : Option String) (testMode : Bool) :
      Emission env (w, stack) (.runCreated (env.uuid4 w.drawn) parent testMode)
  | exceeded (w : World) (frame : Frame) (stack : List Activation) :
      Emission env (w, ⟨frame, 0, none⟩ :: stack) (.nestingExceeded frame.run.id frame.version.workflowId)
  | consumed (w : World) (stack : List Activation) (run : WorkflowRun) (version : WorkflowVersion) (id : String)
      (approval : ApprovalRequest) (tool : Option (String × Dict Json)) (pendingTool : Bool)
      (waiting : Waiting w run version)
      (checked : checkApprovalForNode env (w.db.approvals.get? id) run run.currentNodeId run.contextJson.vars
        pendingTool = .ok (approval, tool)) :
      Emission env (w, stack) (.approvalConsumed run.id (run.currentNodeId.getD "") approval tool)
  | rejected (w : World) (stack : List Activation) (run : WorkflowRun) (version : WorkflowVersion)
      (approval : ApprovalRequest) (waiting : Waiting w run version) (status : approval.status = .rejected) :
      Emission env (w, stack) (.rejectionApplied run.id run.currentNodeId approval)
  | visited (w : World) (frame : Frame) (budget : Nat) (stack : List Activation) (cursor : String) (node : Json)
      (here : At frame cursor node) :
      Emission env (w, ⟨frame, budget, none⟩ :: stack)
        (.stepStarted frame.run.id frame.version cursor frame.arrival frame.vars)
  | reported (w : World) (frame : Frame) (budget : Nat) (visit : Visit) (stack : List Activation) (cursor : String)
      (node : Json) (event : Event) (here : At frame cursor node)
      (reports : Reports env w frame cursor node visit event) :
      Emission env (w, ⟨frame, budget, some visit⟩ :: stack) event
  | finished (w : World) (frame : Frame) (budget : Nat) (visit : Visit) (stack : List Activation) (cursor : String)
      (node : Json) (outcome : NodeOutcome) (here : At frame cursor node)
      (effect : NodeEffect frame cursor node visit outcome) :
      Emission env (w, ⟨frame, budget, some visit⟩ :: stack)
        (.stepFinished frame.run.id cursor (nodeTypeText node) outcome.status)
  | exhausted (w : World) (frame : Frame) (budget : Nat) (stack : List Activation) (cursor : String)
      (given : frame.cursor = some cursor) (named : cursor ≠ "") :
      Emission env (w, ⟨frame, budget, none⟩ :: stack) (.stepBudgetExhausted frame.run.id cursor)

def Justified (because : List Event → Event → Prop) : List Event → Prop
  | [] => True
  | event :: older => because older event ∧ Justified because older

theorem Justified.since (justified : Justified because (newer ++ older)) : Justified because older := by
  induction newer with
  | nil => exact justified
  | cons _ rest ih => exact ih justified.2

theorem Justified.at
    (justified : Justified because (newer ++ event :: older)) : because older event := justified.since.1

theorem Justified.mem
    (justified : Justified because events) (member : event ∈ events) : ∃ older, older ⊆ events ∧ because older event := by
  obtain ⟨newer, older, rfl⟩ := append_of_mem member
  exact ⟨older, fun _ inside => mem_append_right _ (mem_cons_of_mem _ inside), justified.at⟩

def Recorded (logged kept : List Event → Event → Prop) (w : World) : Prop :=
  Justified logged w.log ∧ Justified kept w.db.history ∧ Justified kept w.committed.history

theorem Reachable.recorded {logged kept : List Event → Event → Prop} {machine : Machine}
    (reachable : Reachable env terms machine)
    (reason : ∀ w stack event, Reachable env terms (w, stack) → Emission env (w, stack) event →
      logged w.log event ∧ kept w.db.history event)
    (child : ∀ events run node key id, logged events (.childStarted run node key id) ∧
      kept events (.childStarted run node key id)) :
    Recorded logged kept machine.1 := by
  induction reachable with
  | refl => exact ⟨trivial, trivial, trivial⟩
  | @tail before after earlier step recorded => ?_
  have emits : ∀ {event}, Emission env before event → Recorded logged kept (before.1.record event) := by
    intro event emission
    have given := reason before.1 before.2 event earlier emission
    exact ⟨⟨given.1, recorded.1⟩, ⟨given.2, recorded.2.1⟩, recorded.2.2⟩
  cases step with
  | aside | tick | branch | abandon | resume | missing | ended => exact recorded
  | commit => exact ⟨recorded.1, recorded.2.1, recorded.2.1⟩
  | rollback => exact ⟨recorded.1, recorded.2.2, recorded.2.2⟩
  | changed w change possible fits same =>
    have kept : ∀ db : Db, (change.apply db).history = db.history := by
      intro db
      cases change <;> rfl
    simpa only [Recorded, kept] using recorded
  | start w new definition version => exact emits (.created ..)
  | startChild w frame budget visit stack cursor key workflowId node childNode config input definition version =>
    have created := emits (.created w _ (some frame.run.id) false)
    exact ⟨⟨(child _ _ _ _ _).1, created.1⟩, ⟨(child _ _ _ _ _).2, created.2.1⟩, created.2.2⟩
  | exceeded w frame stack => exact emits (.exceeded ..)
  | consume w stack run version id approval tool pendingTool waiting checked =>
    exact emits (.consumed w stack run version id approval tool pendingTool waiting checked)
  | reject w stack run version approval rejection continuation waiting status rejected stops =>
    exact emits (.rejected w stack run version approval waiting rejected)
  | reroute w stack run version approval rejection config target waiting status rejected read routed =>
    exact emits (.rejected w stack run version approval waiting rejected)
  | visit w frame budget stack cursor node here => exact emits (.visited w frame budget stack cursor node here)
  | report w frame budget visit stack cursor node event here reports =>
    exact emits (.reported w frame budget visit stack cursor node event here reports)
  | pause w frame budget visit stack cursor node outcome status here effect stops =>
    exact emits (.finished w frame budget visit stack cursor node outcome here effect)
  | fail w frame budget visit stack cursor node outcome here effect goes failed =>
    exact emits (.finished w frame budget visit stack cursor node outcome here effect)
  | move w frame budget visit stack cursor node outcome here effect goes passed =>
    exact emits (.finished w frame budget visit stack cursor node outcome here effect)
  | exhausted w frame budget stack cursor given named => exact emits (.exhausted w frame budget stack cursor given named)

theorem Reachable.accounted {w : World} {stack : List Activation} (reachable : Reachable env terms (w, stack)) (source : events = w.log ∨ events = w.db.history)
    (reason : ∀ w stack event events, Reachable env terms (w, stack) → Emission env (w, stack) event →
      (events = w.log ∨ events = w.db.history) → because events event)
    (child : ∀ events run node key id, because events (.childStarted run node key id)) : Justified because events := by
  have recorded : Recorded because because w := by
    refine reachable.recorded (fun w stack event earlier emission => ?_) fun _ _ _ _ _ => ⟨child .., child ..⟩
    exact ⟨reason _ _ _ _ earlier emission (.inl rfl), reason _ _ _ _ earlier emission (.inr rfl)⟩
  rcases source with rfl | rfl
  · exact recorded.1
  · exact recorded.2.1

end Troop.Workflow
