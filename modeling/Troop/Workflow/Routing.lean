import Troop.Workflow.Tables
import Troop.Workflow.Refinement

namespace Troop.Workflow

open List

variable {env : Env} {terms : Terms}

def Unrouted (vars : Dict Json) : Prop := (vars.get "_router_target").truthy = false

def unroutedTerms : Terms := .supplying Unrouted fun _ => True

def Edge (version : WorkflowVersion) (source target : String) : Prop :=
  ∃ edge ∈ version.edgesJson, edgeEnd edge "from" = some source ∧ edgeEnd edge "to" = some target

def RouterSelects (version : WorkflowVersion) (source : String) (vars : Dict Json) (target : String) : Prop :=
  ∃ node outcome, (nodesById version.nodesJson).get? source = some node ∧ nodeType node = some .router ∧
    executeRouterNode node source (version.edgesJson.filter isObj) vars = .ok outcome ∧
    Dict.get outcome.output "selected" = .str target

def RejectRoute (version : WorkflowVersion) (source target : String) : Prop :=
  ∃ config, nodeConfig ((currentNode version.nodesJson (some source)).getD .null) = .ok config ∧
    continuationOf config = .routeTo target

/-- Why a step is at its node, from the events before it. A move has the step it leaves right before
    it, with nothing but that step's own reports between them. -/
def Arrived (older : List Event) (runId : String) (version : WorkflowVersion) (nodeId : String) : Arrival → Prop
  | .start => version.entryNodeId = some nodeId ∧
      ∃ parent testMode, ofRun runId older = [.runCreated runId parent testMode]
  | .resumed => ∃ other arrival vars, Event.stepStarted runId other nodeId arrival vars ∈ older
  | .followed source => ∃ type own arrival vars earlier, Quiet own ∧
      ofRun runId older = .stepFinished runId source type .succeeded ::
        (own ++ .stepStarted runId version source arrival vars :: earlier) ∧
      (Edge version source nodeId ∨ RouterSelects version source vars nodeId)
  | .rejected source => ∃ approval earlier, ofRun runId older = .rejectionApplied runId (some source) approval :: earlier ∧
      RejectRoute version source nodeId

theorem truthy_str {text : String} (named : text ≠ "") : (Json.str text).truthy = true := by simp [Json.truthy, named]

variable {stack : List Activation} {events : List Event} {node : Json} {w : World} {vars : Dict Json} {target : String}
  {outcome : NodeOutcome} {frame : Frame} {cursor : String} {version : WorkflowVersion} {edges : List Json}
  {visit : Visit}

theorem routerOutcome_selected {nodeId : String} (executed : executeRouterNode node nodeId edges vars = .ok outcome) :
    outcome.vars = vars ∨ ∃ target, Dict.get outcome.output "selected" = .str target ∧
      outcome.vars = vars.set "_router_target" (.str target) := by
  unfold executeRouterNode at executed
  simp only [bind, Except.bind] at executed
  split at executed
  · cases executed
  split at executed
  · cases executed
  split at executed
  · cases executed
  rename_i chosen _
  cases executed
  by_cases none : chosen.1 = ""
  · exact .inl (by simp [succeeded, none])
  · exact .inr ⟨chosen.1, by simp [succeeded, none, Dict.get, Dict.get?_cons], by simp [succeeded, none]⟩

theorem successor_edge {current next : String}
    (found : successor (version.edgesJson.filter isObj) current vars = some next) : Edge version current next := by
  have among : ∀ edge ∈ outgoing (version.edgesJson.filter isObj) current,
      edge ∈ version.edgesJson ∧ edgeEnd edge "from" = some current := by
    intro edge member
    simp only [outgoing, mem_filter, decide_eq_true_eq] at member
    exact ⟨member.1.1, member.2⟩
  unfold successor at found
  split at found
  · cases found
  rename_i first rest same
  rw [same] at among
  have chosen : ∀ edge, edge ∈ first :: rest → edgeEnd edge "to" = some next → Edge version current next :=
    fun edge member ends => ⟨edge, (among edge member).1, (among edge member).2, ends⟩
  split at found
  · exact chosen first mem_cons_self found
  · generalize vars.get "_last_condition" = cond at found
    cases picked : (first :: rest).find? (edgeOfBranch cond) with
    | none => simp_all
    | some edge => grind

theorem nextNode_unrouted {current : String} (unrouted : Unrouted vars) :
    (nextNode current edges vars).1 = successor edges current (vars.pop "_router_target") := by
  have off : (vars.get "_router_target").truthy = false := unrouted
  simp [nextNode, off]

theorem follow_target {cursor target : String}
    (here : At frame cursor node) (effect : NodeEffect frame cursor node visit outcome)
    (before : Unrouted frame.vars) (after : nodeType node ≠ some .router → Unrouted outcome.vars)
    (next : (frame.follow cursor outcome.vars).cursor = some target) :
    Edge frame.version cursor target ∨ RouterSelects frame.version cursor frame.vars target := by
  have along : Unrouted outcome.vars → Edge frame.version cursor target := by
    intro unrouted
    exact successor_edge ((nextNode_unrouted unrouted).symm.trans next)
  by_cases router : nodeType node = some .router
  · rw [NodeEffect, router] at effect
    rcases routerOutcome_selected effect with same | ⟨chosen, selected, same⟩
    · exact .inl (along (same ▸ before))
    by_cases none : chosen = ""
    · refine .inl (along ?_)
      rw [Unrouted, same, Dict.get_set_self, none]
      rfl
    · refine .inr ⟨node, outcome, here.found, router, effect, ?_⟩
      have goes : (frame.follow cursor outcome.vars).cursor = some chosen := by
        simp [Frame.follow, nextNode, same, truthy_str none, Json.pyStr]
      simp_all
  · exact .inl (along (after router))

theorem unrouted_merged {merged : Dict Json} (given : Merged unroutedTerms merged) : Unrouted merged := by
  rcases given with rfl | ⟨row, fits, rfl⟩
  · rfl
  · exact fits

theorem Unrouted.effect (unrouted : Unrouted frame.vars)
    (reachable : Reachable env unroutedTerms (w, stack)) (known : visit.own ⊆ w.log)
    (effect : NodeEffect frame cursor node visit outcome) (other : nodeType node ≠ some .router) :
    Unrouted outcome.vars := by
  refine effect.falsy reachable known (fun _ => unrouted_merged) ?_ unrouted
  intro written
  have apart : ¬ "trigger_" ++ cursor = "_router_target" := prefixed_ne (by decide)
  have apart' : ¬ "tool_result_" ++ cursor = "_router_target" := prefixed_ne (by decide)
  have apart'' : ¬ "agent_output_" ++ cursor = "_router_target" := prefixed_ne (by decide)
  cases type : nodeType node with
  | none => simp [writtenKeys, type] at written
  | some kind => cases kind <;> simp_all [writtenKeys, eq_comm]

def unrouted : Law env unroutedTerms where
  row _ run := Unrouted run.contextJson.vars
  active _ activation := Unrouted activation.frame.vars
  row_add _ holds _ := holds
  row_lose _ holds := holds
  active_add _ holds _ := holds
  start _ _ fits := fits
  child _ holds _ _ _ _ _ _ given _ := by
    rw [Unrouted] at holds ⊢
    exact (congrArg Json.truthy (given.get (by decide))).trans holds
  resume _ holds _ granted := by
    rw [Unrouted] at holds ⊢
    exact (congrArg Json.truthy (granted.get (by decide))).trans holds
  requestChanges _ rejection holds _ := by
    rw [Unrouted, requestChanges_vars, Dict.get_set_of_ne _ _ (by decide)]
    exact rejectedVars_falsy rejection (by decide) holds
  reroute _ rejection _ holds _ _ _ := rejectedVars_falsy rejection (by decide) holds
  visit holds _ := holds
  report holds _ _ := holds
  branch holds _ _ := holds
  pause reachable holds _ effect stops _ _ := by
    have known := (reachable.chronicled.log _ List.mem_cons_self).owned
    refine Unrouted.effect holds reachable known effect fun router => ?_
    rw [NodeEffect, router] at effect
    obtain ⟨selected, output, rfl⟩ := routerOutcome_vars effect
    cases stops
  move _ _ _ _ _ _ := by
    rw [follow_vars, Unrouted, Dict.get_pop_self]
    rfl

def Moves (older : List Event) : Event → Prop
  | .stepStarted runId version nodeId arrival vars => Unrouted vars ∧ Arrived older runId version nodeId arrival
  | .rejectionApplied runId nodeId _ => ∃ source, nodeId = some source ∧
      ∃ version arrival vars, Event.stepStarted runId version source arrival vars ∈ older
  | _ => True

theorem rejectRoute_of_waiting {run : WorkflowRun} {config : Dict Json}
    (read : nodeConfig (waitingNode run version) = .ok config) (routed : continuationOf config = .routeTo target) :
    ∃ source, run.currentNodeId = some source ∧ RejectRoute version source target := by
  cases here : run.currentNodeId with
  | none =>
    have empty : config = [] := by
      simp only [waitingNode, here, currentNode, Option.getD_none] at read
      cases read
      rfl
    have stops : continuationOf [] = .finish .failed := by decide
    simp [empty, stops] at routed
  | some source =>
    refine ⟨source, rfl, config, ?_, routed⟩
    rwa [waitingNode, here] at read

theorem Came.arrived (reachable : Reachable env unroutedTerms (w, stack)) (known : events ⊆ w.log)
    (begun : ∀ runId version nodeId arrival vars, Event.stepStarted runId version nodeId arrival vars ∈ events →
      Unrouted vars)
    (again : frame.arrival = .resumed →
      ∃ version arrival vars, Event.stepStarted frame.run.id version cursor arrival vars ∈ events)
    (here : At frame cursor node) (came : Came (ofRun frame.run.id events) frame) :
    Arrived events frame.run.id frame.version cursor frame.arrival := by
  cases came with
  | started id new definition version fresh same =>
    subst same
    exact ⟨here.reached, _, _, fresh⟩
  | resumed run version vars granted same =>
    subst same
    exact again rfl
  | followed prior source other visit outcome rest there effect goes passed quiet left same =>
    subst same
    simp only [follow_run, follow_version, follow_arrival] at left ⊢
    have step := mem_of_ofRun (left ▸ mem_cons_of_mem _ (mem_append_right _ mem_cons_self))
    have before : Unrouted prior.vars := begun _ _ _ _ _ step
    have owned : visit.own ⊆ w.log := fun _ member =>
      known (mem_of_ofRun (left ▸ mem_cons_of_mem _ (mem_append_left _ member)))
    have after : nodeType other ≠ some .router → Unrouted outcome.vars := before.effect reachable owned effect
    rw [effect.goes goes passed] at left
    exact ⟨nodeTypeText other, visit.own, prior.arrival, prior.vars, rest, quiet, left,
      follow_target there effect before after here.reached⟩
  | rejected run version approval rejection config target rest read routed applied same =>
    subst same
    obtain ⟨source, current, route⟩ := rejectRoute_of_waiting read routed
    have target : target = cursor := Option.some.inj here.reached
    subst target
    rw [current] at applied
    rw [current]
    exact ⟨approval, rest, applied, route⟩

theorem placed_before {budget : Nat} (reachable : Reachable env terms (w, ⟨frame, budget, none⟩ :: stack))
    (source : events = w.log ∨ events = w.db.history) (here : At frame cursor node) (again : frame.arrival = .resumed) :
    ∃ version arrival vars, Event.stepStarted frame.run.id version cursor arrival vars ∈ events := by
  obtain ⟨other, reached, last⟩ := (placed.holds reachable).stack _ mem_cons_self rfl again
  cases here.reached.symm.trans reached
  obtain ⟨version, arrival, vars, begun⟩ := last.mem
  rcases source with rfl | rfl
  · exact ⟨version, arrival, vars, reachable.sound.history begun⟩
  · exact ⟨version, arrival, vars, begun⟩

theorem Reachable.steps_unrouted
    (reachable : Reachable env unroutedTerms (w, stack)) (source : events = w.log ∨ events = w.db.history) :
    ∀ runId version nodeId arrival vars, Event.stepStarted runId version nodeId arrival vars ∈ events →
      Unrouted vars := by
  have justified : Justified (fun _ event => ∀ runId version nodeId arrival vars,
      event = .stepStarted runId version nodeId arrival vars → Unrouted vars) events := by
    refine reachable.accounted source ?_ fun _ _ _ _ _ _ _ _ _ _ same => by cases same
    rintro w stack event events earlier emission source runId version nodeId arrival vars rfl
    cases emission with
    | visited w frame budget stack cursor node here => exact (unrouted.holds earlier).stack _ mem_cons_self
    | reported w frame budget visit stack cursor node event here reports => cases reports
  intro runId version nodeId arrival vars member
  obtain ⟨_, _, given⟩ := justified.mem member
  exact given _ _ _ _ _ rfl

theorem Reachable.moves
    (reachable : Reachable env unroutedTerms (w, stack)) (source : events = w.log ∨ events = w.db.history) :
    Justified Moves events := by
  refine reachable.accounted source ?_ fun _ _ _ _ _ => trivial
  intro w stack event events earlier emission source
  have known : events ⊆ w.log := by
    rcases source with rfl | rfl
    · exact Subset.refl _
    · exact earlier.sound.history
  cases emission with
  | visited w frame budget stack cursor node here =>
    have came : Traced events ⟨frame, budget, none⟩ := by
      rcases source with rfl | rfl
      · exact earlier.chronicled.log.top
      · exact earlier.chronicled.history.top
    refine ⟨(unrouted.holds earlier).stack _ mem_cons_self, ?_⟩
    exact Came.arrived earlier known (earlier.steps_unrouted source) (placed_before earlier source here) here came
  | rejected w stack run version approval waiting status =>
    obtain ⟨cursor, here, _, last⟩ := earlier.placed waiting
    refine ⟨cursor, here, ?_⟩
    obtain ⟨other, arrival, vars, begun⟩ := last.mem
    rcases source with rfl | rfl
    · exact ⟨other, arrival, vars, earlier.sound.history begun⟩
    · exact ⟨other, arrival, vars, begun⟩
  | reported w frame budget visit stack cursor node event here reports => cases reports <;> trivial
  | created | exceeded | consumed | finished | exhausted => trivial

inductive Move (events : List Event) (runId source target : String) : Prop
  | edge (version : WorkflowVersion) (nodeId : String) (arrival : Arrival) (vars : Dict Json)
      (interpreted : Event.stepStarted runId version nodeId arrival vars ∈ events) (edge : Edge version source target)
  | selected (version : WorkflowVersion) (arrival : Arrival) (vars : Dict Json)
      (executed : Event.stepStarted runId version source arrival vars ∈ events)
      (selects : RouterSelects version source vars target)
  | rejected (version : WorkflowVersion) (nodeId : String) (arrival : Arrival) (vars : Dict Json)
      (approval : ApprovalRequest) (interpreted : Event.stepStarted runId version nodeId arrival vars ∈ events)
      (applied : Event.rejectionApplied runId (some source) approval ∈ events)
      (route : RejectRoute version source target)

def Passed (events : List Event) (runId nodeId : String) : Prop :=
  (∃ type, Event.stepFinished runId nodeId type .succeeded ∈ events) ∨
    ∃ approval, Event.rejectionApplied runId (some nodeId) approval ∈ events

def Around (events : List Event) (runId gate nodeId : String) : Prop :=
  ∃ version entry vars, Event.stepStarted runId version entry .start vars ∈ events ∧
    version.entryNodeId = some entry ∧
    Relation.ReflTransGen (fun source target => source ≠ gate ∧ Move events runId source target) entry nodeId

theorem Move.mono {events more : List Event} {runId source target : String} (move : Move events runId source target)
    (subset : events ⊆ more) : Move more runId source target := by
  cases move with
  | edge version nodeId arrival vars interpreted edge => exact .edge version nodeId arrival vars (subset interpreted) edge
  | selected version arrival vars executed selects => exact .selected version arrival vars (subset executed) selects
  | rejected version nodeId arrival vars approval interpreted applied route =>
    exact .rejected version nodeId arrival vars approval (subset interpreted) (subset applied) route

theorem Around.mono {events more : List Event} {runId gate nodeId : String} (around : Around events runId gate nodeId)
    (subset : events ⊆ more) : Around more runId gate nodeId := by
  obtain ⟨version, entry, vars, started, same, path⟩ := around
  refine ⟨version, entry, vars, subset started, same, Relation.ReflTransGen.mono ?_ _ _ path⟩
  exact fun _ _ step => ⟨step.1, step.2.mono subset⟩

theorem Around.tail {runId gate source target : String} (around : Around events runId gate source)
    (other : source ≠ gate) (move : Move events runId source target) : Around events runId gate target := by
  obtain ⟨version, entry, vars, started, same, path⟩ := around
  exact ⟨version, entry, vars, started, same, path.tail ⟨other, move⟩⟩

theorem Justified.around (justified : Justified Moves events) {runId gate : String}
    (missed : ¬ Passed events runId gate) :
    ∀ version nodeId arrival vars, Event.stepStarted runId version nodeId arrival vars ∈ events →
      Around events runId gate nodeId := by
  induction events with
  | nil => exact fun _ _ _ _ member => by cases member
  | cons event older ih =>
    have later : older ⊆ event :: older := subset_cons_self _ _
    have missedBefore : ¬ Passed older runId gate := fun passed => missed
      (passed.imp (fun ⟨type, member⟩ => ⟨type, later member⟩) fun ⟨approval, member⟩ => ⟨approval, later member⟩)
    have before := ih justified.2 missedBefore
    intro version nodeId arrival vars member
    rcases mem_cons.mp member with same | member
    · have reason := justified.1
      rw [← same] at reason missed ⊢
      have here : Event.stepStarted runId version nodeId arrival vars ∈
          Event.stepStarted runId version nodeId arrival vars :: older := mem_cons_self
      cases arrival with
      | start => exact ⟨version, nodeId, vars, here, reason.2.1, .refl⟩
      | resumed =>
        obtain ⟨other, arrival, vars, begun⟩ := reason.2
        exact (before _ _ _ _ begun).mono (subset_cons_self _ _)
      | followed source =>
        obtain ⟨type, own, arrival, past, earlier, _, left, moved⟩ := reason.2
        have finished : Event.stepFinished runId source type .succeeded ∈ older :=
          mem_of_ofRun (left ▸ mem_cons_self)
        have step := mem_of_ofRun (left ▸ mem_cons_of_mem _ (mem_append_right _ mem_cons_self))
        refine ((before _ _ _ _ step).mono (subset_cons_self _ _)).tail ?_ ?_
        · rintro rfl
          exact missedBefore (.inl ⟨type, finished⟩)
        · rcases moved with edge | selects
          · exact .edge version nodeId _ vars here edge
          · exact .selected version arrival past (mem_cons_of_mem _ step) selects
      | rejected source =>
        obtain ⟨approval, earlier, applied, route⟩ := reason.2
        have rejected : Event.rejectionApplied runId (some source) approval ∈ older :=
          mem_of_ofRun (applied ▸ mem_cons_self)
        obtain ⟨_, subset, cause, named, other, arrival, past, begun⟩ := justified.2.mem rejected
        cases named
        refine ((before _ _ _ _ (subset begun)).mono (subset_cons_self _ _)).tail ?_ ?_
        · rintro rfl
          exact missedBefore (.inr ⟨approval, rejected⟩)
        · exact .rejected version nodeId _ vars approval here (mem_cons_of_mem _ rejected) route
    · exact (before _ _ _ _ member).mono later

theorem Reachable.resumes (reachable : Reachable env terms (w, stack)) :
    Justified (fun older event => ∀ runId version nodeId vars,
      event = .stepStarted runId version nodeId .resumed vars → LastStep older runId nodeId) w.db.history := by
  have recorded : Recorded (fun _ _ => True) (fun older event => ∀ runId version nodeId vars,
      event = .stepStarted runId version nodeId .resumed vars → LastStep older runId nodeId) w := by
    refine reachable.recorded ?_ fun _ _ _ _ _ => ⟨trivial, fun _ _ _ _ same => by cases same⟩
    refine fun w stack event earlier emission => ⟨trivial, fun runId version nodeId vars same => ?_⟩
    cases emission with
    | visited w frame budget stack cursor node here =>
      obtain ⟨rfl, rfl, rfl, again, rfl⟩ := Event.stepStarted.inj same
      obtain ⟨other, reached, last⟩ := (Workflow.placed.holds earlier).stack _ mem_cons_self rfl again
      cases here.reached.symm.trans reached
      exact last
    | reported w frame budget visit stack cursor node event here reports => cases reports <;> cases same
    | created | exceeded | consumed | finished | exhausted | rejected => cases same
  exact recorded.2.1

/-- Control flow follows the graph when neither an input nor the output of an agent names a router
    target: every step is where an edge, the router's own decision or the reject route of a rejected
    gate led from the step before it, or starts the run, or repeats the step a pause interrupted; and
    no step is reached around a node that every such path leads through. -/
theorem control_flow_follows_graph {w : World} (run : Run env unroutedTerms w) :
    (∀ events newer older runId version nodeId arrival vars, events = w.log ∨ events = w.db.history →
      events = newer ++ .stepStarted runId version nodeId arrival vars :: older →
      Arrived older runId version nodeId arrival ∧
        ∀ gate, ¬ Around (.stepStarted runId version nodeId arrival vars :: older) runId gate nodeId →
          Passed older runId gate) ∧
    ∀ newer older runId version nodeId vars,
      w.db.history = newer ++ .stepStarted runId version nodeId .resumed vars :: older → LastStep older runId nodeId := by
  have reachable := run.reachable.1
  refine ⟨?_, ?_⟩
  · intro events newer older runId version nodeId arrival vars source split
    have justified := reachable.moves source
    rw [split] at justified
    refine ⟨justified.at.2, fun gate blocked => ?_⟩
    by_contra missed
    refine blocked (justified.since.around (fun passed => missed ?_) _ _ _ _ mem_cons_self)
    exact passed.imp (fun ⟨type, member⟩ => ⟨type, mem_of_ne_of_mem (by simp) member⟩)
      fun ⟨approval, member⟩ => ⟨approval, mem_of_ne_of_mem (by simp) member⟩
  · intro newer older runId version nodeId vars split
    have justified := reachable.resumes
    rw [split] at justified
    exact justified.at _ _ _ _ rfl

def gated : WorkflowVersion :=
  published "gated" [plainNode "draft" "agent" [], plainNode "gate" "approval" [], plainNode "send" "agent" []]
    [plainEdge "draft" "gate", plainEdge "gate" "send"] "draft"

def gatedWorld (input : Dict Json) : World :=
  World.after stillEnv (publishing gated ++ [.start (startOf "gated" input) "dev"]) {}

theorem gatedWorld_run {terms : Terms} (input : Dict Json)
    (definition : terms.changes (.definition (publishedDefinition gated))) (graph : terms.changes (.version gated))
    (good : terms.starts ((startOf "gated" input).production "dev")) : Run stillEnv terms (gatedWorld input) :=
  Run.init.after (publishing_possible definition graph ⟨trivial, good, trivial⟩)

theorem gate_follows_draft :
    Arrived [.stepFinished "r" "draft" "agent" .succeeded, .stepStarted "r" gated "draft" .start [],
      .runCreated "r" none false] "r" gated "gate" (.followed "draft") :=
  ((control_flow_follows_graph (gatedWorld_run [] trivial trivial rfl)).1 _
    [.stepFinished "r" "gate" "approval" .paused, .approvalRequested "r" "gate" "rr"] _ "r" gated "gate"
    (.followed "draft") [] (.inl rfl) (by decide +kernel)).1

def jumping : List Event :=
  [.stepFinished "r" "draft" "agent" .succeeded,
    .stepStarted "r" gated "draft" .start [("_router_target", .str "send")], .runCreated "r" none false]

theorem gated_edge (edge : Edge gated "draft" target) : target = "gate" := by
  obtain ⟨edge, member, leaves, ends⟩ := edge
  have only : ∀ edge ∈ gated.edgesJson, edgeEnd edge "from" = some "draft" → edgeEnd edge "to" = some "gate" := by decide
  exact Option.some.inj (ends.symm.trans (only edge member leaves))

theorem gated_selects : ¬ RouterSelects gated "draft" vars target := by
  rintro ⟨node, _, found, type, _⟩
  have agent : (nodesById gated.nodesJson).get? "draft" = some (plainNode "draft" "agent" []) := by decide
  cases agent.symm.trans found
  exact absurd type (by decide)

theorem jumping_move (move : Move (.stepStarted "r" gated "send" (.followed "draft") [] :: jumping)
    "r" "draft" target) : target = "gate" := by
  cases move with
  | edge version nodeId arrival vars interpreted edge =>
    have same : version = gated := by
      simp only [jumping, mem_cons, not_mem_nil, Event.stepStarted.injEq, reduceCtorEq, or_false,
        false_or] at interpreted
      rcases interpreted with ⟨_, same, _⟩ | ⟨_, same, _⟩ <;> exact same
    exact gated_edge (same ▸ edge)
  | selected version arrival vars executed selects =>
    have same : version = gated := by
      simp only [jumping, mem_cons, not_mem_nil, Event.stepStarted.injEq, reduceCtorEq, or_false, false_or] at executed
      rcases executed with ⟨_, same, _⟩ | ⟨_, same, _⟩ <;> exact same
    exact absurd (same ▸ selects) gated_selects
  | rejected version nodeId arrival vars approval interpreted applied route =>
    simp [jumping] at applied

theorem input_jumps_gate :
    Run stillEnv .any (gatedWorld [("_router_target", .str "send")]) ∧
      (gatedWorld [("_router_target", .str "send")]).log =
        [.stepFinished "r" "send" "agent" .succeeded] ++
          .stepStarted "r" gated "send" (.followed "draft") [] :: jumping ∧
      ¬ Arrived jumping "r" gated "send" (.followed "draft") ∧
      ¬ Around (.stepStarted "r" gated "send" (.followed "draft") [] :: jumping) "r" "gate" "send" ∧
      ¬ Passed jumping "r" "gate" := by
  refine ⟨gatedWorld_run _ trivial trivial trivial, by decide +kernel, ?_, ?_, by simp [Passed, jumping]⟩
  · rintro ⟨type, own, arrival, vars, earlier, _, _, edge | selects⟩
    · exact absurd (gated_edge edge) (by decide)
    · exact gated_selects selects
  · rintro ⟨version, entry, vars, started, enters, path⟩
    simp only [jumping, mem_cons, not_mem_nil, Event.stepStarted.injEq, reduceCtorEq, or_false, false_or,
      and_false, false_and] at started
    obtain ⟨_, _, rfl, _⟩ := started
    have within : ∀ nodeId, Relation.ReflTransGen (fun source target => source ≠ "gate" ∧
        Move (.stepStarted "r" gated "send" (.followed "draft") [] :: jumping) "r" source target) "draft" nodeId →
        nodeId = "draft" ∨ nodeId = "gate" := by
      intro nodeId path
      induction path with
      | refl => exact .inl rfl
      | tail _ step ih =>
        rcases ih with rfl | rfl
        · exact .inr (jumping_move step.2)
        · exact absurd rfl step.1
    exact absurd (within "send" path) (by decide)

end Troop.Workflow
