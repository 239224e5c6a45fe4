import Troop.Workflow.Tables
import Troop.Workflow.Tenancy

namespace Troop.Workflow

open List

variable {env : Env} {terms : Terms}

def Arrival.again : Arrival → Prop
  | .resumed | .rejected _ => True
  | .start | .followed _ => False

def Fixed (versions : Dict WorkflowVersion) (version : WorkflowVersion) (arrival : Arrival) : Prop :=
  ∃ raw, Overlaid raw version ∧ (arrival.again → version = raw) ∧
    (version.isPublished = true → versions.get? version.id = some raw)

def Rooted (versions : Dict WorkflowVersion) (version : WorkflowVersion) (arrival : Arrival) : Prop :=
  ∃ raw, Overlaid raw version ∧ (arrival.again → version = raw) ∧ versions.get? version.id = some raw

variable {stack : List Activation} {version : WorkflowVersion} {w : World} {events : List Event}
  {runId versionId : String} {activation : Activation} {arrival : Arrival}

theorem Rooted.fixed {versions : Dict WorkflowVersion}
    (rooted : Rooted versions version arrival) : Fixed versions version arrival := by
  obtain ⟨raw, overlaid, again, stored⟩ := rooted
  exact ⟨raw, overlaid, again, fun _ => stored⟩

theorem Overlaid.published {row version : WorkflowVersion} (overlaid : Overlaid row version) :
    version.isPublished = row.isPublished := by
  rw [overlaid.same]

theorem Resolved.rooted {new : NewRun} {definition : WorkflowDefinition} (resolved : Resolved new w definition version)
    (reachable : Reachable env terms (w, stack)) : Rooted w.db.versions version .start := by
  obtain ⟨key, raw, found, overlaid⟩ := resolved.overlaid
  have named : raw.id = key := (reachable.admitted.1.versions key raw found).1
  have same : version.id = key := overlaid.id.trans named
  exact ⟨raw, overlaid, fun again => again.elim, same ▸ found⟩

theorem Waiting.rooted {run : WorkflowRun}
    (waiting : Waiting w run version) (reachable : Reachable env terms (w, stack)) (arrival : Arrival) :
    Rooted w.db.versions version arrival := by
  have named := (reachable.admitted.1.versions _ _ waiting.version).1
  exact ⟨version, .refl version, fun _ => rfl, named ▸ waiting.version⟩

theorem Change.keeps {db : Db} {change : Change} (allowed : change.allowed db) {id : String} {raw : WorkflowVersion}
    (stored : db.versions.get? id = some raw) (published : raw.isPublished = true) :
    (change.apply db).versions.get? id = some raw := by
  cases change with
  | version row =>
    show (db.versions.set row.id row).get? id = some raw
    rw [Dict.get?_set]
    split
    · rename_i here
      have same : raw = row := allowed raw (here ▸ stored) published
      rw [same]
    · exact stored
  | user | definition | deployment | skill | skillVersion | approval | taskRun => exact stored

structure Grounded (machine : Machine) : Prop where
  saved : machine.1.committed.versions = machine.1.db.versions
  stack : ∀ activation ∈ machine.2,
    Rooted machine.1.db.versions activation.frame.version activation.frame.arrival
  events : ∀ run version nodeId arrival vars, Event.stepStarted run version nodeId arrival vars ∈ machine.1.log →
    Fixed machine.1.db.versions version arrival

theorem Grounded.record (grounded : Grounded (w, stack)) (event : Event)
    (fixed : ∀ run version nodeId arrival vars, event = .stepStarted run version nodeId arrival vars →
      Fixed w.db.versions version arrival) : Grounded (w.record event, stack) where
  saved := grounded.saved
  stack := grounded.stack
  events run version nodeId arrival vars member := by
    rcases mem_cons.mp member with same | member
    · exact fixed run version nodeId arrival vars same.symm
    · exact grounded.events run version nodeId arrival vars member

theorem Grounded.pop (grounded : Grounded (w, activation :: stack)) : Grounded (w, stack) :=
  ⟨grounded.saved, fun other member => grounded.stack other (mem_cons_of_mem _ member), grounded.events⟩

theorem Grounded.push (grounded : Grounded (w, stack))
    (rooted : Rooted w.db.versions activation.frame.version activation.frame.arrival) :
    Grounded (w, activation :: stack) :=
  ⟨grounded.saved, forall_mem_cons.mpr ⟨rooted, grounded.stack⟩, grounded.events⟩

theorem Grounded.changeRun (grounded : Grounded (w, stack)) (id : String)
    (change : WorkflowRun → WorkflowRun) : Grounded (w.changeRun id change, stack) :=
  ⟨grounded.saved, grounded.stack, grounded.events⟩

theorem Grounded.restart {w w' : World} (grounded : Grounded (w, stack))
    (versions : ∀ id raw, w.db.versions.get? id = some raw → raw.isPublished = true → w'.db.versions.get? id = some raw)
    (log : w'.log = w.log) (saved : w'.committed.versions = w'.db.versions) : Grounded (w', []) where
  saved := saved
  stack := by simp
  events run version nodeId arrival vars member := by
    rw [log] at member
    obtain ⟨raw, overlaid, again, stored⟩ := grounded.events run version nodeId arrival vars member
    refine ⟨raw, overlaid, again, fun published => ?_⟩
    exact versions _ raw (stored published) (overlaid.published ▸ published)

theorem Grounded.quiet (grounded : Grounded (w, stack)) (event : Event)
    (still : ∀ run, ¬ event.steps run) : Grounded (w.record event, stack) := by
  apply grounded.record
  rintro run version nodeId arrival vars rfl
  exact absurd rfl (still run)

theorem Grounded.finish (grounded : Grounded (w, stack)) (event : Event)
    (still : ∀ run, ¬ event.steps run) (id : String) (change : WorkflowRun → WorkflowRun) :
    Grounded ((w.record event).changeRun id change, stack) :=
  (grounded.quiet event still).changeRun id change

theorem Grounded.create (grounded : Grounded (w, stack)) (new : NewRun)
    (definition : WorkflowDefinition) (version : WorkflowVersion) :
    Grounded (w.create env new definition version, stack) := by
  have added := grounded.quiet (.runCreated (env.uuid4 w.drawn) new.parent new.testMode) fun _ steps => steps
  exact ⟨added.saved, added.stack, added.events⟩

theorem Grounded.step {before after : Machine} (grounded : Grounded before) (reachable : Reachable env terms before)
    (step : Step env terms before after) : Grounded after := by
  have top : ∀ {w : World} {activation : Activation} {stack : List Activation}, Grounded (w, activation :: stack) →
      Rooted w.db.versions activation.frame.version activation.frame.arrival :=
    fun grounded => grounded.stack _ mem_cons_self
  cases step with
  | aside | tick => exact ⟨grounded.saved, grounded.stack, grounded.events⟩
  | commit => exact ⟨rfl, grounded.stack, grounded.events⟩
  | rollback w =>
    have same : w.committed.versions = w.db.versions := grounded.saved
    exact grounded.restart (fun id raw stored _ => by rw [← same] at stored; exact stored) rfl rfl
  | changed w change possible fits same =>
    have versions : (change.apply w.committed).versions = (change.apply w.db).versions := by rw [same]
    exact grounded.restart (fun id raw stored published => change.keeps possible stored published) rfl versions
  | start w new definition version resolved fits root =>
    exact (grounded.create new definition version).push (resolved.rooted reachable)
  | startChild w frame budget visit stack cursor key workflowId node childNode config input definition version here
      found type place read named given resolved =>
    have rooted := top grounded
    have fresh := resolved.rooted reachable
    have created : Grounded (w.create env (childRequest frame.run workflowId input) definition version, stack) :=
      grounded.pop.create _ _ _
    have reported := created.quiet (.childStarted frame.run.id cursor key (env.uuid4 w.drawn)) fun _ steps => steps
    exact Grounded.push (Grounded.push reported rooted) fresh
  | exceeded => exact grounded.pop.quiet _ fun _ steps => steps
  | consume => exact grounded.quiet _ fun _ steps => steps
  | resume w stack run version vars waiting granted =>
    exact (grounded.changeRun _ _).push (waiting.rooted reachable .resumed)
  | reject => exact (grounded.changeRun _ _).quiet _ fun _ steps => steps
  | reroute w stack run version approval rejection config target waiting =>
    exact ((grounded.changeRun _ _).quiet (.rejectionApplied ..) fun _ steps => steps).push (waiting.rooted reachable (.rejected _))
  | visit w frame budget stack cursor node here =>
    have rooted := top grounded
    refine (Grounded.record grounded.pop _ ?_).push rooted
    rintro run version nodeId arrival vars same
    cases same
    exact rooted.fixed
  | report w frame budget visit stack cursor node event here reports =>
    have rooted := top grounded
    exact Grounded.push (grounded.pop.quiet event reports.quiet) rooted
  | branch =>
    have rooted := top grounded
    exact Grounded.push grounded.pop rooted
  | pause | fail => exact grounded.pop.finish (.stepFinished ..) (fun _ steps => steps) _ _
  | move w frame budget visit stack cursor node outcome here effect goes passed =>
    obtain ⟨raw, overlaid, _, stored⟩ := top grounded
    exact (grounded.pop.finish (.stepFinished ..) (fun _ steps => steps) _ _).push ⟨raw, overlaid, fun again => again.elim, stored⟩
  | missing => exact (grounded.pop.changeRun _ _).changeRun _ _
  | exhausted => exact grounded.pop.finish (.stepBudgetExhausted ..) (fun _ steps => steps) _ _
  | ended => exact grounded.pop.changeRun _ _
  | abandon => exact grounded.pop

theorem Reachable.grounded {machine : Machine} (reachable : Reachable env terms machine) : Grounded machine :=
  reachable.invariant ⟨rfl, by simp, fun _ _ _ _ _ member => by cases member⟩
    fun _ _ earlier grounded step => grounded.step earlier step

def OfVersion (events : List Event) (runId versionId : String) : Prop :=
  ∀ version nodeId arrival vars, Event.stepStarted runId version nodeId arrival vars ∈ events → version.id = versionId

theorem OfVersion.cons (kept : OfVersion events runId versionId)
    (event : Event) (other : ¬ event.steps runId) : OfVersion (event :: events) runId versionId := by
  intro version nodeId arrival vars member
  rcases mem_cons.mp member with same | member
  · rw [← same] at other
    exact absurd rfl other
  · exact kept version nodeId arrival vars member

theorem OfVersion.visit (kept : OfVersion events runId versionId) (named : version.id = versionId) (nodeId : String) (arrival : Arrival)
    (vars : Dict Json) : OfVersion (.stepStarted runId version nodeId arrival vars :: events) runId versionId := by
  intro other nodeId' arrival' vars' member
  rcases mem_cons.mp member with same | member
  · simp_all
  · exact kept other nodeId' arrival' vars' member

theorem OfVersion.fresh (reachable : Reachable env terms (w, stack))
    (versionId : String) : OfVersion w.db.history (env.uuid4 w.drawn) versionId := by
  intro version nodeId arrival vars member
  have none := ofRun_fresh reachable.sound reachable.sound.history
  have inside : Event.stepStarted (env.uuid4 w.drawn) version nodeId arrival vars ∈
      ofRun (env.uuid4 w.drawn) w.db.history := mem_ofRun.mpr ⟨member, rfl⟩
  simp [none] at inside

def versioned : Law env terms where
  row annals run := OfVersion annals.history run.id run.workflowVersionId
  active annals activation := activation.frame.version.id = activation.frame.run.workflowVersionId ∧
    OfVersion annals.history activation.frame.run.id activation.frame.run.workflowVersionId
  row_add event kept other := kept.cons event other
  row_lose _ kept := kept
  active_add event holds other := ⟨holds.1, holds.2.cons event fun steps => other (steps_run steps)⟩
  start reachable _ _ := ⟨rfl, (OfVersion.fresh reachable _).cons _ fun steps => steps⟩
  child reachable _ _ _ _ _ _ _ _ _ := ⟨rfl, (OfVersion.fresh reachable _).cons _ fun steps => steps⟩
  resume reachable kept waiting _ := ⟨(reachable.admitted.1.versions _ _ waiting.version).1, kept⟩
  requestChanges _ _ kept _ := kept.cons _ fun steps => steps
  reroute _ _ reachable kept waiting _ _ :=
    ⟨(reachable.admitted.1.versions _ _ waiting.version).1, kept.cons _ fun steps => steps⟩
  visit holds _ := ⟨holds.1, holds.2.visit holds.1 _ _ _⟩
  report holds _ reports := ⟨holds.1, holds.2.cons _ (reports.quiet _)⟩
  branch holds _ _ := holds
  pause {w frame budget visit stack cursor node outcome status row'} _ holds _ _ _ _ same := by
    have id : row'.id = frame.run.id := identity_id same
    have version : row'.workflowVersionId = frame.run.workflowVersionId := congrArg (fun ids => ids.2.2) same
    show OfVersion _ row'.id row'.workflowVersionId
    rw [id, version]
    exact holds.2.cons _ fun steps => steps
  move _ holds _ _ _ _ := ⟨holds.1, holds.2.cons _ fun steps => steps⟩

def Continues (older : List Event) : Event → Prop
  | .stepStarted runId version _ arrival _ =>
    (∀ earlier nodeId again vars, Event.stepStarted runId earlier nodeId again vars ∈ older →
      arrival ≠ .start ∧ earlier.id = version.id ∧
        (arrival.again → earlier.isPublished = true → version.isPublished = true)) ∧
    ∀ source, arrival = .followed source → ∃ again vars, Event.stepStarted runId version source again vars ∈ older
  | _ => True

theorem Reachable.continues (reachable : Reachable env terms (w, stack)) :
    Justified Continues w.db.history := by
  have recorded : Recorded (fun _ _ => True) Continues w := by
    refine reachable.recorded (fun w stack event earlier emission => ⟨trivial, ?_⟩) fun _ _ _ _ _ => ⟨trivial, trivial⟩
    cases emission with
    | visited w frame budget stack cursor node here =>
      have held := (versioned.holds earlier).stack _ mem_cons_self
      have traced : Came (ofRun frame.run.id w.db.history) frame := earlier.chronicled.history.top
      obtain ⟨raw, overlaid, again, stored⟩ := earlier.grounded.stack _ mem_cons_self
      constructor
      · intro before nodeId arrival vars member
        have same : before.id = frame.version.id := (held.2 _ _ _ _ member).trans held.1.symm
        refine ⟨fun started => ?_, same, fun repeated published => ?_⟩
        · have inside : Event.stepStarted frame.run.id before nodeId arrival vars ∈ ofRun frame.run.id w.db.history :=
            mem_ofRun.mpr ⟨member, rfl⟩
          cases traced with
          | started id new definition version fresh same => simp [fresh] at inside
          | resumed run version vars granted same => subst same; cases started
          | followed prior source other visit outcome rest there effect goes passed quiet left same =>
            subst same; cases started
          | rejected run version approval rejection config target rest read routed applied same =>
            subst same; cases started
        · obtain ⟨raw', overlaid', _, stored'⟩ := earlier.grounded.events _ _ _ _ _ (earlier.sound.history member)
          have both : raw = raw' := by simp_all
          rwa [overlaid.published, both, ← overlaid'.published]
      · intro source moved
        cases traced with
        | started id new definition version fresh same => subst same; cases moved
        | resumed run version vars granted same => subst same; cases moved
        | rejected run version approval rejection config target rest read routed applied same => subst same; cases moved
        | followed prior other node visit outcome rest there effect goes passed quiet left same =>
          subst same
          cases moved
          exact ⟨_, _, mem_of_ofRun (left ▸ mem_cons_of_mem _ (mem_append_right _ mem_cons_self))⟩
    | reported w frame budget visit stack cursor node event here reports => cases reports <;> trivial
    | created | exceeded | consumed | rejected | finished | exhausted => trivial
  exact recorded.2.1

def Stepped (events : List Event) (runId : String) (version : WorkflowVersion) (arrival : Arrival) : Prop :=
  ∃ nodeId vars, Event.stepStarted runId version nodeId arrival vars ∈ events

def Split (events : List Event) (runId : String) : Prop :=
  ∃ version arrival, Stepped events runId version arrival ∧ arrival.again

theorem Stepped.cons {runId : String} (stepped : Stepped events runId version arrival) (event : Event) :
    Stepped (event :: events) runId version arrival := by
  obtain ⟨nodeId, vars, member⟩ := stepped
  exact ⟨nodeId, vars, mem_cons_of_mem _ member⟩

theorem Justified.steps (justified : Justified Continues events) {runId : String}
    {start raw : WorkflowVersion} (published : start.isPublished = true)
    (settles : ∀ version arrival, Stepped events runId version arrival → arrival.again → version.isPublished = true →
      version.id = start.id → version = raw)
    (started : Stepped events runId start .start) :
    ∀ version arrival, Stepped events runId version arrival → version = start ∨ version = raw ∧ Split events runId := by
  induction events with
  | nil =>
    obtain ⟨nodeId, vars, member⟩ := started
    cases member
  | cons event older ih =>
    have later : Stepped older runId start .start → ∀ version arrival, Stepped older runId version arrival →
        version = start ∨ version = raw ∧ Split (event :: older) runId := by
      intro begun version arrival stepped
      have known := ih justified.2 (fun version arrival stepped => settles version arrival (stepped.cons event)) begun
        version arrival stepped
      rcases known with same | ⟨same, other, again, split, repeated⟩
      · exact .inl same
      · exact .inr ⟨same, other, again, split.cons event, repeated⟩
    intro version arrival stepped
    obtain ⟨nodeId, vars, member⟩ := stepped
    obtain ⟨entry, given, first⟩ := started
    have reason := justified.1
    rcases mem_cons.mp member with newest | member
    · rw [← newest] at reason
      rcases mem_cons.mp first with same | first
      · grind
      obtain ⟨moved, sameId, kept⟩ := reason.1 start entry .start given first
      cases arrival with
      | start => exact absurd rfl moved
      | resumed =>
        have here : Stepped (event :: older) runId version .resumed :=
          ⟨nodeId, vars, newest ▸ mem_cons_self⟩
        have same := settles version .resumed here trivial (kept trivial published) sameId.symm
        exact .inr ⟨same, version, .resumed, here, trivial⟩
      | rejected source =>
        have here : Stepped (event :: older) runId version (.rejected source) :=
          ⟨nodeId, vars, newest ▸ mem_cons_self⟩
        have same := settles version (.rejected source) here trivial (kept trivial published) sameId.symm
        exact .inr ⟨same, version, .rejected source, here, trivial⟩
      | followed source =>
        obtain ⟨again, past, before⟩ := reason.2 source rfl
        exact later ⟨entry, given, first⟩ version again ⟨source, past, before⟩
    · rcases mem_cons.mp first with same | first
      · rw [← same] at reason
        exact absurd rfl (reason.1 version nodeId arrival vars member).1
      · exact later ⟨entry, given, first⟩ version arrival ⟨nodeId, vars, member⟩

/-- A run started with a published version interprets the graph it was started with in all its steps
    exactly when the environment's bindings left the stored graph as it is, or when it was never
    resumed: after a pause the stored graph is interpreted. -/
theorem pausing_keeps_the_graph {w : World} (run : Run env terms w) {runId : String} {start : WorkflowVersion}
    (started : Stepped w.db.history runId start .start) (published : start.isPublished = true) :
    ∃ raw, w.db.versions.get? start.id = some raw ∧ Overlaid raw start ∧
      ((∀ version arrival, Stepped w.db.history runId version arrival → version = start) ↔
        raw = start ∨ ¬ Split w.db.history runId) := by
  have reachable := run.reachable.1
  have fixed : ∀ version arrival, Stepped w.db.history runId version arrival →
      Fixed w.db.versions version arrival := by
    rintro version arrival ⟨nodeId, vars, member⟩
    exact reachable.grounded.events _ _ _ _ _ (reachable.sound.history member)
  obtain ⟨raw, overlaid, _, stored⟩ := fixed start .start started
  have found : w.db.versions.get? start.id = some raw := stored published
  have settles : ∀ version arrival, Stepped w.db.history runId version arrival → arrival.again →
      version.isPublished = true → version.id = start.id → version = raw := by
    intro version arrival stepped again shown same
    obtain ⟨raw', _, exact_, stored'⟩ := fixed version arrival stepped
    have there := stored' shown
    rw [same, found] at there
    rw [exact_ again]
    exact (Option.some.inj there).symm
  have steps := reachable.continues.steps published settles started
  refine ⟨raw, found, overlaid, ?_, ?_⟩
  · intro all
    by_contra neither
    rw [not_or, not_not] at neither
    obtain ⟨different, version, arrival, stepped, again⟩ := neither
    have same := all version arrival stepped
    have shown : version.isPublished = true := same ▸ published
    have there := settles version arrival stepped again shown (congrArg WorkflowVersion.id same)
    exact different (there.symm.trans same)
  · rintro (same | whole) version arrival stepped
    · rcases steps version arrival stepped with first | ⟨other, _⟩
      · exact first
      · exact other.trans same
    · rcases steps version arrival stepped with first | ⟨_, split⟩
      · exact first
      · exact absurd split whole

theorem questionnaire_keeps_its_graph :
    ∃ raw, (answer.next stillEnv (askedWorld true)).db.versions.get? "questionnaire" = some raw ∧
      Overlaid raw questionnaire ∧
      ((∀ version arrival, Stepped (answer.next stillEnv (askedWorld true)).db.history "r" version arrival →
        version = questionnaire) ↔
        raw = questionnaire ∨ ¬ Split (answer.next stillEnv (askedWorld true)).db.history "r") := by
  have run : Run stillEnv .any (answer.next stillEnv (askedWorld true)) :=
    (askedWorld_run true).step trivial trivial
  have started : Event.stepStarted "r" questionnaire "ask" .start [] ∈
      (answer.next stillEnv (askedWorld true)).db.history := by decide +kernel
  exact pausing_keeps_the_graph run ⟨"ask", [], started⟩ rfl

def mailing : WorkflowVersion :=
  published "mailing" [plainNode "ask" "human_input" [],
    plainNode "send" "tool" [("tool", .str "mail"), ("connector_installation_id", .str "sandbox")]]
    [plainEdge "ask" "send"] "ask"

def mailingDeployment : WorkflowEnvironmentDeployment :=
  { workflowId := "mailing", environment := "prod", workflowVersionId := "mailing",
    connectionBindingsJson := [("send", .obj [("connector_installation_id", .str "live")])] }

def boundMailing : WorkflowVersion :=
  { mailing with nodesJson := [plainNode "ask" "human_input" [],
      plainNode "send" "tool" [("tool", .str "mail"), ("connector_installation_id", .str "live")]] }

def mailedWorld : World :=
  World.after stillEnv
    (publishing mailing ++ [.changed (.deployment mailingDeployment), .start (startOf "mailing" []) "prod",
      .resume "owner" "r" ⟨none, .obj [("answer", .str "yes")], some "owner", false⟩]) {}

theorem pause_drops_the_bindings :
    Run stillEnv .any mailedWorld ∧ mailing ≠ boundMailing ∧
      Event.stepStarted "r" boundMailing "ask" .start [] ∈ mailedWorld.db.history ∧
      ∃ vars, Event.stepStarted "r" mailing "send" (.followed "ask") vars ∈ mailedWorld.db.history := by
  refine ⟨?_, by decide, by decide +kernel, ?_⟩
  · exact Run.init.after (publishing_possible trivial trivial ⟨trivial, trivial, trivial, trivial, trivial, trivial, trivial⟩)
  · exact ⟨[], by decide +kernel⟩

end Troop.Workflow
