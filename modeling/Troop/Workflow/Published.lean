import Troop.Workflow.Faults

namespace Troop.Workflow

open List
open Except (ok)

variable {env : Env} {external : String → Bool} {graphs : String → Graph}

inductive Executed (frame : Frame) (key : String) (keyNode : Json) : Prop
  | self (here : At frame key keyNode)
  | branch (cursor : String) (node : Json) (config : Dict Json) (children : List Json) (child : Json)
      (here : At frame cursor node) (type : nodeType node = some .parallel) (read : nodeConfig node = .ok config)
      (listed : (config.get "children").toList = .ok children) (member : child ∈ children)
      (same : key = child.pyStr) (found : frame.nodes.get? key = some keyNode)

inductive Unreferenced (config : Dict Json) : Option NodeType → Prop
  | agent (missing : (config.get "agent_id").truthy = false) : Unreferenced config (some .agent)
  | skill (noVersion : (config.get "skill_version_id").truthy = false) (noSkill : (config.get "skill_id").truthy = false) :
      Unreferenced config (some .skill)

inductive Unparsed (config : Dict Json) : Option NodeType → Prop
  | delay (error : PyError) (raised : delaySeconds config = .error error) : Unparsed config (some .delay)
  | join (error : PyError) (raised : parseParallelJoinConfig config = .error error) : Unparsed config (some .parallel)

/-- What goes wrong with a run, at its cursor and whatever the outcomes are, for its graph's sake. -/
inductive ConfigurationError (env : Env) (frame : Frame) : Prop
  | missingNode (cursor : String) (given : frame.cursor = some cursor) (named : cursor ≠ "")
      (absent : frame.nodes.get? cursor = none)
  | reported (cursor : String) (node : Json) (calls : Calls) (w after : World) (outcome : NodeOutcome)
      (here : At frame cursor node) (fresh : pendingFor frame.vars cursor = none)
      (executed : (executeNode env calls frame cursor node).exec w = (.ok outcome, after))
      (told : Misconfigured (.obj outcome.output))
  | branch (cursor : String) (node : Json) (config : Dict Json) (children : List Json) (child : Json) (calls : Calls)
      (w after : World) (entry vars started : Dict Json) (here : At frame cursor node)
      (type : nodeType node = some .parallel) (read : nodeConfig node = .ok config)
      (listed : (config.get "children").toList = .ok children) (member : child ∈ children)
      (fresh : pendingFor vars child.pyStr = none)
      (executed : (startedBranch env calls frame.run cursor child.pyStr (frame.nodes.get? child.pyStr) entry vars).exec w =
        (.ok started, after))
      (told : Misconfigured (started.get "output"))
  | unreadable (key : String) (node : Json) (error : PyError) (executed : Executed frame key node)
      (raised : nodeConfig node = .error error)
  | unreferenced (key : String) (node : Json) (config : Dict Json) (executed : Executed frame key node)
      (read : nodeConfig node = .ok config) (missing : Unreferenced config (nodeType node))
  | unparsed (key : String) (node : Json) (config : Dict Json) (executed : Executed frame key node)
      (read : nodeConfig node = .ok config) (raised : Unparsed config (nodeType node))
  | noRoute (cursor : String) (node : Json) (config : Dict Json) (here : At frame cursor node)
      (read : nodeConfig node = .ok config) (routes : onReject config = "route_to") (unnamed : rejectRoute config = "")

theorem nodeId?_named {node : Json} {id : String} (named : nodeId? node = some id) : id ≠ "" := by
  unfold nodeId? at named
  split at named
  · split at named
    · cases named
    · simp_all
  · cases named

theorem Graph.mem_ids {graph : Graph} {id : String} : id ∈ graph.ids ↔ ∃ node ∈ graph.nodes, nodeId? node = some id :=
  mem_filterMap

theorem nodesById_found {nodes : List Json} {id : String} (known : id ∈ nodes.filterMap nodeId?) :
    ∃ node, (nodesById nodes).get? id = some node := by
  obtain ⟨node, member, named⟩ := mem_filterMap.mp known
  have kept : node ∈ nodes.filter fun node => decide (nodeId? node = some id) :=
    mem_filter.mpr ⟨member, decide_eq_true named⟩
  rw [nodesById_last]
  exact ⟨_, getLast?_eq_some_getLast (ne_nil_of_mem kept)⟩

section Ready

variable {graph : Graph} {frame : Frame}

structure Carried (graph : Graph) (frame : Frame) : Prop where
  ids : frame.version.graph.ids = graph.ids
  ready : ∀ node ∈ frame.version.nodesJson, Ready graph node
  branchable : ∀ id node, frame.nodes.get? id = some node → Branchable graph id →
    ∃ type ∈ parallelTypes, nodeType node = some type

theorem Carried.found {key : String} {node : Json} (served : Carried graph frame) (found : frame.nodes.get? key = some node) :
    Ready graph node := served.ready node (nodesById_mem found).1

theorem Executed.found {key : String} {node : Json} (executed : Executed frame key node) :
    frame.nodes.get? key = some node := by
  cases executed with
  | self here => exact here.found
  | branch cursor other config children child here type read listed member same found => exact found

theorem Carried.noError (served : Carried graph frame)
    (there : ∀ cursor, frame.cursor = some cursor → cursor ≠ "" → cursor ∈ graph.ids) : ¬ ConfigurationError env frame := by
  intro error
  cases error with
  | missingNode cursor given named absent =>
    have known : cursor ∈ frame.version.graph.ids := served.ids ▸ there cursor given named
    obtain ⟨node, found⟩ := nodesById_found known
    exact absurd (found.symm.trans absent) (by simp)
  | reported cursor node calls w after outcome here fresh executed told =>
    exact (executeNode_faultless (served.found here.found) fresh).run _ _ _ executed told
  | branch cursor node config children child calls w after entry vars started here type read listed member fresh executed
      told =>
    have configured := ((served.found here.found).configured config read).2
    rw [type] at configured
    have branchable := configured.1 children listed child member
    obtain ⟨childNode, found⟩ := nodesById_found (served.ids ▸ branchable.1 : child.pyStr ∈ frame.version.graph.ids)
    have found : frame.nodes.get? child.pyStr = some childNode := found
    obtain ⟨kind, supported, typed⟩ := served.branchable _ _ found branchable
    rw [found] at executed
    exact (startedBranch_faultless (served.found found) typed supported fresh).run _ _ _ executed told
  | unreadable key node error executed raised =>
    obtain ⟨config, read⟩ := (served.found executed.found).read
    cases read.symm.trans raised
  | unreferenced key node config executed read missing =>
    have ready := served.found executed.found
    have referenced := ready.referenced config read
    have configured := (ready.configured config read).2
    generalize nodeType node = type at missing referenced configured
    cases missing with
    | agent missing => exact absurd (referenced.symm.trans missing) (by simp)
    | skill noVersion noSkill =>
      rcases configured with version | skill
      · exact absurd (version.symm.trans noVersion) (by simp)
      · exact absurd (skill.symm.trans noSkill) (by simp)
  | unparsed key node config executed read raised =>
    have configured := ((served.found executed.found).configured config read).2
    generalize nodeType node = type at raised configured
    cases raised with
    | _ => simp_all
  | noRoute cursor node config here read routes unnamed =>
    have route := ((served.found here.found).configured config read).1 routes
    rw [unnamed] at route
    obtain ⟨other, _, named⟩ := Graph.mem_ids.mp route
    exact nodeId?_named named rfl

end Ready

/-- A version row keeps its graph, which the validator accepts and whose nodes carry what the runtime
    reads beyond that; neither an input nor an agent names a router target. -/
def publishedTerms (external : String → Bool) (graphs : String → Graph) : Terms where
  starts new := Unrouted new.input
  changes
    | .taskRun row => Unrouted (agentUpdate row.outputPayloadJson)
    | .version row => row.graph = graphs row.id ∧ Publishable external row.graph ∧ Configured row.graph
    | _ => True

theorem Reachable.unrouted {machine : Machine} (reachable : Reachable env (publishedTerms external graphs) machine) :
    Reachable env unroutedTerms machine := by
  refine reachable.weaken (fun _ fits => fits) fun change fits => ?_
  cases change with
  | taskRun row => exact fits
  | _ => trivial

section Interpreted

variable {frame : Frame} {row : WorkflowVersion}

theorem Interprets.graph (interprets : Interprets (publishedTerms external graphs) frame row) :
    row.graph = graphs frame.run.workflowVersionId := by
  have same := interprets.admitted.1
  rwa [← interprets.overlaid.id, interprets.named] at same

theorem Interprets.ids (interprets : Interprets (publishedTerms external graphs) frame row) :
    frame.version.graph.ids = (graphs frame.run.workflowVersionId).ids := by
  rw [interprets.overlaid.bound.1, interprets.graph]

theorem Interprets.served (interprets : Interprets (publishedTerms external graphs) frame row) :
    Carried (graphs frame.run.workflowVersionId) frame := by
  obtain ⟨same, publishable, configured⟩ := interprets.admitted
  have known := interprets.graph
  refine ⟨interprets.ids, fun node member => ?_, fun id node found branchable => ?_⟩
  · obtain ⟨original, there, bound⟩ := interprets.overlaid.bound.2 node member
    exact known ▸ (publishable.validated.ready configured there).bound bound
  · obtain ⟨member, named⟩ := nodesById_mem found
    obtain ⟨original, there, bound⟩ := interprets.overlaid.bound.2 node member
    rw [← known] at branchable
    rw [bound.type]
    exact branchable.2 original there (bound.id ▸ named)

end Interpreted

section Targets

variable {graph : Graph}

theorem Validated.edge (validated : Validated graph) {edge : Json} (member : edge ∈ graph.edges) :
    ∃ id ∈ graph.ids, edgeEnd edge "to" = some id := by
  have valid := (validateGraph_nil validated.shape).2.2 edge member
  unfold validateEdge at valid
  split at valid
  · cases valid
  dsimp only at valid
  split at valid
  · cases valid
  · rename_i known
    simp only [Bool.or_eq_true, Bool.not_eq_true', not_or, Bool.not_eq_false] at known
    obtain ⟨id, ends, member⟩ := (Option.any_eq_true _ _).mp known.2
    exact ⟨id, of_decide_eq_true member, ends⟩

theorem edgeEnd_text {edge : Json} {key id : String} (ends : edgeEnd edge key = some id) (named : id ≠ "") :
    (edge.get key).strOrEmpty = id := by
  unfold edgeEnd at ends
  split at ends
  · simp_all
  · cases ends

theorem firstMatching_mem {test : Json → Except PyError Bool} {items : List Json} {item : Json}
    (found : firstMatching test items = .ok (some item)) : item ∈ items := by
  induction items with
  | nil => cases found
  | cons first rest ih =>
    obtain ⟨holds, _, found⟩ := except_bind_ok found
    cases holds with
    | true =>
      cases found
      exact mem_cons_self
    | false => exact mem_cons_of_mem _ (ih found)

variable {chosen : String × Option Json} {vars : Dict Json}

theorem followedEdge_target {edges : List Json} {nodeId : String} {matched : Option Json} (named : chosen.1 ≠ "")
    (selected : (do
      let edge ← firstMatching (edgeMatches · vars) (outgoing edges nodeId)
      let followed := match edge with
        | some edge => (edge.get "to").strOrEmpty
        | none => ""
      if followed ≠ "" then return (followed, matched)
      match outgoing edges nodeId with
      | [] => return ("", matched)
      | first :: _ => return ((first.get "to").strOrEmpty, matched)) = Except.ok chosen) :
    ∃ edge ∈ edges, (edge.get "to").strOrEmpty = chosen.1 := by
  have among : ∀ edge ∈ outgoing edges nodeId, edge ∈ edges := fun edge member => (mem_filter.mp member).1
  obtain ⟨edge, followed, selected⟩ := except_bind_ok selected
  have ends : ∀ first rest, outgoing edges nodeId = first :: rest →
      (ok ((first.get "to").strOrEmpty, matched) : Except PyError _) = .ok chosen →
      ∃ edge ∈ edges, (edge.get "to").strOrEmpty = chosen.1 := by
    intro first rest there same
    have same := ok.inj same
    subst same
    exact ⟨first, among _ (there ▸ mem_cons_self), rfl⟩
  cases edge with
  | none =>
    cases there : outgoing edges nodeId with
    | nil =>
      rw [there] at selected
      have same := ok.inj selected
      subst same
      exact absurd rfl named
    | cons first rest =>
      rw [there] at selected
      exact ends first rest there selected
  | some edge =>
    dsimp only at selected
    split at selected
    · have same := ok.inj selected
      subst same
      exact ⟨edge, among _ (firstMatching_mem followed), rfl⟩
    · cases there : outgoing edges nodeId with
      | nil =>
        rw [there] at selected
        have same := ok.inj selected
        subst same
        exact absurd rfl named
      | cons first rest =>
        rw [there] at selected
        exact ends first rest there selected

theorem routerSelection_target {rules edges : List Json} {nodeId : String} (selected : routerSelection rules edges nodeId vars = .ok chosen)
    (named : chosen.1 ≠ "") :
    (∃ rule ∈ rules, ruleTarget rule = chosen.1) ∨ ∃ edge ∈ edges, (edge.get "to").strOrEmpty = chosen.1 := by
  obtain ⟨matched, ruled, selected⟩ := except_bind_ok selected
  cases matched with
  | none => exact .inr (followedEdge_target named selected)
  | some rule =>
    dsimp only at selected
    split at selected
    · have same := ok.inj selected
      subst same
      exact .inl ⟨rule, firstMatching_mem ruled, rfl⟩
    · exact .inr (followedEdge_target named selected)

theorem executeRouterNode_target {node : Json} {nodeId target : String} {edges : List Json}
    {outcome : NodeOutcome} (executed : executeRouterNode node nodeId edges vars = .ok outcome)
    (selected : Dict.get outcome.output "selected" = .str target) :
    (∃ config rules, nodeConfig node = .ok config ∧ (config.get "rules").toList = .ok rules ∧
      ∃ rule ∈ rules, ruleTarget rule = target ∧ target ≠ "") ∨ ∃ edge ∈ edges, (edge.get "to").strOrEmpty = target := by
  obtain ⟨config, read, executed⟩ := except_bind_ok executed
  obtain ⟨rules, listed, executed⟩ := except_bind_ok executed
  obtain ⟨chosen, settled, executed⟩ := except_bind_ok executed
  have same := ok.inj executed
  subst same
  have shown : (if chosen.1 = "" then Json.null else .str chosen.1) = .str target := selected
  by_cases unnamed : chosen.1 = ""
  · simp [if_pos unnamed] at shown
  rw [if_neg unnamed] at shown
  have same : chosen.1 = target := Json.str.inj shown
  rcases routerSelection_target settled unnamed with ⟨rule, member, ruled⟩ | ⟨edge, member, followed⟩
  · exact .inl ⟨config, rules, read, listed, rule, member, ruled.trans same, same ▸ unnamed⟩
  · exact .inr ⟨edge, member, followed.trans same⟩

end Targets

theorem Carried.target {graph : Graph} {frame : Frame} {cursor target : String} (served : Carried graph frame)
    (validated : Validated graph) (edges : frame.version.edgesJson = graph.edges)
    (goes : Edge frame.version cursor target ∨ RouterSelects frame.version cursor frame.vars target) :
    target ∈ graph.ids := by
  rcases goes with ⟨edge, member, _, ends⟩ | ⟨node, outcome, found, router, executed, selected⟩
  · obtain ⟨id, known, same⟩ := validated.edge (edges ▸ member : edge ∈ graph.edges)
    simp_all
  · rcases executeRouterNode_target executed selected with ⟨config, rules, read, listed, rule, member, ruled, named⟩ |
        ⟨edge, member, followed⟩
    · have configured := ((served.found found).configured config read).2
      rw [router] at configured
      rcases configured rules listed rule member with empty | known
      · exact absurd (ruled.symm.trans empty) named
      · exact ruled ▸ known
    · have inside : edge ∈ graph.edges := edges ▸ (mem_filter.mp member).1
      obtain ⟨id, known, ends⟩ := validated.edge inside
      obtain ⟨other, _, same⟩ := Graph.mem_ids.mp known
      have text := edgeEnd_text ends (nodeId?_named same)
      exact (text.symm.trans followed) ▸ known

theorem continuationOf_routeTo {config : Dict Json} {target : String} (routed : continuationOf config = .routeTo target) :
    onReject config = "route_to" ∧ target = rejectRoute config := by
  unfold continuationOf at routed
  split at routed
  · cases routed
  · split at routed
    · simp_all
    · split at routed <;> cases routed

theorem Waiting.routed {w : World} {stack : List Activation} {run : WorkflowRun} {version : WorkflowVersion}
    {config : Dict Json} {target : String} (waiting : Waiting w run version)
    (reachable : Reachable env (publishedTerms external graphs) (w, stack))
    (read : nodeConfig (waitingNode run version) = .ok config) (routed : continuationOf config = .routeTo target) :
    target ∈ (graphs run.workflowVersionId).ids := by
  obtain ⟨routes, rfl⟩ := continuationOf_routeTo routed
  have interprets : Interprets (publishedTerms external graphs) (Frame.load run version .start) version :=
    waiting.interprets reachable rfl
  have ready : Ready (graphs run.workflowVersionId) (waitingNode run version) ∨ waitingNode run version = .null := by
    unfold waitingNode
    cases found : currentNode version.nodesJson run.currentNodeId with
    | none => exact .inr rfl
    | some node =>
      cases here : run.currentNodeId with
      | none => simp [here, currentNode] at found
      | some cursor =>
        rw [here] at found
        exact .inl (interprets.served.ready node (currentNode_mem found).1)
  rcases ready with ready | none
  · exact (ready.configured config read).1 routes
  · rw [none] at read
    cases read
    exact absurd routes (by decide)

def onGraph (external : String → Bool) (graphs : String → Graph) : Law env (publishedTerms external graphs) where
  row _ run := ∃ cursor, run.currentNodeId = some cursor ∧ cursor ∈ (graphs run.workflowVersionId).ids
  active _ activation := ∀ cursor, activation.frame.cursor = some cursor →
    cursor ∈ (graphs activation.frame.run.workflowVersionId).ids
  row_add _ holds _ := holds
  row_lose _ holds := holds
  active_add _ holds _ := holds
  start reachable resolved _ cursor given := by
    obtain ⟨row, interprets⟩ := resolved.interprets reachable (env.uuid4 _)
    obtain ⟨⟨entry, same, known⟩, _⟩ := @validateGraph_nil (WorkflowVersion.graph _) resolved.valid
    cases same.symm.trans given
    exact interprets.ids ▸ known
  child reachable _ _ _ _ _ _ _ _ resolved cursor given := by
    obtain ⟨row, interprets⟩ := resolved.interprets reachable (env.uuid4 _)
    obtain ⟨⟨entry, same, known⟩, _⟩ := @validateGraph_nil (WorkflowVersion.graph _) resolved.valid
    cases same.symm.trans given
    exact interprets.ids ▸ known
  resume _ holds _ _ cursor given := by
    obtain ⟨here, same, known⟩ := holds
    cases same.symm.trans given
    exact known
  requestChanges _ _ holds _ := by
    obtain ⟨cursor, same, known⟩ := holds
    exact ⟨cursor, by rw [rejectedRow, same]; rfl, known⟩
  reroute {w stack run version config target} _ rejection reachable _ waiting read routed cursor given := by
    obtain rfl : target = cursor := Option.some.inj given
    exact waiting.routed reachable read routed
  visit holds _ := holds
  report holds _ _ := holds
  branch holds _ _ := holds
  pause {w frame budget visit stack cursor node outcome status row'} reachable holds here effect stops resumable same := by
    have mine : row'.workflowVersionId = frame.run.workflowVersionId := congrArg (fun ids => ids.2.2) same
    refine ⟨cursor, rfl, ?_⟩
    change cursor ∈ (graphs row'.workflowVersionId).ids
    rw [mine]
    exact holds cursor here.reached
  move {w frame budget visit stack cursor node outcome} reachable _ here effect goes passed target next := by
    obtain ⟨row, interprets⟩ := reachable.interprets
    have anywhere := reachable.unrouted
    have known := (anywhere.chronicled.log _ List.mem_cons_self).owned
    have before : Unrouted frame.vars := (Workflow.unrouted.holds anywhere).stack _ List.mem_cons_self
    have edges : frame.version.edgesJson = (graphs frame.run.workflowVersionId).edges := by
      rw [interprets.overlaid.edges, ← interprets.graph]
      rfl
    have validated : Validated (graphs frame.run.workflowVersionId) := interprets.graph ▸ interprets.admitted.2.1.validated
    exact interprets.served.target validated edges
      (follow_target here effect before (before.effect anywhere known effect) next)

theorem Carried.same {graph : Graph} {frame other : Frame} (served : Carried graph frame)
    (same : other.version = frame.version) : Carried graph other := by
  refine ⟨same ▸ served.ids, fun node member => served.ready node (same ▸ member), fun id node found => ?_⟩
  exact served.branchable id node (by rwa [Frame.nodes, same] at found)

theorem Reachable.served {w : World} {stack : List Activation} {activation : Activation}
    (reachable : Reachable env (publishedTerms external graphs) (w, stack)) (member : activation ∈ stack) :
    Carried (graphs activation.frame.run.workflowVersionId) activation.frame := by
  obtain ⟨row, interprets⟩ := (Workflow.graphs.holds reachable).stack activation member
  exact interprets.served

theorem Reachable.steps_served {w : World} {stack : List Activation}
    (reachable : Reachable env (publishedTerms external graphs) (w, stack)) :
    Justified (fun _ event => ∀ runId version nodeId arrival vars, event = .stepStarted runId version nodeId arrival vars →
      ∃ graph, nodeId ∈ Graph.ids graph ∧ ∀ frame : Frame, frame.version = version → Carried graph frame) w.log := by
  refine reachable.accounted (.inl rfl) ?_ fun _ _ _ _ _ _ _ _ _ _ same => by cases same
  rintro w stack event events earlier emission _ runId version nodeId arrival vars rfl
  cases emission with
  | visited w frame budget stack cursor node here =>
    have known := ((onGraph external graphs).holds earlier).stack _ mem_cons_self nodeId here.reached
    exact ⟨_, known, fun other same => (earlier.served mem_cons_self).same same⟩
  | reported w frame budget visit stack cursor node event here reports => cases reports

def timed : WorkflowVersion :=
  published "timed" [plainNode "wait" "delay" [("seconds", .num 0)], plainNode "check" "condition" []]
    [plainEdge "wait" "check"] "wait"

theorem timed_configured : Configured timed.graph := by
  intro node member config read
  have listed : node = plainNode "wait" "delay" [("seconds", .num 0)] ∨ node = plainNode "check" "condition" [] := by
    simpa [timed, WorkflowVersion.graph, published] using member
  rcases listed with rfl | rfl
  · cases read
    exact ⟨by decide, 0, rfl⟩
  · cases read
    exact ⟨by decide, trivial⟩

theorem timed_publishable : Publishable (fun _ => true) timed.graph := by
  refine ⟨⟨true, [], [], [], []⟩, ?_, rfl⟩
  decide +kernel

def aliased : WorkflowVersion :=
  published "aliased" [plainNode "child" "subworkflow" [("subworkflow_id", .str "other")]] [] "child"

def acceptedTerms : Terms where
  starts _ := True
  changes
    | .version row => Publishable (fun _ => true) row.graph
    | _ => True

end Troop.Workflow
