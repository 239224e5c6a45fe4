import Mathlib.Data.List.Nodup
import Troop.Workflow.Laws
import Troop.Workflow.Leaving
import Troop.Workflow.Publishing
import Troop.Workflow.Refinement

namespace Troop.Workflow

open List
open Triple (assuming bind ite modify pure throw)

variable {env : Env} {terms : Terms}

section Untouched

def idle (row : WorkflowRun) : Activation where
  frame := { run := row, version := default, completed := [], vars := [], cursor := none, arrival := .start }
  budget := 1
  visit := none

variable {row : WorkflowRun}

def Shelved (row : WorkflowRun) (machine : Machine) : Prop :=
  (idle row ∈ machine.2 ∧ machine.1.db.runs.get? row.id = some row) ∨
    ∀ activation ∈ machine.2, ¬ (activation.frame.run.id = row.id ∧ activation.frame.arrival = .start)

variable {before after : Machine} {w : World}

theorem drawn_le (step : Step env terms before after) : before.1.drawn ≤ after.1.drawn := by
  cases step <;> first | exact le_refl _ | exact Nat.le_add_right _ _

theorem get?_changeRun_ne {id other : String} {change : WorkflowRun → WorkflowRun} (apart : id ≠ other) :
    (w.changeRun id change).db.runs.get? other = w.db.runs.get? other := by
  simp [World.changeRun, Dict.get?_modify, apart]

theorem get?_create_ne {new : NewRun} {definition : WorkflowDefinition} {version : WorkflowVersion}
    {id : String} (drawn : Drawn env w id) :
    (w.create env new definition version).db.runs.get? id = w.db.runs.get? id := by
  simp [World.create, World.record, Dict.get?_set, startedRow, Ne.symm drawn.fresh]

theorem Sound.idle_apart {stack : List Activation} (sound : Sound env (w, stack)) (member : idle row ∈ stack)
    {activation : Activation} (other : activation ∈ stack) (apart : activation ≠ idle row) :
    activation.frame.run.id ≠ row.id := by
  intro same
  exact apart (inj_on_of_nodup_map sound.apart other member same)

theorem Shelved.kept {w w' : World} {stack' : List Activation} (member : idle row ∈ stack')
    (found : w.db.runs.get? row.id = some row) (same : w'.db.runs.get? row.id = w.db.runs.get? row.id) :
    Shelved row (w', stack') := .inl ⟨member, same.trans found⟩

theorem Shelved.present (sound : Sound env before) (ended : row.status.resumable = false) (member : idle row ∈ before.2)
    (found : before.1.db.runs.get? row.id = some row) (step : Step env terms before after) : Shelved row after := by
  have waits {w : World} {run : WorkflowRun} {version : WorkflowVersion} (waiting : Waiting w run version)
      (there : w.db.runs.get? row.id = some row) : run.id ≠ row.id := by
    intro same
    have read := waiting.row
    rw [same, there] at read
    obtain rfl := Option.some.inj read
    simp [waiting.status] at ended
  have drawn : Drawn env before.1 row.id := (sound.rows _ _ found).2
  have visits {w : World} {frame : Frame} {budget : Nat} {visit : Visit} {stack : List Activation}
      (sound : Sound env (w, ⟨frame, budget, some visit⟩ :: stack))
      (member : idle row ∈ ⟨frame, budget, some visit⟩ :: stack) : idle row ∈ stack ∧ frame.run.id ≠ row.id := by
    rcases mem_cons.mp member with same | later
    · cases same
    · exact ⟨later, sound.idle_apart member mem_cons_self fun same => by cases same⟩
  have moves {w : World} {frame : Frame} {budget : Nat} {stack : List Activation} {cursor : String}
      (sound : Sound env (w, ⟨frame, budget, none⟩ :: stack)) (member : idle row ∈ ⟨frame, budget, none⟩ :: stack)
      (given : frame.cursor = some cursor) : idle row ∈ stack ∧ frame.run.id ≠ row.id := by
    have other : (⟨frame, budget, none⟩ : Activation) ≠ idle row := by
      intro same
      have none_ := congrArg (fun activation : Activation => activation.frame.cursor) same
      rw [given] at none_
      cases none_
    rcases mem_cons.mp member with same | later
    · exact absurd same.symm other
    · exact ⟨later, sound.idle_apart member mem_cons_self other⟩
  cases step with
  | aside => exact .inl ⟨member, found⟩
  | commit => exact .inl ⟨member, found⟩
  | rollback => cases member
  | changed => cases member
  | tick => cases member
  | start => cases member
  | startChild w frame budget visit stack cursor key workflowId node childNode config input definition version here
      reached type place read named given resolved =>
    obtain ⟨later, _⟩ := visits sound member
    exact Shelved.kept (mem_cons_of_mem _ (mem_cons_of_mem _ later)) found (get?_create_ne drawn)
  | exceeded w frame stack =>
    rcases mem_cons.mp member with same | later
    · cases same
    · exact .inl ⟨later, found⟩
  | consume => exact .inl ⟨member, found⟩
  | resume w stack run version vars waiting granted =>
    exact Shelved.kept (mem_cons_of_mem _ member) found (get?_changeRun_ne (waits waiting found))
  | reject w stack run version approval rejection continuation waiting status rejected stops =>
    exact Shelved.kept member found (get?_changeRun_ne (waits waiting found))
  | reroute w stack run version approval rejection config target waiting status rejected read routed =>
    exact Shelved.kept (mem_cons_of_mem _ member) found (get?_changeRun_ne (waits waiting found))
  | visit w frame budget stack cursor node here =>
    exact .inl ⟨mem_cons_of_mem _ (moves sound member here.reached).1, found⟩
  | report w frame budget visit stack cursor node event here reports =>
    exact .inl ⟨mem_cons_of_mem _ (visits sound member).1, found⟩
  | branch w frame budget visit visit' stack cursor node here changed =>
    exact .inl ⟨mem_cons_of_mem _ (visits sound member).1, found⟩
  | pause w frame budget visit stack cursor node outcome status here effect stops =>
    obtain ⟨later, apart⟩ := visits sound member
    exact Shelved.kept later found (get?_changeRun_ne apart)
  | fail w frame budget visit stack cursor node outcome here effect goes failed =>
    obtain ⟨later, apart⟩ := visits sound member
    exact Shelved.kept later found (get?_changeRun_ne apart)
  | move w frame budget visit stack cursor node outcome here effect goes passed =>
    obtain ⟨later, apart⟩ := visits sound member
    exact Shelved.kept (mem_cons_of_mem _ later) found (get?_changeRun_ne apart)
  | missing w frame budget stack cursor given named absent =>
    obtain ⟨later, apart⟩ := moves sound member given
    exact Shelved.kept later found ((get?_changeRun_ne apart).trans (get?_changeRun_ne apart))
  | exhausted w frame budget stack cursor given named =>
    obtain ⟨later, apart⟩ := moves sound member given
    exact Shelved.kept later found (get?_changeRun_ne apart)
  | ended w frame budget stack exhausted =>
    rcases mem_cons.mp member with same | later
    · right
      intro other among there
      have apart := sound.below other among
      rw [← same] at apart
      exact apart there.1
    · have other : (⟨frame, budget, none⟩ : Activation) ≠ idle row := by
        intro same
        exact sound.below _ later (congrArg (fun activation : Activation => activation.frame.run.id) same).symm
      exact Shelved.kept later found (get?_changeRun_ne (sound.idle_apart member mem_cons_self other))
  | abandon w activation stack =>
    rcases mem_cons.mp member with rfl | later
    · right
      intro other among there
      exact sound.below other among there.1
    · exact .inl ⟨later, found⟩

theorem Shelved.absent (drawn : Drawn env before.1 row.id)
    (gone : ∀ activation ∈ before.2, ¬ (activation.frame.run.id = row.id ∧ activation.frame.arrival = .start))
    (step : Step env terms before after) :
    ∀ activation ∈ after.2, ¬ (activation.frame.run.id = row.id ∧ activation.frame.arrival = .start) := by
  cases step with
  | aside | commit | rollback | changed | tick | consume | reject => exact gone
  | start w new definition version resolved fits root =>
    rintro activation member ⟨named, _⟩
    obtain rfl := mem_singleton.mp member
    exact drawn.fresh named.symm
  | startChild w frame budget visit stack cursor key workflowId node childNode config input definition version here
      reached type place read named given resolved =>
    obtain ⟨top, rest⟩ := forall_mem_cons.mp gone
    refine forall_mem_cons.mpr ⟨fun there => drawn.fresh there.1.symm, forall_mem_cons.mpr ⟨top, rest⟩⟩
  | exceeded | pause | fail | missing | exhausted | ended | abandon => exact (forall_mem_cons.mp gone).2
  | resume | reroute =>
    refine forall_mem_cons.mpr ⟨fun there => ?_, gone⟩
    cases there.2
  | visit | report | branch => simp_all
  | move => simp_all

theorem Steps.untouched {w after : World} {stack : List Activation} (sound : Sound env (w, idle row :: stack))
    (found : w.db.runs.get? row.id = some row) (ended : row.status.resumable = false)
    (steps : Steps env terms (w, idle row :: stack) (after, idle row :: stack)) : after.db.runs.get? row.id = some row := by
  have drawn : Drawn env w row.id := (sound.rows _ _ found).2
  have shelved : ∀ machine, Steps env terms (w, idle row :: stack) machine →
      Drawn env machine.1 row.id ∧ Shelved row machine := by
    intro machine reached
    induction reached with
    | refl => exact ⟨drawn, .inl ⟨mem_cons_self, found⟩⟩
    | tail earlier step ih =>
      refine ⟨ih.1.mono (drawn_le step), ?_⟩
      rcases ih.2 with ⟨member, there⟩ | gone
      · exact Shelved.present (sound.steps earlier) ended member there step
      · exact .inr (Shelved.absent ih.1 gone step)
  rcases (shelved _ steps).2 with ⟨_, there⟩ | gone
  · exact there
  · exact absurd ⟨rfl, rfl⟩ (gone _ mem_cons_self)

end Untouched

section Resting

/-- The loop of the run's `_advance` ran out of steps before the graph came to an end. -/
def Spent (history : List Event) (runId : String) : Prop := ∃ cursor, Event.stepBudgetExhausted runId cursor ∈ history

def Rests (runId : String) (w : World) : Prop :=
  ∃ row, w.db.runs.get? runId = some row ∧ (row.status = .running → Spent w.db.history runId)

variable {runId : String} {w : World} {node : Json}

theorem Rests.of_status {row : WorkflowRun} (found : w.db.runs.get? runId = some row)
    (status : row.status ≠ .running) : Rests runId w := ⟨row, found, fun running => absurd running status⟩

variable {calls : Calls} {budget : Nat} {origin : Machine} {stack : List Activation}

theorem hook_untouched (follows : Follows env terms calls budget) (sound : Sound env (w, stack))
    {row : WorkflowRun} (found : w.db.runs.get? row.id = some row) (ended : row.status.resumable = false)
    (apart : ∀ activation ∈ stack, activation.frame.run.id ≠ row.id) (runId : String) (status : RunStatus) :
    Triple (fun state => state = w) (calls.onWorkflowRunCompleted runId status)
      (fun _ after => after.db.runs.get? row.id = some row) (fun after => after.db.runs.get? row.id = some row) := by
  have occupied : Occupied w (idle row) := ⟨row, found, ended, rfl⟩
  have shelved : Sound env (w, idle row :: stack) := sound.push occupied apart
  have ran := follows.hook (w, idle row :: stack) shelved (idle row :: stack) runId status
  refine ran.weaken ?_ ?_ ?_
  · grind
  · exact fun _ _ steps => Steps.untouched shelved found ended steps
  · exact fun _ steps => Steps.untouched shelved found ended steps

theorem notifyIfTerminal_rests (follows : Follows env terms calls budget) (sound : Sound env origin)
    (apart : ∀ activation ∈ stack, activation.frame.run.id ≠ runId) :
    Triple (fun w => Standing env terms origin stack w ∧ Rests runId w) (notifyIfTerminal calls runId)
      (fun _ w => Standing env terms origin stack w ∧ Rests runId w) (Standing env terms origin stack) := by
  refine assuming fun w ⟨standing, rests⟩ => ?_
  have kept : Triple (fun state => state = w) (notifyIfTerminal calls runId) (fun _ after => Rests runId after)
      (fun _ => True) := by
    refine ⟨fun state same => ?_⟩
    rw [same]
    obtain ⟨row, found, spent⟩ := rests
    obtain rfl : row.id = runId := ((sound.steps standing).rows runId row found).1
    unfold notifyIfTerminal
    rw [Prog.exec_bind_ok (Prog.exec_get w)]
    simp only [found]
    by_cases ended : row.status.terminal = true
    · rw [if_pos ended]
      have status : row.status.resumable = false := Law.terminal_busy _ ended
      have stays : row.status ≠ .running := by
        intro running
        rw [running] at ended
        cases ended
      have hooked := hook_untouched follows (sound.steps standing) found status apart row.id row.status
      have caught : Triple (fun state => state = w)
          (Prog.catching (calls.onWorkflowRunCompleted row.id row.status) fun _ => pure ⟨⟩)
          (fun _ after => after.db.runs.get? row.id = some row) (fun _ => True) :=
        hooked.catching fun _ => pure fun _ there => there
      exact (caught.after fun _ after there => Rests.of_status there stays).run w rfl
    · simp_all
  have follows_ := notifyIfTerminal_follows follows sound stack runId
  refine (follows_.both kept).weaken ?_ ?_ ?_
  · simp_all
  · exact fun _ _ reached => reached
  · exact fun _ reached => reached.1

theorem changed_row {id : String} {row : WorkflowRun} {change : WorkflowRun → WorkflowRun}
    (found : w.db.runs.get? id = some row) : (w.changeRun id change).db.runs.get? id = some (change row) := by
  simp [World.changeRun, Dict.get?_modify, found]

theorem leftRow_ended {frame : Frame} (last : frame.cursor = none) (row : WorkflowRun) :
    (leftRow frame row).status ≠ .running := by
  unfold leftRow
  split
  · exact fun running => by cases running
  · simp_all

theorem leaveLoop_rests (follows : Follows env terms calls budget) (sound : Sound env origin) {frame : Frame}
    (apart : ∀ activation ∈ stack, activation.frame.run.id ≠ frame.run.id) {pre : World → Prop}
    (left : ∀ w, pre w → Standing env terms origin stack (w.changeRun frame.run.id (leftRow frame)) ∧
      Rests frame.run.id (w.changeRun frame.run.id (leftRow frame))) :
    Triple pre (leaveLoop calls frame) (fun _ w => Standing env terms origin stack w ∧ Rests frame.run.id w)
      (Standing env terms origin stack) :=
  bind (modify (Q := fun _ w => Standing env terms origin stack w ∧ Rests frame.run.id w) left) fun _ =>
    notifyIfTerminal_rests follows sound apart

theorem NodeEffect.halts {frame : Frame} {cursor : String} {visit : Visit} {outcome : NodeOutcome}
    (effect : NodeEffect frame cursor node visit outcome) : outcome.pause ≠ some .running := by
  have child (id : String) (status : RunStatus) (vars : Dict Json) :
      (childRunOutcome id status vars).pause ≠ some .running := by
    unfold childRunOutcome
    split
    · exact fun running => by cases running
    · split <;> exact fun running => by cases running
  unfold NodeEffect at effect
  split at effect
  · cases effect <;> exact fun running => by cases running
  · subst effect
    rcases humanInputOutcome_vars frame.vars with same | ⟨output, same⟩ <;> rw [same] <;>
      exact fun running => by cases running
  · obtain ⟨result, output, rfl⟩ := conditionOutcome_vars effect
    exact fun running => by cases running
  · cases effect <;> exact fun running => by cases running
  · obtain ⟨config, parallel, _, _, finalized⟩ := effect
    obtain ⟨joined, _, finalized⟩ := except_bind_ok finalized
    cases joined with
    | failed | paused =>
      cases finalized
      exact fun running => by cases running
    | succeeded =>
      obtain ⟨merged, _, finalized⟩ := except_bind_ok finalized
      cases finalized
      exact fun running => by cases running
  · obtain ⟨selected, output, rfl⟩ := routerOutcome_vars effect
    exact fun running => by cases running
  · obtain ⟨metadata, rfl⟩ := triggerOutcome_vars effect
    exact fun running => by cases running
  · cases effect <;> exact fun running => by cases running
  · obtain ⟨db, executed⟩ := effect
    rcases skillOutcome_vars executed with ⟨output, rfl⟩ | ⟨output, payload, rfl⟩ <;>
      exact fun running => by cases running
  · cases effect <;> exact fun running => by cases running
  · cases effect with
    | known | started => exact child _ _ _
    | refused => exact fun running => by cases running
  · subst effect
    exact fun running => by cases running

theorem takenEdge_mem {current : String} {edges : List Json} {vars : Dict Json} {edge : Json}
    (taken : takenEdge current edges vars = some edge) : edge ∈ edges := by
  have within : ∀ other ∈ outgoing edges current, other ∈ edges := fun _ member => (mem_filter.mp member).1
  unfold takenEdge at taken
  split at taken
  · cases taken
  split at taken
  · cases taken
  · simp_all
  rename_i first rest leaves _
  have same := Option.some.inj taken
  apply within
  rw [leaves, ← same]
  cases found : (first :: rest).find? (edgeOfBranch (vars.get "_last_condition")) with
  | none => exact mem_cons_self
  | some other => exact mem_of_find?_eq_some found

/-- The graph was accepted by `validate_graph`. -/
def Accepted (version : WorkflowVersion) : Prop :=
  validateGraph version.nodesJson version.edgesJson version.entryNodeId = []

theorem Accepted.entry {version : WorkflowVersion} (accepted : Accepted version) : version.entryNodeId ≠ some "" := by
  intro empty
  obtain ⟨entry, given, known⟩ := (@validateGraph_nil ⟨_, _, _⟩ accepted).1
  exact ids_named known (Option.some.inj (given.symm.trans empty))

theorem Accepted.edge {version : WorkflowVersion} (accepted : Accepted version) {edge : Json}
    (member : edge ∈ version.edgesJson) : edgeEnd edge "to" ≠ some "" := by
  intro empty
  obtain ⟨_, _, _, target, known, _, leads⟩ := validateEdge_nil ((@validateGraph_nil ⟨_, _, _⟩ accepted).2.2 edge member)
  exact ids_named known (Option.some.inj (leads.symm.trans empty))

theorem follow_named {frame : Frame} (accepted : Accepted frame.version) (cursor : String) (vars : Dict Json) :
    (frame.follow cursor vars).cursor ≠ some "" := by
  intro empty
  have next : (nextNode cursor frame.edges vars).1 = some "" := empty
  rw [nextNode_taken] at next
  split at next
  · rename_i routed
    exact pyStr_ne_empty routed (Option.some.inj next)
  · obtain ⟨edge, taken, ends⟩ := Option.bind_eq_some_iff.mp next
    exact accepted.edge (mem_filter.mp (takenEdge_mem taken)).1 ends

def Visited (env : Env) (terms : Terms) (origin : Machine) (stack : List Activation) (budget : Nat) (frame : Frame) :
    Option Frame → World → Prop
  | some next, w => Standing env terms origin (⟨next, budget, none⟩ :: stack) w ∧ next.version = frame.version ∧
      next.run = frame.run ∧ (Accepted frame.version → next.cursor ≠ some "")
  | none, w => Standing env terms origin stack w ∧ Rests frame.run.id w

theorem visitNode_rests (follows : Follows env terms calls budget) (sound : Sound env origin)
    {frame : Frame} {cursor : String} (here : At frame cursor node) :
    Triple (Standing env terms origin (⟨frame, budget + 1, none⟩ :: stack)) (visitNode env calls frame cursor node)
      (Visited env terms origin stack (budget + 1) frame) (Standing env terms origin stack) := by
  let spot : Spot env terms := ⟨origin, sound, frame, budget + 1, stack, cursor, node, here⟩
  refine bind (R := fun _ => spot.visiting fun _ _ => True) (modify fun w reached => ?_) fun _ => ?_
  · exact ⟨⟨[], []⟩, trivial, Relation.ReflTransGen.tail reached (.visit w frame _ stack cursor node here)⟩
  have executed : spot.Does (fun _ _ => True) (executeNode env calls frame cursor node) _ := executeNode_does follows rfl
  refine bind (executed.triple.weaken (fun _ h => h) (fun _ _ h => h) ?_) fun outcome => ?_
  · exact fun w ⟨visit, _, steps⟩ => Relation.ReflTransGen.tail steps (.abandon w _ stack)
  refine bind (R := fun _ after => ∃ w visit, NodeEffect frame cursor node visit outcome ∧
    Steps env terms origin (spot.machine w visit) ∧
    after = w.record (.stepFinished frame.run.id cursor (nodeTypeText node) outcome.status)) ?_ fun _ => ?_
  · exact modify fun w ⟨visit, effect, steps⟩ => ⟨w, visit, effect, steps, rfl⟩
  have changed {w : World} {visit : Visit} (steps : Steps env terms origin (spot.machine w visit))
      (change : WorkflowRun → WorkflowRun) (halts : ∀ row, (change row).status ≠ .running) :
      Rests frame.run.id ((w.record (.stepFinished frame.run.id cursor (nodeTypeText node) outcome.status)).changeRun
        frame.run.id change) := by
    obtain ⟨row, found, _⟩ := (sound.steps steps).occupied _ mem_cons_self
    exact Rests.of_status (changed_row found) (halts row)
  split
  · rename_i status stops
    refine bind (R := fun _ w => Standing env terms origin stack w ∧ Rests frame.run.id w) (modify ?_)
      fun _ => pure fun _ reached => reached
    rintro _ ⟨w, visit, effect, steps, rfl⟩
    refine ⟨steps.tail (.pause w frame _ visit stack cursor node outcome status here effect stops),
      changed steps _ fun row running => ?_⟩
    exact effect.halts (stops.trans (congrArg some running))
  · rename_i goes
    refine ite (fun failed => ?_) fun passed => ?_
    · refine bind (R := fun _ w => Standing env terms origin stack w ∧ Rests frame.run.id w) ?_
        fun _ => pure fun _ reached => reached
      refine assuming fun w reached => ?_
      obtain ⟨w, visit, effect, steps, rfl⟩ := reached
      have sound' := sound.steps steps
      refine bind (R := fun _ w => Standing env terms origin stack w ∧ Rests frame.run.id w) (modify ?_)
        fun _ => notifyIfTerminal_rests follows sound fun other member => sound'.below other member
      rintro _ rfl
      exact ⟨steps.tail (.fail w frame _ visit stack cursor node outcome here effect goes failed),
        changed steps _ fun row running => by cases running⟩
    · refine bind (R := fun _ => Visited env terms origin stack (budget + 1) frame
        (some (frame.follow cursor outcome.vars))) (modify ?_) fun _ => pure fun _ reached => reached
      rintro _ ⟨w, visit, effect, steps, rfl⟩
      exact ⟨steps.tail (.move w frame _ visit stack cursor node outcome here effect goes passed), rfl, rfl,
        fun accepted => follow_named accepted cursor outcome.vars⟩

theorem advanceLoop_rests (follows : Follows env terms calls budget) (sound : Sound env origin) (steps : Nat) :
    ∀ frame, Accepted frame.version → frame.cursor ≠ some "" →
      Triple (Standing env terms origin (⟨frame, budget + 1, none⟩ :: stack)) (advanceLoop env calls steps frame)
        (fun _ w => Standing env terms origin stack w ∧ Rests frame.run.id w) (Standing env terms origin stack) := by
  have apart {w : World} {frame : Frame} (standing : Standing env terms origin (⟨frame, budget + 1, none⟩ :: stack) w) :
      ∀ activation ∈ stack, activation.frame.run.id ≠ frame.run.id := fun _ => (sound.steps standing).below _
  have row {w : World} {frame : Frame} (standing : Standing env terms origin (⟨frame, budget + 1, none⟩ :: stack) w) :
      ∃ row, w.db.runs.get? frame.run.id = some row := by
    obtain ⟨row, found, _⟩ := (sound.steps standing).occupied _ mem_cons_self
    exact ⟨row, found⟩
  have last {w : World} {frame : Frame} (standing : Standing env terms origin (⟨frame, budget + 1, none⟩ :: stack) w)
      (none_ : frame.cursor = none) : Standing env terms origin stack (w.changeRun frame.run.id (leftRow frame)) ∧
        Rests frame.run.id (w.changeRun frame.run.id (leftRow frame)) := by
    obtain ⟨run, found⟩ := row standing
    exact ⟨standing.tail (.ended w frame _ stack (.inl none_)),
      Rests.of_status (changed_row found) (leftRow_ended none_ run)⟩
  induction steps with
  | zero =>
    intro frame accepted named
    refine assuming fun w standing => ?_
    refine bind (R := fun _ after =>
      Standing env terms origin stack (after.changeRun frame.run.id (leftRow frame)) ∧
        Rests frame.run.id (after.changeRun frame.run.id (leftRow frame))) (ite (fun long => ?_) fun short => ?_)
      fun _ => leaveLoop_rests follows sound (apart standing) fun _ left => left
    · refine modify fun start same => ?_
      subst same
      obtain ⟨run, found⟩ := row standing
      exact ⟨standing.tail (exhausted_leaves long), leftRow frame run, changed_row found,
        fun _ => ⟨frame.cursor.getD "", mem_cons_self⟩⟩
    · refine pure fun start same => ?_
      subst same
      cases given : frame.cursor with
      | none => exact last standing given
      | some cursor =>
        have empty : cursor = "" := by simpa [hasText, given] using short
        exact absurd (empty ▸ given) named
  | succ steps ih =>
    intro frame accepted named
    refine assuming fun w standing => ?_
    have leave := apart standing
    unfold advanceLoop
    split
    · rename_i exhausted
      refine leaveLoop_rests follows sound leave fun start same => ?_
      subst same
      exact last standing exhausted
    · rename_i cursor given
      refine ite (fun empty => absurd (empty ▸ given) named) fun full => ?_
      split
      · rename_i absent
        refine bind (R := fun _ after =>
          Standing env terms origin stack (after.changeRun frame.run.id (leftRow frame)) ∧
            Rests frame.run.id (after.changeRun frame.run.id (leftRow frame))) (modify fun start same => ?_)
          fun _ => leaveLoop_rests follows sound leave fun _ left => left
        subst same
        obtain ⟨run, found⟩ := row standing
        refine ⟨standing.tail (.missing start frame _ stack cursor given full absent),
          Rests.of_status (changed_row (changed_row found)) ?_⟩
        exact fun running => by cases running
      · rename_i found
        refine bind ((visitNode_rests follows sound ⟨given, full, found⟩).before fun start same =>
          same ▸ standing) fun next => ?_
        cases next with
        | some frame' =>
          refine assuming fun after onward => ?_
          obtain ⟨reached, sameVersion, sameRun, goes⟩ := onward
          have rest := ih frame' (sameVersion ▸ accepted) (goes accepted)
          rw [sameRun] at rest
          refine rest.before fun _ same => ?_
          rwa [same]
        | none => exact pure fun _ reached => reached

theorem advanceWith_rests (sound : Sound env origin) (depth : Nat) {version : WorkflowVersion}
    {arrival : Arrival} (accepted : Accepted version) :
    Triple (fun w => ∃ row, w.db.runs.get? runId = some row ∧ row.currentNodeId ≠ some "" ∧
        Standing env terms origin (.start row version arrival depth :: stack) w)
      (advanceWith env (hook env) depth runId version arrival)
      (fun _ w => Standing env terms origin stack w ∧ Rests runId w) (Standing env terms origin stack) := by
  cases depth with
  | zero =>
    refine bind (modify (Q := fun _ => Standing env terms origin stack) ?_)
      fun _ => throw fun _ standing => standing
    rintro w ⟨row, found, _, standing⟩
    obtain rfl := ((sound.steps standing).rows runId row found).1
    exact standing.tail (.exceeded w (Frame.load row version arrival) stack)
  | succ depth =>
    refine assuming fun w ⟨row, found, named, standing⟩ => ?_
    obtain rfl := ((sound.steps standing).rows runId row found).1
    have read : (getRun row.id).exec w = (.ok row, w) := by
      unfold getRun
      rw [Prog.exec_bind_ok (Prog.exec_get w), found]
      rfl
    have follows : Follows env terms ⟨advanceWith env (hook env) depth, hook env⟩ depth :=
      advanceWith_follows (onWorkflowRunCompletedWith_follows env.hookDepth) depth
    refine ⟨fun state same => ?_⟩
    rw [same]
    unfold advanceWith
    rw [Prog.exec_bind_ok read]
    exact (advanceLoop_rests follows sound (maxSteps version) (Frame.load row version arrival) accepted named).run w
      standing

end Resting

end Troop.Workflow
