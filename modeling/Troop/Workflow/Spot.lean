import Troop.Workflow.Soundness

namespace Troop.Workflow

structure Spot (env : Env) (terms : Terms) where
  origin : Machine
  sound : Sound env origin
  frame : Frame
  budget : Nat
  stack : List Activation
  cursor : String
  node : Json
  here : At frame cursor node

namespace Spot

variable {env : Env} {terms : Terms}

def runId (spot : Spot env terms) : String := spot.frame.run.id

def machine (spot : Spot env terms) (w : World) (visit : Visit) : Machine :=
  (w, ⟨spot.frame, spot.budget, some visit⟩ :: spot.stack)

def visiting (spot : Spot env terms) (fact : World → Visit → Prop) (w : World) : Prop :=
  ∃ visit, fact w visit ∧ Steps env terms spot.origin (spot.machine w visit)

def Does {α : Type} (spot : Spot env terms) (fact : World → Visit → Prop) (program : Session α)
    (result : α → World → Visit → Prop) : Prop :=
  Triple (spot.visiting fact) program (fun value => spot.visiting (result value))
    (spot.visiting fun _ _ => True)

variable {α β : Type} {spot : Spot env terms} {fact : World → Visit → Prop}

variable {program : Session α} {result : β → World → Visit → Prop} {condition : Prop} {event : Event} {visit : Visit}
  {w : World}

theorem visiting.weaken {other : World → Visit → Prop} (reached : spot.visiting fact w)
    (entails : ∀ w visit, fact w visit → other w visit) : spot.visiting other w := by
  obtain ⟨visit, holds, steps⟩ := reached
  exact ⟨visit, entails _ _ holds, steps⟩

theorem visiting.forget (reached : spot.visiting fact w) : spot.visiting (fun _ _ => True) w :=
  reached.weaken fun _ _ _ => trivial

theorem Does.triple {result : α → World → Visit → Prop} (does : spot.Does fact program result) :
    Triple (spot.visiting fact) program (fun value => spot.visiting (result value))
      (spot.visiting fun _ _ => True) := does

theorem Does.pure {value : α} {result : α → World → Visit → Prop}
    (holds : ∀ w visit, fact w visit → result value w visit) :
    spot.Does fact (Pure.pure value) result :=
  Triple.pure fun _ reached => reached.weaken holds

theorem Does.throw {error : PyError} {result : α → World → Visit → Prop} :
    spot.Does fact (MonadExcept.throw error) result :=
  Triple.throw fun _ reached => reached.forget

theorem Does.bind {first : Session α} {next : α → Session β} {R : α → World → Visit → Prop} (head : spot.Does fact first R)
    (tail : ∀ value, spot.Does (R value) (next value) result) :
    spot.Does fact (first >>= next) result :=
  Triple.bind head tail

theorem Does.before {needed : World → Visit → Prop} {result : α → World → Visit → Prop}
    (does : spot.Does needed program result) (entails : ∀ w visit, fact w visit → needed w visit) :
    spot.Does fact program result :=
  Triple.before does fun _ reached => reached.weaken entails

theorem Does.after {result stronger : α → World → Visit → Prop} (does : spot.Does fact program stronger)
    (entails : ∀ value w visit, stronger value w visit → result value w visit) :
    spot.Does fact program result :=
  Triple.after does fun value _ reached => reached.weaken (entails value)

theorem Does.ite [Decidable condition] {yes no : Session α} {result : α → World → Visit → Prop}
    (whenTrue : condition → spot.Does fact yes result) (whenFalse : ¬ condition → spot.Does fact no result) :
    spot.Does fact (if condition then yes else no) result :=
  Triple.ite whenTrue whenFalse

theorem Does.get {Q : World → World → Visit → Prop} (holds : ∀ w visit, fact w visit → Q w w visit) :
    spot.Does fact (MonadState.get : Session World) Q :=
  Triple.get fun w ⟨visit, given, steps⟩ => ⟨visit, holds w visit given, steps⟩

theorem Does.ofExcept {attempt : Except PyError α} {result : α → World → Visit → Prop}
    (good : ∀ value, attempt = .ok value → ∀ w visit, fact w visit → result value w visit) :
    spot.Does fact (Prog.ofExcept attempt) result :=
  Triple.ofExcept (fun value ran _ reached => reached.weaken (good value ran)) fun _ reached => reached.forget

theorem Does.attempt {attempt : Except PyError α} {next : α → Session β}
    (good : ∀ value, attempt = .ok value → spot.Does fact (next value) result) :
    spot.Does fact (Prog.ofExcept attempt >>= next) result := by
  cases attempt with
  | ok value => exact good value rfl
  | error error => exact ⟨fun w reached => reached.forget⟩

theorem Does.knowing {result : α → World → Visit → Prop} (does : condition → spot.Does fact program result) :
    spot.Does (fun w visit => fact w visit ∧ condition) program result :=
  ⟨fun w ⟨visit, given, steps⟩ => (does given.2).run w ⟨visit, given.1, steps⟩⟩

theorem Does.read {next : World → Session β}
    (goes : ∀ w, spot.Does fact (next w) result) : spot.Does fact (MonadState.get >>= next) result :=
  Does.bind (Does.get (Q := fun _ => fact) fun _ _ given => given) goes

theorem Does.onlyIf [Decidable condition] {program : Session PUnit}
    (does : condition → spot.Does fact program (fun _ => fact)) :
    spot.Does fact (onlyIf condition program) (fun _ => fact) :=
  Does.ite does fun _ => Does.pure fun _ _ given => given

theorem Does.emit {Q : World → Visit → Prop}
    (reports : ∀ w visit, fact w visit → Reports env w spot.frame spot.cursor spot.node visit event)
    (holds : ∀ w visit, fact w visit → Q (w.record event) { visit with own := event :: visit.own }) :
    spot.Does fact (emit event) (fun _ => Q) :=
  Triple.modify fun w ⟨visit, given, steps⟩ =>
    ⟨_, holds w visit given, steps.tail (.report w _ _ visit _ _ _ event spot.here (reports w visit given))⟩

theorem Does.branch {P : World → Visit → Prop} {result : α → World → Visit → Prop}
    (changes : ∀ w visit, fact w visit → ∃ visit', BranchStep spot.frame spot.cursor spot.node visit visit' ∧ P w visit')
    (does : spot.Does P program result) : spot.Does fact program result :=
  Triple.before does fun w ⟨visit, given, steps⟩ =>
    have ⟨visit', changed, holds⟩ := changes w visit given
    ⟨visit', holds, steps.tail (.branch w _ _ visit visit' _ _ _ spot.here changed)⟩

def Stable (fact : World → Visit → Prop) : Prop :=
  ∀ w w' visit visit', fact w visit → visit'.branches = visit.branches → visit.own ⊆ visit'.own → fact w' visit'

def Lasting (fact : World → Visit → Prop) : Prop :=
  ∀ w w' visit visit', fact w visit → visit.own ⊆ visit'.own → fact w' visit'

theorem Lasting.stable (lasting : Lasting fact) : Stable fact :=
  fun _ _ _ _ given _ grown => lasting _ _ _ _ given grown

theorem Stable.here {w w' : World} (stable : Stable fact) (given : fact w visit) : fact w' visit :=
  stable _ _ _ _ given rfl fun _ member => member

theorem Stable.reported {w w' : World} (stable : Stable fact)
    (given : fact w visit) : fact w' { visit with own := event :: visit.own } :=
  stable _ _ _ _ given rfl (List.subset_cons_self _ _)

theorem Stable.and {left right : World → Visit → Prop} (first : Stable left) (second : Stable right) :
    Stable fun w visit => left w visit ∧ right w visit :=
  fun _ _ _ _ given same grown => ⟨first _ _ _ _ given.1 same grown, second _ _ _ _ given.2 same grown⟩

theorem Stable.owned (event : Event) : Stable fun _ visit => event ∈ visit.own :=
  fun _ _ _ _ given _ grown => grown given

theorem Does.aside {program : Session PUnit} (stable : Stable fact)
    (changes : ∀ w, ∃ drawn approvals taskRuns children, OutputsFrom w.db.taskRuns taskRuns ∧
      program.exec w = (.ok ⟨⟩, w.aside drawn approvals taskRuns children)) :
    spot.Does fact program (fun _ => fact) := by
  refine ⟨fun w ⟨visit, given, steps⟩ => ?_⟩
  obtain ⟨drawn, approvals, taskRuns, children, outputs, ran⟩ := changes w
  rw [ran]
  exact ⟨visit, stable.here given, steps.tail (.aside w _ drawn approvals taskRuns children outputs)⟩

theorem Does.uuid4 (stable : Stable fact) : spot.Does fact (uuid4 env) (fun _ => fact) := by
  refine ⟨fun w ⟨visit, given, steps⟩ => ?_⟩
  exact ⟨visit, stable.here given,
    steps.tail (.aside w _ 1 w.db.approvals w.db.taskRuns w.db.children (.refl _))⟩

theorem Does.setChildren (stable : Stable fact) (change : Db → List WorkflowChildExecution) :
    spot.Does fact (modifyDb fun db => { db with children := change db }) (fun _ => fact) :=
  Does.aside stable fun w => ⟨0, w.db.approvals, w.db.taskRuns, change w.db, .refl _, rfl⟩

theorem Does.setApprovals (stable : Stable fact) (change : Db → Dict ApprovalRequest) :
    spot.Does fact (modifyDb fun db => { db with approvals := change db }) (fun _ => fact) :=
  Does.aside stable fun w => ⟨0, change w.db, w.db.taskRuns, w.db.children, .refl _, rfl⟩

theorem Does.setTaskRuns (stable : Stable fact) (change : Db → Dict TaskRun)
    (outputs : ∀ db, OutputsFrom db.taskRuns (change db)) :
    spot.Does fact (modifyDb fun db => { db with taskRuns := change db }) (fun _ => fact) :=
  Does.aside stable fun w => ⟨0, w.db.approvals, change w.db, w.db.children, outputs _, rfl⟩

theorem Does.forEach {ι : Type} {handle : ι → Session PUnit} {items : List ι}
    (step : ∀ item ∈ items, spot.Does fact (handle item) (fun _ => fact)) :
    spot.Does fact (items.forM handle) (fun _ => fact) :=
  Triple.forEach step

theorem Does.commit (stable : Stable fact) : spot.Does fact commit (fun _ => fact) :=
  Triple.modify fun w ⟨visit, given, steps⟩ => ⟨visit, stable.here given, steps.tail (.commit w _)⟩

end Spot

end Troop.Workflow
