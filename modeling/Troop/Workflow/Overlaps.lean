import Mathlib.Data.List.Perm.Subperm
import Mathlib.Logic.Function.Basic
import Troop.Workflow.ParkedBranches
import Troop.Workflow.Rejections

namespace Troop.Workflow

open List

/-- What `resume_run` reads before it looks at the approval. -/
def loadResumable (owner runId : String) : Session (WorkflowRun × WorkflowVersion) := do
  let run ← getRun runId
  let definition ← getDefinition owner run.workflowId
  checkAccess owner definition
  if ¬ run.status.resumable then
    raiseValueError ("run not resumable from status=" ++ run.status.text)
  else
    match ← getVersion (some run.workflowVersionId) with
    | none => raiseValueError "workflow version missing"
    | some version => return (run, version)

/-- How far a call of `resume_run` has come in its transaction. A call that has passed `_consume_approval_for_node` has
    the approval as it will write it. -/
inductive ResumeStage where
  | begun
  | opened (run : WorkflowRun) (version : WorkflowVersion)
  | granted (run : WorkflowRun) (version : WorkflowVersion) (vars : Dict Json) (spent : Option ApprovalRequest)
  | executed (spent : Option ApprovalRequest)
  | ended

structure ResumeCall where
  owner : String
  given : Resumption
  stage : ResumeStage
  seen : Option (Option ApprovalRequest × List Nat)

/-- Calls of `resume_run` for one run with one approval. The world has the committed tables; the calls that have passed
    the approval and those that have committed are the newest first. -/
structure Overlap where
  runId : String
  approvalId : String
  world : World
  calls : Nat → ResumeCall
  passed : List Nat
  settled : List Nat
  dispatched : List (Nat × Event)

def Db.withApproval (id : String) (row : Option ApprovalRequest) (db : Db) : Db :=
  match row with
  | some row => { db with approvals := db.approvals.set id row }
  | none => { db with approvals := db.approvals.pop id }

/-- `resume_run` asks for an approval at this node. -/
def asksApproval (node : Json) (vars : Dict Json) : Bool :=
  nodeTypeText node = "approval" ∨ nodeTypeText node = "tool" ∧ (vars.get "pending_tool").truthy

def executeWaitingTool (env : Env) (run : WorkflowRun) (node : Json) (vars : Dict Json) : Session PUnit := do
  if nodeTypeText node = "tool" then
    let _ ← executeToolNode env run node (run.currentNodeId.getD "") vars
    return ⟨⟩
  else return ⟨⟩

/-- The tool is called with `approval_granted`. -/
def Event.grants : Event → Bool
  | .toolExecuted _ _ _ _ _ context => context.get "approval_granted" = .bool true
  | _ => false

def newEvents (before after : World) : List Event := after.log.take (after.log.length - before.log.length)

/-- A call loads the run, loads the approval, takes the grant, executes the tool, and commits; what the rest of
    `_advance` writes is left open, the row of the approval apart. A call may raise anywhere. -/
inductive OverlapStep where
  | load (call : Nat)
  | read (call : Nat)
  | grant (call : Nat)
  | execute (call : Nat)
  | commit (call : Nat) (left : Db)
  | abandon (call : Nat)
  | elsewhere (left : Db)
  | tick (now : Int)

namespace Overlap

variable (env : Env)

def start (runId approvalId : String) (world : World) (calls : Nat → String × Resumption) : Overlap where
  runId := runId
  approvalId := approvalId
  world := world
  calls i := ⟨(calls i).1, { (calls i).2 with approvalRequestId := some approvalId }, .begun, none⟩
  passed := []
  settled := []
  dispatched := []

def moved (o : Overlap) (i : Nat) (stage : ResumeStage) : Overlap :=
  { o with calls := Function.update o.calls i { o.calls i with stage } }

def pass (o : Overlap) (i : Nat) (stage : ResumeStage) : Overlap := { o.moved i stage with passed := i :: o.passed }

def dispatch (o : Overlap) (i : Nat) (log : List Event) (drawn : Nat) (granted : List Event) : Overlap :=
  { o with world := { o.world with log, drawn }, dispatched := granted.map (i, ·) ++ o.dispatched }

def session (o : Overlap) (row : Option ApprovalRequest) : World :=
  { o.world with db := o.world.db.withApproval o.approvalId row }

def row (o : Overlap) : Option ApprovalRequest := o.world.db.approvals.get? o.approvalId

def writes (o : Overlap) (left : Db) (row : Option ApprovalRequest) : Overlap :=
  let db := left.withApproval o.approvalId row
  { o with world := { o.world with db, committed := db } }

def loads (o : Overlap) (i : Nat) : Overlap :=
  match (o.calls i).stage with
  | .begun =>
    match (loadResumable (o.calls i).owner o.runId).exec o.world with
    | (.ok (run, version), _) => o.moved i (.opened run version)
    | (.error _, _) => o.moved i .ended
  | _ => o

def reads (o : Overlap) (i : Nat) : Overlap :=
  match (o.calls i).seen with
  | none => { o with calls := Function.update o.calls i { o.calls i with seen := some (o.row, o.settled) } }
  | some _ => o

def grants (o : Overlap) (i : Nat) : Overlap :=
  match (o.calls i).stage, (o.calls i).seen with
  | .opened run version, some (row, _) =>
    let node := waitingNode run version
    match (grantedResume env run node (o.calls i).given run.contextJson.vars).exec (o.session row) with
    | (.ok vars, after) =>
      if asksApproval node run.contextJson.vars then
        o.pass i (.granted run version vars (after.db.approvals.get? o.approvalId))
      else o.moved i (.granted run version vars none)
    | (.error _, _) => o.moved i .ended
  | _, _ => o

def executes (o : Overlap) (i : Nat) : Overlap :=
  match (o.calls i).stage with
  | .granted run version vars spent =>
    let session := o.session (spent.or o.row)
    let ran := (executeWaitingTool env (resumedRow vars run) (waitingNode run version) vars).exec session
    let stage := match ran.1 with
      | .ok _ => .executed spent
      | .error _ => .ended
    (o.moved i stage).dispatch i ran.2.log ran.2.drawn ((newEvents session ran.2).filter Event.grants)
  | _ => o

def commits (o : Overlap) (i : Nat) (left : Db) : Overlap :=
  match (o.calls i).stage with
  | .executed spent => { (o.writes left (spent.or o.row)).moved i .ended with settled := i :: o.settled }
  | _ => o

def next (o : Overlap) : OverlapStep → Overlap
  | .load i => o.loads i
  | .read i => o.reads i
  | .grant i => o.grants env i
  | .execute i => o.executes env i
  | .commit i left => o.commits i left
  | .abandon i => o.moved i .ended
  | .elsewhere left => o.writes left o.row
  | .tick now => { o with world := { o.world with now } }

def after : List OverlapStep → Overlap → Overlap
  | [], o => o
  | step :: rest, o => after rest (o.next env step)

def inOrder (o : Overlap) : OverlapStep → Prop
  | .grant i => ∀ run version row known, (o.calls i).stage = .opened run version → (o.calls i).seen = some (row, known) →
      asksApproval (waitingNode run version) run.contextJson.vars = true →
      (∃ taken, checkApprovalForNode env row run run.currentNodeId run.contextJson.vars
        (nodeTypeText (waitingNode run version) = "tool") = .ok taken) →
      ∀ j ∈ o.passed, j ∈ known
  | _ => True

def InOrder : List OverlapStep → Overlap → Prop
  | [], _ => True
  | step :: rest, o => o.inOrder env step ∧ InOrder rest (o.next env step)

/-- At most one call has passed the approval, and the tool was called at most once with `approval_granted`. -/
def spentOnce (o : Overlap) : Prop := o.passed.length ≤ 1 ∧ o.dispatched.length ≤ 1

end Overlap

section Dispatches

/-- A program calls tools with `approval_granted` at most this often. -/
structure Dispatches {α : Type} (n : Nat) (program : Session α) : Prop where
  run : ∀ w, ∃ new, (program.exec w).2.log = new ++ w.log ∧ (new.filter Event.grants).length ≤ n

namespace Dispatches

variable {α β : Type} {m n : Nat}

theorem silent {program : Session α} (same : ∀ w, (program.exec w).2.log = w.log) : Dispatches n program :=
  ⟨fun w => ⟨[], same w, Nat.zero_le n⟩⟩

theorem pure {value : α} : Dispatches n (Pure.pure value : Session α) := silent fun _ => rfl

theorem get : Dispatches n (MonadState.get : Session World) := silent fun _ => rfl

theorem ofExcept {result : Except PyError α} : Dispatches n (Prog.ofExcept result : Session α) :=
  silent fun w => by rw [Prog.exec_ofExcept]

theorem modifyDb (change : Db → Db) : Dispatches n (Workflow.modifyDb change) := silent fun _ => rfl

theorem emit {event : Event} (counted : ([event].filter Event.grants).length ≤ n) : Dispatches n (Workflow.emit event) :=
  ⟨fun _ => ⟨[event], rfl, counted⟩⟩

theorem bind {first : Session α} {next : α → Session β} (head : Dispatches m first)
    (tail : ∀ value, Dispatches n (next value)) : Dispatches (m + n) (first >>= next) := by
  constructor
  intro w
  obtain ⟨new, grown, few⟩ := head.run w
  rw [Prog.exec_bind]
  cases ran : first.exec w with
  | mk result middle =>
    rw [ran] at grown
    cases result with
    | error error => exact ⟨new, grown, by omega⟩
    | ok value =>
      obtain ⟨newer, further, fewer⟩ := (tail value).run middle
      refine ⟨newer ++ new, ?_, ?_⟩
      · simp_all
      · grind

theorem weaken {program : Session α} (few : Dispatches m program) (below : m ≤ n) : Dispatches n program := by
  constructor
  intro w
  obtain ⟨new, grown, counted⟩ := few.run w
  exact ⟨new, grown, counted.trans below⟩

theorem after {first : Session α} {next : α → Session β} (head : Dispatches 0 first)
    (tail : ∀ value, Dispatches n (next value)) : Dispatches n (first >>= next) := by
  have both := head.bind tail
  rwa [Nat.zero_add] at both

theorem before {first : Session α} {next : α → Session β} (head : Dispatches n first)
    (tail : ∀ value, Dispatches 0 (next value)) : Dispatches n (first >>= next) := head.bind tail

theorem ite {condition : Prop} [Decidable condition] {yes no : Session α} (whenTrue : Dispatches n yes)
    (whenFalse : Dispatches n no) : Dispatches n (if condition then yes else no) := by
  split
  · exact whenTrue
  · exact whenFalse

end Dispatches

variable {env : Env}

theorem createWorkflowApprovalRequest_silent {run : WorkflowRun} {nodeId approvalType actionKey reason : String}
    {argsHash : Option String} {extraPayload : Dict Json} :
    Dispatches 0 (createWorkflowApprovalRequest env run nodeId approvalType actionKey argsHash reason extraPayload) := by
  apply Dispatches.after .ofExcept
  intro rawArguments
  apply Dispatches.after (.silent fun _ => rfl)
  intro id
  apply Dispatches.after .get
  intro w
  apply Dispatches.after (.modifyDb _)
  intro _
  exact Dispatches.after (.emit (Nat.le_refl 0)) fun _ => .pure

theorem dispatchTool_dispatches {run : WorkflowRun} {nodeId toolSlug : String} {params context vars : Dict Json} :
    Dispatches (if context.get "approval_granted" = .bool true then 1 else 0)
      (dispatchTool env run nodeId toolSlug params context vars) := by
  apply Dispatches.ite .pure
  apply Dispatches.ite .pure
  apply Dispatches.before
  · apply Dispatches.after .get
    intro w
    apply Dispatches.before _ fun _ => .ofExcept
    apply Dispatches.emit
    by_cases granted : context.get "approval_granted" = .bool true <;> simp [Event.grants, granted]
  · intro result
    apply Dispatches.ite
    · exact createWorkflowApprovalRequest_silent.after fun _ => .pure
    · exact .ite .pure .pure

theorem awaitToolApproval_silent {run : WorkflowRun} {nodeId : String} {pending vars : Dict Json} :
    Dispatches 0 (awaitToolApproval env run nodeId pending vars) := by
  apply Dispatches.ite
  · exact Dispatches.after .ofExcept fun _ => .pure
  · apply Dispatches.after _ fun _ => .pure
    apply Dispatches.ite .pure
    exact Dispatches.after .ofExcept fun _ => createWorkflowApprovalRequest_silent.after fun _ => .pure

theorem pendingFor_of_falsy {vars : Dict Json} {nodeId : String}
    (falsy : (vars.get "pending_tool").truthy = false) : pendingFor vars nodeId = none := by
  unfold pendingFor
  cases stored : vars.get "pending_tool" with
  | obj pending =>
    rw [stored] at falsy
    have empty : pending = [] := by simpa [Json.truthy] using falsy
    subst empty
    rfl
  | _ => rfl

theorem executeToolNode_dispatches {run : WorkflowRun} {node : Json} {nodeId : String} {vars : Dict Json} :
    Dispatches (if (pendingFor vars nodeId).isSome then 1 else 0) (executeToolNode env run node nodeId vars) := by
  apply Dispatches.after .ofExcept
  intro config
  cases pendingFor vars nodeId with
  | some pending =>
    apply Dispatches.ite (awaitToolApproval_silent.weaken (Nat.zero_le _))
    apply Dispatches.after .ofExcept
    intro params
    apply Dispatches.after .ofExcept
    intro context
    apply dispatchTool_dispatches.weaken
    split
    · exact Nat.le_refl 1
    · exact Nat.zero_le 1
  | none =>
    apply Dispatches.after .ofExcept
    intro params
    have ungranted : (freshToolContext run nodeId params).get "approval_granted" = .null := rfl
    apply dispatchTool_dispatches.weaken
    simp [ungranted]

theorem executeWaitingTool_dispatches {run : WorkflowRun} {node : Json} {vars : Dict Json} :
    Dispatches 1 (executeWaitingTool env run node vars) := by
  apply Dispatches.ite _ .pure
  apply Dispatches.before _ fun _ => .pure
  apply executeToolNode_dispatches.weaken
  split
  · exact Nat.le_refl 1
  · exact Nat.zero_le 1

theorem executeWaitingTool_silent {run : WorkflowRun} {node : Json} {vars : Dict Json}
    (unasked : nodeTypeText node = "tool" → (vars.get "pending_tool").truthy = false) :
    Dispatches 0 (executeWaitingTool env run node vars) := by
  unfold executeWaitingTool
  split
  · rename_i tool
    apply Dispatches.before _ fun _ => .pure
    have fresh : pendingFor vars (run.currentNodeId.getD "") = none := pendingFor_of_falsy (unasked tool)
    simpa [fresh] using @executeToolNode_dispatches env run node (run.currentNodeId.getD "") vars
  · exact .pure

end Dispatches

section Granting

variable {env : Env} {w after : World} {id : String} {run : WorkflowRun} {node : Json} {vars resumed : Dict Json}
  {given : Resumption}

theorem Db.withApproval_row (id : String) (row : Option ApprovalRequest) (db : Db) :
    (db.withApproval id row).approvals.get? id = row := by
  cases row <;> simp [Db.withApproval]

theorem consumedPayload_consumed (printed : ∀ now, env.isoformat now ≠ "") (payload : Dict Json) (nodeId : Option String)
    (now : Int) : alreadyConsumed (consumedPayload env payload nodeId now) = true := by
  simp [alreadyConsumed, consumedPayload, Dict.get_set, Json.truthy, printed]

theorem consumeApprovalForNode_spends (printed : ∀ now, env.isoformat now ≠ "") {actor : Option String}
    {pendingTool : Bool}
    (ran : (consumeApprovalForNode env id run run.currentNodeId vars actor pendingTool).exec w = (.ok resumed, after)) :
    (∃ taken, checkApprovalForNode env (w.db.approvals.get? id) run run.currentNodeId vars pendingTool = .ok taken) ∧
      ∃ spent, after.db.approvals.get? id = some spent ∧ alreadyConsumed spent.payloadJson = true := by
  unfold consumeApprovalForNode at ran
  rw [Prog.exec_bind_ok (Prog.exec_get w)] at ran
  obtain ⟨⟨approval, tool⟩, checked, ran⟩ := Prog.exec_ofExcept_split ran
  rw [Prog.exec_bind_ok (modifyDb_exec _ w), Prog.exec_bind_ok (emit_exec _ _), Prog.exec_ofExcept] at ran
  let spent := { approval with payloadJson := consumedPayload env approval.payloadJson run.currentNodeId w.now }
  have consumed : alreadyConsumed spent.payloadJson = true := consumedPayload_consumed printed _ _ _
  refine ⟨⟨_, checked⟩, spent, ?_, consumed⟩
  obtain ⟨_, rfl⟩ := Prod.mk.inj ran
  simp [World.record, spent]

theorem grantedResume_spends (printed : ∀ now, env.isoformat now ≠ "") (asks : asksApproval node vars = true)
    (named : given.approvalRequestId = some id)
    (ran : (grantedResume env run node given vars).exec w = (.ok resumed, after)) :
    id ≠ "" ∧ (∃ taken, checkApprovalForNode env (w.db.approvals.get? id) run run.currentNodeId vars
      (nodeTypeText node = "tool") = .ok taken) ∧
      ∃ spent, after.db.approvals.get? id = some spent ∧ alreadyConsumed spent.payloadJson = true := by
  unfold grantedResume at ran
  rw [named] at ran
  simp only [asksApproval, decide_eq_true_eq] at asks
  by_cases gate : nodeTypeText node = "approval"
  · rw [if_pos gate] at ran
    split at ran
    · cases ran
    rename_i real
    refine ⟨real, ?_⟩
    have other : decide (nodeTypeText node = "tool") = false := by simp [gate]
    rw [other]
    exact consumeApprovalForNode_spends printed ran
  · rw [if_neg gate] at ran
    have pending := asks.resolve_left gate
    rw [if_pos pending] at ran
    split at ran
    · cases ran
    rename_i real
    refine ⟨real, ?_⟩
    have same : decide (nodeTypeText node = "tool") = true := by simp [pending.1]
    rw [same]
    exact consumeApprovalForNode_spends printed ran

theorem consumeApprovalForNode_accepts {actor : Option String} {pendingTool : Bool}
    {taken : ApprovalRequest × Option (String × Dict Json)}
    (accepted : checkApprovalForNode env (w.db.approvals.get? id) run run.currentNodeId vars pendingTool = .ok taken) :
    ∃ resumed after, (consumeApprovalForNode env id run run.currentNodeId vars actor pendingTool).exec w =
      (.ok resumed, after) := by
  obtain ⟨approval, tool⟩ := taken
  have granted : ∃ resumed, grantedVars id approval run.currentNodeId actor pendingTool vars = .ok resumed := by
    cases pendingTool with
    | false => exact ⟨_, rfl⟩
    | true =>
      obtain ⟨call, _, read, _⟩ := (checkApprovalForNode_spec accepted).2.2.2
      obtain ⟨pending, stored, _⟩ := except_bind_ok read
      exact ⟨_, by rw [grantedVars, if_pos rfl, stored]; rfl⟩
  obtain ⟨resumed, granted⟩ := granted
  unfold consumeApprovalForNode
  rw [Prog.exec_bind_ok (Prog.exec_get w), accepted, Prog.exec_bind_ok (Prog.exec_ofExcept _ w)]
  rw [Prog.exec_bind_ok (modifyDb_exec _ w), Prog.exec_bind_ok (emit_exec _ _), granted, Prog.exec_ofExcept]
  exact ⟨_, _, rfl⟩

theorem grantedResume_accepts (asks : asksApproval node vars = true) (named : given.approvalRequestId = some id)
    (real : id ≠ "") {taken : ApprovalRequest × Option (String × Dict Json)}
    (accepted : checkApprovalForNode env (w.db.approvals.get? id) run run.currentNodeId vars
      (nodeTypeText node = "tool") = .ok taken) :
    ∃ resumed after, (grantedResume env run node given vars).exec w = (.ok resumed, after) := by
  simp only [asksApproval, decide_eq_true_eq] at asks
  unfold grantedResume
  rw [named]
  dsimp only [Option.getD_some]
  by_cases gate : nodeTypeText node = "approval"
  · rw [if_pos gate, if_neg real]
    have other : decide (nodeTypeText node = "tool") = false := by simp [gate]
    rw [other] at accepted
    exact consumeApprovalForNode_accepts accepted
  · have pending := asks.resolve_left gate
    rw [if_neg gate, if_pos pending, if_neg real]
    have same : decide (nodeTypeText node = "tool") = true := by simp [pending.1]
    rw [same] at accepted
    exact consumeApprovalForNode_accepts accepted

theorem grantedResume_unasked (unasked : asksApproval node vars = false) (tool : nodeTypeText node = "tool")
    (ran : (grantedResume env run node given vars).exec w = (.ok resumed, after)) : resumed = vars := by
  unfold grantedResume at ran
  simp only [asksApproval, tool, true_and, decide_eq_false_iff_not, not_or] at unasked
  rw [if_neg (by simp [tool]), if_neg (by simp [tool, unasked.2]), if_neg (by simp [tool])] at ran
  split at ran
  · cases ran
  · cases ran
    rfl

end Granting

namespace Overlap

variable {env : Env}

def Spent (row : Option ApprovalRequest) : Prop :=
  ∃ approval, row = some approval ∧ alreadyConsumed approval.payloadJson = true

def Fits (passed : Prop) : ResumeStage → Prop
  | .begun => ¬ passed
  | .opened _ _ => ¬ passed
  | .granted run version vars spent => (passed → Spent spent) ∧ (¬ passed → spent = none ∧
      (nodeTypeText (waitingNode run version) = "tool" → (vars.get "pending_tool").truthy = false))
  | .executed spent => (passed → Spent spent) ∧ (¬ passed → spent = none)
  | .ended => True

def Past : ResumeStage → Prop
  | .executed _ => True
  | .ended => True
  | _ => False

structure Booked (o : Overlap) : Prop where
  named : ∀ i, (o.calls i).given.approvalRequestId = some o.approvalId
  real : o.passed ≠ [] → o.approvalId ≠ ""
  stages : ∀ i, Fits (i ∈ o.passed) (o.calls i).stage
  settled : ∀ i ∈ o.settled, (o.calls i).stage = .ended
  written : ∀ i ∈ o.passed, i ∈ o.settled → Spent o.row
  seen : ∀ i row known, (o.calls i).seen = some (row, known) → known ⊆ o.settled ∧
    ∀ j ∈ o.passed, j ∈ known → Spent row
  once : (o.dispatched.map Prod.fst).Nodup
  counted : ∀ i ∈ o.dispatched.map Prod.fst, i ∈ o.passed ∧ Past (o.calls i).stage

variable {o : Overlap} {i : Nat} {stage : ResumeStage}

theorem moved_stage (j : Nat) : ((o.moved i stage).calls j).stage = if j = i then stage else (o.calls j).stage := by
  unfold moved
  by_cases same : j = i
  · simp_all
  · simp [same]

theorem moved_seen (j : Nat) : ((o.moved i stage).calls j).seen = (o.calls j).seen := by
  unfold moved
  by_cases same : j = i
  · simp_all
  · simp [same]

theorem moved_given (j : Nat) : ((o.moved i stage).calls j).given = (o.calls j).given := by
  unfold moved
  by_cases same : j = i
  · simp_all
  · simp [same]

theorem writes_row (left : Db) (row : Option ApprovalRequest) : (o.writes left row).row = row :=
  Db.withApproval_row o.approvalId row left

theorem Booked.unsettled (booked : Booked o) (going : (o.calls i).stage ≠ .ended) : i ∉ o.settled :=
  fun member => going (booked.settled i member)

theorem Booked.moved (booked : Booked o) (fits : Fits (i ∈ o.passed) stage)
    (free : i ∈ o.settled → stage = .ended) (past : Past (o.calls i).stage → Past stage) : Booked (o.moved i stage) where
  named j := by
    rw [moved_given]
    exact booked.named j
  real := booked.real
  stages j := by
    rw [moved_stage]
    split
    · rename_i same
      subst same
      exact fits
    · exact booked.stages j
  settled j member := by
    rw [moved_stage]
    split
    · rename_i same
      exact free (same ▸ member)
    · exact booked.settled j member
  written := booked.written
  seen j row known found := by
    rw [moved_seen] at found
    exact booked.seen j row known found
  once := booked.once
  counted j member := by
    obtain ⟨passed, gone⟩ := booked.counted j member
    refine ⟨passed, ?_⟩
    rw [moved_stage]
    split
    · simp_all
    · exact gone

theorem Booked.ends (booked : Booked o) (i : Nat) : Booked (o.moved i .ended) :=
  booked.moved trivial (fun _ => rfl) fun _ => trivial

theorem Booked.writes (booked : Booked o) (left : Db) (row : Option ApprovalRequest)
    (kept : Spent o.row → Spent row) : Booked (o.writes left row) where
  named := booked.named
  real := booked.real
  stages := booked.stages
  settled := booked.settled
  written j member settled := by
    rw [writes_row]
    exact kept (booked.written j member settled)
  seen := booked.seen
  once := booked.once
  counted := booked.counted

theorem Booked.loads (booked : Booked o) (i : Nat) : Booked (o.loads i) := by
  unfold Overlap.loads
  split
  · rename_i begun
    have fits := booked.stages i
    have free : i ∉ o.settled := booked.unsettled (by simp [begun])
    rw [begun] at fits
    split
    · exact booked.moved fits (fun member => absurd member free) fun past => by rw [begun] at past; exact past.elim
    · exact booked.ends i
  · exact booked

theorem Booked.reads (booked : Booked o) (i : Nat) : Booked (o.reads i) := by
  unfold Overlap.reads
  split
  · have stages : ∀ j, (Function.update o.calls i { o.calls i with seen := some (o.row, o.settled) } j).stage =
        (o.calls j).stage := by
      intro j
      by_cases same : j = i
      · simp_all
      · simp [same]
    have givens : ∀ j, (Function.update o.calls i { o.calls i with seen := some (o.row, o.settled) } j).given =
        (o.calls j).given := by
      intro j
      by_cases same : j = i
      · simp_all
      · simp [same]
    refine ⟨fun j => (givens j) ▸ booked.named j, booked.real, fun j => ?_, fun j member => ?_, booked.written, fun j row known found => ?_,
      booked.once, fun j member => ?_⟩
    · rw [stages]
      exact booked.stages j
    · rw [stages]
      exact booked.settled j member
    · dsimp only at found ⊢
      by_cases same : j = i
      · subst same
        rw [Function.update_self] at found
        cases found
        exact ⟨Subset.refl _, booked.written⟩
      · rw [Function.update_of_ne same] at found
        exact booked.seen j row known found
    · rw [stages]
      exact booked.counted j member
  · exact booked

structure AtGate (o : Overlap) (i : Nat) (run : WorkflowRun) (version : WorkflowVersion) (row : Option ApprovalRequest)
    (known : List Nat) : Prop where
  opened : (o.calls i).stage = .opened run version
  seen : (o.calls i).seen = some (row, known)

def Accepts (env : Env) (run : WorkflowRun) (version : WorkflowVersion) (row : Option ApprovalRequest) : Prop :=
  ∃ taken, checkApprovalForNode env row run run.currentNodeId run.contextJson.vars
    (nodeTypeText (waitingNode run version) = "tool") = .ok taken

theorem grants_cases (printed : ∀ now, env.isoformat now ≠ "") (booked : Booked o) (i : Nat) :
    o.grants env i = o ∨ o.grants env i = o.moved i .ended ∨ ∃ run version row known vars, AtGate o i run version row known ∧
      ((asksApproval (waitingNode run version) run.contextJson.vars = true ∧ Accepts env run version row ∧
        o.approvalId ≠ "" ∧ ∃ spent, Spent spent ∧ o.grants env i = o.pass i (.granted run version vars spent)) ∨
      (asksApproval (waitingNode run version) run.contextJson.vars = false ∧
        (nodeTypeText (waitingNode run version) = "tool" → (vars.get "pending_tool").truthy = false) ∧
        o.grants env i = o.moved i (.granted run version vars none))) := by
  unfold Overlap.grants
  split
  · rename_i run version row known opened seen
    dsimp only
    cases ran : (grantedResume env run (waitingNode run version) (o.calls i).given run.contextJson.vars).exec
        (o.session row) with
    | mk result after =>
      cases result with
      | error error => exact .inr (.inl rfl)
      | ok vars =>
        refine .inr (.inr ⟨run, version, row, known, vars, ⟨opened, seen⟩, ?_⟩)
        dsimp only
        cases asks : asksApproval (waitingNode run version) run.contextJson.vars with
        | true =>
          obtain ⟨real, accepted, spent, found, consumed⟩ := grantedResume_spends printed asks (booked.named i) ran
          rw [show (o.session row).db.approvals.get? o.approvalId = row from Db.withApproval_row _ _ _] at accepted
          rw [found, if_pos rfl]
          exact .inl ⟨rfl, accepted, real, some spent, ⟨spent, rfl, consumed⟩, rfl⟩
        | false =>
          refine .inr ⟨rfl, fun tool => ?_, rfl⟩
          rw [grantedResume_unasked asks tool ran]
          simpa [asksApproval, tool] using asks
  · exact .inl rfl

theorem Booked.pass (booked : Booked o) (fits : Fits True stage) (real : o.approvalId ≠ "") (free : i ∉ o.settled)
    (waits : ¬ Past (o.calls i).stage) : Booked (o.pass i stage) := by
  have other : ∀ {j}, j ≠ i → (j ∈ i :: o.passed ↔ j ∈ o.passed) := fun apart => by simp [apart]
  have stage_ : ∀ j, ((o.pass i stage).calls j).stage = if j = i then stage else (o.calls j).stage :=
    fun j => moved_stage j
  have seen_ : ∀ j, ((o.pass i stage).calls j).seen = (o.calls j).seen := fun j => moved_seen j
  constructor
  case named =>
    intro j
    exact (congrArg Resumption.approvalRequestId (moved_given j)).trans (booked.named j)
  case real => exact fun _ => real
  case stages =>
    intro j
    change Fits (j ∈ i :: o.passed) ((o.pass i stage).calls j).stage
    rw [stage_]
    by_cases same : j = i
    · simp_all
    · rw [if_neg same, other same]
      exact booked.stages j
  case settled =>
    intro j member
    have apart : j ≠ i := fun same => free (same ▸ member)
    rw [stage_, if_neg apart]
    exact booked.settled j member
  case written =>
    intro j member settled
    have apart : j ≠ i := fun same => free (same ▸ settled)
    exact booked.written j ((other apart).mp member) settled
  case seen =>
    intro j row known found
    rw [seen_] at found
    obtain ⟨earlier, stale⟩ := booked.seen j row known found
    refine ⟨earlier, fun k member among => stale k ?_ among⟩
    have apart : k ≠ i := fun same => free (same ▸ earlier among)
    exact (other apart).mp member
  case once => exact booked.once
  case counted =>
    intro j member
    obtain ⟨passed, gone⟩ := booked.counted j member
    have apart : j ≠ i := fun same => waits (same ▸ gone)
    refine ⟨mem_cons_of_mem _ passed, ?_⟩
    rwa [stage_, if_neg apart]

theorem Booked.grants (printed : ∀ now, env.isoformat now ≠ "") (booked : Booked o) (i : Nat) :
    Booked (o.grants env i) := by
  rcases grants_cases printed booked i with same | ended | ⟨run, version, row, known, vars, gate, taken⟩
  · rwa [same]
  · rw [ended]
    exact booked.ends i
  · have unpassed : i ∉ o.passed := by
      have fits := booked.stages i
      rwa [gate.opened] at fits
    have free : i ∉ o.settled := booked.unsettled (by simp [gate.opened])
    have waits : ¬ Past (o.calls i).stage := by simp [gate.opened, Past]
    rcases taken with ⟨_, _, real, spent, consumed, passes⟩ | ⟨_, quiet, passes⟩
    · rw [passes]
      exact booked.pass ⟨fun _ => consumed, fun absent => absurd trivial absent⟩ real free waits
    · rw [passes]
      apply booked.moved _ (fun member => absurd member free) fun past => absurd past waits
      exact ⟨fun member => absurd member unpassed, fun _ => ⟨rfl, quiet⟩⟩

theorem newEvents_eq {before after : World} {new : List Event} (grown : after.log = new ++ before.log) :
    newEvents before after = new := by
  simp [newEvents, grown]

theorem Booked.dispatch (booked : Booked o) (log : List Event) (drawn : Nat) {granted : List Event}
    (few : granted.length ≤ 1) (uncounted : i ∉ o.dispatched.map Prod.fst)
    (passed : granted ≠ [] → i ∈ o.passed ∧ Past (o.calls i).stage) : Booked (o.dispatch i log drawn granted) := by
  have dispatched : (o.dispatch i log drawn granted).dispatched = granted.map (i, ·) ++ o.dispatched := rfl
  refine ⟨booked.named, booked.real, booked.stages, booked.settled, booked.written, booked.seen, ?_, ?_⟩
  · cases granted with
    | nil => exact booked.once
    | cons event rest =>
      have alone : rest = [] := by simpa using few
      subst alone
      exact nodup_cons.mpr ⟨uncounted, booked.once⟩
  · intro j member
    rw [dispatched, map_append, mem_append] at member
    rcases member with own | earlier
    · rw [map_map, mem_map] at own
      obtain ⟨event, among, rfl⟩ := own
      exact passed (ne_nil_of_mem among)
    · exact booked.counted j earlier

theorem Booked.executes (booked : Booked o) (i : Nat) : Booked (o.executes env i) := by
  unfold Overlap.executes
  split
  · rename_i run version vars spent granted
    have fits := booked.stages i
    rw [granted] at fits
    obtain ⟨taken, untaken⟩ := fits
    have free : i ∉ o.settled := booked.unsettled (by simp [granted])
    have waits : ¬ Past (o.calls i).stage := by simp [granted, Past]
    have uncounted : i ∉ o.dispatched.map Prod.fst := fun member => waits (booked.counted i member).2
    have program : Dispatches (if i ∈ o.passed then 1 else 0)
        (executeWaitingTool env (resumedRow vars run) (waitingNode run version) vars) := by
      split
      · exact executeWaitingTool_dispatches
      · rename_i unpassed
        exact executeWaitingTool_silent (untaken unpassed).2
    obtain ⟨new, grown, few⟩ := program.run (o.session (spent.or o.row))
    dsimp only
    rw [newEvents_eq grown]
    generalize (executeWaitingTool env (resumedRow vars run) (waitingNode run version) vars).exec
      (o.session (spent.or o.row)) = ran
    have stage_ : ∀ {stage : ResumeStage}, Fits (i ∈ o.passed) stage → Past stage →
        Booked ((o.moved i stage).dispatch i ran.2.log ran.2.drawn (new.filter Event.grants)) := by
      intro stage fits past
      apply (booked.moved fits (fun member => absurd member free) fun _ => past).dispatch
      · exact few.trans (by split <;> omega)
      · exact uncounted
      intro some_
      have here : ((o.moved i stage).calls i).stage = stage := by rw [moved_stage, if_pos rfl]
      refine ⟨?_, by rw [here]; exact past⟩
      by_contra unpassed
      rw [if_neg (show i ∉ o.passed from unpassed)] at few
      exact some_ (eq_nil_of_length_eq_zero (Nat.le_zero.mp few))
    cases ran.1 with
    | ok _ => exact stage_ ⟨taken, fun unpassed => (untaken unpassed).1⟩ trivial
    | error _ => exact stage_ trivial trivial
  · exact booked

theorem Booked.settles (booked : Booked o) (ended : (o.calls i).stage = .ended) (written : i ∈ o.passed → Spent o.row) :
    Booked { o with settled := i :: o.settled } where
  named := booked.named
  real := booked.real
  stages := booked.stages
  settled j member := by
    rcases mem_cons.mp member with rfl | earlier
    · exact ended
    · exact booked.settled j earlier
  written j passed member := by
    rcases mem_cons.mp member with rfl | earlier
    · exact written passed
    · exact booked.written j passed earlier
  seen j row known found := by
    obtain ⟨earlier, stale⟩ := booked.seen j row known found
    exact ⟨fun k among => mem_cons_of_mem _ (earlier among), stale⟩
  once := booked.once
  counted := booked.counted

theorem Booked.commits (booked : Booked o) (i : Nat) (left : Db) : Booked (o.commits i left) := by
  unfold Overlap.commits
  split
  · rename_i spent executed
    have fits := booked.stages i
    rw [executed] at fits
    obtain ⟨taken, untaken⟩ := fits
    have written : i ∈ o.passed → Spent (spent.or o.row) := by
      intro passed
      obtain ⟨approval, rfl, consumed⟩ := taken passed
      exact ⟨approval, rfl, consumed⟩
    have kept : Spent o.row → Spent (spent.or o.row) := by
      intro before
      by_cases passed : i ∈ o.passed
      · exact written passed
      · rwa [untaken passed]
    apply ((booked.writes left _ kept).ends i).settles
    · rw [moved_stage, if_pos rfl]
    · intro passed
      change Spent (o.writes left (spent.or o.row)).row
      rw [writes_row]
      exact written passed
  · exact booked

theorem Booked.next (printed : ∀ now, env.isoformat now ≠ "") (booked : Booked o) (step : OverlapStep) :
    Booked (o.next env step) := by
  cases step with
  | load i => exact booked.loads i
  | read i => exact booked.reads i
  | grant i => exact booked.grants printed i
  | execute i => exact booked.executes i
  | commit i left => exact booked.commits i left
  | abandon i => exact booked.ends i
  | elsewhere left => exact booked.writes left _ id
  | tick now =>
    exact ⟨booked.named, booked.real, booked.stages, booked.settled, booked.written, booked.seen, booked.once,
      booked.counted⟩

theorem Booked.start (runId approvalId : String) (world : World) (calls : Nat → String × Resumption) :
    Booked (start runId approvalId world calls) where
  named _ := rfl
  real none_ := absurd rfl none_
  stages _ := not_mem_nil
  settled _ member := absurd member not_mem_nil
  written _ member := absurd member not_mem_nil
  seen _ _ _ found := nomatch found
  once := .nil
  counted _ member := absurd member not_mem_nil

theorem Booked.dispatched_le (booked : Booked o) : o.dispatched.length ≤ o.passed.length := by
  have within : o.dispatched.map Prod.fst ⊆ o.passed := fun i member => (booked.counted i member).1
  have few := (Nodup.subperm booked.once within).length_le
  rwa [length_map] at few

theorem Spent.refused {run : WorkflowRun} {version : WorkflowVersion} {row : Option ApprovalRequest} (spent : Spent row) :
    ¬ Accepts env run version row := by
  rintro ⟨⟨approval, tool⟩, accepted⟩
  obtain ⟨found, rfl, consumed⟩ := spent
  simp only [checkApprovalForNode, consumed, if_true] at accepted
  split at accepted
  · cases accepted
  · split at accepted <;> cases accepted

theorem grants_passes {run : WorkflowRun} {version : WorkflowVersion} {row : Option ApprovalRequest} {known : List Nat}
    (booked : Booked o) (gate : AtGate o i run version row known) (real : o.approvalId ≠ "")
    (asks : asksApproval (waitingNode run version) run.contextJson.vars = true) (accepts : Accepts env run version row) :
    ∃ stage, o.grants env i = o.pass i stage := by
  obtain ⟨taken, accepted⟩ := accepts
  have here : (o.session row).db.approvals.get? o.approvalId = row := Db.withApproval_row _ _ _
  rw [← here] at accepted
  obtain ⟨vars, after, ran⟩ := grantedResume_accepts asks (booked.named i) real accepted
  unfold Overlap.grants
  rw [gate.opened, gate.seen]
  simp_all

theorem next_passed (o : Overlap) (step : OverlapStep) (other : ∀ i, step ≠ .grant i) :
    (o.next env step).passed = o.passed := by
  cases step with
  | load i =>
    change (o.loads i).passed = o.passed
    unfold Overlap.loads
    split
    · split <;> rfl
    · rfl
  | read i =>
    change (o.reads i).passed = o.passed
    unfold Overlap.reads
    split <;> rfl
  | grant i => exact absurd rfl (other i)
  | execute i =>
    change (o.executes env i).passed = o.passed
    unfold Overlap.executes
    split <;> rfl
  | commit i left =>
    change (o.commits i left).passed = o.passed
    unfold Overlap.commits
    split <;> rfl
  | _ => rfl

theorem next_keeps (printed : ∀ now, env.isoformat now ≠ "") (booked : Booked o) (step : OverlapStep) :
    o.passed.length ≤ (o.next env step).passed.length := by
  by_cases grant : ∃ i, step = .grant i
  · obtain ⟨i, rfl⟩ := grant
    change o.passed.length ≤ (o.grants env i).passed.length
    rcases grants_cases printed booked i with same | ended | ⟨_, _, _, _, _, _, taken⟩
    · rw [same]
    · rw [ended]
      exact Nat.le_refl _
    · rcases taken with ⟨_, _, _, _, _, passes⟩ | ⟨_, _, passes⟩
      · rw [passes]
        exact Nat.le_succ _
      · rw [passes]
        exact Nat.le_refl _
  · rw [next_passed o step fun i same => grant ⟨i, same⟩]

theorem next_once (printed : ∀ now, env.isoformat now ≠ "") (booked : Booked o) {step : OverlapStep}
    (ordered : o.inOrder env step) (few : o.passed.length ≤ 1) : (o.next env step).passed.length ≤ 1 := by
  by_cases grant : ∃ i, step = .grant i
  · obtain ⟨i, rfl⟩ := grant
    change (o.grants env i).passed.length ≤ 1
    rcases grants_cases printed booked i with same | ended | ⟨run, version, row, known, vars, gate, taken⟩
    · rwa [same]
    · rwa [ended]
    rcases taken with ⟨asks, accepts, _, _, _, passes⟩ | ⟨_, _, passes⟩
    · have first : o.passed = [] := by
        rw [eq_nil_iff_forall_not_mem]
        intro j passed
        have late := ordered run version row known gate.opened gate.seen asks accepts j passed
        exact ((booked.seen i row known gate.seen).2 j passed late).refused accepts
      rw [passes, Overlap.pass, first]
      exact Nat.le_refl 1
    · rwa [passes]
  · rwa [next_passed o step fun i same => grant ⟨i, same⟩]

theorem after_keeps (printed : ∀ now, env.isoformat now ≠ "") (steps : List OverlapStep) :
    ∀ {o : Overlap}, Booked o → o.passed.length ≤ (o.after env steps).passed.length ∧ Booked (o.after env steps) := by
  induction steps with
  | nil => exact fun booked => ⟨Nat.le_refl _, booked⟩
  | cons step rest ih =>
    intro o booked
    obtain ⟨more, kept⟩ := ih (booked.next printed step)
    exact ⟨(next_keeps printed booked step).trans more, kept⟩

theorem after_once (printed : ∀ now, env.isoformat now ≠ "") (steps : List OverlapStep) :
    ∀ {o : Overlap}, Booked o → o.InOrder env steps → o.passed.length ≤ 1 → (o.after env steps).passed.length ≤ 1 := by
  induction steps with
  | nil => exact fun _ _ few => few
  | cons step rest ih =>
    intro o booked ordered few
    exact ih (booked.next printed step) ordered.2 (next_once printed booked ordered.1 few)

theorem inOrder_of_after (printed : ∀ now, env.isoformat now ≠ "") (steps : List OverlapStep) :
    ∀ {o : Overlap}, Booked o → (o.after env steps).passed.length ≤ 1 → o.InOrder env steps := by
  induction steps with
  | nil => exact fun _ _ => trivial
  | cons step rest ih =>
    intro o booked few
    refine ⟨?_, ih (booked.next printed step) few⟩
    have now_ : (o.next env step).passed.length ≤ 1 := (after_keeps printed rest (booked.next printed step)).1.trans few
    cases step with
    | grant i =>
      intro run version row known opened seen asks accepts j passed
      have real : o.approvalId ≠ "" := booked.real (ne_nil_of_mem passed)
      obtain ⟨stage, passes⟩ := grants_passes booked ⟨opened, seen⟩ real asks accepts
      have second : (o.grants env i).passed.length ≤ 1 := now_
      rw [passes, Overlap.pass, length_cons] at second
      have none_ : o.passed = [] := eq_nil_of_length_eq_zero (by omega)
      rw [none_] at passed
      exact absurd passed not_mem_nil
    | _ => trivial

/-- However the calls interleave, the approval is spent at most once when, and only when, each call that passes it has
    loaded it after the calls that passed before had committed. -/
theorem approval_spent_once_iff (printed : ∀ now, env.isoformat now ≠ "") (runId approvalId : String) (world : World)
    (calls : Nat → String × Resumption) (steps : List OverlapStep) :
    spentOnce ((start runId approvalId world calls).after env steps) ↔
      (start runId approvalId world calls).InOrder env steps := by
  have booked := Booked.start runId approvalId world calls
  constructor
  · intro once
    exact inOrder_of_after printed steps booked once.1
  · intro ordered
    have few := after_once printed steps booked ordered (Nat.zero_le 1)
    exact ⟨few, (after_keeps printed steps booked).2.dispatched_le.trans few⟩

end Overlap

def payment : WorkflowVersion := published "payment" [plainNode "pay" "tool" [("tool", .str "bank.pay")]] [] "pay"

def paymentAsked : World := World.after askingEnv (publishing payment ++ [.start (startOf "payment" []) "dev"]) {}

def paymentApproval : ApprovalRequest := { ((paymentAsked.db.approvals.get? "rr").getD default) with status := .approved }

def paymentWorld : World := World.after askingEnv [.changed (.approval paymentApproval)] paymentAsked

def payingCalls : Overlap := .start "r" "rr" paymentWorld fun _ => ("owner", Resumption.plain)

def paidTables : Db :=
  ((resumeRun askingEnv (service askingEnv) "owner" "r" (payingCalls.calls 0).given).exec paymentWorld).2.db

def callSteps (i : Nat) : List OverlapStep := [.load i, .read i, .grant i, .execute i, .commit i paidTables]

theorem payment_in_order : payingCalls.InOrder askingEnv (callSteps 0 ++ callSteps 1) := by
  have printed : ∀ now, askingEnv.isoformat now ≠ "" := fun _ => (by decide : "2026-01-01T00:00:00" ≠ "")
  apply (Overlap.approval_spent_once_iff printed "r" "rr" paymentWorld (fun _ => ("owner", Resumption.plain)) _).mp
  exact ⟨by decide +kernel, by decide +kernel⟩

def overlappingSteps : List OverlapStep :=
  [.load 0, .read 0, .load 1, .read 1] ++ (callSteps 0).drop 2 ++ (callSteps 1).drop 2

theorem payment_made_twice :
    ¬ (payingCalls.after askingEnv overlappingSteps).spentOnce ∧
      (payingCalls.after askingEnv overlappingSteps).passed = [1, 0] ∧
      (payingCalls.after askingEnv overlappingSteps).dispatched.length = 2 ∧
      (payingCalls.after askingEnv overlappingSteps).settled = [1, 0] := by
  refine ⟨fun once => absurd once.1 ?_, ?_, ?_, ?_⟩
  all_goals decide +kernel

end Troop.Workflow
