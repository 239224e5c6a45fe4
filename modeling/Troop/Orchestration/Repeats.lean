import Mathlib.Algebra.GroupWithZero.Nat
import Mathlib.Algebra.Order.BigOperators.Group.Finset
import Troop.Orchestration.Rounds
import Troop.Orchestration.Unblocking

namespace Troop.Orchestration

open Tools
open Systems (Reaches)
open List

section Toolbox

variable {svc : Services} {s : Setting} {w : Desk} {call : Dict Json} {α : Type}

def NoDemand (result : Except Stop α) : Prop :=
  ∀ message, result = .error (.toolError message) → Text.startsWith "APPROVAL_REQUIRED:" message = false

structure Quiet (w after : Desk) : Prop where
  approvals : after.approvals = w.approvals
  committed : after.committed = w.committed
  log : ∀ event ∈ after.log, event ∈ w.log ∨ event.isDispatch = true
  kept : ∀ event ∈ w.log, event ∈ after.log

theorem Quiet.refl (w : Desk) : Quiet w w := ⟨rfl, rfl, fun _ member => .inl member, fun _ member => member⟩

theorem NoDemand.ok (value : α) : NoDemand (.ok value) := fun _ same => by cases same

theorem NoDemand.raised (message : String) : NoDemand (.error (.raised message) : Except Stop α) := fun _ same => by cases same

theorem NoDemand.tool (rest : String) : NoDemand (.error (.toolError ("Tool `" ++ rest)) : Except Stop α) := by
  intro other same
  cases same
  unfold Text.startsWith
  rw [String.toList_append]
  rfl

theorem authorizeCall_unasked (unasked : Unasked svc (toolNameOf call)) (context : Dict Json) :
    ∃ result, (authorizeCall svc s (toolNameOf call) (callArguments call) context).exec w = (result, w) ∧ NoDemand result := by
  unfold authorizeCall
  cases answer : svc.authorizeTool s.project.ownerId (toolNameOf call) context with
  | error error =>
    dsimp only
    split
    · exact ⟨_, rfl, .ok _⟩
    · refine ⟨_, rfl, ?_⟩
      simp only [String.append_assoc]
      exact .tool _
  | ok authorization =>
    dsimp only
    split
    · refine ⟨_, rfl, ?_⟩
      simp only [String.append_assoc]
      exact .tool _
    split
    · refine ⟨_, rfl, ?_⟩
      simp only [String.append_assoc]
      exact .tool _
    rw [if_neg (unasked.policy _ _ _ answer)]
    exact ⟨_, rfl, .ok _⟩

theorem dispatchTool_unasked (unasked : Unasked svc (toolNameOf call)) (context : Dict Json) :
    ∃ result after, (dispatchTool svc (toolNameOf call) (callArguments call) context).exec w = (result, after) ∧
      Quiet w after ∧ NoDemand result ∧
      ∀ value, result = .ok value → (value.get "status").strOrEmpty ≠ "approval_required" := by
  unfold dispatchTool
  split
  · exact ⟨_, w, rfl, .refl w, .raised _, fun _ same => by cases same⟩
  have reached : Quiet w (w.record (.dispatched (toolNameOf call) (callArguments call) context)) := by
    refine ⟨rfl, rfl, fun event member => ?_, fun _ member => mem_cons_of_mem _ member⟩
    rcases mem_cons.mp member with same | old
    · exact .inr (by rw [same]; rfl)
    · exact .inl old
  cases answer : svc.runTool (toolNameOf call) (callArguments call) context with
  | error error => exact ⟨_, _, rfl, reached, .raised _, fun _ same => by cases same⟩
  | ok result =>
    refine ⟨_, _, rfl, reached, .ok _, fun value same => ?_⟩
    cases same
    exact unasked.tool _ _ _ answer

theorem toolExecutionServiceExecute_unasked (unasked : Unasked svc (toolNameOf call)) (context : Dict Json) :
    ∃ result after, (toolExecutionServiceExecute svc s (toolNameOf call) (callArguments call) context).exec w = (result, after) ∧
      Quiet w after ∧ NoDemand result ∧
      ∀ value, result = .ok value → (value.get "status").strOrEmpty ≠ "approval_required" := by
  unfold toolExecutionServiceExecute
  cases answer : svc.authorizeTool s.project.ownerId (toolNameOf call) (authContext (callArguments call) context) with
  | error error => exact ⟨_, w, rfl, .refl w, .raised _, fun _ same => by cases same⟩
  | ok authorization =>
    dsimp only
    split
    · refine ⟨_, w, rfl, .refl w, .ok _, fun value same => ?_⟩
      cases same
      decide
    split
    · refine ⟨_, w, rfl, .refl w, .ok _, fun value same => ?_⟩
      cases same
      decide
    rw [if_neg fun both => unasked.policy _ _ _ answer both.1]
    exact dispatchTool_unasked unasked context

theorem toolOutput_unasked {result : Dict Json} (done : (result.get "status").strOrEmpty ≠ "approval_required") :
    ∃ output, (toolOutput (toolNameOf call) result).exec w = (output, w) ∧ NoDemand output := by
  unfold toolOutput
  rw [if_neg done]
  split
  · refine ⟨_, rfl, ?_⟩
    simp only [String.append_assoc]
    exact .tool _
  · split
    · exact ⟨_, rfl, .ok _⟩
    · split <;> exact ⟨_, rfl, .ok _⟩
    · exact ⟨_, rfl, .ok _⟩

theorem toolboxExecute_unasked (unasked : Unasked svc (toolNameOf call)) :
    ∃ result after, (toolboxExecute svc s call).exec w = (result, after) ∧ Quiet w after ∧ NoDemand result := by
  unfold toolboxExecute
  dsimp only
  split
  · refine ⟨_, w, rfl, .refl w, fun message same => ?_⟩
    cases same
    rfl
  rw [Prog.exec_bind_ok (buildToolExecutionContext_checks ..)]
  split
  · refine ⟨_, w, rfl, .refl w, fun message same => ?_⟩
    cases same
    rfl
  obtain ⟨authorized, ran, calm⟩ := @authorizeCall_unasked svc s w call unasked
    (toolContext svc s (callArguments call) (toolApproval s (toolNameOf call) (svc.argumentsHash (callArguments call))
      (!isLowRiskTool (toolNameOf call)) w.approvals).isSome)
  cases authorized with
  | error stop =>
    refine ⟨_, w, Prog.exec_bind_error ran, .refl w, fun message same => ?_⟩
    cases same
    exact calm message rfl
  | ok context =>
    rw [Prog.exec_bind_ok ran]
    obtain ⟨result, after, executed, quiet, calm, done⟩ := @toolExecutionServiceExecute_unasked svc s w call unasked context
    cases result with
    | error stop =>
      refine ⟨_, after, Prog.exec_bind_error executed, quiet, fun message same => ?_⟩
      cases same
      exact calm message rfl
    | ok value =>
      rw [Prog.exec_bind_ok executed]
      obtain ⟨output, ended, calm⟩ := @toolOutput_unasked after call value (done value rfl)
      exact ⟨output, after, ended, quiet, calm⟩

end Toolbox

section Calls

variable {svc : Services} {s : Setting} {w start : Desk} {call : Dict Json} {run : TaskRun} {α : Type}

structure Beside (run : TaskRun) (w after : Desk) : Prop where
  own : after.own run = w.own run
  granted : ∀ approval arguments, .granted approval arguments ∈ after.log ↔ .granted approval arguments ∈ w.log

theorem Beside.refl : Beside run w w := ⟨rfl, fun _ _ => Iff.rfl⟩

theorem Beside.trans {middle after : Desk} (first : Beside run w middle) (second : Beside run middle after) :
    Beside run w after :=
  ⟨second.own.trans first.own, fun approval arguments => (second.granted approval arguments).trans (first.granted approval arguments)⟩

theorem Beside.record {event : Event} (other : ∀ approval arguments, event ≠ .granted approval arguments) :
    Beside run w (w.record event) := by
  refine ⟨rfl, fun approval arguments => ⟨fun member => ?_, mem_cons_of_mem _⟩⟩
  rcases mem_cons.mp member with same | old
  · exact absurd same.symm (other approval arguments)
  · exact old

variable {approval : ApprovalRequest}

theorem Beside.add (foreign : isOwn run approval = false) : Beside run w (w.add approval) := by
  refine ⟨?_, fun _ _ => Iff.rfl⟩
  unfold Desk.own Desk.add
  simp [filter_append, foreign]

theorem Quiet.beside {after : Desk} (quiet : Quiet w after) : Beside run w after := by
  refine ⟨by unfold Desk.own; rw [quiet.approvals], fun approval arguments => ⟨fun member => ?_, quiet.kept _⟩⟩
  rcases quiet.log _ member with old | reached
  · exact old
  · cases reached

theorem toolboxExecute_beside (unasked : Unasked svc (toolNameOf call)) :
    Triple (Beside run start) (attempt (toolboxExecute svc s call)) (fun result w => Beside run start w ∧ NoDemand result)
      (Beside run start) := by
  apply Triple.of_exec
  intro w beside
  obtain ⟨result, after, ran, quiet, calm⟩ := @toolboxExecute_unasked svc s w call unasked
  refine ⟨.ok result, after, ?_, beside.trans quiet.beside, calm⟩
  rw [attempt_exec, ran]

theorem isOwn_other (type : approval.approvalType ≠ "dangerous_tool_call") :
    isOwn run approval = false := by
  simp [isOwn, type]

theorem addApproval_beside (foreign : isOwn run approval = false) :
    Triple (Beside run start) (addApproval approval) (fun _ => Beside run start) (Beside run start) := by
  refine .bind (R := fun _ => Beside run start) (.modify fun w beside => beside.trans (.add foreign)) fun _ => ?_
  refine .bind (R := fun _ => Beside run start) (.modify fun w beside => beside.trans (.record ?_)) fun _ =>
    .pure fun _ beside => beside
  exact fun _ _ same => by cases same

theorem countFailure_beside (failures : Nat) (toolName message : String) :
    Triple (Beside run start) (countFailure svc s failures toolName message) (fun _ => Beside run start) (Beside run start) := by
  refine .ite (fun _ => ?_) fun _ => .pure fun _ beside => beside
  refine .bind (R := fun _ => Beside run start) ?_ fun _ => .throw fun _ beside => beside
  refine .bind (R := fun _ => Beside run start) ?_ fun _ => .modify fun w beside => ⟨beside.own, beside.granted⟩
  refine .bind (R := fun _ => Beside run start) (.get fun _ beside => beside) fun w => addApproval_beside ?_
  have named : ("task_escalation" : String) ≠ "dangerous_tool_call" := by decide
  exact isOwn_other named

theorem executePastGate_beside (unasked : Unasked svc (toolNameOf call)) (index failures : Nat) :
    Triple (Beside run start) (executePastGate svc s index call failures) (fun _ => Beside run start) (Beside run start) := by
  refine .bind (R := fun _ => Beside run start) (refuse_keeps _) fun _ => ?_
  refine .bind (R := fun _ => Beside run start) (refuse_keeps _) fun _ => ?_
  refine .bind (toolboxExecute_beside unasked) fun outcome => ?_
  cases outcome with
  | ok result => exact .pure fun _ both => both.1
  | error stop =>
    cases stop with
    | toolError message =>
      refine .ite (fun demands => ?_) fun _ => (countFailure_beside ..).before fun _ both => both.1
      refine ⟨fun w both => ?_⟩
      simp [both.2 message rfl] at demands
    | _ => exact .throw fun _ both => both.1

theorem executeOneToolCall_beside (unasked : Unasked svc (toolNameOf call))
    (open_ : toolRequiresHitlExecutionGrant (toolNameOf call) = false) (index failures : Nat) :
    Triple (Beside run start) (executeOneToolCall svc s index call failures) (fun _ => Beside run start) (Beside run start) := by
  refine .bind (R := fun _ => Beside run start) (refuse_keeps _) fun _ => ?_
  refine .bind (R := fun _ => Beside run start) ?_ fun _ => executePastGate_beside unasked index failures
  refine .ite (fun gated => ?_) fun _ => .pure fun _ beside => beside
  simp_all

theorem isolated_beside (unasked : Unasked svc (toolNameOf call)) :
    Triple (Beside run start) (isolated (attempt (toolboxExecute svc s call))) (fun _ => Beside run start) (Beside run start) := by
  apply Triple.of_exec
  intro w beside
  have read : ∀ inner : Desk, inner.log = w.log → ∃ result after, (attempt (toolboxExecute svc s call)).exec inner = (.ok result, after) ∧
      Quiet w { w with log := after.log } := by
    intro inner same
    obtain ⟨result, after, ran, quiet, _⟩ := @toolboxExecute_unasked svc s inner call unasked
    refine ⟨result, after, by rw [attempt_exec, ran], rfl, rfl, ?_, ?_⟩
    · exact same ▸ quiet.log
    · exact same ▸ quiet.kept
  obtain ⟨result, after, ran, quiet⟩ := read { w with approvals := w.committed } rfl
  refine ⟨.ok result, { w with log := after.log }, ?_, beside.trans quiet.beside⟩
  exact congrArg (fun ran => (ran.1, { w with log := ran.2.log })) ran

theorem isolatedRead_beside (unasked : Unasked svc (toolNameOf call)) :
    Triple (Beside run start) (executeToolCallIsolatedRead svc s call) (fun _ => Beside run start) (Beside run start) :=
  .bind (isolated_beside unasked) fun _ => .ofExcept (fun _ _ _ beside => beside) fun _ beside => beside

theorem executeParallelCall_beside (unasked : Unasked svc (toolNameOf call)) :
    Triple (Beside run start) (executeParallelCall svc s call) (fun _ => Beside run start) (Beside run start) := by
  refine .bind (R := fun _ => Beside run start) (refuse_keeps _) fun _ => ?_
  refine .bind (R := fun _ => Beside run start) (refuse_keeps _) fun _ => ?_
  exact .bind (R := fun _ => Beside run start) (refuse_keeps _) fun _ => isolatedRead_beside unasked

theorem recordParallelToolResult_beside (failures : Nat) (payload : Dict Json) :
    Triple (Beside run start) (recordParallelToolResult svc s failures payload) (fun _ => Beside run start) (Beside run start) := by
  refine .ite (fun _ => ?_) fun _ => .pure fun _ beside => beside
  exact .bind (countFailure_beside ..) fun _ => .pure fun _ beside => beside

end Calls

section Gated

variable {svc : Services} {s : Setting} {w : Desk} {call : Dict Json} {run : TaskRun} {rows : List ApprovalRequest} {index : Nat}

structure Untouched (run : TaskRun) (rows : List ApprovalRequest) (w : Desk) : Prop where
  own : w.own run = rows
  granted : ∀ approval given, .granted approval given ∉ w.log

structure Consumed (run : TaskRun) (w : Desk) : Prop where
  pending : w.pending? run = none
  granted : ∃ approval arguments, .granted approval arguments ∈ w.log

structure AskedAt (run : TaskRun) (rows : List ApprovalRequest) (place : String × Nat) (w : Desk) : Prop where
  row : ∃ row, w.own run = rows ++ [row] ∧
    ∀ user, isGrantFor run "dangerous_tool_call" (position place.1 place.2) { row with status := .approved, approvedByUserId := user } = true
  granted : ∀ approval given, .granted approval given ∉ w.log
  fresh : ∀ row ∈ rows, isGrantFor run "dangerous_tool_call" (position place.1 place.2) row = false

theorem Untouched.beside {after : Desk} (untouched : Untouched run rows w) (beside : Beside run w after) : Untouched run rows after :=
  ⟨beside.own.trans untouched.own, fun _ _ member => untouched.granted _ _ ((beside.granted _ _).mp member)⟩

theorem Consumed.beside {after : Desk} (consumed : Consumed run w) (beside : Beside run w after) : Consumed run after := by
  obtain ⟨approval, arguments, member⟩ := consumed.granted
  refine ⟨?_, approval, arguments, (beside.granted _ _).mpr member⟩
  unfold Desk.pending?
  rw [beside.own]
  exact consumed.pending

theorem own_stamped (id : String) (entries : Dict Json) :
    (w.stamped id entries).own run = (w.own run).map fun row =>
      if row.id = id then { row with payloadJson := row.payloadJson.update entries } else row := by
  unfold Desk.own Desk.stamped
  rw [filter_map]
  congr 1
  apply filter_congr
  intro row member
  dsimp only [Function.comp_apply]
  split <;> rfl

theorem pending_stamped (id : String) (entries : Dict Json) (calm : w.pending? run = none) :
    (w.stamped id entries).pending? run = none := by
  unfold Desk.pending? at calm ⊢
  rw [own_stamped, find?_map, Option.map_eq_none_iff, ← calm]
  congr 1
  funext row
  dsimp only [Function.comp_apply]
  split <;> rfl

theorem exec_requestToolCall (same : s.run = run) :
    ∃ message row after, (@requestToolCall svc s PUnit (toolNameOf call) index (argumentsOf call) []
        ("Dangerous tool '" ++ toolNameOf call ++ "'")).exec w = (.error (.blocked message), after) ∧
      after.own run = w.own run ++ [row] ∧ Asks s index call row ∧
      ∀ approval given, .granted approval given ∈ after.log → .granted approval given ∈ w.log := by
  let row : ApprovalRequest :=
    { id := svc.uuid4 w.drawn, projectId := some s.project.id, taskId := s.task.map (·.id), runId := some s.run.id,
      issueLinkId := s.task.bind (·.githubIssueLinkId), requestedByUserId := s.run.triggeredByUserId,
      approvedByUserId := none, approvalType := "dangerous_tool_call", status := .pending,
      payloadJson := position (toolNameOf call) index ++ [("arguments", argumentsOf call)] ++ [] }
  let asked : Desk := (w.add row).record (.requested row)
  refine ⟨_, row, { asked with committed := asked.approvals }, rfl, ?_, ⟨rfl, rfl, .inl rfl⟩, fun _ _ member => ?_⟩
  · have own : isOwn run row = true := by
      subst same
      simp [isOwn, row]
    unfold Desk.own
    dsimp only [asked, Desk.record, Desk.add]
    simp_all
  · rcases mem_cons.mp member with other | old
    · cases other
    · exact old

theorem runToolGate_gated (same : s.run = run) (gated : toolRequiresHitlExecutionGrant (toolNameOf call) = true)
    (settled : rows.find? (fun row => row.status = .pending) = none) :
    Triple (Untouched run rows) (runToolGate svc s (toolNameOf call) index (argumentsOf call)) (fun _ => Consumed run)
      (AskedAt run rows (toolNameOf call, index)) := by
  have asked : actionRequiresApproval s.project.executionSettings "run_tool" = true := if_pos (by decide)
  apply Triple.of_exec
  intro w untouched
  unfold runToolGate
  rw [if_pos ⟨asked, gated⟩, Prog.exec_bind, consumeHitlGrant_exec]
  cases found : w.approvals.find? (isGrantFor s.run "dangerous_tool_call" (position (toolNameOf call) index)) with
  | none =>
    obtain ⟨message, row, after, ran, own, asks, fewer⟩ := @exec_requestToolCall svc s w call run index same
    refine ⟨_, after, ran, ⟨row, by rw [own, untouched.own], fun user => ?_⟩, fun approval arguments member => ?_, ?_⟩
    · rw [← same]
      exact asks.grants user
    · exact untouched.granted _ _ (fewer _ _ member)
    intro old member
    rw [← untouched.own] at member
    have absent := find?_eq_none.mp found old (mem_of_mem_filter member)
    rw [← same]
    exact Bool.eq_false_iff.mpr absent
  | some grant =>
    refine ⟨_, _, rfl, ?_, grant, argumentsOf call, mem_cons_self⟩
    apply pending_stamped
    unfold Desk.pending?
    rwa [untouched.own]

theorem executeOneToolCall_gated_ends (same : s.run = run) (gated : toolRequiresHitlExecutionGrant (toolNameOf call) = true)
    (unasked : Unasked svc (toolNameOf call)) (settled : rows.find? (fun row => row.status = .pending) = none) (failures : Nat) :
    Triple (Untouched run rows) (executeOneToolCall svc s index call failures) (fun _ => Consumed run)
      fun w => Untouched run rows w ∨ AskedAt run rows (toolNameOf call, index) w ∨ Consumed run w := by
  refine .bind (R := fun _ => Untouched run rows) ((refuse_keeps _).weaken (fun _ h => h) (fun _ _ h => h) fun _ h => .inl h) fun _ => ?_
  refine .bind (R := fun _ => Consumed run) ((runToolGate_gated same gated settled).weaken (fun _ h => h) (fun _ _ h => h)
    fun _ h => .inr (.inl h)) fun _ => ?_
  refine .assuming fun start consumed => ?_
  have past : Triple (Beside run start) (executePastGate svc s index call failures) (fun _ => Beside run start)
      (Beside run start) := executePastGate_beside unasked index failures
  refine past.weaken ?_ ?_ ?_
  · intro w same
    rw [same]
    exact .refl
  · exact fun _ w beside => consumed.beside beside
  · exact fun w beside => .inr (.inr (consumed.beside beside))

end Gated

section Ledgers

variable {svc : Services} {s : Setting} {run : TaskRun} {start : Desk} {α : Type}

theorem exec_recorded (id : CallId) (payload : α → Dict Json) (program : Work α) (l : Ledger) :
    ∃ after, (recorded id payload program).exec l = ((program.exec l.desk).1, after) ∧ after.desk = (program.exec l.desk).2 := by
  unfold recorded
  dsimp only [Prog.exec]
  cases (program l.desk).1 with
  | _ => exact ⟨_, rfl, rfl⟩

variable {Q : α → Desk → Prop} {P R : Desk → Prop} {program : Work α}

theorem recorded_triple (id : CallId) (payload : α → Dict Json) (valid : Triple P program Q R) :
    Triple (fun l : Ledger => P l.desk) (recorded id payload program) (fun v l => Q v l.desk) (fun l => R l.desk) := by
  refine ⟨fun l given => ?_⟩
  have ran := valid.run l.desk given
  obtain ⟨after, recorded, same⟩ := exec_recorded id payload program l
  rwa [recorded, same]

theorem aside_triple (valid : Triple P program Q R) :
    Triple (fun l : Ledger => P l.desk) (aside program) (fun v l => Q v l.desk) (fun l => R l.desk) :=
  ⟨fun l given => valid.run l.desk given⟩

theorem goOn_keeps {P : Desk → Prop} : Triple (fun l : Ledger => P l.desk) goOn (fun _ l => P l.desk) (fun l => P l.desk) := by
  refine ⟨fun l given => ?_⟩
  unfold goOn
  dsimp only [Prog.exec]
  match l.left with
  | some 0 => exact given
  | some (n + 1) => exact given
  | none => exact given

/-- From a desk beside `start` the program ends at one, however it ends. -/
abbrev Stays (run : TaskRun) (start : Desk) (program : Rounding α) : Prop :=
  Triple (fun l : Ledger => Beside run start l.desk) program (fun _ l => Beside run start l.desk) fun l => Beside run start l.desk

theorem runParallelGroup_stays {branch : Nat} {items : List Item} (unasked : ∀ item ∈ items, Unasked svc (toolNameOf item.2)) :
    Stays run start (runParallelGroup svc branch s items) := by
  induction items with
  | nil => exact .pure fun _ beside => beside
  | cons item rest ih =>
    have called := recorded_triple (branch, item.1) id
      (@executeParallelCall_beside svc s start item.2 run (unasked item mem_cons_self))
    refine .bind (R := fun _ l => Beside run start l.desk) ?_ fun result => ?_
    · exact .catching (called.bind fun _ => .pure fun _ beside => beside) fun _ => .pure fun _ beside => beside
    · exact .bind (ih fun other member => unasked other (mem_cons_of_mem _ member)) fun _ =>
        .pure fun _ beside => beside

theorem raiseFirst_stays (results : List (Except Stop (Dict Json))) : Stays run start (raiseFirst results) := by
  induction results with
  | nil => exact .pure fun _ beside => beside
  | cons result rest ih =>
    refine .bind (R := fun _ l => Beside run start l.desk) ?_ fun _ => .bind ih fun _ => .pure fun _ beside => beside
    exact .ofExcept (fun _ _ _ beside => beside) fun _ beside => beside

theorem recordResults_stays (failures : Nat) (payloads : List (Dict Json)) :
    Stays run start (recordResults svc s failures payloads) := by
  induction payloads generalizing failures with
  | nil => exact .pure fun _ beside => beside
  | cons payload rest ih => exact .bind (aside_triple (recordParallelToolResult_beside failures payload)) fun failures => ih failures

end Ledgers

section Rounds

variable {svc : Services} {s : Setting} {run : TaskRun} {rows : List ApprovalRequest} {α β : Type}
  {places more : List (String × Nat)}

def Ends (run : TaskRun) (rows : List ApprovalRequest) (places : List (String × Nat)) (w : Desk) : Prop :=
  Untouched run rows w ∨ (∃ place ∈ places, AskedAt run rows place w) ∨ Consumed run w

theorem Ends.mono (fewer : ∀ place ∈ places, place ∈ more) {w : Desk} (ends : Ends run rows places w) : Ends run rows more w :=
  ends.imp_right fun rest => rest.imp_left fun ⟨place, member, asked⟩ => ⟨place, fewer place member, asked⟩

/-- A program that gates the calls at these places: without any it leaves the approvals of the run alone, and with one it
    consumes a grant of it, if it goes on. -/
structure Steady (run : TaskRun) (places : List (String × Nat)) (program : Rounding α) : Prop where
  idle : places = [] → ∀ start, Stays run start program
  gate : places.length ≤ 1 → ∀ rows : List ApprovalRequest, rows.find? (fun row => row.status = .pending) = none →
    Triple (fun l : Ledger => Untouched run rows l.desk) program
      (fun _ l => Untouched run rows l.desk ∨ (Consumed run l.desk ∧ places ≠ [])) fun l => Ends run rows places l.desk

namespace Steady

theorem of_stays {program : Rounding α} (stays : ∀ start, Stays run start program) : Steady run places program where
  idle _ := stays
  gate _ rows _ := by
    refine .assuming fun start untouched => ?_
    refine (stays start.desk).weaken ?_ ?_ ?_
    · intro l same
      rw [same]
      exact .refl
    · exact fun _ l beside => .inl (untouched.beside beside)
    · exact fun l beside => .inl (untouched.beside beside)

theorem pure {value : α} : Steady run places (Pure.pure value : Rounding α) :=
  of_stays fun _ => Triple.pure fun _ beside => beside

theorem goOn : Steady run places goOn := of_stays fun _ => goOn_keeps

theorem consumed {program : Rounding α} (steady : Steady run [] program) :
    Triple (fun l : Ledger => Consumed run l.desk) program (fun _ l => Consumed run l.desk) fun l => Consumed run l.desk := by
  refine .assuming fun start consumed => ?_
  refine (steady.idle rfl start.desk).weaken ?_ ?_ ?_
  · intro l same
    rw [same]
    exact .refl
  · exact fun _ l beside => consumed.beside beside
  · exact fun l beside => consumed.beside beside

theorem bind {first : Rounding α} {next : α → Rounding β} (head : Steady run places first)
    (tail : ∀ value, Steady run more (next value)) : Steady run (places ++ more) (first >>= next) where
  idle none start := by
    obtain ⟨nothing, nothingMore⟩ := append_eq_nil_iff.mp none
    exact .bind (head.idle nothing start) fun value => (tail value).idle nothingMore start
  gate few rows settled := by
    rw [length_append] at few
    refine .bind ((head.gate (by omega) rows settled).weaken (fun _ h => h) (fun _ _ h => h) fun l ends =>
      ends.mono fun place member => mem_append_left more member) fun value => ?_
    have untouched := (tail value).gate (by omega) rows settled
    have after : Triple (fun l : Ledger => Consumed run l.desk ∧ places ≠ []) (next value) (fun _ l => Consumed run l.desk)
        fun l => Consumed run l.desk := by
      cases places with
      | nil => exact .before (P := fun _ => False) ⟨fun _ absurd => absurd.elim⟩ fun l both => both.2 rfl
      | cons place rest =>
        have none : more = [] := eq_nil_of_length_eq_zero (by rw [length_cons] at few; omega)
        subst none
        exact (tail value).consumed.before fun _ both => both.1
    refine ⟨fun l given => ?_⟩
    rcases given with clean | gone
    · have ran := untouched.run l clean
      revert ran
      cases ((next value).exec l).1 with
      | ok value => exact fun ran => ran.imp_right fun both => ⟨both.1, append_ne_nil_of_right_ne_nil _ both.2⟩
      | error stop => exact fun ends => ends.mono fun place member => mem_append_right places member
    · have ran := after.run l gone
      revert ran
      cases ((next value).exec l).1 with
      | ok value => exact fun ran => .inr ⟨ran, append_ne_nil_of_left_ne_nil gone.2 _⟩
      | error stop => exact fun ran => .inr (.inr ran)

end Steady

variable {calls : List (Dict Json)} {item : Item}

theorem executeOneToolCall_steady (same : s.run = run) (unasked : Unasked svc (toolNameOf item.2))
    (branch failures : Nat) : Steady run (place? item).toList
      (recorded (branch, item.1) Prod.fst (executeOneToolCall svc s (item.1 + 1) item.2 failures)) := by
  by_cases gated : toolRequiresHitlExecutionGrant (toolNameOf item.2) = true
  · have place : place? item = some (toolNameOf item.2, item.1 + 1) := if_pos gated
    rw [place]
    refine ⟨(fun none => by cases none), fun _ rows settled => ?_⟩
    refine (recorded_triple _ _ (executeOneToolCall_gated_ends same gated unasked settled failures)).weaken ?_ ?_ ?_
    · exact fun _ untouched => untouched
    · exact fun _ l consumed => .inr ⟨consumed, cons_ne_nil _ _⟩
    · exact fun l ends => ends.imp_right fun rest => rest.imp_left fun asked => ⟨_, mem_singleton_self _, asked⟩
  · exact .of_stays fun start => recorded_triple _ _ (executeOneToolCall_beside unasked (Bool.eq_false_iff.mpr gated) _ _)

def Batch.Fits : Batch → Prop
  | .serial _ => True
  | .parallel items => ∀ item ∈ items, place? item = none

theorem executeBatch_steady (same : s.run = run) {batch : Batch} (fits : batch.Fits)
    (unasked : ∀ item ∈ batch.items, Unasked svc (toolNameOf item.2)) (branch failures : Nat) :
    Steady run (batch.items.filterMap place?) (executeBatch svc branch s failures batch) := by
  cases batch with
  | serial item =>
    have steady := (executeOneToolCall_steady same (unasked item (mem_singleton_self _)) branch failures).bind
      fun result => (Steady.pure : Steady run [] (Pure.pure ([result.1], result.2)))
    rw [append_nil] at steady
    have places : (Batch.serial item).items.filterMap place? = (place? item).toList := by
      unfold Batch.items
      cases place : place? item with
      | _ => simp [place]
    rwa [places]
  | parallel items =>
    refine .of_stays fun start => ?_
    refine .bind (runParallelGroup_stays unasked) fun results => ?_
    refine .bind (raiseFirst_stays results) fun payloads => ?_
    exact .bind (recordResults_stays failures payloads) fun _ => .pure fun _ beside => beside

theorem executeBatches_steady (same : s.run = run) {batches : List Batch} (fits : ∀ batch ∈ batches, batch.Fits)
    (unasked : ∀ item ∈ batches.flatMap Batch.items, Unasked svc (toolNameOf item.2)) (branch failures : Nat) :
    Steady run ((batches.flatMap Batch.items).filterMap place?) (executeBatches svc branch s failures batches) := by
  induction batches generalizing failures with
  | nil => exact .pure
  | cons batch rest ih =>
    rw [flatMap_cons, filterMap_append]
    have head := executeBatch_steady same (fits batch mem_cons_self)
      (fun item member => unasked item (mem_append_left _ member)) branch failures
    have tail := ih (fun other member => fits other (mem_cons_of_mem _ member))
      fun item member => unasked item (mem_append_right _ member)
    have here : Steady run [] goOn := .goOn
    have both := here.bind fun _ => head.bind fun result => (tail result.2).bind fun later =>
      (Steady.pure : Steady run [] (Pure.pure (result.1 ++ later)))
    rwa [nil_append, append_nil] at both

theorem groupNeighbours_flatten (items : List Item) : (groupNeighbours items).flatten = items := by
  induction items with
  | nil => rfl
  | cons item rest ih =>
    unfold groupNeighbours
    split
    · rename_i grouped
      rw [grouped] at ih
      split <;> exact congrArg (item :: ·) ih
    · exact congrArg (item :: ·) ih

theorem serials_items (items : List Item) : (items.map Batch.serial).flatMap Batch.items = items := by
  induction items with
  | nil => rfl
  | cons item rest ih => exact congrArg (item :: ·) ih

theorem batchesOf_items (grouped : List Item) : (batchesOf grouped).flatMap Batch.items = grouped := by
  unfold batchesOf
  split
  · exact append_nil grouped
  · exact serials_items grouped

theorem partitionToolCalls_items (calls : List (Dict Json)) : (partitionToolCalls calls).flatMap Batch.items = enumerated calls := by
  unfold partitionToolCalls
  rw [flatMap_assoc]
  simp only [batchesOf_items]
  rw [flatMap_id']
  exact groupNeighbours_flatten _

theorem toolNameOf_strip (call : Dict Json) : Text.strip (toolNameOf call) = toolNameOf call := Text.strip_strip _

theorem place?_of_eligible (eligible : parallelGroupEligible calls = true)
    (member : item.2 ∈ calls) : place? item = none := by
  unfold parallelGroupEligible at eligible
  split at eligible
  · cases eligible
  have every := (of_decide_eq_true eligible).2
  have fans := (of_decide_eq_true (all_eq_true.mp every item.2 member)).2.1
  unfold toolCallParallelEligible at fans
  rw [toolNameOf_strip] at fans
  apply if_neg
  simp_all

theorem partitionToolCalls_fits : ∀ batch ∈ partitionToolCalls calls, batch.Fits := by
  intro batch member
  obtain ⟨grouped, _, inside⟩ := mem_flatMap.mp member
  unfold batchesOf at inside
  split at inside
  · rename_i eligible
    rw [mem_singleton.mp inside]
    exact fun item there => place?_of_eligible eligible.2 (mem_map_of_mem there)
  · obtain ⟨item, _, same⟩ := mem_map.mp inside
    rw [← same]
    trivial

theorem mem_enumerated (member : item ∈ enumerated calls) : item.2 ∈ calls := by
  obtain ⟨⟨call, index⟩, there, rfl⟩ := mem_map.mp member
  exact fst_mem_of_mem_zipIdx there

theorem executeToolCalls_steady (same : s.run = run)
    (unasked : ∀ call ∈ calls, Unasked svc (toolNameOf call)) (branch : Nat) :
    Steady run ((enumerated calls).filterMap place?) (executeToolCalls svc branch s calls) := by
  unfold executeToolCalls
  split
  · have steady := executeBatches_steady same partitionToolCalls_fits (fun item member => by
      rw [partitionToolCalls_items] at member
      exact unasked item.2 (mem_enumerated member)) branch 0
    rwa [partitionToolCalls_items] at steady
  · exact .pure

def gatedOf (visits : List (Nat × Branch)) : List (String × Nat) :=
  visits.flatMap fun visit => (enumerated visit.2.calls).filterMap place?

theorem executeBranches_steady {visits : List (Nat × Branch)} (same : ∀ visit ∈ visits, visit.2.setting.run = run)
    (unasked : ∀ visit ∈ visits, ∀ call ∈ visit.2.calls, Unasked svc (toolNameOf call)) :
    Steady run (gatedOf visits) (executeBranches svc visits) := by
  induction visits with
  | nil => exact .goOn
  | cons visit rest ih =>
    have head := executeToolCalls_steady (same visit mem_cons_self) (unasked visit mem_cons_self) visit.1
    have tail := ih (fun other member => same other (mem_cons_of_mem _ member))
      fun other member => unasked other (mem_cons_of_mem _ member)
    have here : Steady run [] goOn := .goOn
    exact here.bind fun _ => head.bind fun _ => tail

end Rounds

section Runs

variable {svc : Services} {plan : Plan} {w after : Rounds}

variable {order : List Nat}

theorem mem_visits {visit : Nat × Branch} (member : visit ∈ order.filterMap plan.branch?) :
    visit.2 ∈ plan.branches := by
  obtain ⟨number, _, found⟩ := mem_filterMap.mp member
  obtain ⟨branch, there, rfl⟩ := Option.map_eq_some_iff.mp found
  exact mem_of_getElem? there

theorem mem_gated {place : String × Nat} (member : place ∈ gatedOf (order.filterMap plan.branch?)) :
    place ∈ plan.gated := by
  obtain ⟨visit, there, inside⟩ := mem_flatMap.mp member
  exact mem_flatMap.mpr ⟨visit.2, mem_visits there, inside⟩

def Plan.gatedAt (plan : Plan) (number : Nat) : Nat :=
  match plan.branch? number with
  | some visit => ((enumerated visit.2.calls).filterMap place?).length
  | none => 0

theorem length_gatedOf (order : List Nat) :
    (gatedOf (order.filterMap plan.branch?)).length = (order.map plan.gatedAt).sum := by
  induction order with
  | nil => rfl
  | cons number rest ih =>
    rw [map_cons, sum_cons, ← ih]
    unfold Plan.gatedAt
    cases found : plan.branch? number with
    | none => simp [found]
    | some visit => simp [found, gatedOf]

theorem length_gated : plan.gated.length = ((List.range plan.branches.length).map plan.gatedAt).sum := by
  have counts : (range plan.branches.length).map plan.gatedAt =
      plan.branches.map fun branch => ((enumerated branch.calls).filterMap place?).length := by
    apply ext_getElem
    · simp
    · simp_all [length_map, length_range, Plan.gatedAt, Plan.branch?, getElem?_eq_getElem]
  rw [counts]
  exact length_flatMap

theorem gatedOf_le (once : order.Nodup) :
    (gatedOf (order.filterMap plan.branch?)).length ≤ plan.gated.length := by
  rw [length_gatedOf, length_gated, ← sum_toFinset _ once, ← sum_toFinset _ nodup_range]
  apply Finset.sum_le_sum_of_ne_zero
  intro number _ some
  rw [mem_toFinset, mem_range]
  apply Nat.lt_of_not_le
  intro beyond
  have none : plan.branch? number = none := by
    unfold Plan.branch?
    simp_all
  apply some
  unfold Plan.gatedAt
  rw [none]

structure Untainted (plan : Plan) (w : Rounds) : Prop where
  places : ∀ row ∈ w.desk.own plan.run, ∀ place ∈ plan.gated, ∀ user, isGrantFor plan.run "dangerous_tool_call"
    (position place.1 place.2) { row with status := .approved, approvedByUserId := user } = true
  approved : w.approvals ≠ 0 → ∃ row ∈ w.desk.own plan.run, row.status = .approved

structure Rounds.Sound (plan : Plan) (w : Rounds) : Prop where
  once : w.CalledOnce
  rows : w.stored = true ∨ w.earlier ≠ [] ∨ (∃ approval arguments, .granted approval arguments ∈ w.desk.log) ∨ Untainted plan w

theorem execute_ends (simple : plan.Simple svc) (interrupted : Option Nat) (once : order.Nodup)
    (unspent : ∀ event ∈ w.desk.log, ∀ approval arguments, event ≠ .granted approval arguments)
    (calm : w.desk.pending? plan.run = none) :
    Ends plan.run (w.desk.own plan.run) plan.gated (w.execute svc plan order interrupted).2.desk := by
  have steady : Steady plan.run (gatedOf (order.filterMap plan.branch?)) (executeBranches svc (order.filterMap plan.branch?)) :=
    executeBranches_steady (fun visit member => plan.same _ (mem_visits member))
      fun visit member => simple.unasked _ (mem_visits member)
  have few := Nat.le_trans (gatedOf_le once) simple.single
  have valid : Triple (fun l : Ledger => Untouched plan.run (w.desk.own plan.run) l.desk)
      (executeBranches svc (order.filterMap plan.branch?))
      (fun _ l => Ends plan.run (w.desk.own plan.run) (gatedOf (order.filterMap plan.branch?)) l.desk)
      fun l => Ends plan.run (w.desk.own plan.run) (gatedOf (order.filterMap plan.branch?)) l.desk :=
    (steady.gate few (w.desk.own plan.run) calm).after fun _ l ended => ended.imp id fun both => .inr both.1
  have start : Untouched plan.run (w.desk.own plan.run) w.desk := ⟨rfl, fun approval arguments member => unspent _ member _ _ rfl⟩
  exact (valid.always start).mono fun place => mem_gated

theorem Rounds.Sound.round (simple : plan.Simple svc) (sound : w.Sound plan) {interrupted : Option Nat}
    (fresh : w.Fresh (.round order interrupted)) (once : order.Nodup) (calm : w.desk.pending? plan.run = none)
    (open_ : w.stored = false) : (w.afterRound plan (w.execute svc plan order interrupted)).Sound plan := by
  have new : w.earlier = [] ∧ ∀ event ∈ w.desk.log, ∀ approval arguments, event ≠ .granted approval arguments := by
    rcases fresh with stored | new
    · cases open_.symm.trans stored
    · exact new
  have untainted : Untainted plan w := by
    rcases sound.rows with stored | early | ⟨approval, arguments, member⟩ | untainted
    · cases open_.symm.trans stored
    · exact absurd new.1 early
    · exact absurd rfl (new.2 _ member approval arguments)
    · exact untainted
  have again : (w.afterRound plan (w.execute svc plan order interrupted)).again = [] := by
    unfold Rounds.afterRound
    dsimp only
    rw [new.1, sound.once.1, append_nil]
    apply filter_eq_nil_iff.mpr
    simp
  have overdue : (((w.execute svc plan order interrupted).2.desk.pending? plan.run).isSome = true → w.approvals < plan.gated.length) →
      (w.afterRound plan (w.execute svc plan order interrupted)).overdue = false := by
    intro few
    unfold Rounds.afterRound
    rw [sound.once.2, Bool.false_or, Bool.and_eq_false_iff]
    cases pending : ((w.execute svc plan order interrupted).2.desk.pending? plan.run).isSome with
    | false => exact .inl rfl
    | true => exact .inr (decide_eq_false (Nat.not_le_of_lt (few pending)))
  rcases execute_ends simple interrupted once new.2 calm with untouched | ⟨place, member, asked⟩ | consumed
  · refine ⟨⟨again, overdue fun pending => ?_⟩, .inr (.inr (.inr ⟨?_, ?_⟩))⟩
    · unfold Desk.pending? at pending calm
      simp [untouched.own, calm] at pending
    · intro row inside
      exact untainted.places row (untouched.own ▸ inside)
    · intro some
      obtain ⟨row, inside, approved⟩ := untainted.approved some
      exact ⟨row, untouched.own.symm ▸ inside, approved⟩
  · have none : w.approvals = 0 := by
      apply Nat.eq_zero_of_not_pos
      intro positive
      obtain ⟨row, inside, approved⟩ := untainted.approved (Nat.ne_of_gt positive)
      have grants := untainted.places row inside place member row.approvedByUserId
      rw [show ({ row with status := .approved, approvedByUserId := row.approvedByUserId } : ApprovalRequest) = row by
        rw [← approved]] at grants
      cases grants.symm.trans (asked.fresh row inside)
    have some : 0 < plan.gated.length := length_pos_of_mem member
    refine ⟨⟨again, overdue fun _ => by rw [none]; exact some⟩, .inr (.inr (.inr ⟨?_, fun many => absurd none many⟩))⟩
    obtain ⟨row, own, grants⟩ := asked.row
    intro other inside place' member' user
    have same : place' = place := by
      obtain ⟨only, all⟩ := length_eq_one_iff.mp (Nat.le_antisymm simple.single some)
      simp_all
    rcases mem_append.mp (own ▸ inside) with old | new
    · exact untainted.places other old place' member' user
    · simp_all
  · refine ⟨⟨again, overdue fun pending => ?_⟩, .inr (.inr (.inl consumed.granted))⟩
    simp [consumed.pending] at pending

theorem own_decided (approve : Bool) (user : String) (desk : Desk) (committed : List ApprovalRequest) :
    ({ desk with approvals := desk.approvals.map (Rounds.decided plan approve user), committed } : Desk).own plan.run =
      (desk.own plan.run).map (Rounds.decided plan approve user) := by
  unfold Desk.own
  rw [filter_map]
  congr 1
  apply filter_congr
  intro row member
  dsimp only [Function.comp_apply, Rounds.decided]
  split <;> rfl

theorem Untainted.decide (untainted : Untainted plan w) {approve : Bool} {user : String}
    (pending : (w.desk.pending? plan.run).isSome = true) : Untainted plan { w with
      desk := { w.desk with
        approvals := w.desk.approvals.map (Rounds.decided plan approve user)
        committed := w.desk.committed.map (Rounds.decided plan approve user) }
      approvals := if approve then w.approvals + 1 else w.approvals } := by
  constructor
  · intro row inside place member user'
    rw [own_decided] at inside
    obtain ⟨old, there, rfl⟩ := mem_map.mp inside
    have grants := untainted.places old there place member user'
    unfold Rounds.decided
    split <;> exact grants
  · intro some
    rw [own_decided]
    cases approve with
    | true =>
      obtain ⟨row, found⟩ := Option.isSome_iff_exists.mp pending
      have own : isOwn plan.run row = true := (mem_filter.mp (mem_of_find?_eq_some found)).2
      have waits : row.status = .pending := by simpa using find?_some found
      refine ⟨_, mem_map_of_mem (mem_of_find?_eq_some found), ?_⟩
      unfold Rounds.decided
      simp_all
    | false =>
      obtain ⟨row, inside, approved⟩ := untainted.approved some
      refine ⟨_, mem_map_of_mem inside, ?_⟩
      unfold Rounds.decided
      rw [if_neg fun both => by cases both.2.symm.trans approved]
      exact approved

theorem Rounds.Sound.step (simple : plan.Simple svc) (sound : w.Sound plan) {action : Rounds.Action} (fresh : w.Fresh action)
    (stepped : w.step svc plan action = some after) : after.Sound plan := by
  cases action with
  | round order interrupted =>
    dsimp only [Rounds.step] at stepped
    split at stepped
    · rename_i ready
      cases stored : w.stored with
      | true => simp_all
      | false =>
        rw [stored] at stepped
        cases stepped
        exact sound.round simple fresh ready.2 (Option.isNone_iff_eq_none.mp ready.1) stored
    · cases stepped
  | decide approve user =>
    dsimp only [Rounds.step] at stepped
    split at stepped
    · rename_i pending
      cases stepped
      exact ⟨sound.once, sound.rows.imp id (Or.imp id (Or.imp id fun untainted => untainted.decide pending))⟩
    · cases stepped
  | elsewhere rows =>
    dsimp only [Rounds.step] at stepped
    split at stepped
    · rename_i same
      cases stepped
      refine ⟨sound.once, sound.rows.imp id (Or.imp id (Or.imp id fun untainted => ⟨?_, ?_⟩))⟩
      · intro row inside
        exact untainted.places row (same ▸ inside)
      · intro some
        obtain ⟨row, inside, approved⟩ := untainted.approved some
        exact ⟨row, (show row ∈ rows.filter (isOwn plan.run) from same.symm ▸ inside), approved⟩
    · cases stepped

end Runs

/-- A plan of which at most one call needs an approval, and only because its tool is dangerous, is executed as it should as long as
    no round follows one that has completed a call or consumed a grant. -/
theorem planned_calls_run_once {svc : Services} {plan : Plan} {rows : List ApprovalRequest} {w : Rounds}
    (simple : plan.Simple svc) (unasked : ∀ row ∈ rows, isOwn plan.run row = false)
    (reached : Reaches (Rounds.step svc plan) Rounds.Fresh (Rounds.initial rows) w) : w.CalledOnce := by
  have none : (Rounds.initial rows).desk.own plan.run = [] := by
    apply filter_eq_nil_iff.mpr
    intro row member own
    cases own.symm.trans (unasked row member)
  have initial : (Rounds.initial rows).Sound plan := by
    refine ⟨⟨rfl, rfl⟩, .inr (.inr (.inr ⟨fun row inside => ?_, fun many => absurd rfl many⟩))⟩
    simp [none] at inside
  have sound : w.Sound plan := reached.invariant initial fun sound fresh stepped => sound.step simple fresh stepped
  exact sound.once

section Examples

def reading : Dict Json := [("tool", .str "fs_read"), ("arguments", .obj [("path", .str "a.txt")])]

def planOf (calls : List (Dict Json)) : Plan where
  run := writer.run
  branches := [⟨writer, calls⟩]
  same branch member := by rw [List.mem_singleton.mp member]

def resumedOnce : List Rounds.Action := [.round [0] none, .decide true "owner", .round [0] none]

def isFresh (w : Rounds) : Rounds.Action → Bool
  | .round _ _ => w.stored || (w.earlier.isEmpty && w.desk.log.all fun event => match event with | .granted _ _ => false | _ => true)
  | _ => true

theorem isFresh_sound (w : Rounds) (action : Rounds.Action) (fresh : isFresh w action = true) : w.Fresh action := by
  cases action with
  | round order interrupted =>
    rcases Bool.or_eq_true_iff.mp fresh with stored | new
    · exact .inl stored
    · obtain ⟨early, unspent⟩ := Bool.and_eq_true_iff.mp new
      refine .inr ⟨isEmpty_iff.mp early, fun event member approval arguments same => ?_⟩
      have kept := all_eq_true.mp unspent event member
      simp [same] at kept
  | _ => trivial

theorem write_then_read_finishes : ∃ w, Reaches (Rounds.step office (planOf [writing "a.txt", reading])) Rounds.Fresh
    (Rounds.initial []) w ∧ w.stored = true ∧ w.earlier = [(0, 1), (0, 0)] ∧ w.CalledOnce := by
  have simple : (planOf [writing "a.txt", reading]).Simple office := by
    refine ⟨fun branch _ call _ => ⟨fun owner context authorization same => ?_, fun arguments context result same => ?_⟩, by decide +kernel⟩
    · cases same
      decide
    · cases same
      decide
  have ran : (Systems.runWhere (Rounds.step office (planOf [writing "a.txt", reading])) isFresh (Rounds.initial []) resumedOnce).map
      (fun w => (w.stored, w.earlier)) = some (true, [(0, 1), (0, 0)]) := by decide +kernel
  obtain ⟨w, ended, shown⟩ := Option.map_eq_some_iff.mp ran
  obtain ⟨stored, earlier⟩ := Prod.mk.inj shown
  have reached := Reaches.start.runs isFresh_sound ended
  exact ⟨w, reached, stored, earlier, planned_calls_run_once simple (fun _ member => absurd member not_mem_nil) reached⟩

theorem earlier_calls_run_again :
    (∃ w, Reaches (Rounds.step office (planOf [reading, writing "a.txt"])) (fun _ _ => True) (Rounds.initial []) w ∧
      w.again = [(0, 0)] ∧ ¬ w.CalledOnce) ∧
    ∃ w, Reaches (Rounds.step office (planOf [writing "a.txt", writing "b.txt"])) (fun _ _ => True) (Rounds.initial []) w ∧
      w.approvals = 2 ∧ w.overdue = true ∧ ¬ w.CalledOnce := by
  have free : ∀ (w : Rounds) (action : Rounds.Action), true = true → True := fun _ _ _ => trivial
  have first : (Systems.runWhere (Rounds.step office (planOf [reading, writing "a.txt"])) (fun _ _ => true) (Rounds.initial [])
      resumedOnce).map Rounds.again = some [(0, 0)] := by decide +kernel
  have second : (Systems.runWhere (Rounds.step office (planOf [writing "a.txt", writing "b.txt"])) (fun _ _ => true)
      (Rounds.initial []) (resumedOnce ++ [.decide true "owner", .round [0] none])).map (fun w => (w.approvals, w.overdue)) =
      some (2, true) := by decide +kernel
  obtain ⟨w, ended, again⟩ := Option.map_eq_some_iff.mp first
  obtain ⟨v, finished, shown⟩ := Option.map_eq_some_iff.mp second
  obtain ⟨approvals, overdue⟩ := Prod.mk.inj shown
  refine ⟨⟨w, Reaches.start.runs free ended, again, fun once => ?_⟩, v, Reaches.start.runs free finished, approvals, overdue, fun once => ?_⟩
  · cases again.symm.trans once.1
  · cases overdue.symm.trans once.2

end Examples

end Troop.Orchestration
