import Troop.Orchestration.Grants

namespace Troop.Orchestration

open Tools
open List
open Prog (exec_bind exec_bind_ok exec_get)

section Executions

variable {svc : Services} {s : Setting} {w : Desk}

theorem buildToolExecutionContext_checks (toolName : String) (arguments : Dict Json) (requireHash : Bool) :
    (buildToolExecutionContext svc s toolName arguments false requireHash).exec w =
      (.ok (toolContext svc s arguments
        (toolApproval s toolName (svc.argumentsHash arguments) requireHash w.approvals).isSome), w) := by
  unfold buildToolExecutionContext consumeOrCheckToolApproval
  rw [exec_bind, exec_bind_ok (exec_get w)]
  cases toolApproval s toolName (svc.argumentsHash arguments) requireHash w.approvals with
  | _ => rfl

theorem buildToolExecutionContext_consumes (toolName : String) (arguments : Dict Json) (requireHash : Bool) :
    (buildToolExecutionContext svc s toolName arguments true requireHash).exec w =
      match toolApproval s toolName (svc.argumentsHash arguments) requireHash w.approvals with
      | none => (.ok (toolContext svc s arguments false), w)
      | some row => (.ok (toolContext svc s arguments true),
          w.stamped row.id (consumption svc toolName (svc.argumentsHash arguments))) := by
  unfold buildToolExecutionContext consumeOrCheckToolApproval
  rw [exec_bind, exec_bind_ok (exec_get w)]
  cases toolApproval s toolName (svc.argumentsHash arguments) requireHash w.approvals with
  | _ => rfl

theorem consumeHitlGrant_exec (run : TaskRun) (approvalType : String) (expected : Dict Json) :
    (consumeHitlGrant svc run approvalType expected).exec w =
      match w.approvals.find? (isGrantFor run approvalType expected) with
      | none => (.ok none, w)
      | some approval => (.ok (some approval), w.stamped approval.id [("_consumed_at", .str svc.now)]) := by
  unfold consumeHitlGrant
  rw [exec_bind_ok (exec_get w)]
  cases w.approvals.find? (isGrantFor run approvalType expected) with
  | _ => rfl

theorem refuse_none (w : Desk) : (refuse none).exec w = (.ok ⟨⟩, w) := rfl

theorem attempt_exec {α : Type} (program : Work α) :
    (attempt program).exec w = (.ok (program.exec w).1, (program.exec w).2) := by
  unfold attempt
  rw [Prog.exec_catching, exec_bind]
  cases program.exec w with
  | mk result after =>
    cases result with
    | _ => rfl

end Executions

section Toolbox

variable {svc : Services} {s : Setting} {w : Desk} {call : Dict Json}

/-- The policies ask for an approval of the call, and nothing forbids it once that is granted. -/
structure Governed (svc : Services) (s : Setting) (call : Dict Json) : Prop where
  named : toolNameOf call ≠ ""
  owned : s.project.ownerId ≠ ""
  agent : agentPermissionError (toolNameOf call) s.agent = none
  scope : secretScopeError s.project.secretScope (toolNameOf call) = none
  listed : allowedToolsError s.allowed (toolNameOf call) = none
  asks : ∀ granted, ∃ permitted matchedScope,
    svc.authorizeTool s.project.ownerId (toolNameOf call) (toolContext svc s (callArguments call) granted) =
      .ok ⟨permitted, .str "approval_required", matchedScope⟩ ∧ (granted = true → permitted = true)
  serves : ∃ matchedScope, svc.authorizeTool s.project.ownerId (toolNameOf call)
    (authContext (callArguments call) (toolContext svc s (callArguments call) true)) =
      .ok ⟨true, .str "approval_required", matchedScope⟩

def hashedGrant (svc : Services) (s : Setting) (call : Dict Json) (w : Desk) : Option ApprovalRequest :=
  toolApproval s (toolNameOf call) (svc.argumentsHash (callArguments call)) true w.approvals

variable {row : ApprovalRequest} {toolName argumentsHash : String} {requireHash : Bool}

theorem isToolApproval_unhashed (matched : isToolApproval s toolName argumentsHash true row = true) :
    isToolApproval s toolName argumentsHash requireHash row = true := by
  cases requireHash with
  | true => exact matched
  | false =>
    simp only [isToolApproval, decide_eq_true_eq, if_true] at matched ⊢
    obtain ⟨unspent, own, named, task, agent, hash⟩ := matched
    exact ⟨unspent, own, named, task, agent, .inr hash.2⟩

theorem toolApproval_unhashed {approvals : List ApprovalRequest} (found : (toolApproval s toolName argumentsHash true approvals).isSome = true) :
    (toolApproval s toolName argumentsHash requireHash approvals).isSome = true := by
  obtain ⟨row, member, matched⟩ := find?_isSome.mp found
  exact find?_isSome.mpr ⟨row, member, isToolApproval_unhashed matched⟩

theorem toolboxExecute_refuses (governed : Governed svc s call) (none : hashedGrant svc s call w = none) :
    ∃ message, (toolboxExecute svc s call).exec w = (.error (.toolError message), w) := by
  unfold toolboxExecute
  rw [if_neg governed.named, exec_bind_ok (buildToolExecutionContext_checks ..), if_neg governed.owned]
  obtain ⟨permitted, matchedScope, answer, _⟩ := governed.asks
    (toolApproval s (toolNameOf call) (svc.argumentsHash (callArguments call)) (!isLowRiskTool (toolNameOf call))
      w.approvals).isSome
  suffices refused : ∀ context, svc.authorizeTool s.project.ownerId (toolNameOf call) context =
      .ok ⟨permitted, .str "approval_required", matchedScope⟩ →
      ∃ message, (authorizeCall svc s (toolNameOf call) (callArguments call) context).exec w =
        (.error (.toolError message), w) by
    obtain ⟨message, raised⟩ := refused _ answer
    exact ⟨message, Prog.exec_bind_error raised⟩
  intro context answer
  unfold authorizeCall
  rw [answer]
  dsimp only
  split
  · exact ⟨_, rfl⟩
  rw [if_neg (by decide), if_pos rfl, exec_bind, buildToolExecutionContext_consumes]
  rw [hashedGrant] at none
  rw [none]
  exact ⟨_, rfl⟩

theorem toolOutput_exec (toolName : String) (result : Dict Json) :
    ((toolOutput toolName result).exec w).2 = w := toolOutput_readOnly toolName result w

theorem authorizeCall_granted (governed : Governed svc s call) (found : hashedGrant svc s call w = some row) :
    (authorizeCall svc s (toolNameOf call) (callArguments call) (toolContext svc s (callArguments call) true)).exec w =
      (.ok (toolContext svc s (callArguments call) true),
        w.stamped row.id (consumption svc (toolNameOf call) (svc.argumentsHash (callArguments call)))) := by
  obtain ⟨permitted, matchedScope, answer, permits⟩ := governed.asks true
  unfold authorizeCall
  rw [answer, permits rfl]
  dsimp only
  rw [if_neg (by decide), if_neg (by decide), if_pos rfl, exec_bind, buildToolExecutionContext_consumes]
  rw [hashedGrant] at found
  rw [found]
  rfl

theorem toolboxExecute_dispatches (governed : Governed svc s call) (native : isEcosystem (toolNameOf call) = false) (found : hashedGrant svc s call w = some row) :
    ((toolboxExecute svc s call).exec w).2.log =
      .dispatched (toolNameOf call) (callArguments call) (toolContext svc s (callArguments call) true) :: w.log := by
  have checked : (toolApproval s (toolNameOf call) (svc.argumentsHash (callArguments call))
      (!isLowRiskTool (toolNameOf call)) w.approvals).isSome = true :=
    toolApproval_unhashed (Option.isSome_iff_exists.mpr ⟨row, found⟩)
  obtain ⟨matchedScope, served⟩ := governed.serves
  unfold toolboxExecute
  rw [if_neg governed.named, exec_bind_ok (buildToolExecutionContext_checks ..), if_neg governed.owned, checked,
    exec_bind_ok (authorizeCall_granted governed found)]
  unfold toolExecutionServiceExecute
  rw [served]
  dsimp only
  rw [if_neg (by decide), if_neg (by decide), if_neg (fun unmet => unmet.2 rfl), dispatchTool, if_neg (by simp [native])]
  cases answer : svc.runTool (toolNameOf call) (callArguments call) (toolContext svc s (callArguments call) true) with
  | error error => rfl
  | ok result => exact congrArg Desk.log (toolOutput_exec (toolNameOf call) result)

theorem toolboxExecute_ecosystem (governed : Governed svc s call) (foreign : isEcosystem (toolNameOf call) = true) :
    ((toolboxExecute svc s call).exec w).2.log = w.log ∧
      ∃ stop, ((toolboxExecute svc s call).exec w).1 = .error stop := by
  cases found : hashedGrant svc s call w with
  | none =>
    obtain ⟨message, refused⟩ := toolboxExecute_refuses governed found
    simp_all
  | some row =>
    have checked : (toolApproval s (toolNameOf call) (svc.argumentsHash (callArguments call))
        (!isLowRiskTool (toolNameOf call)) w.approvals).isSome = true :=
      toolApproval_unhashed (Option.isSome_iff_exists.mpr ⟨row, found⟩)
    obtain ⟨matchedScope, served⟩ := governed.serves
    unfold toolboxExecute
    rw [if_neg governed.named, exec_bind_ok (buildToolExecutionContext_checks ..), if_neg governed.owned, checked,
      exec_bind_ok (authorizeCall_granted governed found)]
    unfold toolExecutionServiceExecute
    rw [served]
    dsimp only
    rw [if_neg (by decide), if_neg (by decide), if_neg (fun unmet => unmet.2 rfl), dispatchTool, if_pos foreign]
    exact ⟨rfl, _, rfl⟩

end Toolbox

section Logs

variable {svc : Services} {s : Setting} {w : Desk} {index : Nat} {call : Dict Json}

def Logs (E : Event → Prop) (base : List Event) (w : Desk) : Prop :=
  ∃ new, w.log = new ++ base ∧ ∀ event ∈ new, E event

theorem Logs.start {E : Event → Prop} (w : Desk) : Logs E w.log w := ⟨[], rfl, by simp⟩

theorem Logs.record {E : Event → Prop} {base : List Event} (logs : Logs E base w) {event : Event} (kind : E event) :
    Logs E base (w.record event) := by
  obtain ⟨new, same, kinds⟩ := logs
  refine ⟨event :: new, by simp [Desk.record, same], ?_⟩
  intro other member
  rcases mem_cons.mp member with rfl | earlier
  · exact kind
  · exact kinds other earlier

structure Asks (s : Setting) (index : Nat) (call : Dict Json) (approval : ApprovalRequest) : Prop where
  run : approval.runId = some s.run.id
  type : approval.approvalType = "dangerous_tool_call"
  payload : approval.payloadJson = position (toolNameOf call) index ++ [("arguments", argumentsOf call)] ++ [] ∨
    approval.payloadJson = position (toolNameOf call) index ++ [("arguments", argumentsOf call)] ++
      [("source", .str "action_policy")]

structure Admits (E : Event → Prop) (s : Setting) (index : Nat) (call : Dict Json) : Prop where
  granted : ∀ approval arguments, E (.granted approval arguments)
  asked : ∀ approval, Asks s index call approval → E (.requested approval)
  escalated : ∀ approval, approval.approvalType = "task_escalation" → E (.requested approval)

variable {E : Event → Prop} {base : List Event} {P : Desk → Prop}

theorem addApproval_logs (approval : ApprovalRequest) (kind : E (.requested approval)) :
    Triple (Logs E base) (addApproval approval) (fun _ => Logs E base) (Logs E base) := by
  refine .bind (R := fun _ => Logs E base) (.modify fun state logs => ?_) fun _ => ?_
  · exact logs
  · exact .bind (R := fun _ => Logs E base) (.modify fun state logs => logs.record kind) fun _ =>
      .pure fun _ logs => logs

theorem requestToolCall_logs {α : Type} {Q : α → Desk → Prop} (admits : Admits E s index call) {source : Dict Json}
    (kind : source = [] ∨ source = [("source", .str "action_policy")]) (announce : String) :
    Triple (Logs E base) (requestToolCall svc s (toolNameOf call) index (argumentsOf call) source announce) Q
      (Logs E base) := by
  refine .bind (R := fun _ => Logs E base) ?_ fun id => ?_
  · refine .bind (R := fun _ => Logs E base) (.get fun _ logs => logs) fun w => ?_
    apply addApproval_logs
    apply admits.asked
    refine ⟨rfl, rfl, ?_⟩
    rcases kind with rfl | rfl
    · exact .inl rfl
    · exact .inr rfl
  · refine .bind (R := fun _ => Logs E base) (.modify fun _ logs => logs) fun _ => ?_
    exact .throw fun _ logs => logs

theorem countFailure_logs (admits : Admits E s index call) (failures : Nat) (toolName message : String) :
    Triple (Logs E base) (countFailure svc s failures toolName message) (fun _ => Logs E base) (Logs E base) := by
  refine .ite (fun _ => ?_) fun _ => .pure fun _ logs => logs
  refine .bind (R := fun _ => Logs E base) ?_ fun _ => .throw fun _ logs => logs
  refine .bind (R := fun _ => Logs E base) ?_ fun _ => .modify fun _ logs => logs
  refine .bind (R := fun _ => Logs E base) (.get fun _ logs => logs) fun w => ?_
  exact addApproval_logs _ (admits.escalated _ rfl)

theorem concludeCall_logs (admits : Admits E s index call)
    (toolbox : Triple (fun w => Logs E base w ∧ P w) (toolboxExecute svc s call) (fun _ w => Logs E base w ∧ P w)
      fun w => Logs E base w ∧ P w)
    (stamped : ∀ w id entries, Spending entries → P w → P (w.stamped id entries))
    (recorded : ∀ w event, P w → P (w.record event)) (failures : Nat) (outcome : Except Stop Json) :
    Triple (fun w => Logs E base w ∧ P w) (concludeCall svc s index call failures outcome) (fun _ => Logs E base)
      (Logs E base) := by
  cases outcome with
  | ok result => exact .pure fun _ holds => holds.1
  | error stop =>
    cases stop with
    | toolError message =>
      refine .ite (fun _ => ?_) fun _ => (countFailure_logs admits ..).before fun _ holds => holds.1
      refine .bind (R := fun _ w => Logs E base w ∧ P w) ?_ fun found => ?_
      · refine .bind (R := fun _ w => Logs E base w ∧ P w) (.get fun _ holds => holds) fun (w : Desk) => ?_
        cases w.approvals.find? (isGrantFor s.run "dangerous_tool_call" (position (toolNameOf call) index)) with
        | none => exact .pure fun _ holds => holds
        | some approval =>
          refine .bind (R := fun _ w => Logs E base w ∧ P w) (.modify fun state holds => ?_) fun _ =>
            .pure fun _ holds => holds
          exact ⟨holds.1, stamped _ _ _ (spending_grant svc) holds.2⟩
      cases found with
      | none => exact (requestToolCall_logs admits (.inr rfl) _).before fun _ holds => holds.1
      | some approval =>
        refine .bind (R := fun _ w => Logs E base w ∧ P w) (.modify fun state holds => ?_) fun _ => ?_
        · exact ⟨holds.1.record (admits.granted ..), recorded _ _ holds.2⟩
        · exact .bind (toolbox.weaken (fun _ h => h) (fun _ _ h => h) fun _ h => h.1) fun _ =>
            .pure fun _ holds => holds.1
    | _ => exact .throw fun _ holds => holds.1

theorem executePastGate_logs (admits : Admits E s index call)
    (toolbox : Triple (fun w => Logs E base w ∧ P w) (toolboxExecute svc s call) (fun _ w => Logs E base w ∧ P w)
      fun w => Logs E base w ∧ P w)
    (stamped : ∀ w id entries, Spending entries → P w → P (w.stamped id entries))
    (recorded : ∀ w event, P w → P (w.record event)) (failures : Nat) :
    Triple (fun w => Logs E base w ∧ P w) (executePastGate svc s index call failures) (fun _ => Logs E base)
      (Logs E base) := by
  refine .bind (R := fun _ w => Logs E base w ∧ P w)
    ((refuse_keeps _).weaken (fun _ h => h) (fun _ _ h => h) fun _ h => h.1) fun _ => ?_
  refine .bind (R := fun _ w => Logs E base w ∧ P w)
    ((refuse_keeps _).weaken (fun _ h => h) (fun _ _ h => h) fun _ h => h.1) fun _ => ?_
  refine .bind (R := fun _ w => Logs E base w ∧ P w) ?_ fun outcome =>
    concludeCall_logs admits toolbox stamped recorded failures outcome
  exact .catching (toolbox.bind fun _ => .pure fun _ holds => holds) fun _ => .pure fun _ holds => holds

theorem closed_logs (dispatched : ∀ toolName arguments context, E (.dispatched toolName arguments context)) :
    Closed fun w => Logs E base w ∧ True where
  stamped _ _ _ _ holds := holds
  dispatched _ _ _ _ holds := ⟨holds.1.record (dispatched ..), trivial⟩

theorem runToolGate_logs (admits : Admits E s index call) :
    Triple (Logs E base) (runToolGate svc s (toolNameOf call) index (argumentsOf call)) (fun _ => Logs E base)
      (Logs E base) := by
  refine .ite (fun _ => ?_) fun _ => .pure fun _ logs => logs
  refine .bind (R := fun _ => Logs E base) ?_ fun found => ?_
  · refine .bind (R := fun _ => Logs E base) (.get fun _ logs => logs) fun (w : Desk) => ?_
    cases w.approvals.find? (isGrantFor s.run "dangerous_tool_call" (position (toolNameOf call) index)) with
    | none => exact .pure fun _ logs => logs
    | some approval =>
      exact .bind (R := fun _ => Logs E base) (.modify fun _ logs => logs) fun _ => .pure fun _ logs => logs
  · cases found with
    | none => exact requestToolCall_logs admits (.inl rfl) _
    | some approval => exact .modify fun _ logs => logs.record (admits.granted ..)

theorem executeOneToolCall_logs (admits : Admits E s index call)
    (dispatched : ∀ toolName arguments context, E (.dispatched toolName arguments context)) (failures : Nat) :
    Triple (Logs E base) (executeOneToolCall svc s index call failures) (fun _ => Logs E base) (Logs E base) := by
  refine .bind (refuse_keeps _) fun _ => .bind (runToolGate_logs admits) fun _ => ?_
  have past : Triple (fun w => Logs E base w ∧ True) (executePastGate svc s index call failures)
      (fun _ => Logs E base) (Logs E base) :=
    executePastGate_logs admits (toolboxExecute_keeps (closed_logs dispatched) call) (fun _ _ _ _ _ => trivial)
      (fun _ _ _ => trivial) failures
  exact past.before fun _ logs => ⟨logs, trivial⟩

def OwnRequests (s : Setting) (index : Nat) (call : Dict Json) (event : Event) : Prop :=
  ∀ approval, event = .requested approval → approval.approvalType = "dangerous_tool_call" → Asks s index call approval

theorem admits_own : Admits (OwnRequests s index call) s index call where
  granted _ _ _ same := by cases same
  asked approval asks other same _ := by simp_all
  escalated approval type other same dangerous := by simp_all

theorem requested_asks {approval : ApprovalRequest} {failures : Nat} (type : approval.approvalType = "dangerous_tool_call")
    (requested : .requested approval ∈ ((executeOneToolCall svc s index call failures).exec w).2.log)
    (new : .requested approval ∉ w.log) : Asks s index call approval := by
  have valid : Triple (Logs (OwnRequests s index call) w.log) (executeOneToolCall svc s index call failures)
      (fun _ => Logs (OwnRequests s index call) w.log) (Logs (OwnRequests s index call) w.log) :=
    executeOneToolCall_logs admits_own (fun _ _ _ _ same => by cases same) failures
  obtain ⟨added, grown, kinds⟩ := valid.always (Logs.start w)
  rw [grown] at requested
  rcases mem_append.mp requested with member | old
  · exact kinds _ member approval rfl type
  · exact absurd old new

theorem Asks.grants {approval : ApprovalRequest} (asks : Asks s index call approval) (user : Option String) :
    isGrantFor s.run "dangerous_tool_call" (position (toolNameOf call) index)
      { approval with status := .approved, approvedByUserId := user } = true := by
  obtain ⟨run, type, payload⟩ := asks
  have tool : approval.payloadJson.get "tool" = .str (toolNameOf call) := by
    rcases payload with same | same <;> rw [same] <;> rfl
  have at_ : approval.payloadJson.get "tool_call_index" = .num index := by
    rcases payload with same | same <;> rw [same] <;> rfl
  have unspent : approval.payloadJson.get "_consumed_at" = .null := by
    rcases payload with same | same <;> rw [same] <;> rfl
  have expected : (position (toolNameOf call) index).all
      (fun entry => approval.payloadJson.get entry.1 = entry.2) = true := by
    simp only [position, all_cons, all_nil, tool, at_, decide_true, Bool.and_self]
  exact decide_eq_true ⟨run, rfl, type, by rw [ApprovalRequest.get, unspent]; decide, expected⟩

end Logs

section Unblocking

variable {svc : Services} {s : Setting} {w : Desk} {index : Nat} {call : Dict Json}

def grantAt (s : Setting) (index : Nat) (call : Dict Json) (w : Desk) : Option ApprovalRequest :=
  w.approvals.find? (isGrantFor s.run "dangerous_tool_call" (position (toolNameOf call) index))

def gatedDesk (svc : Services) (call : Dict Json) (w : Desk) (grant : ApprovalRequest) : Desk :=
  if toolRequiresHitlExecutionGrant (toolNameOf call) then
    (w.stamped grant.id [("_consumed_at", .str svc.now)]).record (.granted grant (argumentsOf call))
  else w

variable {grant : ApprovalRequest} {entries : Dict Json}

theorem runToolGate_exec (found : grantAt s index call w = some grant) :
    (runToolGate svc s (toolNameOf call) index (argumentsOf call)).exec w =
      (.ok ⟨⟩, gatedDesk svc call w grant) := by
  have asked : actionRequiresApproval s.project.executionSettings "run_tool" = true := if_pos (by decide)
  unfold runToolGate gatedDesk
  by_cases dangerous : toolRequiresHitlExecutionGrant (toolNameOf call) = true
  · rw [if_pos ⟨asked, dangerous⟩, if_pos dangerous, exec_bind, consumeHitlGrant_exec]
    rw [grantAt] at found
    rw [found]
    rfl
  · simp_all

theorem gatedDesk_log (grant : ApprovalRequest) :
    ∃ earlier, (gatedDesk svc call w grant).log = earlier ++ w.log ∧
      ∀ approval, .requested approval ∉ earlier := by
  unfold gatedDesk
  split
  · exact ⟨[.granted grant (argumentsOf call)], rfl, by simp⟩
  · exact ⟨[], rfl, by simp⟩

theorem not_toolApproval_of_spent {toolName argumentsHash : String} {requireHash : Bool}
    (spending : Spending entries) (row : ApprovalRequest) :
    isToolApproval s toolName argumentsHash requireHash
      { row with payloadJson := row.payloadJson.update entries } = false := by
  obtain ⟨value, present, marked⟩ := spending.consumed
  have read : (row.payloadJson.update entries).get "_consumed_at" = value := get_update_present _ present
  simp [isToolApproval, ApprovalRequest.get, read, marked]

theorem approvedRows_stamped (id : String) (entries : Dict Json) :
    approvedRows s (w.stamped id entries).approvals = (approvedRows s w.approvals).map fun row =>
      if row.id = id then { row with payloadJson := row.payloadJson.update entries } else row := by
  unfold approvedRows Desk.stamped
  rw [← map_reverse, filter_map, map_take]
  congr 2
  apply filter_congr
  intro row _
  dsimp only [Function.comp]
  split <;> rfl

theorem hashedGrant_stamped (id : String) (spending : Spending entries) :
    (hashedGrant svc s call (w.stamped id entries)).isSome = true ↔
      ∃ row ∈ approvedRows s w.approvals, row.id ≠ id ∧
        isToolApproval s (toolNameOf call) (svc.argumentsHash (callArguments call)) true row = true := by
  unfold hashedGrant toolApproval
  rw [approvedRows_stamped, find?_isSome]
  constructor
  · intro ⟨stamped, member, matched⟩
    obtain ⟨row, found, rfl⟩ := mem_map.mp member
    split at matched
    · simp [not_toolApproval_of_spent spending] at matched
    · grind
  · grind

/-- An approval other than the one the gate consumes is good for the toolbox: it is approved and unspent, names the
    tool and holds the hash of the arguments. -/
def Usable (svc : Services) (s : Setting) (index : Nat) (call : Dict Json) (w : Desk) : Prop :=
  ∃ row ∈ approvedRows s w.approvals,
    isToolApproval s (toolNameOf call) (svc.argumentsHash (callArguments call)) true row = true ∧
      (toolRequiresHitlExecutionGrant (toolNameOf call) = true →
        ∀ grant, grantAt s index call w = some grant → row.id ≠ grant.id)

theorem usable_iff (found : grantAt s index call w = some grant) :
    Usable svc s index call w ↔ (hashedGrant svc s call (gatedDesk svc call w grant)).isSome = true := by
  unfold Usable gatedDesk
  by_cases dangerous : toolRequiresHitlExecutionGrant (toolNameOf call) = true
  · rw [if_pos dangerous]
    refine Iff.trans ?_ (hashedGrant_stamped grant.id (spending_grant svc)).symm
    constructor <;> grind
  · rw [if_neg dangerous, hashedGrant, toolApproval, find?_isSome]
    constructor <;> simp_all

def Unblocked (svc : Services) (s : Setting) (index : Nat) (call : Dict Json) (failures : Nat) (w : Desk) : Prop :=
  ∃ later earlier context, ((executeOneToolCall svc s index call failures).exec w).2.log =
      later ++ .dispatched (toolNameOf call) (callArguments call) context :: (earlier ++ w.log) ∧
    ∀ approval, .requested approval ∉ earlier

theorem executeOneToolCall_gated (governed : Governed svc s call)
    (found : grantAt s index call w = some grant) (failures : Nat) :
    (executeOneToolCall svc s index call failures).exec w =
      (executePastGate svc s index call failures).exec (gatedDesk svc call w grant) := by
  unfold executeOneToolCall
  rw [governed.agent, exec_bind_ok (refuse_none w), exec_bind_ok (runToolGate_exec found)]

theorem executePastGate_exec (governed : Governed svc s call) (failures : Nat) :
    (executePastGate svc s index call failures).exec w =
      (concludeCall svc s index call failures ((toolboxExecute svc s call).exec w).1).exec
        ((toolboxExecute svc s call).exec w).2 := by
  unfold executePastGate
  rw [governed.scope, governed.listed, exec_bind_ok (refuse_none w), exec_bind_ok (refuse_none w),
    exec_bind_ok (attempt_exec _)]

theorem Admits.any (s : Setting) (index : Nat) (call : Dict Json) : Admits (fun _ => True) s index call :=
  ⟨fun _ _ => trivial, fun _ _ => trivial, fun _ _ => trivial⟩

theorem unblocked_of_usable (governed : Governed svc s call) (native : isEcosystem (toolNameOf call) = false) (found : grantAt s index call w = some grant) (usable : Usable svc s index call w)
    (failures : Nat) : Unblocked svc s index call failures w := by
  obtain ⟨row, hashed⟩ := Option.isSome_iff_exists.mp ((usable_iff found).mp usable)
  obtain ⟨earlier, gated, unasked⟩ : ∃ earlier, (gatedDesk svc call w grant).log = earlier ++ w.log ∧
      ∀ approval, .requested approval ∉ earlier := gatedDesk_log grant
  have reached := toolboxExecute_dispatches governed native hashed
  have valid (base : List Event) (outcome : Except Stop Json) :
      Triple (fun w => Logs (fun _ => True) base w ∧ True) (concludeCall svc s index call failures outcome)
        (fun _ => Logs (fun _ => True) base) (Logs (fun _ => True) base) :=
    concludeCall_logs (Admits.any s index call) (toolboxExecute_keeps (closed_logs fun _ _ _ => trivial) call)
      (fun _ _ _ _ _ => trivial) (fun _ _ _ => trivial) failures outcome
  have logs := (valid _ ((toolboxExecute svc s call).exec (gatedDesk svc call w grant)).1).always
    (And.intro (Logs.start ((toolboxExecute svc s call).exec (gatedDesk svc call w grant)).2) trivial)
  rw [← executePastGate_exec governed, ← executeOneToolCall_gated governed found] at logs
  obtain ⟨later, grown, _⟩ := logs
  rw [reached, gated] at grown
  exact ⟨later, earlier, _, grown, unasked⟩

def Hopeless (svc : Services) (s : Setting) (call : Dict Json) (w : Desk) : Prop :=
  hashedGrant svc s call w = none ∨ isEcosystem (toolNameOf call) = true

def NotReached (event : Event) : Prop := ∀ toolName arguments context, event ≠ .dispatched toolName arguments context

theorem Hopeless.stamped (hopeless : Hopeless svc s call w) (id : String)
    (spending : Spending entries) : Hopeless svc s call (w.stamped id entries) := by
  rcases hopeless with none | foreign
  · left
    rw [← Option.not_isSome_iff_eq_none, hashedGrant_stamped id spending]
    intro ⟨row, member, _, matched⟩
    have found : (hashedGrant svc s call w).isSome = true := find?_isSome.mpr ⟨row, member, matched⟩
    simp [none] at found
  · exact .inr foreign

theorem toolboxExecute_hopeless (governed : Governed svc s call) (base : List Event) :
    Triple (fun w => Logs NotReached base w ∧ Hopeless svc s call w) (toolboxExecute svc s call)
      (fun _ w => Logs NotReached base w ∧ Hopeless svc s call w)
      (fun w => Logs NotReached base w ∧ Hopeless svc s call w) := by
  refine ⟨fun state holds => ?_⟩
  obtain ⟨logs, hopeless⟩ := holds
  rcases hopeless with none | foreign
  · obtain ⟨message, ran⟩ := toolboxExecute_refuses governed none
    rw [ran]
    exact ⟨logs, .inl none⟩
  · obtain ⟨same, stop, ran⟩ := toolboxExecute_ecosystem (w := state) governed foreign
    rw [ran]
    obtain ⟨new, grown, kinds⟩ := logs
    exact ⟨⟨new, same.trans grown, kinds⟩, .inr foreign⟩

theorem not_unblocked_of_hopeless (governed : Governed svc s call)
    (found : grantAt s index call w = some grant) (hopeless : Hopeless svc s call (gatedDesk svc call w grant))
    (failures : Nat) : ¬ Unblocked svc s index call failures w := by
  have admits : Admits NotReached s index call :=
    ⟨fun _ _ _ _ _ same => (by cases same), fun _ _ _ _ _ same => (by cases same), fun _ _ _ _ _ same => (by cases same)⟩
  have start : Logs NotReached w.log (gatedDesk svc call w grant) := by
    unfold gatedDesk
    split
    · exact (Logs.start w).record (admits.granted grant (argumentsOf call))
    · exact Logs.start w
  have logs := (executePastGate_logs admits (toolboxExecute_hopeless governed w.log)
    (fun _ _ _ spending holds => holds.stamped _ spending) (fun _ _ holds => holds) failures).always
      (And.intro start hopeless)
  rw [← executeOneToolCall_gated governed found] at logs
  intro ⟨later, earlier, context, reached, _⟩
  obtain ⟨new, grown, kinds⟩ := logs
  have same : new ++ w.log = (later ++ .dispatched (toolNameOf call) (callArguments call) context :: earlier) ++ w.log := by
    simp_all
  have member : .dispatched (toolNameOf call) (callArguments call) context ∈ new := by
    rw [append_cancel_right same]
    simp
  exact kinds _ member _ _ _ rfl

/-- An approval that a call requested and a person approved lets the same call through exactly when the tool is no
    `mcp.` or `a2a.` tool and another approval does it. -/
theorem approved_call_proceeds_iff {start : Desk} {approval : ApprovalRequest} {first failures : Nat}
    (governed : Governed svc s call) (type : approval.approvalType = "dangerous_tool_call")
    (requested : .requested approval ∈ ((executeOneToolCall svc s index call first).exec start).2.log)
    (new : .requested approval ∉ start.log) {user : Option String}
    (approved : { approval with status := .approved, approvedByUserId := user } ∈ w.approvals) :
    Unblocked svc s index call failures w ↔
      isEcosystem (toolNameOf call) = false ∧ Usable svc s index call w := by
  have asks : Asks s index call approval := requested_asks type requested new
  have granted : (grantAt s index call w).isSome = true :=
    find?_isSome.mpr ⟨_, approved, asks.grants user⟩
  obtain ⟨grant, found⟩ := Option.isSome_iff_exists.mp granted
  constructor
  · intro unblocked
    by_contra unmet
    refine not_unblocked_of_hopeless governed found ?_ failures unblocked
    cases foreign : isEcosystem (toolNameOf call) with
    | true => exact .inr foreign
    | false =>
      left
      rw [← Option.not_isSome_iff_eq_none, ← usable_iff found]
      exact fun usable => unmet ⟨foreign, usable⟩
  · intro ⟨native, usable⟩
    exact unblocked_of_usable governed native found usable failures

def strictOffice : Services :=
  { office with authorizeTool := fun _ _ _ => .ok ⟨true, .str "approval_required", .null⟩ }

theorem strict_governed : Governed strictOffice writer (writing "a.txt") where
  named := by decide +kernel
  owned := by decide
  agent := rfl
  scope := by decide +kernel
  listed := by decide +kernel
  asks _ := ⟨true, .null, rfl, fun _ => rfl⟩
  serves := ⟨.null, rfl⟩

def askedApproval : ApprovalRequest :=
  { (default : ApprovalRequest) with
    id := "", projectId := some "project", runId := some "run", approvalType := "dangerous_tool_call",
    status := .pending,
    payloadJson := position "fs_write" 1 ++ [("arguments", .obj [("path", .str "a.txt")])] }

theorem strict_asked :
    .requested askedApproval ∈ ((executeOneToolCall strictOffice writer 1 (writing "a.txt") 0).exec {}).2.log := by
  decide +kernel

def approvedRow : ApprovalRequest := { askedApproval with status := .approved, approvedByUserId := some "owner" }

def hashedRow : ApprovalRequest :=
  { approvedRow with
    id := "hashed", approvalType := "tool:fs_write",
    payloadJson := [("arguments_hash", .str (strictOffice.argumentsHash [("path", .str "a.txt")]))] }

theorem hashed_approval_unblocks :
    Unblocked strictOffice writer 1 (writing "a.txt") 0 { approvals := [approvedRow, hashedRow] } := by
  have usable : Usable strictOffice writer 1 (writing "a.txt") { approvals := [approvedRow, hashedRow] } := by
    refine ⟨hashedRow, by decide +kernel, by decide +kernel, fun _ grant found => ?_⟩
    have first : grantAt writer 1 (writing "a.txt") { approvals := [approvedRow, hashedRow] } = some approvedRow := by
      decide +kernel
    cases first.symm.trans found
    decide
  exact (approved_call_proceeds_iff strict_governed rfl strict_asked (by simp)
    (mem_cons_self : { askedApproval with status := .approved, approvedByUserId := some "owner" } ∈ _)).mpr
      ⟨by decide +kernel, usable⟩

theorem approved_call_blocks_again :
    Governed strictOffice writer (writing "a.txt") ∧
      .requested askedApproval ∈ ((executeOneToolCall strictOffice writer 1 (writing "a.txt") 0).exec {}).2.log ∧
      ¬ Unblocked strictOffice writer 1 (writing "a.txt") 0 { approvals := [approvedRow] } ∧
      ((executeOneToolCall strictOffice writer 1 (writing "a.txt") 0).exec { approvals := [approvedRow] }).2.approvals.map
        (·.status) = [.approved, .pending] := by
  have found : grantAt writer 1 (writing "a.txt") { approvals := [approvedRow] } = some approvedRow := by
    decide +kernel
  have hopeless : Hopeless strictOffice writer (writing "a.txt")
      (gatedDesk strictOffice (writing "a.txt") { approvals := [approvedRow] } approvedRow) :=
    .inl (by decide +kernel)
  exact ⟨strict_governed, strict_asked, not_unblocked_of_hopeless strict_governed found hopeless 0, by decide +kernel⟩

end Unblocking

end Troop.Orchestration
