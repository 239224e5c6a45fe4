import Troop.Orchestration.ToolCalls

namespace Troop.Orchestration

open Tools
open List

section Spending

structure Spending (entries : Dict Json) : Prop where
  consumed : ∃ value, entries.get? "_consumed_at" = some value ∧ value.truthy = true
  tool : entries.get? "tool" = none
  index : entries.get? "tool_call_index" = none
  arguments : entries.get? "arguments" = none

theorem spending_grant (svc : Services) : Spending [("_consumed_at", .str svc.now)] := by
  have marked : (Json.str svc.now).truthy = true := by simpa [Json.truthy] using svc.now_ne
  exact ⟨⟨_, rfl, marked⟩, rfl, rfl, rfl⟩

theorem spending_consumption (svc : Services) (toolName argumentsHash : String) :
    Spending (consumption svc toolName argumentsHash) := by
  have marked : (Json.str svc.now).truthy = true := by simpa [Json.truthy] using svc.now_ne
  exact ⟨⟨_, rfl, marked⟩, rfl, rfl, rfl⟩

variable {entries : Dict Json} {row : ApprovalRequest} {key : String}

theorem get_update_absent (payload : Dict Json) (absent : entries.get? key = none) :
    (payload.update entries).get key = payload.get key := by
  rw [Dict.get_update, absent, Option.none_or]
  rfl

theorem get_update_present (payload : Dict Json) {value : Json} (present : entries.get? key = some value) :
    (payload.update entries).get key = value := by
  simp [Dict.get_update, present]

theorem mem_stamped {w : Desk} {id : String} (member : row ∈ (w.stamped id entries).approvals) :
    ∃ old ∈ w.approvals, row = old ∨ row = { old with payloadJson := old.payloadJson.update entries } := by
  obtain ⟨old, found, rfl⟩ := mem_map.mp member
  refine ⟨old, found, ?_⟩
  split
  · exact .inr rfl
  · exact .inl rfl

theorem not_grant_of_spent (spending : Spending entries) {run : TaskRun} {approvalType : String} {expected : Dict Json} :
    isGrantFor run approvalType expected { row with payloadJson := row.payloadJson.update entries } = false := by
  obtain ⟨value, present, marked⟩ := spending.consumed
  have read : (row.payloadJson.update entries).get "_consumed_at" = value := get_update_present _ present
  simp [isGrantFor, ApprovalRequest.get, read, marked]

structure Closed (P : Desk → Prop) : Prop where
  stamped : ∀ (w : Desk) (id : String) (entries : Dict Json), Spending entries → P w → P (w.stamped id entries)
  dispatched : ∀ (w : Desk) (toolName : String) (arguments context : Dict Json), P w →
    P (w.record (.dispatched toolName arguments context))

end Spending

section Toolbox

variable {svc : Services} {s : Setting} {P : Desk → Prop}

theorem stamp_keeps (closed : Closed P) {id : String} {entries : Dict Json} (spending : Spending entries) :
    Triple P (stamp id entries) (fun _ => P) P :=
  .modify fun w holds => closed.stamped w id entries spending holds

theorem buildToolExecutionContext_keeps (closed : Closed P) (toolName : String) (arguments : Dict Json)
    (consume requireHash : Bool) :
    Triple P (buildToolExecutionContext svc s toolName arguments consume requireHash) (fun _ => P) P := by
  refine .bind (R := fun _ => P) ?_ fun granted => .pure fun _ holds => holds
  refine .bind (R := fun _ => P) (.get fun _ holds => holds) fun (w : Desk) => ?_
  cases toolApproval s toolName (svc.argumentsHash arguments) requireHash w.approvals with
  | none => exact .pure fun _ holds => holds
  | some row =>
    cases consume with
    | true =>
      refine .bind (R := fun _ => P) ?_ fun _ => .pure fun _ holds => holds
      exact stamp_keeps closed (spending_consumption ..)
    | false => exact .pure fun _ holds => holds

theorem authorizeCall_keeps (closed : Closed P) (toolName : String) (arguments context : Dict Json) :
    Triple P (authorizeCall svc s toolName arguments context) (fun _ => P) P := by
  unfold authorizeCall
  cases svc.authorizeTool s.project.ownerId toolName context with
  | error error =>
    exact .ite (fun _ => .pure fun _ holds => holds) fun _ => .throw fun _ holds => holds
  | ok authorization =>
    refine .ite (fun _ => .throw fun _ holds => holds) fun _ => ?_
    refine .ite (fun _ => .throw fun _ holds => holds) fun _ => ?_
    refine .ite (fun _ => ?_) fun _ => .pure fun _ holds => holds
    refine .bind (buildToolExecutionContext_keeps closed ..) fun granted => ?_
    exact .ite (fun _ => .throw fun _ holds => holds) fun _ => .pure fun _ holds => holds

theorem dispatchTool_keeps (closed : Closed P) (toolName : String) (arguments context : Dict Json) :
    Triple P (dispatchTool svc toolName arguments context) (fun _ => P) P := by
  refine .ite (fun _ => .throw fun _ holds => holds) fun _ => ?_
  refine .bind (R := fun _ => P) (.modify fun w holds => closed.dispatched w _ _ _ holds) fun _ => ?_
  cases svc.runTool toolName arguments context with
  | error error => exact .throw fun _ holds => holds
  | ok result => exact .pure fun _ holds => holds

theorem toolExecutionServiceExecute_keeps (closed : Closed P) (toolName : String) (arguments context : Dict Json) :
    Triple P (toolExecutionServiceExecute svc s toolName arguments context) (fun _ => P) P := by
  unfold toolExecutionServiceExecute
  split
  · exact .throw fun _ holds => holds
  · refine .ite (fun _ => .pure fun _ holds => holds) fun _ => ?_
    refine .ite (fun _ => .pure fun _ holds => holds) fun _ => ?_
    exact .ite (fun _ => .pure fun _ holds => holds) fun _ => dispatchTool_keeps closed ..

theorem toolOutput_readOnly (toolName : String) (result : Dict Json) : ReadOnly (toolOutput toolName result) := by
  refine .ite .throw (.ite .throw ?_)
  split
  · exact .pure
  · exact .ite .pure .pure
  · exact .pure

theorem toolboxExecute_keeps (closed : Closed P) (call : Dict Json) :
    Triple P (toolboxExecute svc s call) (fun _ => P) P := by
  refine .ite (fun _ => .throw fun _ holds => holds) fun _ => ?_
  refine .bind (buildToolExecutionContext_keeps closed ..) fun context => ?_
  refine .ite (fun _ => .throw fun _ holds => holds) fun _ => ?_
  refine .bind (authorizeCall_keeps closed ..) fun authorized => ?_
  refine .bind (toolExecutionServiceExecute_keeps closed ..) fun result => ?_
  exact ((toolOutput_readOnly _ result).triple fun _ holds => holds).after fun _ _ found => found.1

end Toolbox

section Records

def RequestedFor (log : List Event) (id : String) (arguments : Json) : Prop :=
  ∃ first, .requested first ∈ log ∧ first.id = id ∧ first.get "arguments" = arguments

structure Sound (w : Desk) : Prop where
  rows : ∀ row ∈ w.approvals, row.approvalType = "dangerous_tool_call" →
    RequestedFor w.log row.id (row.get "arguments")
  committed : ∀ row ∈ w.committed, row.approvalType = "dangerous_tool_call" →
    RequestedFor w.log row.id (row.get "arguments")
  grants : ∀ approval arguments, .granted approval arguments ∈ w.log → RequestedFor w.log approval.id arguments

def Agrees (run : TaskRun) (index : Nat) (call : Dict Json) (w : Desk) : Prop :=
  ∀ row ∈ w.approvals, isGrantFor run "dangerous_tool_call" (position (toolNameOf call) index) row = true →
    row.get "arguments" = argumentsOf call

variable {svc : Services} {s : Setting} {w : Desk} {run : TaskRun} {index : Nat} {call : Dict Json}

theorem RequestedFor.cons {log : List Event} {id : String} {arguments : Json}
    (requested : RequestedFor log id arguments) (event : Event) : RequestedFor (event :: log) id arguments := by
  obtain ⟨first, member, same, recorded⟩ := requested
  exact ⟨first, mem_cons_of_mem _ member, same, recorded⟩

theorem Sound.record (sound : Sound w) (event : Event)
    (fair : ∀ approval arguments, event = .granted approval arguments → RequestedFor w.log approval.id arguments) :
    Sound (w.record event) where
  rows row member tool := (sound.rows row member tool).cons event
  committed row member tool := (sound.committed row member tool).cons event
  grants approval arguments member := by
    rcases mem_cons.mp member with same | earlier
    · exact (fair approval arguments same.symm).cons event
    · exact (sound.grants approval arguments earlier).cons event

theorem Sound.stamped (sound : Sound w) (id : String) {entries : Dict Json} (spending : Spending entries) :
    Sound (w.stamped id entries) where
  rows row member tool := by
    obtain ⟨old, found, rfl | rfl⟩ := mem_stamped member
    · exact sound.rows _ found tool
    · have kept : (old.payloadJson.update entries).get "arguments" = old.get "arguments" :=
        get_update_absent _ spending.arguments
      have recorded := sound.rows old found tool
      rwa [← kept] at recorded
  committed := sound.committed
  grants := sound.grants

theorem Sound.add (sound : Sound w) (approval : ApprovalRequest) :
    Sound ((w.add approval).record (.requested approval)) where
  rows row member tool := by
    rcases mem_append.mp member with old | new
    · exact (sound.rows row old tool).cons _
    · obtain rfl := mem_singleton.mp new
      exact ⟨row, mem_cons_self, rfl, rfl⟩
  committed row member tool := (sound.committed row member tool).cons _
  grants approval arguments member := by
    rcases mem_cons.mp member with same | earlier
    · cases same
    · exact (sound.grants approval arguments earlier).cons _

theorem Sound.commit (sound : Sound w) : Sound { w with committed := w.approvals } :=
  ⟨sound.rows, sound.rows, sound.grants⟩

theorem Agrees.stamped (agrees : Agrees run index call w) (id : String) {entries : Dict Json}
    (spending : Spending entries) : Agrees run index call (w.stamped id entries) := by
  intro row member grant
  obtain ⟨old, found, rfl | rfl⟩ := mem_stamped member
  · exact agrees _ found grant
  · simp [not_grant_of_spent spending] at grant

theorem closed_sound : Closed fun w => Sound w ∧ Agrees run index call w where
  stamped _ id _ spending holds := ⟨holds.1.stamped id spending, holds.2.stamped id spending⟩
  dispatched _ _ _ _ holds := ⟨holds.1.record _ (by intro _ _ same; cases same), holds.2⟩

end Records

section Calls

variable {svc : Services} {s : Setting} {index : Nat} {call : Dict Json}

theorem consumeHitlGrant_sound {run : TaskRun} :
    Triple (fun w => Sound w ∧ Agrees run index call w)
      (consumeHitlGrant svc run "dangerous_tool_call" (position (toolNameOf call) index))
      (fun found w => (Sound w ∧ Agrees run index call w) ∧
        ∀ approval, found = some approval → RequestedFor w.log approval.id (argumentsOf call)) Sound := by
  refine .assuming fun start holds => ?_
  obtain ⟨sound, agrees⟩ := holds
  refine .bind (R := fun value state => value = start ∧ state = start)
    (.get fun _ same => ⟨same, same⟩) fun value => ?_
  refine Triple.before (P := fun state => state = start ∧ value = start) ?_ fun _ both => ⟨both.2, both.1⟩
  refine .with_fact fun same => ?_
  subst same
  cases found : value.approvals.find? (isGrantFor run "dangerous_tool_call" (position (toolNameOf call) index)) with
  | none =>
    refine .pure fun state same => ?_
    subst same
    exact ⟨⟨sound, agrees⟩, by intro _ none; cases none⟩
  | some approval =>
    have member := mem_of_find?_eq_some found
    have grant := find?_some found
    have recorded : RequestedFor value.log approval.id (argumentsOf call) := by
      have tool : approval.approvalType = "dangerous_tool_call" := by
        simp only [isGrantFor, decide_eq_true_eq] at grant
        exact grant.2.2.1
      have requested := sound.rows approval member tool
      rwa [agrees approval member grant] at requested
    refine .bind (R := fun _ state => (Sound state ∧ Agrees run index call state) ∧
      RequestedFor state.log approval.id (argumentsOf call)) (.modify fun state same => ?_) fun _ => ?_
    · subst same
      exact ⟨⟨sound.stamped _ (spending_grant svc), agrees.stamped _ (spending_grant svc)⟩, recorded⟩
    · refine .pure fun state holds => ⟨holds.1, fun other same => ?_⟩
      cases same
      exact holds.2

theorem addApproval_sound (approval : ApprovalRequest) :
    Triple Sound (addApproval approval) (fun _ => Sound) Sound := by
  refine .bind (R := fun _ state => ∃ before, Sound before ∧ state = before.add approval)
    (.modify fun state sound => ⟨state, sound, rfl⟩) fun _ => ?_
  refine .bind (R := fun _ => Sound) (.modify fun state added => ?_) fun _ => .pure fun _ sound => sound
  obtain ⟨before, sound, rfl⟩ := added
  exact sound.add approval

theorem createApproval_sound (projectId issueLinkId : Option String) (approvalType : String) (payload : Dict Json) :
    Triple Sound (createApproval svc s projectId issueLinkId approvalType payload) (fun _ => Sound) Sound :=
  .bind (R := fun _ => Sound) (.get fun _ sound => sound) fun _ => addApproval_sound _

theorem requestToolCall_sound {α : Type} (toolName : String) (arguments : Json) (source : Dict Json)
    (announce : String) {Q : α → Desk → Prop} :
    Triple Sound (requestToolCall svc s toolName index arguments source announce) Q Sound := by
  refine .bind (createApproval_sound ..) fun id => ?_
  refine .bind (R := fun _ => Sound) (.modify fun _ sound => sound.commit) fun _ => ?_
  exact .throw fun _ sound => sound

theorem countFailure_sound (failures : Nat) (toolName message : String) :
    Triple Sound (countFailure svc s failures toolName message) (fun _ => Sound) Sound := by
  refine .ite (fun _ => ?_) fun _ => .pure fun _ sound => sound
  refine .bind (R := fun _ => Sound) ?_ fun _ => .throw fun _ sound => sound
  refine .bind (createApproval_sound ..) fun _ => ?_
  exact .modify fun _ sound => sound.commit

theorem refuse_keeps {P : Desk → Prop} (message : Option String) : Triple P (refuse message) (fun _ => P) P := by
  cases message with
  | none => exact .pure fun _ holds => holds
  | some text => exact .throw fun _ holds => holds

theorem executeOneToolCall_sound (failures : Nat) :
    Triple (fun w => Sound w ∧ Agrees s.run index call w) (executeOneToolCall svc s index call failures)
      (fun _ => Sound) Sound := by
  refine .bind (R := fun _ w => Sound w ∧ Agrees s.run index call w)
    ((refuse_keeps _).weaken (fun _ h => h) (fun _ _ h => h) fun _ h => h.1) fun _ => ?_
  refine .bind (R := fun _ w => Sound w ∧ Agrees s.run index call w) ?_ fun _ => ?_
  · refine .ite (fun _ => ?_) fun _ => .pure fun _ holds => holds
    refine .bind consumeHitlGrant_sound fun found => ?_
    cases found with
    | none => exact (requestToolCall_sound ..).before fun _ holds => holds.1.1
    | some approval =>
      refine .modify fun state holds => ⟨holds.1.1.record _ fun other arguments same => ?_, holds.1.2⟩
      cases same
      exact holds.2 approval rfl
  refine .bind (R := fun _ w => Sound w ∧ Agrees s.run index call w)
    ((refuse_keeps _).weaken (fun _ h => h) (fun _ _ h => h) fun _ h => h.1) fun _ => ?_
  refine .bind (R := fun _ w => Sound w ∧ Agrees s.run index call w)
    ((refuse_keeps _).weaken (fun _ h => h) (fun _ _ h => h) fun _ h => h.1) fun _ => ?_
  refine .bind (R := fun _ w => Sound w ∧ Agrees s.run index call w) ?_ fun outcome => ?_
  · exact .catching ((toolboxExecute_keeps closed_sound call).bind fun _ => .pure fun _ holds => holds)
      fun _ => .pure fun _ holds => holds
  · cases outcome with
    | ok result => exact .pure fun _ holds => holds.1
    | error stop =>
      cases stop with
      | toolError message =>
        refine .ite (fun _ => ?_) fun _ => (countFailure_sound ..).before fun _ holds => holds.1
        refine .bind consumeHitlGrant_sound fun found => ?_
        cases found with
        | none => exact (requestToolCall_sound ..).before fun _ holds => holds.1.1
        | some approval =>
          refine .bind (R := fun _ w => Sound w ∧ Agrees s.run index call w)
            (.modify fun state holds => ⟨holds.1.1.record _ fun other arguments same => ?_, holds.1.2⟩) fun _ => ?_
          · simp_all
          · refine .bind (R := fun _ => Sound) ?_ fun _ => .pure fun _ sound => sound
            exact (toolboxExecute_keeps closed_sound call).weaken (fun _ h => h) (fun _ _ h => h.1) fun _ h => h.1
      | _ => exact .throw fun _ holds => holds.1

end Calls

section Runs

inductive Step (svc : Services) (allowed : Setting → Nat → Dict Json → Desk → Prop) : Desk → Desk → Prop
  | called {w : Desk} (s : Setting) (index : Nat) (call : Dict Json) (failures : Nat) (may : allowed s index call w) :
      Step svc allowed w ((executeOneToolCall svc s index call failures).exec w).2
  | committed (w : Desk) : Step svc allowed w { w with committed := w.approvals }
  | rolledBack (w : Desk) : Step svc allowed w { w with approvals := w.committed }
  | decided (w : Desk) (id : String) (status : ApprovalStatus) (user : Option String) :
      Step svc allowed w { w with approvals := w.approvals.map fun row =>
        if row.id = id then { row with status, approvedByUserId := user } else row }
  | elsewhere (w : Desk) (rows : List ApprovalRequest)
      (others : ∀ row ∈ rows, row.approvalType = "dangerous_tool_call" → row ∈ w.approvals) :
      Step svc allowed w { w with approvals := rows }

inductive Worked (svc : Services) (allowed : Setting → Nat → Dict Json → Desk → Prop) : Desk → Prop
  | start : Worked svc allowed {}
  | next {w after : Desk} (before : Worked svc allowed w) (step : Step svc allowed w after) : Worked svc allowed after

def Unchanged (s : Setting) (index : Nat) (call : Dict Json) (w : Desk) : Prop := Agrees s.run index call w

variable {svc : Services} {w after : Desk}

theorem Sound.step (sound : Sound w) (step : Step svc Unchanged w after) : Sound after := by
  cases step with
  | called s index call failures may =>
    have valid : Triple (fun w => Sound w ∧ Agrees s.run index call w) (executeOneToolCall svc s index call failures)
        (fun _ => Sound) Sound := executeOneToolCall_sound failures
    exact valid.always ⟨sound, may⟩
  | committed => exact sound.commit
  | rolledBack => exact ⟨sound.committed, sound.committed, sound.grants⟩
  | decided id status user =>
    refine ⟨fun row member tool => ?_, sound.committed, sound.grants⟩
    obtain ⟨old, found, rfl⟩ := mem_map.mp member
    have recorded := sound.rows old found
    split at tool <;> rename_i same
    · rw [if_pos same]
      exact recorded tool
    · simp_all
  | elsewhere rows others =>
    exact ⟨fun row member tool => sound.rows row (others row member tool) tool, sound.committed, sound.grants⟩

theorem Worked.sound (worked : Worked svc Unchanged w) : Sound w := by
  induction worked with
  | start => exact ⟨by simp, by simp, by simp⟩
  | next before step ih => exact ih.step step

def office : Services where
  uuid4 n := String.ofList (List.replicate n 'a')
  now := "now"
  now_ne := by decide
  argumentsHash arguments := (Json.obj arguments).pyRepr
  declaredTools _ := []
  authorizeTool _ _ _ := .ok ⟨true, .str "autonomous", .null⟩
  runTool _ _ _ := .ok [("status", .str "succeeded")]
  policyFailOpen := false

def writer : Setting :=
  { (default : Setting) with
    project := { (default : OrchestratorProject) with id := "project", ownerId := "owner" }
    run := { (default : TaskRun) with id := "run", projectId := some "project" } }

def writing (path : String) : Dict Json :=
  [("tool", .str "fs_write"), ("arguments", .obj [("path", .str path)])]

/-- The first call of the run asked to write `a.txt`, and that was approved. -/
def approvedDesk : Desk :=
  let asked := ((executeOneToolCall office writer 1 (writing "a.txt") 0).exec {}).2
  { asked with approvals := asked.approvals.map fun row =>
      if row.id = "" then { row with status := .approved, approvedByUserId := some "owner" } else row }

def resumedDesk (path : String) : Desk := ((executeOneToolCall office writer 1 (writing path) 0).exec approvedDesk).2

theorem resumedDesk_worked {allowed : Setting → Nat → Dict Json → Desk → Prop} {path : String}
    (first : allowed writer 1 (writing "a.txt") {}) (second : allowed writer 1 (writing path) approvedDesk) :
    Worked office allowed (resumedDesk path) :=
  ((Worked.start.next (.called writer 1 (writing "a.txt") 0 first)).next (.decided _ "" .approved (some "owner"))).next
    (.called writer 1 (writing path) 0 second)

instance (s : Setting) (index : Nat) (call : Dict Json) (w : Desk) : Decidable (Unchanged s index call w) :=
  inferInstanceAs (Decidable (∀ row ∈ w.approvals, _ → _))

def Event.reaches (toolName : String) (arguments : Dict Json) : Event → Bool
  | .dispatched tool given _ => tool = toolName ∧ given = arguments
  | _ => false

def Event.requests (arguments : Json) : Event → Bool
  | .requested first => first.get "arguments" = arguments
  | _ => true

end Runs

end Troop.Orchestration
