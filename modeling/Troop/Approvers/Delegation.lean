import Troop.Approvers.Authority

namespace Troop.Approvers

open List

/-- The columns of an approval that routing reads and writes; times are in hours. -/
structure ApprovalRequest where
  id : String
  status : String
  projectId : Option String
  requestedByUserId : Option String
  approvalType : String
  payloadJson : Dict Json
  /-- `payload_json["approval_sla"]`, where that is a dict -/
  payloadSla : Option SlaSetting
  createdAt : Rat
  workspaceId : Option String
  delegationsJson : List Json
  escalationState : EscalationState
  slaPolicy : SlaSetting
  dueAt : Option Rat
  eligibleApprovers : List EligibleApprover
  routingSnapshot : ApprovalRoutingSnapshot
deriving DecidableEq, Inhabited

def SlaPolicy.setting (policy : SlaPolicy) : SlaSetting where
  enabled := some policy.enabled
  responseHours := some policy.responseHours
  warnHoursBeforeDue := some policy.warnHoursBeforeDue
  escalateHoursAfterDue := some policy.escalateHoursAfterDue
  escalationRoles := some policy.escalationRoles

section Snapshots

variable (directory : Directory) (approval : ApprovalRequest)

def routingOf : Routing :=
  let actionKey := (approval.payloadJson.get "action_key").pyOr (approval.payloadJson.get "tool_slug")
  { projectId := approval.projectId
    requestedByUserId := approval.requestedByUserId
    approvalType := approval.approvalType
    actionKey := if actionKey.truthy then some actionKey.pyStr else none
    payload := approval.payloadJson
    delegations := approval.delegationsJson
    escalation := approval.escalationState
    slaPolicy := approval.slaPolicy }

def resolveSlaPolicyForApproval : SlaPolicy :=
  normalizeApprovalSlaPolicy
    ((approval.payloadSla.or ((directory.getProject approval.projectId).bind (·.sla))).getD {})

def computeApprovalDueAt (createdAt : Rat) (policy : SlaPolicy) : Option Rat :=
  if policy.enabled then some (createdAt + policy.responseHours) else none

def applySlaOnApproval : ApprovalRequest :=
  let policy := resolveSlaPolicyForApproval directory approval
  { approval with slaPolicy := policy.setting, dueAt := computeApprovalDueAt approval.createdAt policy }

def snapshotRoutingOnApproval : ApprovalRequest :=
  let approval := applySlaOnApproval directory approval
  let (eligible, snapshot) := resolveEligibleApprovers directory (routingOf approval)
  { approval with workspaceId := snapshot.workspaceId, eligibleApprovers := eligible, routingSnapshot := snapshot }

def recheckUserEligible (userId : String) : Except String EligibleApprover :=
  match (resolveEligibleApprovers directory (routingOf approval)).1.find? (·.userId = userId) with
  | some item => .ok item
  | none => .error ("User " ++ (Json.str userId).pyRepr ++ " is not an eligible approver for approval " ++
      (Json.str approval.id).pyRepr)

def delegationEntry (fromUserId toUserId : String) (reason : Option String) (now : String) : Json :=
  let reason := Text.strip (reason.getD "")
  .obj [("from_user_id", .str fromUserId), ("to_user_id", .str toUserId),
    ("reason", if reason = "" then .null else .str reason), ("created_at", .str now), ("active", .bool true)]

def delegationClash (fromUserId toUserId : String) : Option String :=
  (activeDelegations approval.delegationsJson).findSome? fun row =>
    if delegator row = fromUserId then some "You have already delegated this approval"
    else if delegate row = toUserId then some "This user already has an active delegation"
    else none

def delegateApproval (fromUserId toUserId : String) (reason : Option String) (now : String) :
    Except String ApprovalRequest :=
  if approval.status ≠ "pending" then
    .error ("Only pending approvals can be delegated; status is " ++ (Json.str approval.status).pyRepr)
  else if fromUserId = toUserId then .error "Cannot delegate an approval to yourself"
  else match recheckUserEligible directory approval fromUserId with
    | .error message => .error message
    | .ok _ => match approval.workspaceId.filter (· ≠ "") with
      | none => .error "Approval has no workspace context for delegation"
      | some workspace => match directory.getActiveMembership workspace toUserId with
        | none => .error "Delegate target is not an active workspace member"
        | some membership =>
          if ¬ mayDecide membership.role then
            .error ("Delegate target role " ++ (Json.str membership.role).pyRepr ++ " cannot decide approvals")
          else match delegationClash approval fromUserId toUserId with
            | some message => .error message
            | none => .ok (snapshotRoutingOnApproval directory { approval with
                delegationsJson := approval.delegationsJson ++ [delegationEntry fromUserId toUserId reason now] })

end Snapshots

section Accepted

variable {directory : Directory} {approval next : ApprovalRequest} {fromUserId toUserId now : String} {reason : Option String}

structure Accepted (directory : Directory) (approval : ApprovalRequest) (fromUserId toUserId : String)
    (reason : Option String) (now : String) (next : ApprovalRequest) : Prop where
  others : fromUserId ≠ toUserId
  eligible : Eligible directory (routingOf approval) fromUserId
  member : ∃ workspace, Decider directory workspace toUserId
  clash : delegationClash approval fromUserId toUserId = none
  next : next = snapshotRoutingOnApproval directory { approval with
    delegationsJson := approval.delegationsJson ++ [delegationEntry fromUserId toUserId reason now] }

theorem delegateApproval_ok (ok : delegateApproval directory approval fromUserId toUserId reason now = .ok next) :
    Accepted directory approval fromUserId toUserId reason now next := by
  unfold delegateApproval recheckUserEligible at ok
  split at ok
  · cases ok
  split at ok
  · cases ok
  rename_i others
  cases found : (resolveEligibleApprovers directory (routingOf approval)).1.find? (·.userId = fromUserId) with
  | none => simp [found] at ok
  | some item =>
    rw [found] at ok
    dsimp only at ok
    split at ok
    · cases ok
    split at ok
    · cases ok
    rename_i membership here
    split at ok
    · cases ok
    rename_i decides
    split at ok
    · cases ok
    rename_i unclashed
    exact ⟨others, ⟨item, mem_of_find?_eq_some found, by simpa using find?_some found⟩,
      ⟨_, membership, here, by simpa using decides⟩, unclashed, (Except.ok.inj ok).symm⟩

theorem Accepted.delegations (accepted : Accepted directory approval fromUserId toUserId reason now next) :
    next.delegationsJson = approval.delegationsJson ++ [delegationEntry fromUserId toUserId reason now] := by
  rw [accepted.next]
  rfl

theorem Decider.identified {workspace userId : String} (decider : Decider directory workspace userId) : userId ≠ "" := by
  obtain ⟨row, found, _⟩ := decider
  obtain ⟨stored, _, rfl, _⟩ := getActiveMembership_iff.mp found
  exact directory.identified row stored

theorem Eligible.identified {routing : Routing} {userId : String} (eligible : Eligible directory routing userId) :
    userId ≠ "" := by
  rcases eligible_iff.mp eligible with ⟨_, _, _, decider⟩ | ⟨_, owner | ⟨_, _, ⟨row, found, _⟩ | ⟨_, decider⟩⟩⟩
  · exact decider.identified
  · exact of_decide_eq_true (Option.filter_eq_some_iff.mp owner).2
  · obtain ⟨stored, _, rfl, _⟩ := getActiveMembership_iff.mp found
    exact directory.identified row stored
  · exact decider.identified

theorem Accepted.handovers (accepted : Accepted directory approval fromUserId toUserId reason now next) :
    handovers next.delegationsJson = handovers approval.delegationsJson ++ [(fromUserId, toUserId)] := by
  obtain ⟨_, decider⟩ := accepted.member
  have giver : fromUserId ≠ "" := accepted.eligible.identified
  have taker : toUserId ≠ "" := decider.identified
  rw [accepted.delegations]
  have entry : Approvers.handovers [delegationEntry fromUserId toUserId reason now] = [(fromUserId, toUserId)] := by
    unfold Approvers.handovers activeDelegations delegationEntry
    simp [Json.asObj?, Dict.get?, delegator, delegate, Dict.get, Json.truthy, giver, taker]
  rw [← entry]
  unfold Approvers.handovers activeDelegations
  rw [filterMap_append, filter_append, map_append, filter_append]

end Accepted

section Law

variable {directory : Directory} {routing : Routing}

def GivesAway (directory : Directory) (routing : Routing) : Prop :=
  ∀ userId ∈ delegatedAway routing.delegations, ¬ Eligible directory routing userId

theorem givesAway_iff : GivesAway directory routing ↔
    ∀ one ∈ handovers routing.delegations, ∀ other ∈ handovers routing.delegations, one.1 = other.2 →
      ∀ workspace, workspaceId directory routing = some workspace → ¬ Decider directory workspace one.1 := by
  constructor
  · intro gives one first other second same workspace here decider
    apply gives one.1 (mem_map_of_mem first)
    exact eligible_iff.mpr (.inl ⟨workspace, here, ⟨other, second, same.symm⟩, decider⟩)
  · intro apart userId away eligible
    rcases eligible_iff.mp eligible with ⟨workspace, here, ⟨other, second, same⟩, decider⟩ | ⟨kept, _⟩
    · obtain ⟨one, first, rfl⟩ := mem_map.mp away
      exact apart one first other second same.symm workspace here decider
    · exact kept away

def StaysDecidable (directory : Directory) (routing : Routing) : Prop :=
  handovers routing.delegations ≠ [] →
    (∀ row ∈ handovers routing.delegations, ∃ workspace, workspaceId directory routing = some workspace ∧
      Decider directory workspace row.2) → ∃ userId, Eligible directory routing userId

theorem staysDecidable : StaysDecidable directory routing := by
  intro delegated remain
  obtain ⟨row, member⟩ := exists_mem_of_ne_nil _ delegated
  obtain ⟨workspace, here, decider⟩ := remain row member
  exact ⟨row.2, eligible_iff.mpr (.inl ⟨workspace, here, ⟨row, member, rfl⟩, decider⟩)⟩

end Law

section Runs

structure Office where
  directory : Directory
  approval : ApprovalRequest

/-- The states that calls of `delegate_approval` lead to; in between everything but the delegations may change. -/
inductive Reached (allowed : ApprovalRequest → String → String → Prop) (start : Office) : Office → Prop
  | start : Reached allowed start start
  | delegated {o : Office} (before : Reached allowed start o) (fromUserId toUserId : String) (reason : Option String)
      (now : String) (next : ApprovalRequest)
      (ok : delegateApproval o.directory o.approval fromUserId toUserId reason now = .ok next)
      (may : allowed o.approval fromUserId toUserId) : Reached allowed start ⟨o.directory, next⟩
  | changed {o : Office} (before : Reached allowed start o) (other : Office)
      (same : other.approval.delegationsJson = o.approval.delegationsJson) : Reached allowed start other

def Unlinked (approval : ApprovalRequest) (fromUserId toUserId : String) : Prop :=
  ∀ row ∈ handovers approval.delegationsJson, row.2 ≠ fromUserId ∧ row.1 ≠ toUserId

def Apart (delegations : List Json) : Prop :=
  ∀ one ∈ handovers delegations, ∀ other ∈ handovers delegations, one.1 ≠ other.2

variable {start o : Office}

theorem Apart.next {directory : Directory} {approval next : ApprovalRequest} {fromUserId toUserId now : String}
    {reason : Option String} (apart : Apart approval.delegationsJson) (unlinked : Unlinked approval fromUserId toUserId)
    (accepted : Accepted directory approval fromUserId toUserId reason now next) : Apart next.delegationsJson := by
  intro one first other second
  rw [accepted.handovers] at first second
  rcases mem_append.mp first with first | first <;> rcases mem_append.mp second with second | second
  · exact apart one first other second
  · rw [mem_singleton.mp second]
    exact (unlinked one first).2
  · rw [mem_singleton.mp first]
    exact (unlinked other second).1.symm
  · rw [mem_singleton.mp first, mem_singleton.mp second]
    exact accepted.others

theorem Reached.apart (fresh : start.approval.delegationsJson = []) (run : Reached Unlinked start o) :
    Apart o.approval.delegationsJson := by
  induction run with
  | start =>
    intro one first
    rw [fresh] at first
    cases first
  | delegated _ fromUserId toUserId reason now next ok unlinked ih => exact ih.next unlinked (delegateApproval_ok ok)
  | changed _ other same ih => rwa [same]

end Runs

/-- In every run whose delegations link no two rows, who delegated is never returned, and somebody is. -/
theorem delegating_gives_away (start o : Office) (fresh : start.approval.delegationsJson = [])
    (run : Reached Unlinked start o) :
    GivesAway o.directory (routingOf o.approval) ∧ StaysDecidable o.directory (routingOf o.approval) := by
  refine ⟨givesAway_iff.mpr ?_, staysDecidable⟩
  intro one first other second same
  exact absurd same (run.apart fresh one first other second)

def pendingCall : ApprovalRequest :=
  { (default : ApprovalRequest) with
    id := "a1", status := "pending", projectId := some "p1", requestedByUserId := some "ann", approvalType := "tool_call"
    workspaceId := some "w1" }

def handedOn (approval : ApprovalRequest) (fromUserId toUserId : String) : ApprovalRequest :=
  ((delegateApproval team approval fromUserId toUserId none "now").toOption).getD approval

theorem handedOn_ok {approval : ApprovalRequest} {fromUserId toUserId : String}
    (accepted : (delegateApproval team approval fromUserId toUserId none "now").toOption.isSome = true) :
    delegateApproval team approval fromUserId toUserId none "now" = .ok (handedOn approval fromUserId toUserId) := by
  unfold handedOn
  cases answer : delegateApproval team approval fromUserId toUserId none "now" with
  | error message =>
    rw [answer] at accepted
    cases accepted
  | ok next => rfl

theorem ann_gives_away : GivesAway team (routingOf (handedOn pendingCall "ann" "bob")) ∧
    StaysDecidable team (routingOf (handedOn pendingCall "ann" "bob")) :=
  delegating_gives_away ⟨team, pendingCall⟩ ⟨team, handedOn pendingCall "ann" "bob"⟩ rfl
    (.delegated .start "ann" "bob" none "now" _ (handedOn_ok (by decide)) fun _ none_ => absurd none_ not_mem_nil)

theorem bob_keeps_the_right :
    ∃ o, Reached (fun _ _ _ => True) ⟨team, pendingCall⟩ o ∧ ¬ GivesAway o.directory (routingOf o.approval) := by
  refine ⟨⟨team, handedOn (handedOn pendingCall "ann" "bob") "bob" "cat"⟩, ?_, fun gives => ?_⟩
  · have first : Reached (fun _ _ _ => True) ⟨team, pendingCall⟩ ⟨team, handedOn pendingCall "ann" "bob"⟩ :=
      .delegated .start "ann" "bob" none "now" _ (handedOn_ok (by decide)) trivial
    exact .delegated first "bob" "cat" none "now" _ (handedOn_ok (by decide)) trivial
  · have away : "bob" ∈ delegatedAway (routingOf (handedOn (handedOn pendingCall "ann" "bob") "bob" "cat")).delegations := by
      decide
    have kept : ((eligible team (routingOf (handedOn (handedOn pendingCall "ann" "bob") "bob" "cat"))).get? "bob").isSome := by
      decide
    exact gives "bob" away (eligible_iff.mpr (eligible_isSome.mp kept))

end Troop.Approvers
