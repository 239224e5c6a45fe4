import Mathlib.Tactic.Linarith
import Troop.Approvers.Delegation

namespace Troop.Approvers

open List

/-- What a scan of an approval does: when, the due time and the hours it went by, and whom it notified. -/
inductive Notice where
  | warned (now due hours : Rat) (users : List String)
  | escalated (now due hours : Rat) (roles users : List String)
deriving DecidableEq

section Scan

variable (directory : Directory) (now : Rat) (approval : ApprovalRequest)

def notifiedUsers : List String := (approval.eligibleApprovers.map (·.userId)).filter (· ≠ "")

def warnApproval (due : Rat) (policy : SlaPolicy) : ApprovalRequest × List Notice :=
  let hours := policy.warnHoursBeforeDue
  if 0 < hours ∧ due - hours ≤ now ∧ now < due ∧ approval.escalationState.warnSentAt = none then
    ({ approval with escalationState := { approval.escalationState with warnSentAt := some now } },
      [.warned now due hours (notifiedUsers approval)])
  else (approval, [])

def escalateApproval (due : Rat) (policy : SlaPolicy) : ApprovalRequest × List Notice :=
  let hours := policy.escalateHoursAfterDue
  if now < due + hours ∨ approval.escalationState.escalatedAt ≠ none then (approval, [])
  else
    let marked := { approval with escalationState :=
      { approval.escalationState with escalatedAt := some now, escalationRoles := policy.escalationRoles } }
    let routed := snapshotRoutingOnApproval directory marked
    (routed, [.escalated now due hours policy.escalationRoles (notifiedUsers routed)])

/-- What `scan_pending_approval_sla` does with one approval. -/
def scanPendingApprovalSla : ApprovalRequest × List Notice :=
  if approval.status ≠ "pending" then (approval, [])
  else match approval.dueAt with
    | none => (approval, [])
    | some due =>
      let policy := normalizeApprovalSlaPolicy approval.slaPolicy
      if ¬ policy.enabled then (approval, [])
      else
        let (warned, first) := warnApproval now approval due policy
        let (after, second) := escalateApproval directory now warned due policy
        (after, first ++ second)

end Scan

section Steps

variable {directory : Directory} {now due : Rat} {approval : ApprovalRequest} {policy : SlaPolicy}

def Notice.isWarning : Notice → Bool
  | .warned .. => true
  | .escalated .. => false

def Notice.OnTime : Notice → Prop
  | .warned now due hours _ => due - hours ≤ now ∧ now < due
  | .escalated now due hours _ _ => due + hours ≤ now

structure EscalationState.Lawful (state : EscalationState) : Prop where
  roles : state.escalatedAt ≠ none → state.escalationRoles ≠ []
  named : ∀ role ∈ state.escalationRoles, Text.strip role ≠ ""

def warnings (notices : List Notice) : Nat := (notices.filter Notice.isWarning).length

def escalations (notices : List Notice) : Nat := (notices.filter (!·.isWarning)).length

def spent (time : Option Rat) : Nat := if time = none then 0 else 1

theorem spent_le (time : Option Rat) : spent time ≤ 1 := by
  unfold spent
  split <;> omega

structure Passage (before after : EscalationState) (notices : List Notice) : Prop where
  warned : spent before.warnSentAt + warnings notices ≤ spent after.warnSentAt
  escalated : spent before.escalatedAt + escalations notices ≤ spent after.escalatedAt
  onTime : ∀ notice ∈ notices, notice.OnTime
  lawful : before.Lawful → after.Lawful

theorem Passage.idle (state : EscalationState) : Passage state state [] where
  warned := Nat.le_refl _
  escalated := Nat.le_refl _
  onTime _ member := absurd member not_mem_nil
  lawful := id

theorem Passage.trans {before middle after : EscalationState} {first second : List Notice}
    (one : Passage before middle first) (two : Passage middle after second) : Passage before after (first ++ second) := by
  have warned := one.warned
  have warned' := two.warned
  have escalated := one.escalated
  have escalated' := two.escalated
  constructor
  case warned =>
    unfold warnings at *
    rw [filter_append, length_append]
    omega
  case escalated =>
    unfold escalations at *
    rw [filter_append, length_append]
    omega
  case onTime =>
    intro notice member
    rcases mem_append.mp member with member | member
    · exact one.onTime notice member
    · exact two.onTime notice member
  case lawful => exact fun lawful => two.lawful (one.lawful lawful)

theorem normalized_roles (setting : SlaSetting) : (normalizeApprovalSlaPolicy setting).escalationRoles ≠ [] ∧
    ∀ role ∈ (normalizeApprovalSlaPolicy setting).escalationRoles, Text.strip role ≠ "" := by
  unfold normalizeApprovalSlaPolicy
  dsimp only
  split
  · exact ⟨by decide, by decide⟩
  · simp_all [mem_filter, mem_map, Text.strip_strip]

theorem warn_passage :
    Passage approval.escalationState (warnApproval now approval due policy).1.escalationState
      (warnApproval now approval due policy).2 := by
  unfold warnApproval
  dsimp only
  split
  · rename_i timely
    obtain ⟨_, started, early, fresh⟩ := timely
    constructor
    case onTime =>
      intro notice member
      rw [mem_singleton.mp member]
      exact ⟨started, early⟩
    case warned =>
      rw [fresh]
      exact Nat.le_refl 1
    case escalated => exact Nat.le_refl _
    case lawful => exact fun lawful => ⟨lawful.roles, lawful.named⟩
  · exact Passage.idle _

theorem escalate_passage (setting : SlaSetting) :
    Passage approval.escalationState
      (escalateApproval directory now approval due (normalizeApprovalSlaPolicy setting)).1.escalationState
      (escalateApproval directory now approval due (normalizeApprovalSlaPolicy setting)).2 := by
  unfold escalateApproval
  dsimp only
  split
  · exact Passage.idle _
  rename_i late
  obtain ⟨breached, fresh⟩ : due + (normalizeApprovalSlaPolicy setting).escalateHoursAfterDue ≤ now ∧
      approval.escalationState.escalatedAt = none := by
    rwa [not_or, not_lt, not_not] at late
  constructor
  case onTime =>
    intro notice member
    rwa [mem_singleton.mp member]
  case warned => exact Nat.le_refl _
  case escalated =>
    rw [fresh]
    exact Nat.le_refl 1
  case lawful => exact fun _ => ⟨fun _ => (normalized_roles setting).1, (normalized_roles setting).2⟩

theorem scan_passage (directory : Directory) (now : Rat) (approval : ApprovalRequest) :
    Passage approval.escalationState (scanPendingApprovalSla directory now approval).1.escalationState
      (scanPendingApprovalSla directory now approval).2 := by
  unfold scanPendingApprovalSla
  split
  · exact Passage.idle _
  split
  · exact Passage.idle _
  · dsimp only
    split
    · exact Passage.idle _
    · exact warn_passage.trans (escalate_passage approval.slaPolicy)

end Steps

section Runs

/-- The states that scans at times which do not go back lead to, with the notices; in between the routing is snapshotted,
    and everything but the escalation state may change. -/
inductive Scanned (start : Office) : Rat → Office → List Notice → Prop
  | start (time : Rat) : Scanned start time start []
  | scan {time : Rat} {o : Office} {notices : List Notice} (before : Scanned start time o notices) (now : Rat)
      (later : time ≤ now) : Scanned start now ⟨o.directory, (scanPendingApprovalSla o.directory now o.approval).1⟩
        (notices ++ (scanPendingApprovalSla o.directory now o.approval).2)
  | routed {time : Rat} {o : Office} {notices : List Notice} (before : Scanned start time o notices) :
      Scanned start time ⟨o.directory, snapshotRoutingOnApproval o.directory o.approval⟩ notices
  | changed {time : Rat} {o : Office} {notices : List Notice} (before : Scanned start time o notices) (other : Office)
      (same : other.approval.escalationState = o.approval.escalationState) : Scanned start time other notices

variable {start o : Office} {time : Rat} {notices : List Notice}

theorem Scanned.passage (run : Scanned start time o notices) :
    Passage start.approval.escalationState o.approval.escalationState notices := by
  induction run with
  | start time => exact Passage.idle _
  | scan before now later ih => exact ih.trans (scan_passage _ now _)
  | routed before ih => exact ih
  | changed before other same ih => rwa [same]

/-- The notices of a run: at most one warning and one escalation, all in their time. -/
structure FiresOnce (notices : List Notice) : Prop where
  warned : warnings notices ≤ 1
  escalated : escalations notices ≤ 1
  onTime : ∀ notice ∈ notices, notice.OnTime

theorem Scanned.firesOnce (run : Scanned start time o notices) : FiresOnce notices := by
  have passage := run.passage
  have warned := passage.warned
  have escalated := passage.escalated
  have one := spent_le o.approval.escalationState.warnSentAt
  have two := spent_le o.approval.escalationState.escalatedAt
  exact ⟨by omega, by omega, passage.onTime⟩

end Runs

section Effect

variable {directory : Directory} {routing : Routing}

/-- Once the approval is escalated, the members with an escalation role who did not delegate are returned. -/
def TakesEffect (directory : Directory) (routing : Routing) : Prop :=
  isEscalated routing = true → ∀ userId row, Member directory routing userId row →
    row.role ∈ routing.escalation.escalationRoles → userId ∉ delegatedAway routing.delegations →
    Eligible directory routing userId

/-- The project's owner apart, a member with an escalation role who did not delegate has a listed role, or may decide and
    is named by id or a delegate, where roles are listed; and may decide, where only ids are. -/
structure Unmasked (directory : Directory) (routing : Routing) : Prop where
  roles : isEscalated routing = true → explicitRoles routing ≠ [] → ∀ userId row, Member directory routing userId row →
    row.role ∈ routing.escalation.escalationRoles → userId ∉ delegatedAway routing.delegations →
    projectOwnerId directory routing ≠ some userId →
    row.role ∈ explicitRoles routing ∨ mayDecide row.role = true ∧
      (userId ∈ explicitIds routing ∨ ∃ handover ∈ handovers routing.delegations, handover.2 = userId)
  ids : isEscalated routing = true → explicitRoles routing = [] → explicitIds routing ≠ [] →
    ∀ userId row, Member directory routing userId row → row.role ∈ routing.escalation.escalationRoles →
    userId ∉ delegatedAway routing.delegations → projectOwnerId directory routing ≠ some userId →
    mayDecide row.role = true

theorem matchedRoles_masked (ids : explicitIds routing ≠ []) (none_ : explicitRoles routing = []) :
    matchedRoles routing = rolesWithDecide := by
  unfold matchedRoles
  rw [if_pos ids, if_neg (not_not.mpr none_)]

theorem matchedRoles_listed (listed : explicitRoles routing ≠ []) : matchedRoles routing = explicitRoles routing := by
  unfold matchedRoles
  by_cases ids : explicitIds routing = [] <;> simp [ids, listed]

theorem matchedRoles_escalated (none_ : explicitRoles routing = []) (ids : explicitIds routing = [])
    (escalated : isEscalated routing = true) (roles : routing.escalation.escalationRoles ≠ []) :
    matchedRoles routing = routing.escalation.escalationRoles := by
  unfold matchedRoles
  rw [if_neg (not_not.mpr ids), if_neg (not_not.mpr none_), if_pos escalated, if_pos roles]

theorem Unmasked.takesEffect (unmasked : Unmasked directory routing) (lawful : routing.escalation.Lawful) :
    TakesEffect directory routing := by
  intro escalated userId row member listed kept
  by_cases owner : projectOwnerId directory routing = some userId
  · exact eligible_iff.mpr (.inr ⟨kept, .inl owner⟩)
  have named := lawful.named row.role listed
  by_cases none_ : explicitRoles routing = []
  · by_cases ids : explicitIds routing = []
    · have roles : routing.escalation.escalationRoles ≠ [] := ne_nil_of_mem listed
      apply eligible_of_matched member kept _ named
      rwa [matchedRoles_escalated none_ ids escalated roles]
    · have decides := unmasked.ids escalated none_ ids userId row member listed kept owner
      apply eligible_of_matched member kept _ named
      rw [matchedRoles_masked ids none_]
      exact mayDecide_iff.mp decides
  · rcases unmasked.roles escalated none_ userId row member listed kept owner with role | ⟨decides, id | delegate⟩
    · apply eligible_of_matched member kept _ named
      rwa [matchedRoles_listed none_]
    · obtain ⟨workspace, here, found⟩ := member
      exact eligible_iff.mpr (.inr ⟨kept, .inr ⟨workspace, here, .inr ⟨id, row, found, decides⟩⟩⟩)
    · obtain ⟨workspace, here, found⟩ := member
      exact eligible_iff.mpr (.inl ⟨workspace, here, delegate, row, found, decides⟩)

theorem TakesEffect.unmasked (effect : TakesEffect directory routing) : Unmasked directory routing := by
  constructor
  case roles =>
    intro escalated listed userId row member role kept owner
    rcases eligible_iff.mp (effect escalated userId row member role kept) with
      ⟨workspace, here, delegate, other, found, decides⟩ | ⟨_, owns | ⟨workspace, here, matched | explicit⟩⟩
    · have same := member.unique ⟨workspace, here, found⟩
      exact .inr ⟨same ▸ decides, .inr delegate⟩
    · exact absurd owns owner
    · obtain ⟨other, found, matched, _⟩ := matched
      have same := member.unique ⟨workspace, here, found⟩
      rw [matchedRoles_listed listed, ← same] at matched
      exact .inl matched
    · obtain ⟨id, other, found, decides⟩ := explicit
      have same := member.unique ⟨workspace, here, found⟩
      exact .inr ⟨same ▸ decides, .inl id⟩
  case ids =>
    intro escalated none_ ids userId row member role kept owner
    rcases eligible_iff.mp (effect escalated userId row member role kept) with
      ⟨workspace, here, _, other, found, decides⟩ | ⟨_, owns | ⟨workspace, here, matched | explicit⟩⟩
    · rwa [member.unique ⟨workspace, here, found⟩]
    · exact absurd owns owner
    · obtain ⟨other, found, matched, _⟩ := matched
      rw [matchedRoles_masked ids none_] at matched
      rw [member.unique ⟨workspace, here, found⟩]
      exact mayDecide_iff.mpr matched
    · obtain ⟨_, other, found, decides⟩ := explicit
      rwa [member.unique ⟨workspace, here, found⟩]

end Effect

def roleCall (roles : List Json) : ApprovalRequest :=
  { pendingCall with payloadJson := if roles = [] then [] else [("approver_roles", .arr roles)] }

def overdue (approval : ApprovalRequest) : ApprovalRequest × List Notice :=
  scanPendingApprovalSla team 24 (snapshotRoutingOnApproval team approval)

theorem overdue_scanned (approval : ApprovalRequest) :
    Scanned ⟨team, approval⟩ 24 ⟨team, (overdue approval).1⟩ (overdue approval).2 :=
  (Scanned.start 0).routed.scan 24 (by decide)

end Troop.Approvers
