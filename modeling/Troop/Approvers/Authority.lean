import Troop.Approvers.Resolver

namespace Troop.Approvers

open List

section Roles

variable {routing : Routing} {role : String}

theorem mayDecide_iff : mayDecide role = true ↔ role ∈ rolesWithDecide := by
  unfold mayDecide roleHasPermission permissionsForRole rolesWithDecide
  split <;> simp_all

theorem highRisk_or_approver (decides : mayDecide role = true) : role ∈ highRiskRoles ∨ role = "approver" := by
  have listed := mayDecide_iff.mp decides
  simp only [rolesWithDecide, mem_cons, not_mem_nil, or_false] at listed
  rcases listed with rfl | rfl | rfl
  · exact .inl (by decide)
  · exact .inr rfl
  · exact .inl (by decide)

theorem mayDecide_of_highRisk (listed : role ∈ highRiskRoles) : mayDecide role = true := by
  simp only [highRiskRoles, mem_cons, not_mem_nil, or_false] at listed
  rcases listed with rfl | rfl <;> decide

theorem explicitRoles_known (listed : role ∈ explicitRoles routing) : role ∈ workspaceRoles := by
  unfold explicitRoles extractExplicitRoles at listed
  split at listed
  · exact of_decide_eq_true (mem_filter.mp listed).2
  · cases listed

theorem workspaceRole_named (known : role ∈ workspaceRoles) : Text.strip role ≠ "" := by
  simp only [workspaceRoles, mem_cons, not_mem_nil, or_false] at known
  rcases known with rfl | rfl | rfl | rfl | rfl | rfl <;> decide

theorem matchedRoles_open (calm : isEscalated routing = false) :
    matchedRoles routing = if explicitRoles routing ≠ [] then explicitRoles routing
      else if explicitIds routing = [] ∧ highRisk routing = true then highRiskRoles else rolesWithDecide := by
  unfold matchedRoles
  rw [calm]
  by_cases roles : explicitRoles routing = [] <;> by_cases ids : explicitIds routing = [] <;> simp [roles, ids]

end Roles

section Law

variable {directory : Directory} {routing : Routing} {workspace userId : String} {row : WorkspaceMembership}

def Member (directory : Directory) (routing : Routing) (userId : String) (row : WorkspaceMembership) : Prop :=
  ∃ workspace, workspaceId directory routing = some workspace ∧
    directory.getActiveMembership workspace userId = some row

theorem Member.unique {other : WorkspaceMembership} (one : Member directory routing userId row)
    (two : Member directory routing userId other) : row = other := by
  obtain ⟨workspace, here, found⟩ := one
  obtain ⟨workspace', here', found'⟩ := two
  rw [here] at here'
  cases here'
  rw [found] at found'
  exact Option.some.inj found'

/-- Everyone returned owns the project or is a member who may decide, for a high risk an owner or admin. -/
structure Bounded (directory : Directory) (routing : Routing) : Prop where
  decides : ∀ userId, Eligible directory routing userId → projectOwnerId directory routing = some userId ∨
    ∃ row, Member directory routing userId row ∧ mayDecide row.role = true
  highRisk : highRisk routing = true → ∀ userId, Eligible directory routing userId →
    projectOwnerId directory routing = some userId ∨
      ∃ row, Member directory routing userId row ∧ row.role ∈ highRiskRoles

/-- The project's owner apart, no member who keeps the right holds a listed role that may not decide; and for a high
    risk no approver is a delegate, and none who keeps the right is named by role or id, nor are ids given alone. -/
structure Confined (directory : Directory) (routing : Routing) : Prop where
  roles : ∀ userId row, Member directory routing userId row → projectOwnerId directory routing ≠ some userId →
    userId ∉ delegatedAway routing.delegations → row.role ∈ explicitRoles routing → mayDecide row.role = true
  delegates : highRisk routing = true → ∀ userId row, Member directory routing userId row →
    projectOwnerId directory routing ≠ some userId → row.role = "approver" →
    ∀ handover ∈ handovers routing.delegations, handover.2 ≠ userId
  approvers : highRisk routing = true → ∀ userId row, Member directory routing userId row →
    projectOwnerId directory routing ≠ some userId → row.role = "approver" →
    userId ∉ delegatedAway routing.delegations →
    "approver" ∉ explicitRoles routing ∧ userId ∉ explicitIds routing ∧
      (explicitIds routing ≠ [] → explicitRoles routing ≠ [])

theorem eligible_of_matched (member : Member directory routing userId row)
    (kept : userId ∉ delegatedAway routing.delegations) (listed : row.role ∈ matchedRoles routing)
    (named : Text.strip row.role ≠ "") : Eligible directory routing userId := by
  obtain ⟨workspace, here, found⟩ := member
  exact eligible_iff.mpr (.inr ⟨kept, .inr ⟨workspace, here, .inl ⟨row, found, listed, named⟩⟩⟩)

theorem matched_cases (calm : isEscalated routing = false) (listed : row.role ∈ matchedRoles routing) :
    row.role ∈ explicitRoles routing ∨
      explicitRoles routing = [] ∧ mayDecide row.role = true ∧
        (explicitIds routing = [] → highRisk routing = true → row.role ∈ highRiskRoles) := by
  rw [matchedRoles_open calm] at listed
  by_cases roles : explicitRoles routing = []
  · right
    rw [if_neg (not_not.mpr roles)] at listed
    split at listed
    · exact ⟨roles, mayDecide_of_highRisk listed, fun _ _ => listed⟩
    · rename_i other
      exact ⟨roles, mayDecide_iff.mpr listed, fun none_ risky => absurd ⟨none_, risky⟩ other⟩
  · simp_all

theorem Confined.bounded (calm : isEscalated routing = false) (confined : Confined directory routing) :
    Bounded directory routing := by
  have decides : ∀ userId, Eligible directory routing userId → projectOwnerId directory routing = some userId ∨
      ∃ row, Member directory routing userId row ∧ mayDecide row.role = true := by
    intro userId eligible
    by_cases owner : projectOwnerId directory routing = some userId
    · exact .inl owner
    right
    rcases eligible_iff.mp eligible with delegate | ⟨kept, owns | ⟨workspace, here, matched | explicit⟩⟩
    · obtain ⟨workspace, here, _, row, found, decides⟩ := delegate
      exact ⟨row, ⟨workspace, here, found⟩, decides⟩
    · exact absurd owns owner
    · obtain ⟨row, found, listed, _⟩ := matched
      have member : Member directory routing userId row := ⟨workspace, here, found⟩
      rcases matched_cases calm listed with named | ⟨_, decides, _⟩
      · exact ⟨row, member, confined.roles userId row member owner kept named⟩
      · exact ⟨row, member, decides⟩
    · obtain ⟨_, row, found, decides⟩ := explicit
      exact ⟨row, ⟨workspace, here, found⟩, decides⟩
  refine ⟨decides, fun risky userId eligible => ?_⟩
  by_cases owner : projectOwnerId directory routing = some userId
  · exact .inl owner
  right
  obtain ⟨row, member, decides⟩ := (decides userId eligible).resolve_left owner
  refine ⟨row, member, ?_⟩
  rcases highRisk_or_approver decides with high | approver
  · exact high
  -- An approver is returned for none of the five reasons.
  exfalso
  rcases eligible_iff.mp eligible with ⟨workspace, here, ⟨handover, listed, same⟩, _⟩ | ⟨kept, entitled⟩
  · exact confined.delegates risky userId row member owner approver handover listed same
  obtain ⟨unlisted, unnamed, together⟩ := confined.approvers risky userId row member owner approver kept
  rcases entitled with owns | ⟨workspace, here, ⟨other, found, listed, _⟩ | ⟨named, _⟩⟩
  · exact owner owns
  · have same : row = other := member.unique ⟨workspace, here, found⟩
    rw [← same] at listed
    rcases matched_cases calm listed with explicit | ⟨none_, _, high⟩
    · exact unlisted (approver ▸ explicit)
    by_cases ids : explicitIds routing = []
    · have high := high ids risky
      rw [approver] at high
      exact absurd high (by decide)
    · exact together ids none_
  · exact unnamed named

theorem Bounded.confined (calm : isEscalated routing = false) (bounded : Bounded directory routing) :
    Confined directory routing := by
  have risen : Approvers.highRisk routing = true → ∀ {userId row}, Member directory routing userId row →
      projectOwnerId directory routing ≠ some userId → row.role = "approver" → ¬ Eligible directory routing userId := by
    intro risky userId row member owner approver eligible
    obtain ⟨other, same, high⟩ := (bounded.highRisk risky userId eligible).resolve_left owner
    rw [← member.unique same, approver] at high
    exact absurd high (by decide)
  have approverDecides : mayDecide "approver" = true := by decide
  constructor
  case roles =>
    intro userId row member owner kept listed
    have matched : row.role ∈ matchedRoles routing := by
      rwa [matchedRoles_open calm, if_pos (ne_nil_of_mem listed)]
    have eligible := eligible_of_matched member kept matched (workspaceRole_named (explicitRoles_known listed))
    obtain ⟨other, same, decides⟩ := (bounded.decides userId eligible).resolve_left owner
    rwa [member.unique same]
  case delegates =>
    intro risky userId row member owner approver handover listed same
    obtain ⟨workspace, here, found⟩ := member
    have decider : Decider directory workspace userId := ⟨row, found, approver ▸ approverDecides⟩
    exact risen risky ⟨workspace, here, found⟩ owner approver
      (eligible_iff.mpr (.inl ⟨workspace, here, ⟨handover, listed, same⟩, decider⟩))
  case approvers =>
    intro risky userId row member owner approver kept
    have shut := risen risky member owner approver
    have unmatched : "approver" ∉ matchedRoles routing := by
      intro listed
      exact shut (eligible_of_matched member kept (approver ▸ listed) (by rw [approver]; decide))
    rw [matchedRoles_open calm] at unmatched
    refine ⟨fun listed => ?_, fun named => ?_, fun ids none_ => ?_⟩
    · grind
    · obtain ⟨workspace, here, found⟩ := member
      have decider : Decider directory workspace userId := ⟨row, found, approver ▸ approverDecides⟩
      exact shut (eligible_iff.mpr (.inr ⟨kept, .inr ⟨workspace, here, .inr ⟨named, decider⟩⟩⟩))
    · rw [if_neg (not_not.mpr none_), if_neg fun both => ids both.1] at unmatched
      exact unmatched (by decide)

end Law

def team : Directory where
  workspaces := [⟨"w1", "ann", true⟩]
  memberships := [⟨"w1", "ann", "owner", "active"⟩, ⟨"w1", "vic", "viewer", "active"⟩,
    ⟨"w1", "bob", "approver", "active"⟩, ⟨"w1", "cat", "approver", "active"⟩, ⟨"w1", "dan", "admin", "active"⟩]
  projects := [⟨"p1", "ann", none, none⟩]
  oneDefault := by decide
  oneMembership := by decide
  identified := by decide

def asking (payload : Dict Json) : Routing :=
  { projectId := some "p1", requestedByUserId := some "ann", approvalType := "tool_call", actionKey := none,
    payload := payload, delegations := [], escalation := {}, slaPolicy := {} }

end Troop.Approvers
