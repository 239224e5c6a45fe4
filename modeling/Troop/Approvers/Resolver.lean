import Mathlib.Data.List.Dedup
import Mathlib.Data.List.Infix
import Mathlib.Data.Rat.Defs
import Mathlib.Algebra.Order.Ring.Unbundled.Rat
import Troop.Approvals.Canonical

namespace Troop.Approvers

open List

structure Workspace where
  id : String
  ownerUserId : String
  isDefault : Bool
deriving DecidableEq, Inhabited

structure WorkspaceMembership where
  workspaceId : String
  userId : String
  role : String
  status : String
deriving DecidableEq, Inhabited

structure SlaSetting where
  enabled : Option Bool := none
  responseHours : Option Rat := none
  warnHoursBeforeDue : Option Rat := none
  escalateHoursAfterDue : Option Rat := none
  escalationRoles : Option (List String) := none
deriving DecidableEq, Inhabited

structure OrchestratorProject where
  id : String
  ownerId : String
  companyId : Option String
  /-- `execution.sla` overwritten by `hitl.approval_sla`, if any field is set -/
  sla : Option SlaSetting
deriving DecidableEq, Inhabited

structure Directory where
  workspaces : List Workspace
  memberships : List WorkspaceMembership
  projects : List OrchestratorProject
  oneDefault : ∀ one ∈ workspaces, ∀ other ∈ workspaces, one.isDefault = true → other.isDefault = true →
    one.ownerUserId = other.ownerUserId → one = other
  oneMembership : ∀ one ∈ memberships, ∀ other ∈ memberships, one.workspaceId = other.workspaceId →
    one.userId = other.userId → one = other
  identified : ∀ row ∈ memberships, row.userId ≠ ""

def permissionsForRole : String → List String
  | "owner" | "admin" =>
    ["project:read", "project:write", "run:execute", "approval:decide", "workflow:publish", "integration:manage",
      "workspace:admin"]
  | "builder" => ["project:read", "project:write", "run:execute", "workflow:publish", "integration:manage"]
  | "operator" => ["project:read", "run:execute"]
  | "approver" => ["project:read", "approval:decide"]
  | "viewer" => ["project:read"]
  | _ => []

def roleHasPermission (role permission : String) : Bool :=
  permission ∈ permissionsForRole role ∨ "workspace:admin" ∈ permissionsForRole role

/-- `role_has_permission(role, PERM_APPROVAL_DECIDE)` -/
def mayDecide (role : String) : Bool := roleHasPermission role "approval:decide"

def workspaceRoles : List String := ["owner", "admin", "builder", "operator", "approver", "viewer"]

/-- `sorted(ROLES_WITH_DECIDE)` -/
def rolesWithDecide : List String := ["admin", "approver", "owner"]

/-- `sorted(HIGH_RISK_ROLES)` -/
def highRiskRoles : List String := ["admin", "owner"]

namespace Directory

variable (directory : Directory)

def getDefaultWorkspaceForUser (userId : String) : Option Workspace :=
  directory.workspaces.find? fun workspace => workspace.ownerUserId = userId ∧ workspace.isDefault

def getActiveMembership (workspaceId userId : String) : Option WorkspaceMembership :=
  directory.memberships.find? fun row => row.workspaceId = workspaceId ∧ row.userId = userId ∧ row.status = "active"

def listActiveMembershipsByRoles (workspaceId : String) (roles : List String) : List WorkspaceMembership :=
  directory.memberships.filter fun row =>
    row.workspaceId = workspaceId ∧ row.status = "active" ∧ row.role ∈ roles.filter (Text.strip · ≠ "")

def getProject (projectId : Option String) : Option OrchestratorProject :=
  (projectId.filter (· ≠ "")).bind fun id => directory.projects.find? (·.id = id)

end Directory

structure SlaPolicy where
  enabled : Bool
  responseHours : Rat
  warnHoursBeforeDue : Rat
  escalateHoursAfterDue : Rat
  escalationRoles : List String
deriving DecidableEq, Inhabited

def normalizeApprovalSlaPolicy (setting : SlaSetting) : SlaPolicy where
  enabled := setting.enabled.getD true
  responseHours :=
    let hours := setting.responseHours.getD 24
    max 1 (if hours = 0 then 24 else hours)
  warnHoursBeforeDue := max 0 (setting.warnHoursBeforeDue.getD 4)
  escalateHoursAfterDue := max 0 (setting.escalateHoursAfterDue.getD 0)
  escalationRoles :=
    let named := ((setting.escalationRoles.getD highRiskRoles).map Text.strip).filter (· ≠ "")
    if named = [] then highRiskRoles else named

/-- `escalation_state_json`, with times in hours. -/
structure EscalationState where
  warnSentAt : Option Rat := none
  escalatedAt : Option Rat := none
  escalationRoles : List String := []
deriving DecidableEq, Inhabited

structure Routing where
  projectId : Option String
  requestedByUserId : Option String
  approvalType : String
  actionKey : Option String
  payload : Dict Json
  delegations : List Json
  escalation : EscalationState
  slaPolicy : SlaSetting
deriving DecidableEq, Inhabited

structure EligibleApprover where
  userId : String
  role : String
  reasons : List String
deriving DecidableEq, Inhabited

section Delegations

def activeDelegations (delegations : List Json) : List (Dict Json) :=
  (delegations.filterMap Json.asObj?).filter fun row => ((row.get? "active").getD (.bool true)).truthy

def delegator (row : Dict Json) : String := (row.get "from_user_id").strOrEmpty

def delegate (row : Dict Json) : String := (row.get "to_user_id").strOrEmpty

/-- The active rows that name both users, as `(from, to)`. -/
def handovers (delegations : List Json) : List (String × String) :=
  ((activeDelegations delegations).map fun row => (delegator row, delegate row)).filter fun row => row.1 ≠ "" ∧ row.2 ≠ ""

def delegatedAway (delegations : List Json) : List String := (handovers delegations).map (·.1)

def delegateTargets (delegations : List Json) : Dict String :=
  (handovers delegations).foldl (fun targets row => targets.set row.2 row.1) []

end Delegations

section Payload

variable (payload : Dict Json)

def approverIdsOf : Json → List String
  | .str text => if Text.strip text = "" then [] else [Text.strip text]
  | .obj fields =>
    let userId := (Dict.get fields "user_id").pyOr (Dict.get fields "id")
    if userId.truthy then [userId.pyStr] else []
  | _ => []

def extractExplicitApproverIds : List String :=
  (["approver_ids", "approvers"].flatMap fun key =>
    match payload.get key with
    | .arr items => items.flatMap approverIdsOf
    | _ => []).reverse.dedup.reverse

def extractExplicitRoles : List String :=
  match payload.get "approver_roles" with
  | .arr items => (items.map fun role => Text.strip role.pyStr).filter (· ∈ workspaceRoles)
  | _ => []

/-- `str.upper`, as far as the letters of the risk levels go: of the other letters only two become one of them. -/
def upper (text : String) : String :=
  String.ofList (text.toList.map fun c => if c = 'ı' then 'I' else if c = 'ſ' then 'S' else c.toUpper)

/-- `_policy_required_roles`: the roles are `HIGH_RISK_ROLES` or there are none -/
def policyRequiresHighRisk (approvalType : String) (actionKey : Option String) : Bool :=
  let risk := upper ((payload.get "risk_level").pyOr (payload.get "tool_risk_level")).strOrEmpty
  let lowered := Text.lower (actionKey.getD "")
  risk ∈ ["R2", "R3", "HIGH", "CRITICAL"] ∨
    Text.startsWith "gmail_" approvalType ∧ "send".toList <:+: approvalType.toList ∨
    Text.startsWith "gmail_send" lowered ∨ Text.startsWith "telegram_send" lowered

end Payload

section Resolving

variable (directory : Directory) (routing : Routing)

def resolveWorkspaceIdForApproval : Option String :=
  let ofProject := (directory.getProject routing.projectId).bind fun project =>
    (directory.getDefaultWorkspaceForUser project.ownerId).map (·.id)
  let ofRequester := (routing.requestedByUserId.filter (· ≠ "")).bind fun userId =>
    (directory.getDefaultWorkspaceForUser userId).map (·.id)
  ofProject.or ofRequester

def workspaceId : Option String := (resolveWorkspaceIdForApproval directory routing).filter (· ≠ "")

def projectOwnerId : Option String := ((directory.getProject routing.projectId).map (·.ownerId)).filter (· ≠ "")

def companyId : Option String := ((directory.getProject routing.projectId).bind (·.companyId)).filter (· ≠ "")

def explicitIds : List String := extractExplicitApproverIds routing.payload

def explicitRoles : List String := extractExplicitRoles routing.payload

def highRisk : Bool := policyRequiresHighRisk routing.payload routing.approvalType routing.actionKey

def isEscalated : Bool := routing.escalation.escalatedAt.isSome

def matchedRoles : List String :=
  if explicitIds routing ≠ [] then
    if explicitRoles routing ≠ [] then explicitRoles routing else rolesWithDecide
  else if explicitRoles routing ≠ [] then explicitRoles routing
  else if isEscalated routing then
    if routing.escalation.escalationRoles ≠ [] then routing.escalation.escalationRoles
    else (normalizeApprovalSlaPolicy routing.slaPolicy).escalationRoles
  else if highRisk routing then highRiskRoles
  else rolesWithDecide

def ownerReasons (userId : String) : List String :=
  if projectOwnerId directory routing = some userId then ["project_owner"] else []

def companyReasons : List String := ((companyId directory routing).map ("company_context:" ++ ·)).toList

def eligibleByRole (workspace : String) : Dict EligibleApprover :=
  (directory.listActiveMembershipsByRoles workspace (matchedRoles routing)).foldl (fun eligible row =>
    eligible.set row.userId ⟨row.userId, row.role,
      ["workspace_role:" ++ row.role] ++ ownerReasons directory routing row.userId ++ companyReasons directory routing⟩) []

def addDecider (workspace userId : String) (reasons : String → List String) (eligible : Dict EligibleApprover) :
    Dict EligibleApprover :=
  match (directory.getActiveMembership workspace userId).filter (mayDecide ·.role) with
  | some row => eligible.set userId ⟨userId, row.role, reasons row.role⟩
  | none => eligible

def withExplicitIds (workspace : String) (eligible : Dict EligibleApprover) : Dict EligibleApprover :=
  (explicitIds routing).foldl (fun eligible userId =>
    addDecider directory workspace userId (fun role =>
      ["explicit_approver_id", "workspace_role:" ++ role] ++ ownerReasons directory routing userId) eligible) eligible

def withOwner (eligible : Dict EligibleApprover) : Dict EligibleApprover :=
  match projectOwnerId directory routing with
  | some owner =>
    if (eligible.get? owner).isSome then eligible
    else eligible.set owner ⟨owner, "owner", ["project_owner", "legacy_owner_fallback"]⟩
  | none => eligible

def withDelegates (workspace : String) (eligible : Dict EligibleApprover) : Dict EligibleApprover :=
  (delegateTargets routing.delegations).foldl (fun eligible target =>
    addDecider directory workspace target.1 (fun role =>
      ["delegated_from:" ++ target.2, "workspace_role:" ++ role]) eligible) eligible

/-- The dict `eligible` -/
def eligible : Dict EligibleApprover :=
  let members := match workspaceId directory routing with
    | some workspace => withExplicitIds directory routing workspace (eligibleByRole directory routing workspace)
    | none => []
  let kept := (withOwner directory routing members).filter fun entry => entry.1 ∉ delegatedAway routing.delegations
  match workspaceId directory routing with
  | some workspace => withDelegates directory routing workspace kept
  | none => kept

structure ApprovalRoutingSnapshot where
  workspaceId : Option String
  companyId : Option String
  projectId : Option String
  approvalType : String
  actionKey : Option String
  matchedRoles : List String
  explicitApproverIds : List String
  requiredRoles : Option (List String)
  explicitRoles : Option (List String)
  escalated : Bool
  escalationRoles : List String
deriving DecidableEq, Inhabited

def resolveEligibleApprovers : List EligibleApprover × ApprovalRoutingSnapshot :=
  ((eligible directory routing).values,
    { workspaceId := resolveWorkspaceIdForApproval directory routing
      companyId := (directory.getProject routing.projectId).bind (·.companyId)
      projectId := routing.projectId
      approvalType := routing.approvalType
      actionKey := routing.actionKey
      matchedRoles := matchedRoles routing
      explicitApproverIds := explicitIds routing
      requiredRoles := if highRisk routing then some highRiskRoles else none
      explicitRoles := if explicitRoles routing = [] then none else some (explicitRoles routing)
      escalated := isEscalated routing
      escalationRoles := routing.escalation.escalationRoles })

def Eligible (userId : String) : Prop := ∃ item ∈ (resolveEligibleApprovers directory routing).1, item.userId = userId

end Resolving

section Lookups

variable {α ι : Type}

variable {step : Dict α → ι → Dict α} {d : Dict α}

theorem isSome_set {key other : String} {value : α} :
    ((d.set key value).get? other).isSome ↔ key = other ∨ (d.get? other).isSome := by
  rw [Dict.get?_set]
  by_cases same : key = other <;> simp [same]

theorem isSome_of_mem {entry : String × α} (member : entry ∈ d) : (d.get? entry.1).isSome := by
  induction d with
  | nil => cases member
  | cons head rest ih =>
    rw [Dict.get?_cons]
    split
    · rfl
    · rename_i other
      rcases mem_cons.mp member with rfl | later
      · exact absurd rfl other
      · exact ih later

theorem isSome_fold {adds : ι → String → Prop}
    (each : ∀ d item key, ((step d item).get? key).isSome ↔ adds item key ∨ (d.get? key).isSome)
    (items : List ι) (d : Dict α) (key : String) :
    ((items.foldl step d).get? key).isSome ↔ (∃ item ∈ items, adds item key) ∨ (d.get? key).isSome := by
  induction items generalizing d with
  | nil => simp
  | cons item rest ih => grind

theorem fold_keeps {P : Dict α → Prop} (each : ∀ d item, P d → P (step d item))
    (items : List ι) (d : Dict α) (start : P d) : P (items.foldl step d) := by
  induction items generalizing d with
  | nil => exact start
  | cons item rest ih => exact ih _ (each d item start)

end Lookups

section Members

variable {directory : Directory} {routing : Routing} {workspace userId : String} {row : WorkspaceMembership}

theorem getActiveMembership_iff : directory.getActiveMembership workspace userId = some row ↔
    row ∈ directory.memberships ∧ row.workspaceId = workspace ∧ row.userId = userId ∧ row.status = "active" := by
  unfold Directory.getActiveMembership
  constructor
  · grind
  rintro ⟨stored, here⟩
  cases found : directory.memberships.find? fun row =>
    row.workspaceId = workspace ∧ row.userId = userId ∧ row.status = "active" with
  | none => exact absurd (decide_eq_true here) (find?_eq_none.mp found row stored)
  | some other =>
    have met : other.workspaceId = workspace ∧ other.userId = userId ∧ other.status = "active" := by
      simpa using find?_some found
    rw [directory.oneMembership other (mem_of_find?_eq_some found) row stored (met.1.trans here.1.symm)
      (met.2.1.trans here.2.1.symm)]

def Decider (directory : Directory) (workspace userId : String) : Prop :=
  ∃ row, directory.getActiveMembership workspace userId = some row ∧ mayDecide row.role = true

theorem decider_iff : Decider directory workspace userId ↔
    ((directory.getActiveMembership workspace userId).filter (mayDecide ·.role)).isSome := by
  unfold Decider
  cases directory.getActiveMembership workspace userId with
  | none => simp
  | some row => simp [Option.filter_some]

def Matched (directory : Directory) (routing : Routing) (workspace userId : String) : Prop :=
  ∃ row, directory.getActiveMembership workspace userId = some row ∧ row.role ∈ matchedRoles routing ∧ Text.strip row.role ≠ ""

theorem eligibleByRole_isSome :
    ((eligibleByRole directory routing workspace).get? userId).isSome ↔ Matched directory routing workspace userId := by
  unfold eligibleByRole
  have each := fun (d : Dict EligibleApprover) (row : WorkspaceMembership) key => @isSome_set _ d row.userId key
    (⟨row.userId, row.role, ["workspace_role:" ++ row.role] ++ ownerReasons directory routing row.userId ++
      companyReasons directory routing⟩ : EligibleApprover)
  rw [isSome_fold each]
  unfold Matched Directory.listActiveMembershipsByRoles
  simp only [Dict.get?_nil, Option.isSome_none, Bool.false_eq_true, or_false, mem_filter, decide_eq_true_iff,
    getActiveMembership_iff]
  constructor <;> grind

theorem addDecider_isSome (reasons : String → List String) (members : Dict EligibleApprover) (key : String) :
    ((addDecider directory workspace userId reasons members).get? key).isSome ↔
      (userId = key ∧ Decider directory workspace key) ∨ (members.get? key).isSome := by
  rw [decider_iff]
  unfold addDecider
  split
  · rename_i found
    rw [isSome_set]
    constructor
    · rintro (rfl | before)
      · exact .inl ⟨rfl, by rw [found]; rfl⟩
      · exact .inr before
    · rintro (⟨same, _⟩ | before)
      · exact .inl same
      · exact .inr before
  · rename_i none_
    constructor
    · exact .inr
    · rintro (⟨rfl, some_⟩ | before)
      · simp [none_] at some_
      · exact before

theorem withExplicitIds_isSome (members : Dict EligibleApprover) :
    ((withExplicitIds directory routing workspace members).get? userId).isSome ↔
      userId ∈ explicitIds routing ∧ Decider directory workspace userId ∨ (members.get? userId).isSome := by
  have each : ∀ (d : Dict EligibleApprover) (item : String) key, ((addDecider directory workspace item (fun role =>
      ["explicit_approver_id", "workspace_role:" ++ role] ++ ownerReasons directory routing item) d).get? key).isSome ↔
      (item = key ∧ Decider directory workspace key) ∨ (d.get? key).isSome :=
    fun d item key => addDecider_isSome _ d key
  unfold withExplicitIds
  rw [isSome_fold each]
  constructor
  · rintro (⟨_, listed, rfl, decider⟩ | before)
    · exact .inl ⟨listed, decider⟩
    · exact .inr before
  · rintro (⟨listed, decider⟩ | before)
    · exact .inl ⟨userId, listed, rfl, decider⟩
    · exact .inr before

theorem isSome_iff_mem {α : Type} {d : Dict α} {key : String} : (d.get? key).isSome ↔ ∃ entry ∈ d, entry.1 = key := by
  constructor
  · intro some_
    obtain ⟨value, found⟩ := Option.isSome_iff_exists.mp some_
    exact ⟨_, Dict.mem_of_get? found, rfl⟩
  · rintro ⟨entry, member, rfl⟩
    exact isSome_of_mem member

theorem mem_delegateTargets {delegations : List Json} :
    (∃ entry ∈ delegateTargets delegations, entry.1 = userId) ↔ ∃ row ∈ handovers delegations, row.2 = userId := by
  rw [← isSome_iff_mem]
  unfold delegateTargets
  rw [isSome_fold fun d (row : String × String) key => @isSome_set _ d row.2 key row.1]
  simp

theorem withDelegates_isSome (members : Dict EligibleApprover) :
    ((withDelegates directory routing workspace members).get? userId).isSome ↔
      ((∃ row ∈ handovers routing.delegations, row.2 = userId) ∧ Decider directory workspace userId) ∨
        (members.get? userId).isSome := by
  have each : ∀ (d : Dict EligibleApprover) (item : String × String) key,
      ((addDecider directory workspace item.1 (fun role =>
        ["delegated_from:" ++ item.2, "workspace_role:" ++ role]) d).get? key).isSome ↔
      (item.1 = key ∧ Decider directory workspace key) ∨ (d.get? key).isSome :=
    fun d item key => addDecider_isSome _ d key
  unfold withDelegates
  rw [isSome_fold each, ← mem_delegateTargets]
  constructor
  · rintro (⟨entry, listed, same, decider⟩ | before)
    · exact .inl ⟨⟨entry, listed, same⟩, decider⟩
    · exact .inr before
  · rintro (⟨⟨entry, listed, same⟩, decider⟩ | before)
    · exact .inl ⟨entry, listed, same, decider⟩
    · exact .inr before

theorem withOwner_isSome (members : Dict EligibleApprover) :
    ((withOwner directory routing members).get? userId).isSome ↔
      projectOwnerId directory routing = some userId ∨ (members.get? userId).isSome := by
  unfold withOwner
  cases projectOwnerId directory routing with
  | none => simp
  | some owner =>
    dsimp only
    split
    · constructor
      · exact .inr
      · rintro (same | before)
        · simp_all
        · exact before
    · rw [isSome_set]
      simp

def Entitled (directory : Directory) (routing : Routing) (userId : String) : Prop :=
  projectOwnerId directory routing = some userId ∨ ∃ workspace, workspaceId directory routing = some workspace ∧
    (Matched directory routing workspace userId ∨ userId ∈ explicitIds routing ∧ Decider directory workspace userId)

def Delegate (directory : Directory) (routing : Routing) (userId : String) : Prop :=
  ∃ workspace, workspaceId directory routing = some workspace ∧
    (∃ row ∈ handovers routing.delegations, row.2 = userId) ∧ Decider directory workspace userId

theorem kept_isSome (members : Dict EligibleApprover) (delegations : List Json) :
    (Dict.get? (members.filter fun entry => entry.1 ∉ delegatedAway delegations) userId).isSome ↔
      userId ∉ delegatedAway delegations ∧ (members.get? userId).isSome := by
  rw [isSome_iff_mem, isSome_iff_mem]
  constructor <;> simp_all

theorem eligible_isSome : ((eligible directory routing).get? userId).isSome ↔
    Delegate directory routing userId ∨
      userId ∉ delegatedAway routing.delegations ∧ Entitled directory routing userId := by
  unfold eligible Delegate Entitled
  cases workspaceId directory routing with
  | none =>
    rw [kept_isSome, withOwner_isSome]
    simp
  | some workspace =>
    rw [withDelegates_isSome, kept_isSome, withOwner_isSome, withExplicitIds_isSome, eligibleByRole_isSome]
    simp [or_comm]

end Members

section Returned

variable {directory : Directory} {routing : Routing} {userId : String}

def Keyed (members : Dict EligibleApprover) : Prop := ∀ entry ∈ members, entry.2.userId = entry.1

variable {members : Dict EligibleApprover}

theorem Keyed.set {item : EligibleApprover} (keyed : Keyed members) :
    Keyed (members.set item.userId item) := by
  intro entry member
  rcases Dict.mem_set member with rfl | old
  · rfl
  · exact keyed entry old

theorem Keyed.addDecider (keyed : Keyed members) (workspace : String)
    (reasons : String → List String) : Keyed (Approvers.addDecider directory workspace userId reasons members) := by
  unfold Approvers.addDecider
  split
  · rename_i row _
    exact @Keyed.set _ ⟨userId, row.role, reasons row.role⟩ keyed
  · exact keyed

theorem eligible_keyed : Keyed (eligible directory routing) := by
  have empty : Keyed [] := fun _ none_ => absurd none_ not_mem_nil
  have members : ∀ workspace, Keyed (withExplicitIds directory routing workspace (eligibleByRole directory routing workspace)) := by
    intro workspace
    apply fold_keeps fun d item keyed => keyed.addDecider workspace _
    exact fold_keeps (fun d row keyed => @Keyed.set d ⟨row.userId, row.role, _⟩ keyed) _ _ empty
  have owner : ∀ members, Keyed members → Keyed (withOwner directory routing members) := by
    intro members keyed
    unfold withOwner
    split
    · rename_i owner _
      split
      · exact keyed
      · exact @Keyed.set members ⟨owner, "owner", _⟩ keyed
    · exact keyed
  have kept : ∀ members, Keyed members → ∀ p : String × EligibleApprover → Bool, Keyed (members.filter p) :=
    fun members keyed p entry member => keyed entry (mem_filter.mp member).1
  unfold eligible
  cases workspaceId directory routing with
  | none => exact kept _ (owner _ empty) _
  | some workspace =>
    apply fold_keeps fun d item keyed => keyed.addDecider workspace _
    exact kept _ (owner _ (members workspace)) _

theorem eligible_iff : Eligible directory routing userId ↔
    Delegate directory routing userId ∨
      userId ∉ delegatedAway routing.delegations ∧ Entitled directory routing userId := by
  rw [← eligible_isSome, isSome_iff_mem]
  unfold Eligible resolveEligibleApprovers Dict.values
  simp only [mem_map]
  constructor
  · rintro ⟨item, ⟨entry, member, rfl⟩, same⟩
    exact ⟨entry, member, (eligible_keyed entry member).symm.trans same⟩
  · rintro ⟨entry, member, same⟩
    exact ⟨_, ⟨entry, member, rfl⟩, (eligible_keyed entry member).trans same⟩

end Returned

end Troop.Approvers
