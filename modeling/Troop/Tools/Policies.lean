import Troop.Python.Json
import Troop.Tools.Catalog

namespace Troop.Tools

open List

structure ActionPolicy where
  id : String
  ownerId : String
  actionKey : String
  scopeType : String
  scopeId : Option String
  decision : String
deriving DecidableEq, Inhabited

structure ToolDefinition where
  id : String
  slug : String
  requiresApproval : Bool
deriving DecidableEq, Inhabited

structure ToolGrant where
  toolDefinitionId : String
  subjectType : String
  subjectId : String
  effect : String
deriving DecidableEq, Inhabited

structure PolicyTables where
  policies : List ActionPolicy := []
  tools : List ToolDefinition := []
  grants : List ToolGrant := []
deriving DecidableEq, Inhabited

def policyScopeOrder : List String :=
  ["task", "skill", "agent", "project", "department", "organization", "global"]

def validDecisions : List String := ["prohibited", "approval_required", "autonomous"]

/-- The scopes a context is in: `(scope, scope_id)`. -/
def scopeFilters (context : Dict Json) : List (String × Option String) :=
  policyScopeOrder.flatMap fun scope =>
    if scope = "global" then [("global", none)]
    else
      let scopeId := context.get (scope ++ "_id")
      let own := if scopeId.truthy then [(scope, some scopeId.pyStr)] else []
      if scope = "organization" ∧ (context.get "company_id").truthy then
        own ++ [("organization", some (context.get "company_id").pyStr)]
      else own

def listApplicablePolicies (tables : PolicyTables) (ownerId actionKey : String) (context : Dict Json) :
    List ActionPolicy :=
  let wanted := scopeFilters context
  tables.policies.filter fun policy =>
    policy.ownerId = ownerId ∧ policy.actionKey = actionKey ∧
      ((policy.scopeType, policy.scopeId) ∈ wanted ∨ policy.scopeType = "global" ∨
        (policy.scopeType = "organization" ∧ policy.scopeId = none ∧
          wanted.any fun scope => scope.1 = "organization"))

def policyOfScope (policies : List ActionPolicy) (scope : String) : Option ActionPolicy :=
  policies.find? fun policy =>
    Text.lower (Text.strip policy.scopeType) = scope ∧ Text.lower (Text.strip policy.decision) ∈ validDecisions

def resolveDecisionFromPolicies (policies : List ActionPolicy) (byDefault : String) : Dict Json :=
  let ordered := policyScopeOrder.filterMap (policyOfScope policies)
  match (ordered.filter fun policy => policy.decision = "prohibited").getLast?, ordered with
  | some chosen, _ => [("decision", .str "prohibited"), ("reason", .str "deny_override"),
      ("matched_scope", .str chosen.scopeType), ("matched_policy_id", .str chosen.id), ("deny_override", .bool true)]
  | none, chosen :: _ => [("decision", .str chosen.decision), ("reason", .str "most_specific"),
      ("matched_scope", .str chosen.scopeType), ("matched_policy_id", .str chosen.id), ("deny_override", .bool false)]
  | none, [] => [("decision", .str byDefault), ("reason", .str "no_policy_matched"), ("matched_scope", .null),
      ("matched_policy_id", .null), ("deny_override", .bool false)]

/-- `ActionPolicyService.resolve` for a tool -/
def resolve (tables : PolicyTables) (ownerId toolSlug : String) (context : Dict Json) : Dict Json :=
  let byDefault := match tables.tools.find? fun tool => tool.slug = toolSlug with
    | some tool => if tool.requiresApproval then "approval_required" else "autonomous"
    | none => "approval_required"
  resolveDecisionFromPolicies (listApplicablePolicies tables ownerId toolSlug context) byDefault ++
    [("action_key", .str toolSlug), ("tool_slug", .str toolSlug)]

def mayExecute (tables : PolicyTables) (ownerId toolSlug : String) (context : Dict Json) : Bool :=
  let decision := (resolve tables ownerId toolSlug context).get "decision"
  if decision = .str "prohibited" then false
  else if decision = .str "approval_required" then (context.get "approval_granted").truthy
  else true

def iterated : Json → List Json
  | .arr items => items
  | .str text => text.toList.map fun c => .str (String.singleton c)
  | .obj members => members.map fun entry => .str entry.1
  | _ => []

/-- `NativeToolProvider.validate_permissions` -/
def nativeValidatePermissions (tables : PolicyTables) (toolSlug : String) (context : Dict Json) : Bool :=
  let ownerId := context.get "owner_id"
  let allowed := iterated (context.get "allowed_tools")
  if ¬ ownerId.truthy then false
  else if allowed ≠ [] ∧ Json.str toolSlug ∉ allowed then false
  else mayExecute tables ownerId.pyStr toolSlug context

def githubTools : List String := ["github_comment", "github_label_issue", "github_create_pr"]

/-- `validate_permissions` of the provider of a tool that is no connector's. -/
def providerValidatePermissions (tables : PolicyTables) (toolSlug : String) (context : Dict Json) : Bool :=
  if ¬ isEcosystem toolSlug ∧ Text.startsWith "github_" toolSlug ∧ toolSlug ∉ githubTools then false
  else nativeValidatePermissions tables toolSlug context

section Flag

variable {tables : PolicyTables} {left right : Dict Json}

def Apart (left right : Dict Json) : Prop := ∀ key, key ≠ "approval_granted" → left.get key = right.get key

theorem Apart.set (apart : Apart left right) (key : String) (value : Json) :
    Apart (left.set key value) (right.set key value) := by
  intro other free
  rw [Dict.get_set, Dict.get_set, apart other free]

theorem Apart.symm (apart : Apart left right) : Apart right left := fun key other => (apart key other).symm

theorem Apart.trans {middle : Dict Json} (first : Apart left middle) (second : Apart middle right) : Apart left right :=
  fun key other => (first key other).trans (second key other)

theorem scopeFilters_apart (apart : Apart left right) : scopeFilters left = scopeFilters right := by
  have same (scope : String) (member : scope ∈ policyScopeOrder) : left.get (scope ++ "_id") = right.get (scope ++ "_id") := by
    apply apart
    simp only [policyScopeOrder, mem_cons, not_mem_nil, or_false] at member
    rcases member with rfl | rfl | rfl | rfl | rfl | rfl | rfl <;> decide
  have company : left.get "company_id" = right.get "company_id" := apart _ (by decide)
  apply flatMap_congr
  intro scope member
  rw [same scope member, company]

theorem resolve_apart (apart : Apart left right) (ownerId toolSlug : String) :
    resolve tables ownerId toolSlug left = resolve tables ownerId toolSlug right := by
  unfold resolve listApplicablePolicies
  rw [scopeFilters_apart apart]

theorem resolve_owner (context : Dict Json) (owner : Json) (ownerId toolSlug : String) :
    resolve tables ownerId toolSlug (context.set "owner_id" owner) = resolve tables ownerId toolSlug context := by
  have free (scope : String) (member : scope ∈ policyScopeOrder) : "owner_id" ≠ scope ++ "_id" := by
    simp only [policyScopeOrder, mem_cons, not_mem_nil, or_false] at member
    rcases member with rfl | rfl | rfl | rfl | rfl | rfl | rfl <;> decide
  have scopes : scopeFilters (context.set "owner_id" owner) = scopeFilters context := by
    apply flatMap_congr
    intro scope member
    rw [Dict.get_set_of_ne _ _ (free scope member), Dict.get_set_of_ne _ _ (by decide)]
  unfold resolve listApplicablePolicies
  rw [scopes]

theorem nativeValidatePermissions_ungranted (apart : Apart left right) {toolSlug : String}
    (missing : (left.get "approval_granted").truthy = false) (present : (right.get "approval_granted").truthy = true) :
    nativeValidatePermissions tables toolSlug left =
      (nativeValidatePermissions tables toolSlug right &&
        decide ((resolve tables (right.get "owner_id").pyStr toolSlug right).get "decision" ≠
          .str "approval_required")) := by
  have owner : left.get "owner_id" = right.get "owner_id" := apart _ (by decide)
  have tools : left.get "allowed_tools" = right.get "allowed_tools" := apart _ (by decide)
  unfold nativeValidatePermissions mayExecute
  dsimp only
  rw [owner, tools, resolve_apart apart, missing, present]
  split
  · rfl
  split
  · rfl
  · by_cases required : (resolve tables (right.get "owner_id").pyStr toolSlug right).get "decision" =
      .str "approval_required"
    · simp [required]
    · simp [required]

theorem providerValidatePermissions_ungranted (apart : Apart left right) {toolSlug : String}
    (missing : (left.get "approval_granted").truthy = false) (present : (right.get "approval_granted").truthy = true) :
    providerValidatePermissions tables toolSlug left =
      (providerValidatePermissions tables toolSlug right &&
        decide ((resolve tables (right.get "owner_id").pyStr toolSlug right).get "decision" ≠
          .str "approval_required")) := by
  unfold providerValidatePermissions
  rw [nativeValidatePermissions_ungranted apart missing present]
  split <;> rfl

theorem nativeValidatePermissions_of_provider {toolSlug : String}
    (valid : providerValidatePermissions tables toolSlug left = true) :
    nativeValidatePermissions tables toolSlug left = true := by
  unfold providerValidatePermissions at valid
  split at valid
  · cases valid
  · exact valid

end Flag

end Troop.Tools
