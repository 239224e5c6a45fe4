import Troop.Connectors.Asking
import Troop.Orchestration.Unblocking

namespace Troop.Connectors

open Tools
open Orchestration (Services Setting Desk toolContext toolNameOf toolboxExecute)
open List

def configured (tables : PolicyTables) (failure : Option PyError) : Governance :=
  { governance tables with
    effectivePermissions := fun ownerId toolSlug context =>
      match failure with
      | some error => .error error
      | none => resolveEffectiveToolPermissions tables ownerId toolSlug context }

section Run

variable (tables : PolicyTables) (failure : Option PyError) (installations : Dict ConnectorInstallation)
  (svc : Services) (s : Setting)

def registryAuthorization (ownerId toolSlug : String) (context : Dict Json) : Except String Orchestration.Authorization :=
  match authorizeTool (configured tables failure) installations ownerId toolSlug context with
  | .error error => .error (errorText error)
  | .ok (authorization, after) =>
    let resolution := (after.get "_policy_resolution").asObj?.getD (resolve tables ownerId toolSlug context)
    .ok ⟨authorization.permitted, authorization.decision, resolution.get "matched_scope"⟩

def withRegistry : Services :=
  { svc with authorizeTool := registryAuthorization tables failure installations }

def runContext (arguments params : Dict Json) (granted : Bool) : Dict Json :=
  authContext params (toolContext svc s arguments granted)

def scopeContext : Dict Json := toolContext svc s [] false

def decisionFor (toolSlug : String) : Json := (resolve tables s.project.ownerId toolSlug (scopeContext svc s)).get "decision"

def rulingFor (toolSlug : String) : Ruling :=
  grantsRuling (configured tables failure) s.project.ownerId toolSlug (scopeContext svc s)

end Run

section Contexts

variable {tables : PolicyTables} {failure : Option PyError} {installations : Dict ConnectorInstallation}
  {svc : Services} {s : Setting} {arguments params : Dict Json} {granted : Bool} {toolSlug : String}

def scopeKeys : List String :=
  ["task_id", "skill_id", "agent_id", "project_id", "department_id", "organization_id", "company_id", "skill_ids"]

variable {left right : Dict Json}

theorem scopeFilters_congr (same : ∀ key ∈ scopeKeys, left.get key = right.get key) :
    scopeFilters left = scopeFilters right := by
  have named : ∀ scope ∈ policyScopeOrder, scope ≠ "global" → left.get (scope ++ "_id") = right.get (scope ++ "_id") := by
    intro scope member other
    apply same
    simp only [policyScopeOrder, mem_cons, not_mem_nil, or_false] at member
    rcases member with rfl | rfl | rfl | rfl | rfl | rfl | rfl
    all_goals first | decide | exact absurd rfl other
  apply flatMap_congr
  intro scope member
  by_cases all : scope = "global"
  · rw [if_pos all, if_pos all]
  · rw [if_neg all, if_neg all, named scope member all, same "company_id" (by decide)]

theorem resolve_congr (same : ∀ key ∈ scopeKeys, left.get key = right.get key) (ownerId : String) :
    resolve tables ownerId toolSlug left = resolve tables ownerId toolSlug right := by
  unfold resolve listApplicablePolicies
  rw [scopeFilters_congr same]

theorem grantsRuling_congr (same : ∀ key ∈ scopeKeys, left.get key = right.get key) (ownerId : String) :
    grantsRuling (configured tables failure) ownerId toolSlug left =
      grantsRuling (configured tables failure) ownerId toolSlug right := by
  have effective : (configured tables failure).effectivePermissions ownerId toolSlug left =
      (configured tables failure).effectivePermissions ownerId toolSlug right := by
    cases failure with
    | some error => rfl
    | none =>
      change resolveEffectiveToolPermissions tables ownerId toolSlug left =
        resolveEffectiveToolPermissions tables ownerId toolSlug right
      unfold resolveEffectiveToolPermissions
      rw [same "skill_ids" (by decide), same "company_id" (by decide), same "department_id" (by decide),
        same "project_id" (by decide), same "agent_id" (by decide)]
  unfold grantsRuling
  rw [effective, same "company_id" (by decide), same "project_id" (by decide), same "agent_id" (by decide)]

theorem runContext_scope : ∀ key ∈ scopeKeys, (runContext svc s arguments params granted).get key = (scopeContext svc s).get key := by
  intro key member
  have other : key ≠ "connector_installation_id" := by
    rintro rfl
    exact absurd member (by decide)
  rw [runContext, authContext_get key other]
  simp only [scopeKeys, mem_cons, not_mem_nil, or_false] at member
  rcases member with rfl | rfl | rfl | rfl | rfl | rfl | rfl | rfl <;> rfl

theorem runContext_resolution : policyResolution (configured tables failure) s.project.ownerId toolSlug
      (runContext svc s arguments params granted) =
    .ok (resolve tables s.project.ownerId toolSlug (scopeContext svc s)) := by
  have bare : (runContext svc s arguments params granted).get "_policy_resolution" = .null := by
    rw [runContext, authContext_get _ (by decide)]
    rfl
  unfold policyResolution
  rw [bare, if_neg (by decide)]
  change Except.ok (resolve tables s.project.ownerId toolSlug (runContext svc s arguments params granted)) = _
  rw [resolve_congr runContext_scope]

def validFor (tables : PolicyTables) (installations : Dict ConnectorInstallation) (svc : Services) (s : Setting)
    (toolSlug : String) (arguments params : Dict Json) (granted : Bool) : Bool :=
  providerValid (governance tables) installations s.project.ownerId toolSlug (runContext svc s arguments params granted)

theorem authorizeTool_run :
    (∃ authorization after, authorizeTool (configured tables failure) installations s.project.ownerId toolSlug
      (runContext svc s arguments params granted) = .ok (authorization, after) ∧ authorization.permitted = true) ↔
    decisionFor tables svc s toolSlug ≠ .str "prohibited" ∧
      (rulingFor tables failure svc s toolSlug).of
        (validFor tables installations svc s toolSlug arguments params granted) = true := by
  have ruling := @grantsRuling_congr tables failure toolSlug _ _
    (@runContext_scope svc s arguments params granted) s.project.ownerId
  by_cases permits : Permits (configured tables failure) installations s.project.ownerId toolSlug
    (runContext svc s arguments params granted) (resolve tables s.project.ownerId toolSlug (scopeContext svc s))
  · have answered := authorizeTool_permitted runContext_resolution permits
    obtain ⟨valid, lawful⟩ := permits
    rw [ruling] at valid
    constructor
    · intro _
      exact ⟨lawful, valid⟩
    · intro _
      rw [answered]
      split <;> exact ⟨_, _, rfl, rfl⟩
  · obtain ⟨decision, after, answered⟩ := authorizeTool_refused runContext_resolution permits
    constructor
    · simp_all
    · rintro ⟨lawful, valid⟩
      apply absurd _ permits
      rw [Permits, ruling]
      exact ⟨valid, lawful⟩

end Contexts

section Providers

variable {tables : PolicyTables} {installations : Dict ConnectorInstallation} {svc : Services} {s : Setting}
  {arguments params : Dict Json} {granted : Bool} {agent toolSlug : String}

theorem validatePermissions_congr {left right : Dict Json}
    (owner : (left.get "owner_id").strOrEmpty = (right.get "owner_id").strOrEmpty)
    (installation : (left.get "connector_installation_id").strOrEmpty = (right.get "connector_installation_id").strOrEmpty)
    (company : left.get "company_id" = right.get "company_id") :
    validatePermissions installations left = validatePermissions installations right := by
  unfold validatePermissions
  rw [owner, installation, company]

def Installed (installations : Dict ConnectorInstallation) (svc : Services) (s : Setting) : Prop :=
  ∃ id, validatePermissions installations ((scopeContext svc s).set "connector_installation_id" (.str id)) = true

theorem validFor_installed (connector : isConnector toolSlug = true)
    (valid : validFor tables installations svc s toolSlug arguments params granted = true) : Installed installations svc s := by
  unfold validFor providerValid at valid
  rw [if_pos connector] at valid
  let context := (runContext svc s arguments params granted).set "owner_id" (.str s.project.ownerId)
  refine ⟨(context.get "connector_installation_id").strOrEmpty, ?_⟩
  rw [← valid]
  apply validatePermissions_congr
  · rw [Dict.get_set_of_ne _ _ (by decide), Dict.get_set_self]
    rfl
  · rw [Dict.get_set_self, Json.strOrEmpty_str]
  · rw [Dict.get_set_of_ne _ _ (by decide), Dict.get_set_of_ne _ _ (by decide)]
    exact (runContext_scope "company_id" (by decide)).symm

theorem validFor_of_installed (connector : isConnector toolSlug = true) (installed : Installed installations svc s) :
    ∃ params, validFor tables installations svc s toolSlug [] params false = true := by
  obtain ⟨id, valid⟩ := installed
  have named : id ≠ "" := by
    rintro rfl
    unfold validatePermissions at valid
    simp [Dict.get_set_self, Json.strOrEmpty_str] at valid
  refine ⟨[("connector_installation_id", .str id)], ?_⟩
  unfold validFor providerValid
  rw [if_pos connector, ← valid]
  have shown : runContext svc s [] [("connector_installation_id", .str id)] false =
      (scopeContext svc s).set "connector_installation_id" (.str id) := by
    have truthy : (Json.str id).truthy = true := by simpa [Json.truthy] using named
    exact if_pos truthy
  rw [shown]
  apply validatePermissions_congr
  · rfl
  · rw [Dict.get_set_of_ne _ _ (by decide)]
  · rw [Dict.get_set_of_ne _ _ (by decide)]

theorem runContext_allowed (declares : s.run.agentId = some agent) :
    ((runContext svc s arguments params granted).set "owner_id" (.str s.project.ownerId)).get "allowed_tools" =
      .arr (((svc.declaredTools agent).filter (· ≠ "")).map .str) := by
  rw [Dict.get_set_of_ne _ _ (by decide), runContext, authContext_get _ (by decide)]
  change Json.arr ((((s.run.agentId.map svc.declaredTools).getD []).filter (· ≠ "")).map .str) = _
  simp_all

def Unprovided (toolSlug : String) : Prop :=
  isEcosystem toolSlug = false ∧ Text.startsWith "github_" toolSlug = true ∧ toolSlug ∉ githubTools

theorem validFor_undeclared (native : isConnector toolSlug = false) (declares : s.run.agentId = some agent)
    (outside : toolSlug ∉ svc.declaredTools agent) (named : ∃ tool ∈ svc.declaredTools agent, tool ≠ "") :
    validFor tables installations svc s toolSlug arguments params granted = false := by
  unfold validFor providerValid
  rw [if_neg (by simp [native])]
  apply Bool.eq_false_iff.mpr
  intro valid
  have passes := nativeValidatePermissions_of_provider valid
  unfold nativeValidatePermissions at passes
  rw [runContext_allowed declares] at passes
  have listed : iterated (.arr (((svc.declaredTools agent).filter (· ≠ "")).map .str)) ≠ [] ∧
      Json.str toolSlug ∉ iterated (.arr (((svc.declaredTools agent).filter (· ≠ "")).map .str)) := by
    obtain ⟨tool, member, nonempty⟩ := named
    constructor
    · simpa [iterated] using ⟨tool, member, nonempty⟩
    · simpa [iterated] using fun inside => absurd inside outside
  dsimp only at passes
  split at passes <;> cases passes

theorem validFor_blank (native : isConnector toolSlug = false) (declares : s.run.agentId = some agent)
    (blank : ∀ tool ∈ svc.declaredTools agent, tool = "") (owned : s.project.ownerId ≠ "")
    (provided : ¬ Unprovided toolSlug) (lawful : decisionFor tables svc s toolSlug ≠ .str "prohibited") :
    validFor tables installations svc s toolSlug [] [] true = true := by
  have none_ : (svc.declaredTools agent).filter (· ≠ "") = [] := by grind [filter_eq_nil_iff]
  have decision : (resolve tables s.project.ownerId toolSlug
      ((runContext svc s [] [] true).set "owner_id" (.str s.project.ownerId))).get "decision" ≠ .str "prohibited" := by
    rwa [resolve_owner, resolve_congr runContext_scope]
  have owner : ((runContext svc s [] [] true).set "owner_id" (.str s.project.ownerId)).get "owner_id" =
      .str s.project.ownerId := Dict.get_set_self ..
  have approved : ((runContext svc s [] [] true).set "owner_id" (.str s.project.ownerId)).get "approval_granted" =
      .bool true := rfl
  have truthy : (Json.str s.project.ownerId).truthy = true := by simpa [Json.truthy] using owned
  unfold validFor providerValid
  rw [if_neg (by simp [native])]
  change providerValidatePermissions tables toolSlug _ = true
  unfold providerValidatePermissions
  rw [if_neg (by simpa [Unprovided] using provided)]
  unfold nativeValidatePermissions mayExecute
  rw [runContext_allowed declares, none_, owner, approved]
  simp only [truthy, iterated, map_nil]
  simp only [Json.pyStr]
  simp only [decision, Json.truthy, not_true_eq_false, ne_eq, false_and, if_false]
  exact ite_self true

theorem validFor_unowned (native : isConnector toolSlug = false) (unowned : s.project.ownerId = "") :
    validFor tables installations svc s toolSlug arguments params granted = false := by
  unfold validFor providerValid
  rw [if_neg (by simp [native])]
  apply Bool.eq_false_iff.mpr
  intro valid
  have passes := nativeValidatePermissions_of_provider valid
  unfold nativeValidatePermissions at passes
  rw [Dict.get_set_self, unowned, if_pos (by decide)] at passes
  cases passes

theorem validFor_unprovided (native : isConnector toolSlug = false) (unprovided : Unprovided toolSlug) :
    validFor tables installations svc s toolSlug arguments params granted = false := by
  unfold validFor providerValid
  rw [if_neg (by simp [native])]
  change providerValidatePermissions tables toolSlug _ = false
  unfold providerValidatePermissions
  rw [if_pos (by simpa [Unprovided] using unprovided)]

end Providers

section Ceiling

variable (tables : PolicyTables) (failure : Option PyError) (installations : Dict ConnectorInstallation)
  (svc : Services) (s : Setting) (agent toolSlug : String)

/-- The registry never permits the tool to the run, and neither the service nor the toolbox executes it. -/
structure Ceiling : Prop where
  authorize : ∀ arguments params granted authorization after,
    authorizeTool (configured tables failure) installations s.project.ownerId toolSlug
      (runContext svc s arguments params granted) = .ok (authorization, after) → authorization.permitted = false
  service : ∀ arguments params granted, ∃ reason,
    toolExecutionServiceExecute (configured tables failure) installations s.project.ownerId toolSlug params
      (toolContext svc s arguments granted) = .ok (.denied reason)
  toolbox : ∀ call w, toolNameOf call = toolSlug →
    ∃ stop, (toolboxExecute (withRegistry tables failure installations svc) s call).exec w = (.error stop, w)

/-- The grants do not allow the tool, and where they leave it to the provider: for a connector there is no
    installation for the run; for another tool the agent declares one that has a name, or it has no provider or owner. -/
structure Shut : Prop where
  granted : rulingFor tables failure svc s toolSlug ≠ .allow
  connector : rulingFor tables failure svc s toolSlug = .keep → isConnector toolSlug = true →
    ¬ Installed installations svc s
  native : rulingFor tables failure svc s toolSlug = .keep → isConnector toolSlug = false →
    (∃ tool ∈ svc.declaredTools agent, tool ≠ "") ∨ s.project.ownerId = "" ∨ Unprovided toolSlug

end Ceiling

section Law

variable {tables : PolicyTables} {failure : Option PyError} {installations : Dict ConnectorInstallation}
  {svc : Services} {s : Setting} {agent toolSlug : String}

def NeverPermitted (tables : PolicyTables) (failure : Option PyError) (installations : Dict ConnectorInstallation)
    (svc : Services) (s : Setting) (toolSlug : String) : Prop :=
  decisionFor tables svc s toolSlug ≠ .str "prohibited" → ∀ arguments params granted,
    (rulingFor tables failure svc s toolSlug).of
      (validFor tables installations svc s toolSlug arguments params granted) = false

theorem NeverPermitted.refused (never : NeverPermitted tables failure installations svc s toolSlug)
    (arguments params : Dict Json) (granted : Bool) :
    ∃ decision after, authorizeTool (configured tables failure) installations s.project.ownerId toolSlug
      (runContext svc s arguments params granted) = .ok (⟨false, decision⟩, after) := by
  apply authorizeTool_refused runContext_resolution
  intro permits
  have answered := authorizeTool_permitted runContext_resolution permits
  have permitted : ∃ authorization after, authorizeTool (configured tables failure) installations s.project.ownerId toolSlug
      (runContext svc s arguments params granted) = .ok (authorization, after) ∧ authorization.permitted = true := by
    rw [answered]
    split <;> exact ⟨_, _, rfl, rfl⟩
  obtain ⟨lawful, valid⟩ := authorizeTool_run.mp permitted
  simp [never lawful arguments params granted] at valid

theorem NeverPermitted.service (never : NeverPermitted tables failure installations svc s toolSlug)
    (arguments params : Dict Json) (granted : Bool) :
    toolExecutionServiceExecute (configured tables failure) installations s.project.ownerId toolSlug params
      (toolContext svc s arguments granted) = .ok (.denied "not_permitted") := by
  obtain ⟨decision, after, answered⟩ := never.refused arguments params granted
  unfold toolExecutionServiceExecute
  rw [← runContext, answered]
  rfl

theorem NeverPermitted.toolbox (never : NeverPermitted tables failure installations svc s toolSlug) {call : Dict Json}
    (named : toolNameOf call = toolSlug) (w : Desk) :
    ∃ stop, (toolboxExecute (withRegistry tables failure installations svc) s call).exec w = (.error stop, w) := by
  unfold toolboxExecute
  by_cases nameless : toolNameOf call = ""
  · simp_all
  rw [if_neg nameless, Prog.exec_bind_ok (Orchestration.buildToolExecutionContext_checks ..)]
  split
  · exact ⟨_, rfl⟩
  obtain ⟨decision, after, answered⟩ := never.refused (Orchestration.callArguments call) []
    (Orchestration.toolApproval s (toolNameOf call) (svc.argumentsHash (Orchestration.callArguments call))
      (!isLowRiskTool (toolNameOf call)) w.approvals).isSome
  rw [← named] at answered
  have refused : ∃ stop, (Orchestration.authorizeCall (withRegistry tables failure installations svc) s
      (toolNameOf call) (Orchestration.callArguments call)
      (toolContext svc s (Orchestration.callArguments call)
        (Orchestration.toolApproval s (toolNameOf call) (svc.argumentsHash (Orchestration.callArguments call))
          (!isLowRiskTool (toolNameOf call)) w.approvals).isSome)).exec w = (.error stop, w) := by
    unfold Orchestration.authorizeCall withRegistry registryAuthorization
    change authorizeTool (configured tables failure) installations s.project.ownerId (toolNameOf call)
      (toolContext svc s _ _) = _ at answered
    simp_all
  obtain ⟨stop, raised⟩ := refused
  exact ⟨stop, Prog.exec_bind_error raised⟩

theorem ceiling_of_never (never : NeverPermitted tables failure installations svc s toolSlug) :
    Ceiling tables failure installations svc s toolSlug := by
  constructor
  case authorize =>
    intro arguments params granted authorization after answered
    obtain ⟨decision, other, refused⟩ := never.refused arguments params granted
    grind
  case service => exact fun arguments params granted => ⟨_, never.service arguments params granted⟩
  case toolbox => exact fun call w named => never.toolbox named w

theorem Ceiling.never (ceiling : Ceiling tables failure installations svc s toolSlug) :
    NeverPermitted tables failure installations svc s toolSlug := by
  intro lawful arguments params granted
  by_contra valid
  rw [Bool.not_eq_false] at valid
  obtain ⟨authorization, after, answered, permitted⟩ := authorizeTool_run.mpr ⟨lawful, valid⟩
  simp [ceiling.authorize arguments params granted authorization after answered] at permitted

theorem never_iff (declares : s.run.agentId = some agent) (outside : toolSlug ∉ svc.declaredTools agent) :
    NeverPermitted tables failure installations svc s toolSlug ↔
      decisionFor tables svc s toolSlug = .str "prohibited" ∨
        Shut tables failure installations svc s agent toolSlug := by
  constructor
  · intro never
    by_cases lawful : decisionFor tables svc s toolSlug = .str "prohibited"
    · exact .inl lawful
    right
    constructor
    case granted =>
      intro allowed
      have shut := never lawful [] [] false
      rw [allowed] at shut
      cases shut
    case connector =>
      intro kept connector installed
      obtain ⟨params, valid⟩ := @validFor_of_installed tables _ _ _ _ connector installed
      have shut := never lawful [] params false
      rw [kept, valid] at shut
      cases shut
    case native =>
      intro kept native
      by_contra otherwise
      obtain ⟨blank, owned, provided⟩ : (∀ tool ∈ svc.declaredTools agent, tool = "") ∧ s.project.ownerId ≠ "" ∧
          ¬ Unprovided toolSlug := by
        simpa [not_or] using otherwise
      have shut := never lawful [] [] true
      rw [kept, validFor_blank native declares blank owned provided lawful] at shut
      cases shut
  · rintro (prohibited | shut) lawful arguments params granted
    · exact absurd prohibited lawful
    cases ruling : rulingFor tables failure svc s toolSlug with
    | allow => exact absurd ruling shut.granted
    | refuse => rfl
    | keep =>
      by_cases connector : isConnector toolSlug = true
      · apply Bool.eq_false_iff.mpr
        intro valid
        exact shut.connector ruling connector (validFor_installed connector valid)
      · rw [Bool.not_eq_true] at connector
        rcases shut.native ruling connector with named | unowned | unprovided
        · exact validFor_undeclared connector declares outside named
        · exact validFor_unowned connector unowned
        · exact validFor_unprovided connector unprovided

end Law

/-- The declared tools are a ceiling for a tool outside them exactly if a policy prohibits it or nothing else opens it. -/
theorem declared_ceiling_iff (tables : PolicyTables) (failure : Option PyError)
    (installations : Dict ConnectorInstallation) (svc : Services) (s : Setting) (agent toolSlug : String)
    (declares : s.run.agentId = some agent) (outside : toolSlug ∉ svc.declaredTools agent) :
    Ceiling tables failure installations svc s toolSlug ↔
      decisionFor tables svc s toolSlug = .str "prohibited" ∨
        Shut tables failure installations svc s agent toolSlug := by
  rw [← never_iff declares outside]
  constructor
  · exact Ceiling.never
  · exact ceiling_of_never

def searchers : Services := { Orchestration.office with declaredTools := fun _ => ["web_search"] }

def searching : Setting :=
  { Orchestration.writer with run := { Orchestration.writer.run with agentId := some "searcher" } }

def writeTool : PolicyTables := { tools := [⟨"t1", "fs_write", false⟩] }

def writeGranted : PolicyTables := { writeTool with grants := [⟨"t1", "project", "project", "allow"⟩] }

theorem ceiling_without_grants : Ceiling writeTool none [] searchers searching "fs_write" := by
  apply (declared_ceiling_iff writeTool none [] searchers searching "searcher" "fs_write" rfl (by decide)).mpr
  right
  constructor
  case granted => decide +kernel
  case connector => exact fun _ connector => absurd connector (by decide +kernel)
  case native => exact fun _ _ => .inl ⟨"web_search", mem_singleton.mpr rfl, by decide⟩

theorem grant_lifts_the_ceiling : ¬ Ceiling writeGranted none [] searchers searching "fs_write" := by
  intro ceiling
  have lawful : decisionFor writeGranted searchers searching "fs_write" ≠ .str "prohibited" := by decide +kernel
  have shut := ceiling.never lawful [] [] false
  cases shut

end Troop.Connectors
