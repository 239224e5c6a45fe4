import Troop.Connectors.Provider
import Troop.Tools.Policies

namespace Troop.Connectors

open Tools

def listToolGrantsForSubject (tables : PolicyTables) (subject : String × Json) : List ToolGrant :=
  let named (subjectType : String) := tables.grants.filter fun grant =>
    grant.subjectType = subjectType ∧ grant.subjectId = subject.2.pyStr
  if named subject.1 = [] then named (if subject.1 = "department" then "dept" else subject.1) else named subject.1

def toolEffect (grants : List ToolGrant) (decision : String) : String :=
  if grants.any fun grant => Text.lower grant.effect = "deny" then "deny"
  else if decision = "prohibited" then "prohibited"
  else if ¬ grants.any fun grant => Text.lower grant.effect = "allow" then "deny"
  else if decision = "autonomous" then "allow"
  else "approval_required"

/-- `skill_ids[0]` -/
def firstSkill : Json → Except PyError Json
  | .arr (skill :: _) => .ok skill
  | .str text => .ok (.str (String.ofList (text.toList.take 1)))
  | .obj _ => .error (.keyError "0")
  | _ => .error (.typeError "object is not subscriptable")

/-- `resolve_effective_tool_permissions` for one tool -/
def resolveEffectiveToolPermissions (tables : PolicyTables) (ownerId toolSlug : String)
    (context : Dict Json) : Except PyError Effective := do
  let skillIds := context.get "skill_ids"
  let skills ← if skillIds.truthy then skillIds.toList else .ok []
  let subjects := [("organization", context.get "company_id"), ("department", context.get "department_id"),
    ("project", context.get "project_id"), ("agent", context.get "agent_id")] ++ skills.map fun skill => ("skill", skill)
  let grants := (subjects.filter fun subject => subject.2.truthy).flatMap (listToolGrantsForSubject tables)
  let slugOf (grant : ToolGrant) : Option String :=
    (tables.tools.find? fun tool => tool.id = grant.toolDefinitionId ∧ tool.slug ≠ "").map ToolDefinition.slug
  let requested := Text.strip toolSlug
  let candidates := if requested = "" then grants.filterMap slugOf else [requested]
  let base : Dict Json := [("owner_id", .str ownerId), ("project_id", context.get "project_id"),
    ("company_id", context.get "company_id"), ("department_id", context.get "department_id"),
    ("agent_id", context.get "agent_id")]
  let policyContext ← if skillIds.truthy then (firstSkill skillIds).map (base.set "skill_id") else .ok base
  let effectOf (slug : String) : String :=
    toolEffect (grants.filter fun grant => slugOf grant = some slug)
      (((resolve tables ownerId slug policyContext).get "decision").pyOr (.str "approval_required")).pyStr
  let allow := candidates.filter fun slug => effectOf slug ∈ ["allow", "approval_required"]
  return {
    allow := allow
    deny := candidates.filter fun slug => effectOf slug ∉ ["allow", "approval_required"]
    requestedUnavailable := if requested = "" ∨ requested ∈ allow then [] else [requested]
    effect := if toolSlug ∈ candidates then effectOf toolSlug else "" }

/-- The policies and grants as the action policies, the catalog and the effective permissions give them. -/
def governance (tables : PolicyTables) : Governance where
  resolve ownerId toolSlug context := .ok (Tools.resolve tables ownerId toolSlug context)
  effectivePermissions := resolveEffectiveToolPermissions tables
  isLowRiskTool := Tools.isLowRiskTool
  blockingContract := blocksAutonomousUse
  otherPermits := providerValidatePermissions tables

section Service

variable (tables : PolicyTables) (installations : Dict ConnectorInstallation)

/-- `provider.execute`, up to the call of an adapter or of an external tool: a provider validates once more, that
    of GitHub as the native one. -/
def providerExecute (ownerId toolSlug : String) (params context : Dict Json) : Except PyError Outcome :=
  if isConnector toolSlug then
    connectorExecute installations toolSlug params (context.set "owner_id" (.str ownerId))
  else if nativeValidatePermissions tables toolSlug (context.set "owner_id" (.str ownerId)) then .ok .delegated
  else .ok (.denied "policy")

/-- `ToolRegistryService.execute_tool` -/
def registryExecuteTool (ownerId toolSlug : String) (params context : Dict Json) : Except PyError Outcome := do
  let (authorization, context) ← authorizeTool (governance tables) installations ownerId toolSlug context
  match refusal authorization context with
  | some outcome => return outcome
  | none => providerExecute tables installations ownerId toolSlug params context

/-- `OrchestrationToolbox.dispatch`: an `mcp.` or `a2a.` tool is authorized there once more, for a run that is
    the neutral context and has no checkpoint. -/
def toolboxDispatch (toolSlug : String) : Except PyError Outcome :=
  if isEcosystem toolSlug then .error (.raised "'ToolExecutionContext' object has no attribute 'checkpoint_json'")
  else .ok .delegated

/-- `ToolExecutionService.execute` -/
def serviceExecute (ownerId toolSlug : String) (params context : Dict Json) : Except PyError Outcome := do
  let (authorization, authorized) ←
    authorizeTool (governance tables) installations ownerId toolSlug (authContext params context)
  match refusal authorization context with
  | some outcome => return outcome
  | none =>
    if (context.get "project_id").truthy ∧ toToolbox toolSlug then toolboxDispatch toolSlug
    else registryExecuteTool tables installations ownerId toolSlug params authorized

end Service

def Outcome.isDenied : Except PyError Outcome → Bool
  | .ok (.denied _) => true
  | _ => false

def Outcome.isAsked : Except PyError Outcome → Bool
  | .ok .approvalRequired => true
  | _ => false

def Outcome.isDispatched : Except PyError Outcome → Bool
  | .ok .delegated => true
  | .ok (.called ..) => true
  | _ => false

inductive Ruling where
  | keep
  | refuse
  | allow
deriving DecidableEq

def Effective.ruling (effective : Effective) (toolSlug : String) : Ruling :=
  if toolSlug ∈ effective.deny ∨ effective.effect ∈ ["deny", "prohibited"] ∨
      toolSlug ∈ effective.requestedUnavailable then .refuse
  else if toolSlug ∈ effective.allow then .allow
  else .keep

def Ruling.of (ruling : Ruling) (valid : Bool) : Bool :=
  match ruling with
  | .keep => valid
  | .refuse => false
  | .allow => true

section Verdict

variable (policies : Governance) (installations : Dict ConnectorInstallation)

def grantsRuling (ownerId toolSlug : String) (context : Dict Json) : Ruling :=
  if ¬ ((context.get "agent_id").truthy || (context.get "project_id").truthy ||
      (context.get "company_id").truthy) then .keep
  else match policies.effectivePermissions ownerId toolSlug context with
    | .ok effective => effective.ruling toolSlug
    | .error _ => if policies.isLowRiskTool toolSlug then .keep else .refuse

def Asks (toolSlug : String) (resolution : Dict Json) : Prop :=
  resolution.get "decision" = .str "approval_required" ∨
    (resolution.get "decision" = .str "autonomous" ∧ (policies.blockingContract toolSlug).isSome)

instance (toolSlug : String) (resolution : Dict Json) : Decidable (Asks policies toolSlug resolution) :=
  inferInstanceAs (Decidable (_ ∨ _))

def providerValid (ownerId toolSlug : String) (context : Dict Json) : Bool :=
  if isConnector toolSlug then validatePermissions installations (context.set "owner_id" (.str ownerId))
  else policies.otherPermits toolSlug (context.set "owner_id" (.str ownerId))

def Permits (ownerId toolSlug : String) (context resolution : Dict Json) : Prop :=
  (grantsRuling policies ownerId toolSlug context).of (providerValid policies installations ownerId toolSlug context) ∧
    resolution.get "decision" ≠ .str "prohibited"

instance (ownerId toolSlug : String) (context resolution : Dict Json) :
    Decidable (Permits policies installations ownerId toolSlug context resolution) :=
  inferInstanceAs (Decidable (_ ∧ _))

end Verdict

section Authorizing

variable {policies : Governance} {installations : Dict ConnectorInstallation} {ownerId toolSlug : String}
  {context resolution : Dict Json}

theorem refinedPermission_eq (effective : Effective) (decision : Json) (valid : Bool)
    (lawful : decision ≠ .str "prohibited") :
    refinedPermission effective toolSlug decision valid = (effective.ruling toolSlug).of valid := by
  unfold refinedPermission Effective.ruling
  split
  · rfl
  split <;> rename_i allowed
  · rw [if_pos allowed.1]
    rfl
  · rw [if_neg fun listed => allowed ⟨listed, lawful⟩]
    rfl

theorem refinedByGrants_of_permits (valid : Bool)
    (permitted : (grantsRuling policies ownerId toolSlug context).of valid = true)
    (lawful : resolution.get "decision" ≠ .str "prohibited") :
    refinedByGrants policies ownerId toolSlug context resolution valid = (true, resolution, context) := by
  unfold grantsRuling at permitted
  unfold refinedByGrants
  split at permitted <;> rename_i governed
  · simp_all [Ruling.of]
  rw [if_neg governed]
  cases asked : policies.effectivePermissions ownerId toolSlug context with
  | ok effective =>
    rw [asked] at permitted
    dsimp only at permitted ⊢
    rw [refinedPermission_eq effective _ valid lawful, permitted]
  | error error =>
    rw [asked] at permitted
    dsimp only at permitted ⊢
    split at permitted <;> rename_i harmless
    · simp_all [Ruling.of]
    · cases permitted

theorem refinedByGrants_of_refused (valid : Bool)
    (refused : ¬ ((grantsRuling policies ownerId toolSlug context).of valid = true ∧
      resolution.get "decision" ≠ .str "prohibited")) :
    (refinedByGrants policies ownerId toolSlug context resolution valid).1 = false ∨
      (refinedByGrants policies ownerId toolSlug context resolution valid).2.1.get "decision" =
        .str "prohibited" := by
  by_cases lawful : resolution.get "decision" = .str "prohibited"
  · unfold refinedByGrants
    dsimp only
    split
    · exact .inr lawful
    split
    · exact .inr lawful
    · split
      · exact .inr lawful
      · exact .inl rfl
  · left
    have no : (grantsRuling policies ownerId toolSlug context).of valid = false := by
      simpa [lawful] using refused
    unfold grantsRuling at no
    unfold refinedByGrants
    split at no <;> rename_i governed
    · rwa [if_pos governed]
    rw [if_neg governed]
    cases asked : policies.effectivePermissions ownerId toolSlug context with
    | ok effective =>
      rw [asked] at no
      exact (refinedPermission_eq effective _ valid lawful).trans no
    | error error =>
      rw [asked] at no
      dsimp only at no ⊢
      split at no <;> rename_i harmless
      · rwa [if_pos harmless]
      · rw [if_neg harmless]

theorem authorizeTool_refused (resolved : policyResolution policies ownerId toolSlug context = .ok resolution)
    (refused : ¬ Permits policies installations ownerId toolSlug context resolution) :
    ∃ decision after, authorizeTool policies installations ownerId toolSlug context = .ok (⟨false, decision⟩, after) := by
  have no := refinedByGrants_of_refused (providerValid policies installations ownerId toolSlug context) refused
  unfold authorizeTool
  rw [resolved]
  have closed : ((refinedByGrants policies ownerId toolSlug context resolution
      (providerValid policies installations ownerId toolSlug context)).1 &&
      decide ((refinedByGrants policies ownerId toolSlug context resolution
        (providerValid policies installations ownerId toolSlug context)).2.1.get "decision" ≠ .str "prohibited")) =
      false := by
    rcases no with no | no <;> simp [no]
  unfold providerValid at closed
  simp only [bind, Except.bind, closed]
  split <;> exact ⟨_, _, rfl⟩

theorem authorizeTool_permitted (resolved : policyResolution policies ownerId toolSlug context = .ok resolution)
    (permitted : Permits policies installations ownerId toolSlug context resolution) :
    authorizeTool policies installations ownerId toolSlug context =
      match blockedResolution policies toolSlug context resolution with
      | some blocked => .ok (⟨true, blocked.get "decision"⟩, context.set "_policy_resolution" (.obj blocked))
      | none => .ok (⟨true, resolution.get "decision"⟩, context) := by
  have kept := refinedByGrants_of_permits (providerValid policies installations ownerId toolSlug context)
    permitted.1 permitted.2
  unfold authorizeTool
  rw [resolved]
  unfold providerValid at kept
  simp only [bind, Except.bind, kept]
  have lawful : decide (resolution.get "decision" ≠ .str "prohibited") = true := by simpa using permitted.2
  rw [lawful]
  cases blockedResolution policies toolSlug context resolution <;> rfl

theorem authorizeTool_asks (resolved : policyResolution policies ownerId toolSlug context = .ok resolution)
    (permitted : Permits policies installations ownerId toolSlug context resolution)
    (asks : Asks policies toolSlug resolution) (ungranted : (context.get "approval_granted").truthy = false) :
    ∃ after, authorizeTool policies installations ownerId toolSlug context =
      .ok (⟨true, .str "approval_required"⟩, after) := by
  rw [authorizeTool_permitted resolved permitted]
  unfold blockedResolution
  rcases asks with required | ⟨autonomous, contracted⟩
  · cases contract : policies.blockingContract toolSlug with
    | _ => exact ⟨context, by simp [required]⟩
  · obtain ⟨actionKey, contract⟩ := Option.isSome_iff_exists.mp contracted
    have asked : (resolution.update [("decision", .str "approval_required"),
        ("matched_scope", .str "idempotency_contract"), ("reason", .str "missing_durable_idempotency"),
        ("idempotency_blocked_autonomous", .bool true), ("action_key", .str actionKey)]).get "decision" =
        .str "approval_required" := by
      rw [Dict.get_update]
      rfl
    simp_all

theorem authorizeTool_passes (resolved : policyResolution policies ownerId toolSlug context = .ok resolution)
    (permitted : Permits policies installations ownerId toolSlug context resolution)
    (quiet : ¬ (Asks policies toolSlug resolution ∧ (context.get "approval_granted").truthy = false)) :
    authorizeTool policies installations ownerId toolSlug context =
      .ok (⟨true, resolution.get "decision"⟩, context) := by
  rw [authorizeTool_permitted resolved permitted]
  have unblocked : blockedResolution policies toolSlug context resolution = none := by
    unfold blockedResolution
    cases contract : policies.blockingContract toolSlug with
    | none => rfl
    | some actionKey =>
      apply if_neg
      rintro ⟨autonomous, ungranted⟩
      exact quiet ⟨.inr ⟨autonomous, by simp [contract]⟩, by simpa using ungranted⟩
  rw [unblocked]

end Authorizing

section Serving

variable {tables : PolicyTables} {installations : Dict ConnectorInstallation}
  {ownerId toolSlug : String} {params context resolution : Dict Json}

def handOut (tables : PolicyTables) (installations : Dict ConnectorInstallation) (ownerId toolSlug : String)
    (params context : Dict Json) : Except PyError Outcome :=
  if (context.get "project_id").truthy ∧ toToolbox toolSlug then toolboxDispatch toolSlug
  else providerExecute tables installations ownerId toolSlug params (authContext params context)

theorem authContext_get (key : String) (other : key ≠ "connector_installation_id") :
    (authContext params context).get key = context.get key := by
  unfold authContext
  split
  · exact Dict.get_set_of_ne _ _ other.symm
  · rfl

theorem refusal_passes (lawful : resolution.get "decision" ≠ .str "prohibited")
    (quiet : ¬ (Asks (governance tables) toolSlug resolution ∧ (context.get "approval_granted").truthy = false)) :
    refusal ⟨true, resolution.get "decision"⟩ context = none := by
  unfold refusal
  rw [if_neg (by simp), if_neg lawful, if_neg]
  rintro ⟨required, ungranted⟩
  exact quiet ⟨.inl required, by simpa using ungranted⟩

theorem refusal_asks (ungranted : (context.get "approval_granted").truthy = false) :
    refusal ⟨true, .str "approval_required"⟩ context = some .approvalRequired := by
  simp [refusal, ungranted]

theorem serviceExecute_eq
    (resolved : policyResolution (governance tables) ownerId toolSlug (authContext params context) = .ok resolution) :
    serviceExecute tables installations ownerId toolSlug params context =
      if ¬ Permits (governance tables) installations ownerId toolSlug (authContext params context)
        resolution then .ok (.denied "not_permitted")
      else if Asks (governance tables) toolSlug resolution ∧
        (context.get "approval_granted").truthy = false then .ok .approvalRequired
      else handOut tables installations ownerId toolSlug params context := by
  have flag : (authContext params context).get "approval_granted" = context.get "approval_granted" :=
    authContext_get _ (by decide)
  by_cases permitted : Permits (governance tables) installations ownerId toolSlug
    (authContext params context) resolution
  · rw [if_neg (not_not.mpr permitted)]
    by_cases asks : Asks (governance tables) toolSlug resolution ∧
      (context.get "approval_granted").truthy = false
    · rw [if_pos asks]
      obtain ⟨after, answered⟩ := authorizeTool_asks resolved permitted asks.1 (flag ▸ asks.2)
      unfold serviceExecute
      rw [answered]
      simp only [bind, Except.bind]
      rw [refusal_asks asks.2]
      rfl
    · have quiet : ¬ (Asks (governance tables) toolSlug resolution ∧
          ((authContext params context).get "approval_granted").truthy = false) := by rwa [flag]
      have answered := authorizeTool_passes resolved permitted quiet
      unfold serviceExecute handOut
      rw [answered]
      simp only [bind, Except.bind]
      rw [refusal_passes permitted.2 asks]
      dsimp only
      split
      · rfl
      · unfold registryExecuteTool
        rw [answered]
        simp only [bind, Except.bind]
        rw [refusal_passes permitted.2 quiet]
  · rw [if_pos permitted]
    obtain ⟨decision, after, answered⟩ := authorizeTool_refused resolved permitted
    unfold serviceExecute
    rw [answered]
    rfl

end Serving

section Approval

variable (tables : PolicyTables) (installations : Dict ConnectorInstallation)
  (ownerId toolSlug : String) (params context : Dict Json)

def withApproval (context : Dict Json) : Dict Json := context.set "approval_granted" (.bool true)

def withoutApproval (context : Dict Json) : Dict Json := context.pop "approval_granted"

/-- With the approval a tool goes out, without it the approval is asked for; and what the approval does not
    open stays shut without it. -/
def AskedNotRefused : Prop :=
  (Outcome.isDispatched (serviceExecute tables installations ownerId toolSlug params (withApproval context)) = true →
    Outcome.isAsked (serviceExecute tables installations ownerId toolSlug params (withoutApproval context)) = true ∨
    Outcome.isDispatched (serviceExecute tables installations ownerId toolSlug params (withoutApproval context)) =
      true) ∧
  (Outcome.isDenied (serviceExecute tables installations ownerId toolSlug params (withApproval context)) = true →
    Outcome.isDenied (serviceExecute tables installations ownerId toolSlug params (withoutApproval context)) = true)

instance : Decidable (AskedNotRefused tables installations ownerId toolSlug params context) :=
  inferInstanceAs (Decidable (_ ∧ _))

def Withheld : Prop :=
  isConnector toolSlug = false ∧
    providerValidatePermissions tables toolSlug ((authContext params (withApproval context)).set "owner_id" (.str ownerId)) =
      true ∧
    (Tools.resolve tables ownerId toolSlug (authContext params context)).get "decision" = .str "approval_required"

def HeldBack : Prop :=
  isConnector toolSlug = false ∧
    nativeValidatePermissions tables toolSlug ((authContext params (withApproval context)).set "owner_id" (.str ownerId)) =
      true ∧
    (Tools.resolve tables ownerId toolSlug (authContext params context)).get "decision" = .str "approval_required"

def ThroughToolbox : Prop := (context.get "project_id").truthy = true ∧ toToolbox toolSlug = true

def RefusedLate : Prop :=
  ¬ ThroughToolbox toolSlug context ∧
    if isConnector toolSlug then
      validatePermissions installations
          (mergedArguments params ((authContext params (withApproval context)).set "owner_id" (.str ownerId))) = false ∨
        ((adapters.find? fun adapter => toolSlug ∈ adapter.2) = none ∧ toolSlug ∉ telegramOperations)
    else
      nativeValidatePermissions tables toolSlug ((authContext params (withApproval context)).set "owner_id" (.str ownerId)) =
        false

/-- A resolution under which the missing approval is noticed before the provider sees the tool. -/
structure Askable (resolution : Dict Json) : Prop where
  heard : grantsRuling (governance tables) ownerId toolSlug (authContext params context) = .keep →
    Withheld tables ownerId toolSlug params context → ThroughToolbox toolSlug context ∧ isEcosystem toolSlug = true
  kept : grantsRuling (governance tables) ownerId toolSlug (authContext params context) = .allow →
    HeldBack tables ownerId toolSlug params context →
      Asks (governance tables) toolSlug resolution ∨ ThroughToolbox toolSlug context
  honoured : Permits (governance tables) installations ownerId toolSlug
      (authContext params (withoutApproval context)) resolution →
    Asks (governance tables) toolSlug resolution →
      ¬ RefusedLate tables installations ownerId toolSlug params context

end Approval

section Compared

variable {tables : PolicyTables} {installations : Dict ConnectorInstallation}
  {ownerId toolSlug : String} {params context resolution left right : Dict Json}

theorem withApproval_apart (context : Dict Json) : Apart (withApproval context) context :=
  fun _ other => Dict.get_set_of_ne _ _ other.symm

theorem withoutApproval_apart (context : Dict Json) : Apart (withoutApproval context) context :=
  fun _ other => Dict.get_pop_of_ne _ other.symm

theorem authContext_apart (apart : Apart left right) : Apart (authContext params left) (authContext params right) := by
  unfold authContext
  split
  · exact apart.set _ _
  · exact apart

theorem both_apart (params context : Dict Json) :
    Apart (authContext params (withoutApproval context)) (authContext params (withApproval context)) :=
  authContext_apart ((withoutApproval_apart context).trans (withApproval_apart context).symm)

theorem resolveEffectiveToolPermissions_apart (apart : Apart left right) :
    resolveEffectiveToolPermissions tables ownerId toolSlug left =
      resolveEffectiveToolPermissions tables ownerId toolSlug right := by
  have skills : left.get "skill_ids" = right.get "skill_ids" := apart _ (by decide)
  have company : left.get "company_id" = right.get "company_id" := apart _ (by decide)
  have department : left.get "department_id" = right.get "department_id" := apart _ (by decide)
  have project : left.get "project_id" = right.get "project_id" := apart _ (by decide)
  have agent : left.get "agent_id" = right.get "agent_id" := apart _ (by decide)
  unfold resolveEffectiveToolPermissions
  simp only [skills, company, department, project, agent]

theorem policyResolution_apart (apart : Apart left right) :
    policyResolution (governance tables) ownerId toolSlug left =
      policyResolution (governance tables) ownerId toolSlug right := by
  unfold policyResolution governance
  dsimp only
  rw [apart "_policy_resolution" (by decide), resolve_apart apart]

theorem grantsRuling_apart (apart : Apart left right) :
    grantsRuling (governance tables) ownerId toolSlug left =
      grantsRuling (governance tables) ownerId toolSlug right := by
  have agent : left.get "agent_id" = right.get "agent_id" := apart _ (by decide)
  have project : left.get "project_id" = right.get "project_id" := apart _ (by decide)
  have company : left.get "company_id" = right.get "company_id" := apart _ (by decide)
  unfold grantsRuling governance
  simp only [agent, project, company, resolveEffectiveToolPermissions_apart apart]

theorem validatePermissions_apart (apart : Apart left right) :
    validatePermissions installations left = validatePermissions installations right := by
  unfold validatePermissions
  rw [apart "owner_id" (by decide), apart "connector_installation_id" (by decide), apart "company_id" (by decide)]

theorem mergedArguments_get (params context : Dict Json) (key : String) :
    (mergedArguments params context).get key = ((params.get? key).or (context.get? key)).getD .null := by
  unfold mergedArguments
  rw [Dict.get_eq, Dict.get?_append, Dict.get?_filter_key context key fun key => (params.get? key).isNone]
  cases params.get? key <;> simp

theorem mergedArguments_apart (apart : Apart left right) :
    Apart (mergedArguments params left) (mergedArguments params right) := by
  intro key other
  have same := apart key other
  rw [mergedArguments_get, mergedArguments_get]
  cases params.get? key with
  | none => exact same
  | some value => rfl

theorem providerValid_apart (connector : isConnector toolSlug = true) (apart : Apart left right) :
    providerValid (governance tables) installations ownerId toolSlug left =
      providerValid (governance tables) installations ownerId toolSlug right := by
  unfold providerValid
  rw [if_pos connector, if_pos connector, validatePermissions_apart (apart.set _ _)]

theorem ownedContext_missing :
    (((authContext params (withoutApproval context)).set "owner_id" (.str ownerId)).get "approval_granted").truthy =
      false := by
  rw [Dict.get_set_of_ne _ _ (by decide), authContext_get _ (by decide)]
  simp [withoutApproval]

theorem ownedContext_present :
    (((authContext params (withApproval context)).set "owner_id" (.str ownerId)).get "approval_granted").truthy =
      true := by
  rw [Dict.get_set_of_ne _ _ (by decide), authContext_get _ (by decide)]
  simp [withApproval]

theorem ownedContext_resolves :
    Tools.resolve tables
        (((authContext params (withApproval context)).set "owner_id" (.str ownerId)).get "owner_id").pyStr toolSlug
        ((authContext params (withApproval context)).set "owner_id" (.str ownerId)) =
      Tools.resolve tables ownerId toolSlug (authContext params context) := by
  rw [Dict.get_set_self, resolve_owner]
  exact resolve_apart (authContext_apart (withApproval_apart context)) _ _

theorem providerValid_ungranted :
    providerValid (governance tables) installations ownerId toolSlug (authContext params (withoutApproval context)) =
      true ↔
    providerValid (governance tables) installations ownerId toolSlug (authContext params (withApproval context)) =
      true ∧ ¬ Withheld tables ownerId toolSlug params context := by
  have apart := both_apart params context
  by_cases connector : isConnector toolSlug = true
  · rw [providerValid_apart connector apart]
    constructor
    · intro valid
      exact ⟨valid, fun withheld => Bool.noConfusion (connector.symm.trans withheld.1)⟩
    · exact And.left
  · have valid : providerValidatePermissions tables toolSlug
          ((authContext params (withoutApproval context)).set "owner_id" (.str ownerId)) =
        (providerValidatePermissions tables toolSlug
            ((authContext params (withApproval context)).set "owner_id" (.str ownerId)) &&
          decide ((Tools.resolve tables ownerId toolSlug (authContext params context)).get "decision" ≠
            .str "approval_required")) := by
      rw [providerValidatePermissions_ungranted (apart.set "owner_id" (.str ownerId)) ownedContext_missing ownedContext_present,
        ownedContext_resolves]
    unfold providerValid Withheld governance
    constructor <;> simp_all

theorem nativeValid_ungranted (native : isConnector toolSlug = false) :
    nativeValidatePermissions tables toolSlug
        ((authContext params (withoutApproval context)).set "owner_id" (.str ownerId)) = true ↔
      nativeValidatePermissions tables toolSlug
          ((authContext params (withApproval context)).set "owner_id" (.str ownerId)) = true ∧
        ¬ HeldBack tables ownerId toolSlug params context := by
  rw [nativeValidatePermissions_ungranted ((both_apart params context).set "owner_id" (.str ownerId)) ownedContext_missing
    ownedContext_present, ownedContext_resolves, Bool.and_eq_true, decide_eq_true_eq]
  constructor
  · rintro ⟨approved, other⟩
    exact ⟨approved, fun held => other held.2.2⟩
  · rintro ⟨approved, heard⟩
    exact ⟨approved, fun required => heard ⟨native, approved, required⟩⟩

theorem Withheld.heldBack (withheld : Withheld tables ownerId toolSlug params context) :
    HeldBack tables ownerId toolSlug params context :=
  ⟨withheld.1, nativeValidatePermissions_of_provider withheld.2.1, withheld.2.2⟩

theorem validatePermissions_found (valid : validatePermissions installations context = true) :
    ∃ installation, installations.get? (context.get "connector_installation_id").strOrEmpty = some installation := by
  unfold validatePermissions at valid
  dsimp only at valid
  split at valid
  · cases valid
  · split at valid
    · cases valid
    · simp_all

theorem connectorExecute_denied_iff :
    Outcome.isDenied (connectorExecute installations toolSlug params context) = true ↔
      validatePermissions installations (mergedArguments params context) = false ∨
        ((adapters.find? fun adapter => toolSlug ∈ adapter.2) = none ∧ toolSlug ∉ telegramOperations) := by
  unfold connectorExecute
  dsimp only
  cases valid : validatePermissions installations (mergedArguments params context) with
  | false => simp [Outcome.isDenied, pure, Except.pure]
  | true =>
    obtain ⟨installation, found⟩ := validatePermissions_found valid
    cases adapter : adapters.find? fun adapter => toolSlug ∈ adapter.2 with
    | some entry =>
      cases authorized : forOwner installations (context.get "owner_id").pyStr
          ((mergedArguments params context).get "connector_installation_id").strOrEmpty entry.1 <;>
        simp [authorized, Outcome.isDenied, bind, Except.bind, pure, Except.pure]
    | none =>
      by_cases telegram : toolSlug ∈ telegramOperations
      · rw [if_neg (not_not.mpr telegram), found]
        simp [telegram, Outcome.isDenied, pure, Except.pure]
      · simp [telegram, Outcome.isDenied, pure, Except.pure]

theorem connectorExecute_dispatched (apart : Apart left right) :
    Outcome.isDispatched (connectorExecute installations toolSlug params left) =
      Outcome.isDispatched (connectorExecute installations toolSlug params right) := by
  have merged : Apart (mergedArguments params left) (mergedArguments params right) := mergedArguments_apart apart
  unfold connectorExecute
  dsimp only
  rw [validatePermissions_apart merged, merged "connector_installation_id" (by decide), apart "owner_id" (by decide)]
  cases validatePermissions installations (mergedArguments params right) with
  | false => rfl
  | true =>
    cases adapters.find? fun adapter => toolSlug ∈ adapter.2 with
    | some entry =>
      dsimp only
      cases forOwner installations (right.get "owner_id").pyStr
        ((mergedArguments params right).get "connector_installation_id").strOrEmpty entry.1 <;> rfl
    | none => rfl

theorem handOut_toolbox (through : ThroughToolbox toolSlug context) :
    handOut tables installations ownerId toolSlug params context = toolboxDispatch toolSlug := if_pos through

theorem handOut_provider (direct : ¬ ThroughToolbox toolSlug context) :
    handOut tables installations ownerId toolSlug params context =
      providerExecute tables installations ownerId toolSlug params (authContext params context) := if_neg direct

theorem throughToolbox_apart (apart : Apart left right) : ThroughToolbox toolSlug left ↔ ThroughToolbox toolSlug right := by
  unfold ThroughToolbox
  rw [apart "project_id" (by decide)]

theorem toolboxDispatch_denied : Outcome.isDenied (toolboxDispatch toolSlug) = false := by
  unfold toolboxDispatch
  split <;> rfl

theorem toolboxDispatch_dispatched :
    Outcome.isDispatched (toolboxDispatch toolSlug) = true ↔ ¬ isEcosystem toolSlug = true := by
  unfold toolboxDispatch
  split <;> rename_i ecosystem <;> simp [ecosystem, Outcome.isDispatched]

theorem providerExecute_other (native : isConnector toolSlug = false) :
    providerExecute tables installations ownerId toolSlug params context =
      if nativeValidatePermissions tables toolSlug (context.set "owner_id" (.str ownerId)) then .ok .delegated
      else .ok (.denied "policy") := by
  unfold providerExecute
  rw [native]
  rfl

theorem dispatched_if (condition : Prop) [Decidable condition] (reason : String) :
    Outcome.isDispatched (if condition then .ok .delegated else .ok (.denied reason)) = true ↔ condition := by
  split <;> rename_i holds <;> simp [holds, Outcome.isDispatched]

theorem handOut_dispatched :
    Outcome.isDispatched (handOut tables installations ownerId toolSlug params (withoutApproval context)) = true ↔
    Outcome.isDispatched (handOut tables installations ownerId toolSlug params (withApproval context)) = true ∧
      (HeldBack tables ownerId toolSlug params context → ThroughToolbox toolSlug context) := by
  have bare : ThroughToolbox toolSlug (withoutApproval context) ↔ ThroughToolbox toolSlug context :=
    throughToolbox_apart (withoutApproval_apart context)
  have approved : ThroughToolbox toolSlug (withApproval context) ↔ ThroughToolbox toolSlug context :=
    throughToolbox_apart (withApproval_apart context)
  by_cases through : ThroughToolbox toolSlug context
  · rw [handOut_toolbox (bare.mpr through), handOut_toolbox (approved.mpr through)]
    simp [through]
  · rw [handOut_provider fun other => through (bare.mp other), handOut_provider fun other => through (approved.mp other)]
    cases connector : isConnector toolSlug with
    | true =>
      unfold providerExecute
      rw [if_pos connector, if_pos connector,
        connectorExecute_dispatched ((both_apart params context).set "owner_id" (.str ownerId))]
      simp [HeldBack, connector]
    | false =>
      rw [providerExecute_other connector, providerExecute_other connector, dispatched_if, dispatched_if,
        nativeValid_ungranted connector]
      simp [through]

theorem handOut_denied_iff :
    Outcome.isDenied (handOut tables installations ownerId toolSlug params (withApproval context)) = true ↔
      RefusedLate tables installations ownerId toolSlug params context := by
  have approved : ThroughToolbox toolSlug (withApproval context) ↔ ThroughToolbox toolSlug context :=
    throughToolbox_apart (withApproval_apart context)
  unfold RefusedLate
  by_cases through : ThroughToolbox toolSlug context
  · rw [handOut_toolbox (approved.mpr through), toolboxDispatch_denied]
    simp [through]
  · rw [handOut_provider fun other => through (approved.mp other)]
    unfold providerExecute
    cases connector : isConnector toolSlug with
    | true =>
      rw [if_pos rfl, if_pos rfl, connectorExecute_denied_iff]
      simp [through]
    | false =>
      rw [if_neg Bool.false_ne_true, if_neg Bool.false_ne_true]
      split <;> rename_i valid
      · simp [valid, Outcome.isDenied]
      · simp [valid, through, Outcome.isDenied]

theorem policyResolution_withApproval (params context : Dict Json) :
    policyResolution (governance tables) ownerId toolSlug (authContext params (withApproval context)) =
      policyResolution (governance tables) ownerId toolSlug (authContext params context) :=
  policyResolution_apart (authContext_apart (withApproval_apart context))

theorem policyResolution_withoutApproval (params context : Dict Json) :
    policyResolution (governance tables) ownerId toolSlug (authContext params (withoutApproval context)) =
      policyResolution (governance tables) ownerId toolSlug (authContext params context) :=
  policyResolution_apart (authContext_apart (withoutApproval_apart context))

theorem handOut_heldBack (held : HeldBack tables ownerId toolSlug params context) :
    Outcome.isDispatched (handOut tables installations ownerId toolSlug params (withApproval context)) = true ↔
      ¬ (ThroughToolbox toolSlug context ∧ isEcosystem toolSlug = true) := by
  have approved : ThroughToolbox toolSlug (withApproval context) ↔ ThroughToolbox toolSlug context :=
    throughToolbox_apart (withApproval_apart context)
  by_cases through : ThroughToolbox toolSlug context
  · rw [handOut_toolbox (approved.mpr through), toolboxDispatch_dispatched]
    simp [through]
  · rw [handOut_provider fun other => through (approved.mp other)]
    unfold providerExecute
    rw [held.1, if_neg Bool.false_ne_true, if_pos held.2.1]
    simp [through, Outcome.isDispatched]

theorem handOut_denied_mono (late : RefusedLate tables installations ownerId toolSlug params context) :
    Outcome.isDenied (handOut tables installations ownerId toolSlug params (withoutApproval context)) = true := by
  have bare : ThroughToolbox toolSlug (withoutApproval context) ↔ ThroughToolbox toolSlug context :=
    throughToolbox_apart (withoutApproval_apart context)
  obtain ⟨direct, refused⟩ := late
  rw [handOut_provider fun other => direct (bare.mp other)]
  cases connector : isConnector toolSlug with
  | true =>
    rw [if_pos connector, ← validatePermissions_apart
      (mergedArguments_apart ((both_apart params context).set "owner_id" (.str ownerId)))] at refused
    unfold providerExecute
    rw [if_pos connector]
    exact connectorExecute_denied_iff.mpr refused
  | false =>
    rw [if_neg (by simp [connector])] at refused
    have invalid : ¬ nativeValidatePermissions tables toolSlug
        ((authContext params (withoutApproval context)).set "owner_id" (.str ownerId)) = true := by
      intro valid
      have approved := ((nativeValid_ungranted connector).mp valid).1
      exact Bool.noConfusion (refused.symm.trans approved)
    rw [providerExecute_other connector, if_neg invalid]
    rfl

theorem handOut_unasked : Outcome.isAsked (handOut tables installations ownerId toolSlug params context) = false := by
  unfold handOut providerExecute
  split
  · unfold toolboxDispatch
    split <;> rfl
  split
  · unfold connectorExecute
    dsimp only
    split
    · rfl
    split
    · cases authorized : forOwner _ _ _ _ <;> rfl
    · split
      · rfl
      · split <;> rfl
  · split <;> rfl

theorem serviceExecute_withApproval
    (resolved : policyResolution (governance tables) ownerId toolSlug (authContext params context) = .ok resolution) :
    serviceExecute tables installations ownerId toolSlug params (withApproval context) =
      if ¬ Permits (governance tables) installations ownerId toolSlug
        (authContext params (withApproval context)) resolution then .ok (.denied "not_permitted")
      else handOut tables installations ownerId toolSlug params (withApproval context) := by
  have flag : ((withApproval context).get "approval_granted").truthy = true := by simp [withApproval]
  rw [serviceExecute_eq ((policyResolution_withApproval params context).trans resolved)]
  split
  · rfl
  · rw [if_neg fun asks => Bool.noConfusion (flag.symm.trans asks.2)]

theorem serviceExecute_withoutApproval
    (resolved : policyResolution (governance tables) ownerId toolSlug (authContext params context) = .ok resolution) :
    serviceExecute tables installations ownerId toolSlug params (withoutApproval context) =
      if ¬ Permits (governance tables) installations ownerId toolSlug
        (authContext params (withoutApproval context)) resolution then .ok (.denied "not_permitted")
      else if Asks (governance tables) toolSlug resolution then .ok .approvalRequired
      else handOut tables installations ownerId toolSlug params (withoutApproval context) := by
  have flag : ((withoutApproval context).get "approval_granted").truthy = false := by simp [withoutApproval]
  rw [serviceExecute_eq ((policyResolution_withoutApproval params context).trans resolved)]
  simp only [flag, and_true]

theorem serviceExecute_unresolved {error : PyError}
    (failed : policyResolution (governance tables) ownerId toolSlug (authContext params context) = .error error) :
    serviceExecute tables installations ownerId toolSlug params context = .error error := by
  unfold serviceExecute authorizeTool
  rw [failed]
  rfl

theorem permits_iff {probe : Dict Json} (apart : Apart probe context)
    (lawful : resolution.get "decision" ≠ .str "prohibited") :
    Permits (governance tables) installations ownerId toolSlug (authContext params probe) resolution ↔
      (grantsRuling (governance tables) ownerId toolSlug (authContext params context)).of
        (providerValid (governance tables) installations ownerId toolSlug (authContext params probe)) =
          true := by
  unfold Permits
  rw [grantsRuling_apart (authContext_apart apart)]
  simp [lawful]

section Permitted

variable (lawful : resolution.get "decision" ≠ .str "prohibited")
include lawful

theorem Permits.approved
    (bare : Permits (governance tables) installations ownerId toolSlug
      (authContext params (withoutApproval context)) resolution) :
    Permits (governance tables) installations ownerId toolSlug
      (authContext params (withApproval context)) resolution := by
  rw [permits_iff (withoutApproval_apart context) lawful] at bare
  rw [permits_iff (withApproval_apart context) lawful]
  cases ruling : grantsRuling (governance tables) ownerId toolSlug (authContext params context) with
  | keep =>
    rw [ruling] at bare
    exact (providerValid_ungranted.mp bare).1
  | refuse => rwa [ruling] at bare
  | allow => rfl

theorem Permits.bare_or_withheld
    (approved : Permits (governance tables) installations ownerId toolSlug
      (authContext params (withApproval context)) resolution) :
    Permits (governance tables) installations ownerId toolSlug
        (authContext params (withoutApproval context)) resolution ∨
      (grantsRuling (governance tables) ownerId toolSlug (authContext params context) = .keep ∧
        Withheld tables ownerId toolSlug params context) := by
  rw [permits_iff (withApproval_apart context) lawful] at approved
  rw [permits_iff (withoutApproval_apart context) lawful]
  cases ruling : grantsRuling (governance tables) ownerId toolSlug (authContext params context) with
  | keep =>
    rw [ruling] at approved
    by_cases withheld : Withheld tables ownerId toolSlug params context
    · exact .inr ⟨rfl, withheld⟩
    · exact .inl (providerValid_ungranted.mpr ⟨approved, withheld⟩)
  | refuse =>
    rw [ruling] at approved
    cases approved
  | allow => exact .inl rfl

theorem Permits.allowed (held : HeldBack tables ownerId toolSlug params context)
    (bare : Permits (governance tables) installations ownerId toolSlug
      (authContext params (withoutApproval context)) resolution) :
    grantsRuling (governance tables) ownerId toolSlug (authContext params context) = .allow := by
  rw [permits_iff (withoutApproval_apart context) lawful] at bare
  cases ruling : grantsRuling (governance tables) ownerId toolSlug (authContext params context) with
  | keep =>
    rw [ruling] at bare
    have valid : providerValidatePermissions tables toolSlug
        ((authContext params (withoutApproval context)).set "owner_id" (.str ownerId)) = true := by
      have permitted : providerValid (governance tables) installations ownerId toolSlug
        (authContext params (withoutApproval context)) = true := bare
      unfold providerValid at permitted
      rwa [if_neg (by simp [held.1])] at permitted
    exact absurd held ((nativeValid_ungranted held.1).mp (nativeValidatePermissions_of_provider valid)).2
  | refuse =>
    rw [ruling] at bare
    cases bare
  | allow => rfl

omit lawful in
theorem Withheld.valid (withheld : Withheld tables ownerId toolSlug params context) :
    providerValid (governance tables) installations ownerId toolSlug
      (authContext params (withApproval context)) = true := by
  unfold providerValid
  rw [if_neg (by simp [withheld.1])]
  exact withheld.2.1

theorem not_permits_bare (withheld : Withheld tables ownerId toolSlug params context)
    (ruling : grantsRuling (governance tables) ownerId toolSlug (authContext params context) = .keep) :
    ¬ Permits (governance tables) installations ownerId toolSlug
      (authContext params (withoutApproval context)) resolution := by
  intro bare
  exact Ruling.noConfusion (ruling.symm.trans (Permits.allowed lawful withheld.heldBack bare))

theorem Permits.of_allow {probe : Dict Json} (apart : Apart probe context)
    (ruling : grantsRuling (governance tables) ownerId toolSlug (authContext params context) = .allow) :
    Permits (governance tables) installations ownerId toolSlug (authContext params probe) resolution := by
  rw [permits_iff apart lawful, ruling]
  rfl

end Permitted

/-- An approval is asked for wherever one helps, exactly if the provider withholds no tool that the grants leave
    to it and refuses no tool that was asked for. -/
theorem approval_required_is_asked_iff (tables : PolicyTables)
    (installations : Dict ConnectorInstallation) (ownerId toolSlug : String) (params context : Dict Json) :
    AskedNotRefused tables installations ownerId toolSlug params context ↔
      ∀ resolution, policyResolution (governance tables) ownerId toolSlug (authContext params context) =
          .ok resolution →
        resolution.get "decision" ≠ .str "prohibited" →
          Askable tables installations ownerId toolSlug params context resolution := by
  unfold AskedNotRefused
  cases resolved : policyResolution (governance tables) ownerId toolSlug (authContext params context) with
  | error error =>
    rw [serviceExecute_unresolved ((policyResolution_withApproval params context).trans resolved),
      serviceExecute_unresolved ((policyResolution_withoutApproval params context).trans resolved)]
    simp [Outcome.isDispatched, Outcome.isDenied]
  | ok resolution =>
    rw [serviceExecute_withApproval resolved, serviceExecute_withoutApproval resolved]
    by_cases lawful : resolution.get "decision" = .str "prohibited"
    · rw [if_pos fun permitted => permitted.2 lawful, if_pos fun permitted => permitted.2 lawful]
      simp [Outcome.isDispatched, Outcome.isDenied, lawful]
    · constructor
      · intro asked other same _
        obtain ⟨sent, shut⟩ := asked
        have same : resolution = other := Except.ok.inj same
        subst same
        constructor
        · intro ruling withheld
          have refused : ¬ Permits (governance tables) installations ownerId toolSlug
              (authContext params (withoutApproval context)) resolution := not_permits_bare lawful withheld ruling
          have approved : Permits (governance tables) installations ownerId toolSlug
              (authContext params (withApproval context)) resolution := by
            rw [permits_iff (withApproval_apart context) lawful, ruling]
            exact withheld.valid
          rw [if_neg (not_not.mpr approved), if_pos refused, handOut_heldBack withheld.heldBack] at sent
          by_contra direct
          rcases sent direct with asked | dispatched
          · cases asked
          · cases dispatched
        · intro ruling held
          rw [if_neg (not_not.mpr (Permits.of_allow lawful (withApproval_apart context) ruling)), if_neg (not_not.mpr
            (Permits.of_allow lawful (withoutApproval_apart context) ruling)), handOut_heldBack held] at sent
          by_contra unheard
          rw [not_or] at unheard
          rw [if_neg unheard.1, handOut_unasked, handOut_dispatched] at sent
          rcases sent fun through => unheard.2 through.1 with asked | dispatched
          · cases asked
          · exact unheard.2 (dispatched.2 held)
        · intro bare asks late
          rw [if_neg (not_not.mpr (Permits.approved lawful bare)), if_neg (not_not.mpr bare), if_pos asks,
            handOut_denied_iff] at shut
          cases shut late
      · intro askable
        have askable := askable resolution rfl lawful
        constructor
        · intro sent
          by_cases approved : Permits (governance tables) installations ownerId toolSlug
            (authContext params (withApproval context)) resolution
          · rw [if_neg (not_not.mpr approved)] at sent
            rcases Permits.bare_or_withheld lawful approved with bare | ⟨ruling, withheld⟩
            · rw [if_neg (not_not.mpr bare)]
              split
              · exact .inl rfl
              rename_i quiet
              have through (held : HeldBack tables ownerId toolSlug params context) :
                  ThroughToolbox toolSlug context :=
                (askable.kept (Permits.allowed lawful held bare) held).resolve_left quiet
              exact .inr (handOut_dispatched.mpr ⟨sent, through⟩)
            · exact absurd (askable.heard ruling withheld) ((handOut_heldBack withheld.heldBack).mp sent)
          · rw [if_pos approved] at sent
            cases sent
        · intro shut
          by_cases bare : Permits (governance tables) installations ownerId toolSlug
            (authContext params (withoutApproval context)) resolution
          · rw [if_neg (not_not.mpr (Permits.approved lawful bare))] at shut
            have late := handOut_denied_iff.mp shut
            rw [if_neg (not_not.mpr bare), if_neg fun asks => askable.honoured bare asks late]
            exact handOut_denied_mono late
          · rw [if_pos bare]
            rfl

end Compared

def codeExecution : PolicyTables := { tools := [⟨"tool-1", "code_execute", true⟩] }

def toolNodeContext : Dict Json :=
  [("owner_id", .str "owner-1"), ("project_id", .null), ("task_id", .null), ("workflow_run_id", .str "run-1"),
    ("workflow_node_id", .str "node-1"), ("connector_installation_id", .null)]

theorem approval_required_tool_is_denied :
    ¬ AskedNotRefused codeExecution [] "owner-1" "code_execute" [("code", .str "print(1)")] toolNodeContext := by
  decide

end Troop.Connectors
