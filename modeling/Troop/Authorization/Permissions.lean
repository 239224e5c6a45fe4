import Mathlib.Data.List.Dedup
import Troop.Approvals.Canonical
import Troop.Authorization.Policies

namespace Troop.Authorization

open List

structure ToolDefinition where
  id : String
  slug : String
  riskLevel : String
  requiresApproval : Bool
deriving DecidableEq, Inhabited

structure ToolGrant where
  id : String
  toolDefinitionId : String
  subjectType : String
  subjectId : String
  effect : String
deriving DecidableEq, Inhabited

structure Tables where
  tools : List ToolDefinition
  grants : List ToolGrant
  policies : List ActionPolicy
  ids : (tools.map (·.id)).Nodup
  named : ∀ tool ∈ tools, tool.id ≠ ""
  slugs : (tools.map (·.slug)).Nodup
  refers : ∀ grant ∈ grants, ∃ tool ∈ tools, tool.id = grant.toolDefinitionId

def grantScopeOrder : List String := ["skill", "agent", "project", "department", "organization"]

def normalizeScope (subjectType : String) : String :=
  let key := normalized subjectType
  if key = "dept" then "department" else if key = "company" then "organization" else key

def grantScopeRank (subjectType : String) : Nat := grantScopeOrder.idxOf (normalizeScope subjectType)

def Tables.listToolGrantsForSubject (tables : Tables) (subjectType subjectId : String) : List ToolGrant :=
  tables.grants.filter fun grant => grant.subjectType = subjectType ∧ grant.subjectId = subjectId

def Tables.listToolDefinitionsByIds (tables : Tables) (ids : List String) : List ToolDefinition :=
  tables.tools.filter fun tool => tool.id ∈ ids

def Tables.getToolDefinition (tables : Tables) (slug : String) : Option ToolDefinition :=
  tables.tools.find? fun tool => tool.slug = slug

/-- The execution context; an id that is missing is `none` or empty. -/
structure Request where
  ownerId : String
  agentId : Option String
  projectId : Option String
  companyId : Option String
  departmentId : Option String
  skillIds : List String
  toolSlugs : List String
  declaredTools : List String
deriving DecidableEq, Inhabited

def given (id : Option String) : Option String := id.filter (· ≠ "")

section Policies

def scopeFilters (context : Dict Json) : List (String × Option String) :=
  policyScopeOrder.flatMap fun scope =>
    if scope = "global" then [("global", none)]
    else
      let named := context.get (scope ++ "_id")
      (if named.truthy then [(scope, some named.pyStr)] else []) ++
        if scope = "organization" ∧ (context.get "company_id").truthy then
          [("organization", some (context.get "company_id").pyStr)]
        else []

instance scopesLawful : LawfulBEq (String × Option String) := inferInstance

def ActionPolicy.applies (policy : ActionPolicy) (filters : List (String × Option String)) : Bool :=
  (policy.scopeType, policy.scopeId) ∈ filters ∨ policy.scopeType = "global" ∧ ("global", none) ∈ filters ∨
    policy.scopeType = "organization" ∧ policy.scopeId = none ∧ filters.any (·.1 = "organization")

def listApplicablePolicies (tables : Tables) (ownerId actionKey : String) (context : Dict Json) : List ActionPolicy :=
  (tables.policies.filter fun policy => policy.ownerId = ownerId ∧ policy.actionKey = actionKey).filter
    (·.applies (scopeFilters context))

/-- `ActionPolicyService.resolve`, with the risk level of the tool; its governance is left out. -/
def resolvePolicy (tables : Tables) (ownerId actionKey toolSlug : String) (context : Dict Json) :
    Resolution × Option String :=
  let tool := tables.getToolDefinition toolSlug
  let default := match tool with
    | some tool => if tool.requiresApproval then "approval_required" else "autonomous"
    | none => "approval_required"
  (resolveDecisionFromPolicies (listApplicablePolicies tables ownerId actionKey context) default, tool.map (·.riskLevel))

end Policies

inductive Source where
  | grant (scopeType scopeId effect grantId : String)
  | policy (actionKey decision : String) (matchedScope matchedPolicyId riskLevel : Option String)
  | notDeclared
deriving DecidableEq

structure ToolEffect where
  effect : String
  sources : List Source
deriving DecidableEq

section Resolving

variable (tables : Tables) (request : Request)

def subjects : List (String × String) :=
  ((given request.companyId).map (("organization", ·))).toList ++
  ((given request.departmentId).map (("department", ·))).toList ++
  ((given request.projectId).map (("project", ·))).toList ++
  ((given request.agentId).map (("agent", ·))).toList ++
  (request.skillIds.filter (· ≠ "")).map (("skill", ·))

def grantsOf (subject : String × String) : List ToolGrant :=
  let grants := tables.listToolGrantsForSubject subject.1 subject.2
  if grants.isEmpty then
    tables.listToolGrantsForSubject (if subject.1 = "department" then "dept" else subject.1) subject.2
  else grants

def grantsByScope : Dict (List ToolGrant) :=
  (subjects request).foldl (fun batches subject =>
    let grants := grantsOf tables subject
    if grants.isEmpty then batches
    else batches.set subject.1 ((batches.get? subject.1).getD [] ++ grants)) []

def allGrants : List ToolGrant := (grantsByScope tables request).values.flatten

def grantedTools : List ToolDefinition :=
  (tables.listToolDefinitionsByIds (((allGrants tables request).map (·.toolDefinitionId)).filter (· ≠ ""))).filter
    (·.slug ≠ "")

def requested : List String := (request.toolSlugs.map Text.strip).filter (· ≠ "")

/-- `slug_by_id` and `id_by_slug`; for a requested tool the second has the id as its key -/
def loadRequested : Dict String × Dict String :=
  (requested request).foldl (fun (slugById, idBySlug) slug =>
    if (idBySlug.get? slug).isSome then (slugById, idBySlug)
    else match tables.getToolDefinition slug with
      | some tool => (slugById.set tool.id tool.slug, idBySlug.set tool.id tool.slug)
      | none => (slugById, idBySlug))
    ((grantedTools tables request).foldl (fun slugs tool => slugs.set tool.id tool.slug) [],
      (grantedTools tables request).foldl (fun ids tool => ids.set tool.slug tool.id) [])

def slugById : Dict String := (loadRequested tables request).1

def candidateSlugs : List String :=
  if (requested request).isEmpty then
    Approvals.sortTexts ((allGrants tables request).filterMap fun grant =>
      (slugById tables request).get? grant.toolDefinitionId).dedup
  else (requested request).reverse.dedup.reverse

def declared : List String := (request.declaredTools.map Text.strip).filter (· ≠ "")

def policyContext (slug : String) : Dict Json :=
  [("owner_id", .str request.ownerId), ("project_id", .ofOption request.projectId),
    ("company_id", .ofOption request.companyId), ("department_id", .ofOption request.departmentId),
    ("agent_id", .ofOption request.agentId)] ++
  (match request.skillIds with
    | [] => []
    | first :: _ => [("skill_id", .str first)]) ++
  [("allowed_tools", .arr ((if (declared request).isEmpty then [slug] else declared request).map .str))]

def denies (grant : ToolGrant) : Bool := Text.lower grant.effect = "deny"

def allows (grant : ToolGrant) : Bool := Text.lower grant.effect = "allow"

def slugGrants (slug : String) : List ToolGrant :=
  ((allGrants tables request).filter fun grant =>
    (slugById tables request).get? grant.toolDefinitionId = some slug).insertionSort fun a b =>
      grantScopeRank (normalizeScope a.subjectType) ≤ grantScopeRank (normalizeScope b.subjectType)

def ToolGrant.source (grant : ToolGrant) : Source :=
  .grant (normalizeScope grant.subjectType) grant.subjectId grant.effect grant.id

def weigh : List ToolGrant → Bool × Bool × List Source
  | [] => (false, false, [])
  | grant :: rest =>
    if denies grant then (true, false, [grant.source])
    else
      let (denied, allowed, sources) := weigh rest
      (denied, allowed || allows grant, grant.source :: sources)

def policyDecision (slug : String) : String :=
  let decision := (resolvePolicy tables request.ownerId slug slug (policyContext request slug)).1.decision
  if decision = "" then "approval_required" else decision

def grantEffect (denied allowed : Bool) (decision : String) : String :=
  if denied then "deny"
  else if decision = "prohibited" then "prohibited"
  else if ¬ allowed then "deny"
  else if decision = "approval_required" then "approval_required"
  else if decision = "autonomous" then "allow"
  else "approval_required"

def toolEffect (slug : String) : ToolEffect :=
  let (denied, allowed, sources) := weigh (slugGrants tables request slug)
  let (resolution, risk) := resolvePolicy tables request.ownerId slug slug (policyContext request slug)
  let decision := policyDecision tables request slug
  let sources := sources ++ [.policy slug decision resolution.matchedScope resolution.matchedPolicyId risk]
  if declared request ≠ [] ∧ slug ∉ declared request then ⟨"deny", sources ++ [.notDeclared]⟩
  else ⟨grantEffect denied allowed decision, sources⟩

structure EffectivePermissions where
  effectiveAllow : List String
  effectiveDeny : List String
  requestedUnavailable : List String
  byTool : Dict ToolEffect
deriving DecidableEq

def resolveEffectiveToolPermissions : EffectivePermissions :=
  let candidates := candidateSlugs tables request
  let byTool : Dict ToolEffect := candidates.map fun slug => (slug, toolEffect tables request slug)
  let granted := fun slug => decide ((toolEffect tables request slug).effect ∈ ["allow", "approval_required"])
  let allow := candidates.filter granted
  { effectiveAllow := Approvals.sortTexts allow.dedup
    effectiveDeny := Approvals.sortTexts (candidates.filter (fun slug => !granted slug)).dedup
    requestedUnavailable := Approvals.sortTexts ((requested request).filter (· ∉ allow)).dedup
    byTool }

end Resolving

section Rows

variable {tables : Tables} {request : Request} {grant : ToolGrant} {slug : String}

theorem mem_batch (batches : Dict (List ToolGrant)) (key : String) (grants : List ToolGrant) :
    grant ∈ (batches.set key ((batches.get? key).getD [] ++ grants)).values.flatten ↔
      grant ∈ batches.values.flatten ∨ grant ∈ grants := by
  induction batches with
  | nil => simp [Dict.set, Dict.values]
  | cons entry rest ih =>
    obtain ⟨k, batch⟩ := entry
    by_cases same : k = key
    · simp [Dict.set, Dict.get?, Dict.values, same, or_comm, or_left_comm]
    · grind [Dict.values, Dict.set, Dict.get?]

theorem batches_fold (scopes : List (String × String)) (batches : Dict (List ToolGrant)) :
    grant ∈ (scopes.foldl (fun batches subject =>
      let grants := grantsOf tables subject
      if grants.isEmpty then batches
      else batches.set subject.1 ((batches.get? subject.1).getD [] ++ grants)) batches).values.flatten ↔
      grant ∈ batches.values.flatten ∨ ∃ subject ∈ scopes, grant ∈ grantsOf tables subject := by
  induction scopes generalizing batches with
  | nil => simp
  | cons subject rest ih =>
    rw [foldl_cons, ih]
    dsimp only
    split
    · simp_all
    · rw [mem_batch]
      simp [or_assoc]

theorem mem_allGrants : grant ∈ allGrants tables request ↔ ∃ subject ∈ subjects request, grant ∈ grantsOf tables subject := by
  unfold allGrants grantsByScope
  rw [batches_fold]
  simp [Dict.values]

def Names (tables : Tables) (grant : ToolGrant) (slug : String) : Prop :=
  ∃ tool ∈ tables.tools, tool.id = grant.toolDefinitionId ∧ tool.slug = slug

theorem Tables.same_id {one other : ToolDefinition} (left : one ∈ tables.tools) (right : other ∈ tables.tools)
    (same : one.id = other.id) : one = other :=
  inj_on_of_nodup_map tables.ids left right same

theorem grantsOf_sub {subject : String × String} (found : grant ∈ grantsOf tables subject) : grant ∈ tables.grants := by
  unfold grantsOf at found
  dsimp only at found
  split at found
  all_goals exact (mem_filter.mp found).1

theorem allGrants_sub (found : grant ∈ allGrants tables request) : grant ∈ tables.grants := by
  obtain ⟨_, _, here⟩ := mem_allGrants.mp found
  exact grantsOf_sub here

def Faithful (tables : Tables) (slugs : Dict String) : Prop :=
  ∀ id slug, slugs.get? id = some slug → slug ≠ "" ∧ ∃ tool ∈ tables.tools, tool.id = id ∧ tool.slug = slug

theorem Faithful.set {slugs : Dict String} {tool : ToolDefinition} (faithful : Faithful tables slugs)
    (member : tool ∈ tables.tools) (named : tool.slug ≠ "") : Faithful tables (slugs.set tool.id tool.slug) := by
  intro id slug found
  rw [Dict.get?_set] at found
  split at found
  · grind
  · exact faithful id slug found

theorem isSome_set {slugs : Dict String} {id key value : String} (known : (slugs.get? id).isSome) :
    ((slugs.set key value).get? id).isSome := by
  rw [Dict.get?_set]
  split
  · rfl
  · exact known

theorem granted_fold (tools : List ToolDefinition) (slugs : Dict String)
    (within : ∀ tool ∈ tools, tool ∈ tables.tools ∧ tool.slug ≠ "") (faithful : Faithful tables slugs) :
    Faithful tables (tools.foldl (fun slugs tool => slugs.set tool.id tool.slug) slugs) ∧
      ∀ id, (slugs.get? id).isSome ∨ (∃ tool ∈ tools, tool.id = id) →
        ((tools.foldl (fun slugs tool => slugs.set tool.id tool.slug) slugs).get? id).isSome := by
  induction tools generalizing slugs with
  | nil => exact ⟨faithful, by simp⟩
  | cons tool rest ih =>
    have head := within tool mem_cons_self
    obtain ⟨kept, known⟩ := ih (slugs.set tool.id tool.slug) (fun other among => within other (mem_cons_of_mem _ among))
      (faithful.set head.1 head.2)
    refine ⟨kept, fun id here => known id ?_⟩
    rcases here with before | ⟨other, among, rfl⟩
    · exact .inl (isSome_set before)
    · rcases mem_cons.mp among with rfl | later
      · exact .inl (by simp)
      · exact .inr ⟨other, later, rfl⟩

theorem requested_fold (wanted : List String) (named : ∀ slug ∈ wanted, slug ≠ "") (slugs ids : Dict String)
    (faithful : Faithful tables slugs) :
    Faithful tables (wanted.foldl (fun (slugById, idBySlug) slug =>
      if (idBySlug.get? slug).isSome then (slugById, idBySlug)
      else match tables.getToolDefinition slug with
        | some tool => (slugById.set tool.id tool.slug, idBySlug.set tool.id tool.slug)
        | none => (slugById, idBySlug)) (slugs, ids)).1 ∧
      ∀ id, (slugs.get? id).isSome → ((wanted.foldl (fun (slugById, idBySlug) slug =>
        if (idBySlug.get? slug).isSome then (slugById, idBySlug)
        else match tables.getToolDefinition slug with
          | some tool => (slugById.set tool.id tool.slug, idBySlug.set tool.id tool.slug)
          | none => (slugById, idBySlug)) (slugs, ids)).1.get? id).isSome := by
  induction wanted generalizing slugs ids with
  | nil => exact ⟨faithful, fun _ known => known⟩
  | cons slug rest ih =>
    have rest_named : ∀ other ∈ rest, other ≠ "" := fun other among => named other (mem_cons_of_mem _ among)
    rw [foldl_cons]
    dsimp only
    split
    · exact ih rest_named slugs ids faithful
    cases found : tables.getToolDefinition slug with
    | none => exact ih rest_named slugs ids faithful
    | some tool =>
      have same : tool.slug = slug := by simpa using find?_some found
      have member := mem_of_find?_eq_some found
      have kept := faithful.set member (same ▸ named slug mem_cons_self)
      obtain ⟨good, known⟩ := ih rest_named _ (ids.set tool.id tool.slug) kept
      exact ⟨good, fun id before => known id (isSome_set before)⟩

theorem requested_named (member : slug ∈ requested request) : slug ≠ "" := by
  simpa using (mem_filter.mp member).2

theorem slugById_get? (found : grant ∈ allGrants tables request) :
    (slugById tables request).get? grant.toolDefinitionId = some slug ↔ slug ≠ "" ∧ Names tables grant slug := by
  have within : ∀ tool ∈ grantedTools tables request, tool ∈ tables.tools ∧ tool.slug ≠ "" := by
    intro tool member
    obtain ⟨listed, named⟩ := mem_filter.mp member
    exact ⟨(mem_filter.mp listed).1, by simpa using named⟩
  have empty : Faithful tables [] := fun _ _ none_ => nomatch none_
  obtain ⟨good, known⟩ := granted_fold (grantedTools tables request) [] within empty
  obtain ⟨faithful, still⟩ := requested_fold (requested request) (fun _ => requested_named) _
    ((grantedTools tables request).foldl (fun ids tool => ids.set tool.slug tool.id) []) good
  constructor
  · exact faithful _ slug
  rintro ⟨named, tool, member, id, rfl⟩
  have listed : tool ∈ grantedTools tables request := by
    refine mem_filter.mpr ⟨mem_filter.mpr ⟨member, ?_⟩, by simpa using named⟩
    have real : grant.toolDefinitionId ≠ "" := id ▸ tables.named tool member
    rw [id]
    simpa using ⟨⟨grant, found, rfl⟩, real⟩
  have some_ := still tool.id (known tool.id (.inr ⟨tool, listed, rfl⟩))
  obtain ⟨other, here⟩ := Option.isSome_iff_exists.mp some_
  obtain ⟨_, again, member', id', rfl⟩ := faithful _ other here
  rw [tables.same_id member' member id'] at here
  rwa [← id]

end Rows

section Allowed

variable {tables : Tables} {request : Request} {slug : String}

theorem weigh_spec (grants : List ToolGrant) :
    (weigh grants).1 = grants.any denies ∧ ((weigh grants).1 = false → (weigh grants).2.1 = grants.any allows) := by
  induction grants with
  | nil => exact ⟨rfl, fun _ => rfl⟩
  | cons grant rest ih =>
    rw [weigh]
    split
    · simp_all
    · grind

theorem grantEffect_grants (denied allowed : Bool) (decision : String) :
    grantEffect denied allowed decision ∈ ["allow", "approval_required"] ↔
      denied = false ∧ allowed = true ∧ decision ≠ "prohibited" := by
  unfold grantEffect
  cases denied with
  | true => simp
  | false =>
    by_cases prohibited : decision = "prohibited"
    · simp [prohibited]
    cases allowed with
    | false => simp [prohibited]
    | true =>
      simp only [prohibited, Bool.false_eq_true, if_false, not_true]
      split
      · simp [prohibited]
      · split <;> simp [prohibited]

/-- What the grants and the declared tools say of a tool, the policies apart. -/
structure Passes (tables : Tables) (request : Request) (grants : List ToolGrant) (slug : String) : Prop where
  named : slug ≠ ""
  wanted : requested request = [] ∨ slug ∈ requested request
  declared : declared request = [] ∨ slug ∈ declared request
  allowed : ∃ grant ∈ grants, allows grant = true ∧ Names tables grant slug
  undenied : ∀ grant ∈ grants, Names tables grant slug → denies grant = false

theorem mem_slugGrants {grant : ToolGrant} (named : slug ≠ "") : grant ∈ slugGrants tables request slug ↔
    grant ∈ allGrants tables request ∧ Names tables grant slug := by
  unfold slugGrants
  rw [mem_insertionSort, mem_filter]
  constructor
  · rintro ⟨found, same⟩
    exact ⟨found, ((slugById_get? found).mp (of_decide_eq_true same)).2⟩
  · rintro ⟨found, names⟩
    exact ⟨found, decide_eq_true ((slugById_get? found).mpr ⟨named, names⟩)⟩

theorem mem_candidateSlugs : slug ∈ candidateSlugs tables request ↔
    if requested request = [] then slug ≠ "" ∧ ∃ grant ∈ allGrants tables request, Names tables grant slug
    else slug ∈ requested request := by
  unfold candidateSlugs
  by_cases none_ : requested request = []
  · rw [if_pos none_, if_pos (by rw [none_]; rfl), Approvals.sortTexts, mem_insertionSort, mem_dedup, mem_filterMap]
    constructor
    · rintro ⟨grant, found, same⟩
      obtain ⟨named, names⟩ := (slugById_get? found).mp same
      exact ⟨named, grant, found, names⟩
    · rintro ⟨named, grant, found, names⟩
      exact ⟨grant, found, (slugById_get? found).mpr ⟨named, names⟩⟩
  · simp_all

theorem toolEffect_grants : (toolEffect tables request slug).effect ∈ ["allow", "approval_required"] ↔
    (declared request = [] ∨ slug ∈ declared request) ∧ (weigh (slugGrants tables request slug)).1 = false ∧
      (weigh (slugGrants tables request slug)).2.1 = true ∧ policyDecision tables request slug ≠ "prohibited" := by
  unfold toolEffect
  dsimp only
  by_cases outside : declared request ≠ [] ∧ slug ∉ declared request
  · constructor <;> simp_all
  · rw [if_neg outside, grantEffect_grants]
    have within : declared request = [] ∨ slug ∈ declared request := by
      rwa [not_and_or, not_not, not_not] at outside
    simp [within]

theorem mem_effectiveAllow : slug ∈ (resolveEffectiveToolPermissions tables request).effectiveAllow ↔
    Passes tables request (allGrants tables request) slug ∧ policyDecision tables request slug ≠ "prohibited" := by
  obtain ⟨denied, allowed⟩ := weigh_spec (slugGrants tables request slug)
  unfold resolveEffectiveToolPermissions
  dsimp only
  rw [Approvals.sortTexts, mem_insertionSort, mem_dedup, mem_filter, decide_eq_true_iff, toolEffect_grants,
    mem_candidateSlugs]
  constructor
  · rintro ⟨candidate, within, undenied, granted, decision⟩
    have named : slug ≠ "" := by
      split at candidate
      · exact candidate.1
      · exact requested_named candidate
    rw [allowed undenied, any_eq_true] at granted
    rw [denied, any_eq_false] at undenied
    obtain ⟨grant, listed, allows_⟩ := granted
    obtain ⟨found, names⟩ := (mem_slugGrants named).mp listed
    refine ⟨⟨named, ?_, within, ⟨grant, found, allows_, names⟩, fun other there names => ?_⟩, decision⟩
    · by_cases none_ : requested request = []
      · exact .inl none_
      · simp_all
    · simpa using undenied other ((mem_slugGrants named).mpr ⟨there, names⟩)
  · rintro ⟨passes, decision⟩
    obtain ⟨grant, found, allows_, names⟩ := passes.allowed
    have undenied : (weigh (slugGrants tables request slug)).1 = false := by
      rw [denied, any_eq_false]
      intro other listed
      obtain ⟨there, names⟩ := (mem_slugGrants passes.named).mp listed
      simp [passes.undenied other there names]
    refine ⟨?_, passes.declared, undenied, ?_, decision⟩
    · split
      · exact ⟨passes.named, grant, found, names⟩
      · rename_i some_
        exact passes.wanted.resolve_left some_
    · rw [allowed undenied, any_eq_true]
      exact ⟨grant, (mem_slugGrants passes.named).mpr ⟨found, names⟩, allows_⟩

end Allowed

end Troop.Authorization
