import Troop.Authorization.Permissions

namespace Troop.Authorization

open List

section Scopes

variable {tables : Tables} {request : Request} {slug : String} {policy : ActionPolicy}

def InScope (request : Request) (policy : ActionPolicy) : Prop :=
  (∃ subject ∈ subjects request, policy.scopeType = subject.1 ∧ policy.scopeId = some subject.2) ∨
    policy.scopeType = "global" ∨
    policy.scopeType = "organization" ∧ policy.scopeId = none ∧ (given request.companyId).isSome

theorem mem_subjects {subject : String × String} : subject ∈ subjects request ↔
    (∃ id, given request.companyId = some id ∧ subject = ("organization", id)) ∨
    (∃ id, given request.departmentId = some id ∧ subject = ("department", id)) ∨
    (∃ id, given request.projectId = some id ∧ subject = ("project", id)) ∨
    (∃ id, given request.agentId = some id ∧ subject = ("agent", id)) ∨
    ∃ id ∈ request.skillIds, id ≠ "" ∧ subject = ("skill", id) := by
  have side : ∀ {scope : String} {id : Option String}, subject ∈ ((given id).map ((scope, ·))).toList ↔
      ∃ named, given id = some named ∧ subject = (scope, named) := by
    intro scope id
    constructor <;> simp_all
  unfold subjects
  rw [mem_append, mem_append, mem_append, mem_append, side, side, side, side, mem_map]
  constructor
  · rintro ((((company | department) | project) | agent) | ⟨id, member, same⟩)
    · exact .inl company
    · exact .inr (.inl department)
    · exact .inr (.inr (.inl project))
    · exact .inr (.inr (.inr (.inl agent)))
    · grind
  · rintro (company | department | project | agent | ⟨id, listed, named, same⟩)
    · exact .inl (.inl (.inl (.inl company)))
    · exact .inl (.inl (.inl (.inr department)))
    · exact .inl (.inl (.inr project))
    · exact .inl (.inr agent)
    · exact .inr ⟨id, mem_filter.mpr ⟨listed, by simpa using named⟩, same.symm⟩

def matched (tables : Tables) (request : Request) (slug : String) : List ActionPolicy :=
  listApplicablePolicies tables request.ownerId slug (policyContext request slug)

/-- Some scope has a policy spelled `prohibited` as its first one. -/
def Stopped (tables : Tables) (request : Request) (slug : String) : Prop :=
  ∃ scope policy, firstOf (matched tables request slug) scope = some policy ∧ policy.decision = "prohibited"

theorem decision_prohibited_iff {policies : List ActionPolicy} {default : String} (other : default ≠ "prohibited") :
    (resolveDecisionFromPolicies policies default).decision = "prohibited" ↔
      ∃ scope policy, firstOf policies scope = some policy ∧ policy.decision = "prohibited" := by
  constructor
  · intro decision
    by_contra none_
    have unspelled : ∀ policy ∈ orderedPolicies policies, policy.decision ≠ "prohibited" :=
      fun policy listed spelled => none_ ⟨_, policy, mem_ordered.mp listed, spelled⟩
    cases ordered : orderedPolicies policies with
    | nil =>
      rw [decision_default ordered] at decision
      exact other decision
    | cons chosen rest =>
      rw [decision_first ordered unspelled] at decision
      exact unspelled chosen (by rw [ordered]; exact mem_cons_self) decision
  · rintro ⟨scope, policy, first, spelled⟩
    have listed : policy ∈ orderedPolicies policies := by
      rwa [mem_ordered, (firstOf_some first).2.2]
    exact decision_prohibited listed spelled

theorem prohibited_or_other {decision : String} :
    (if decision = "" then "approval_required" else decision) = "prohibited" ↔ decision = "prohibited" := by
  by_cases empty : decision = ""
  · simp_all
  · rw [if_neg empty]

theorem policyDecision_prohibited : policyDecision tables request slug = "prohibited" ↔ Stopped tables request slug := by
  refine prohibited_or_other.trans (@decision_prohibited_iff (matched tables request slug) _ ?_)
  split
  · split <;> decide
  · decide

end Scopes

section Lookups

variable {tables grown : Tables} {request : Request} {grant added : ToolGrant} {slug : String} {subject : String × String}

def spellings (subjectType : String) : List String :=
  if subjectType = "department" then ["department", "dept"]
  else if subjectType = "organization" then ["organization", "company"]
  else [subjectType]

def InContext (request : Request) (grant : ToolGrant) : Prop :=
  ∃ subject ∈ subjects request, grant.subjectId = subject.2 ∧ grant.subjectType ∈ spellings subject.1

def Overlooked (tables : Tables) (request : Request) (grant : ToolGrant) : Prop :=
  ∃ subject ∈ subjects request, grant.subjectId = subject.2 ∧
    (subject.1 = "organization" ∧ grant.subjectType = "company" ∨
      subject.1 = "department" ∧ grant.subjectType = "dept" ∧
        tables.listToolGrantsForSubject "department" subject.2 ≠ [])

theorem mem_listed {subjectType subjectId : String} : grant ∈ tables.listToolGrantsForSubject subjectType subjectId ↔
    grant ∈ tables.grants ∧ grant.subjectType = subjectType ∧ grant.subjectId = subjectId := by
  unfold Tables.listToolGrantsForSubject
  rw [mem_filter, decide_eq_true_iff]

theorem mem_grantsOf : grant ∈ grantsOf tables subject ↔ grant ∈ tables.listToolGrantsForSubject subject.1 subject.2 ∨
    subject.1 = "department" ∧ tables.listToolGrantsForSubject subject.1 subject.2 = [] ∧
      grant ∈ tables.listToolGrantsForSubject "dept" subject.2 := by
  unfold grantsOf
  by_cases none_ : tables.listToolGrantsForSubject subject.1 subject.2 = []
  · by_cases department : subject.1 = "department" <;> simp_all
  · simp_all

theorem subject_kind (member : subject ∈ subjects request) :
    subject.1 ∈ ["organization", "department", "project", "agent", "skill"] := by
  rcases mem_subjects.mp member with ⟨_, _, rfl⟩ | ⟨_, _, rfl⟩ | ⟨_, _, rfl⟩ | ⟨_, _, rfl⟩ | ⟨_, _, _, rfl⟩ <;> simp

theorem department_id {id : String} (member : ("department", id) ∈ subjects request) :
    given request.departmentId = some id := by
  rcases mem_subjects.mp member with ⟨_, _, same⟩ | ⟨_, here, same⟩ | ⟨_, _, same⟩ | ⟨_, _, same⟩ | ⟨_, _, _, same⟩
  · simp at same
  · rwa [(Prod.mk.inj same).2]
  · simp at same
  · simp at same
  · simp at same

theorem InContext.seen (context : InContext request grant) (stored : grant ∈ tables.grants) :
    grant ∈ allGrants tables request ∨ Overlooked tables request grant := by
  obtain ⟨subject, member, id, spelled⟩ := context
  have canonical : grant.subjectType = subject.1 → grant ∈ allGrants tables request := fun same =>
    mem_allGrants.mpr ⟨subject, member, mem_grantsOf.mpr (.inl (mem_listed.mpr ⟨stored, same, id⟩))⟩
  unfold spellings at spelled
  split at spelled
  · rename_i department
    rcases mem_cons.mp spelled with same | legacy
    · exact .inl (canonical (same.trans department.symm))
    have dept := mem_singleton.mp legacy
    by_cases none_ : tables.listToolGrantsForSubject "department" subject.2 = []
    · refine .inl (mem_allGrants.mpr ⟨subject, member, mem_grantsOf.mpr (.inr ⟨department, ?_, ?_⟩)⟩)
      · rwa [department]
      · exact mem_listed.mpr ⟨stored, dept, id⟩
    · exact .inr ⟨subject, member, id, .inr ⟨department, dept, none_⟩⟩
  · split at spelled
    · rename_i organization
      rcases mem_cons.mp spelled with same | legacy
      · exact .inl (canonical (same.trans organization.symm))
      · exact .inr ⟨subject, member, id, .inl ⟨organization, mem_singleton.mp legacy⟩⟩
    · exact .inl (canonical (mem_singleton.mp spelled))

theorem Overlooked.context (overlooked : Overlooked tables request grant) : InContext request grant := by
  obtain ⟨subject, member, id, ⟨organization, company⟩ | ⟨department, dept, _⟩⟩ := overlooked
  · exact ⟨subject, member, id, by simp [spellings, organization, company]⟩
  · exact ⟨subject, member, id, by simp [spellings, department, dept]⟩

structure Adds (tables : Tables) (added : ToolGrant) (grown : Tables) : Prop where
  tools : grown.tools = tables.tools
  policies : grown.policies = tables.policies
  grants : ∃ before after, tables.grants = before ++ after ∧ grown.grants = before ++ added :: after

theorem Adds.mem (adds : Adds tables added grown) : grant ∈ grown.grants ↔ grant = added ∨ grant ∈ tables.grants := by
  obtain ⟨before, after, old, new⟩ := adds.grants
  rw [old, new, mem_append, mem_cons, mem_append]
  constructor
  · rintro (first | rfl | last)
    · exact .inr (.inl first)
    · exact .inl rfl
    · exact .inr (.inr last)
  · rintro (rfl | first | last)
    · exact .inr (.inl rfl)
    · exact .inl first
    · exact .inr (.inr last)

theorem Adds.names (adds : Adds tables added grown) : Names grown grant slug ↔ Names tables grant slug := by
  unfold Names
  rw [adds.tools]

theorem Adds.stopped (adds : Adds tables added grown) : Stopped grown request slug ↔ Stopped tables request slug := by
  unfold Stopped matched listApplicablePolicies
  rw [adds.policies]

theorem Adds.grantsOf (adds : Adds tables added grown) (found : grant ∈ grantsOf tables subject) :
    grant ∈ Authorization.grantsOf grown subject ∨
      subject.1 = "department" ∧ tables.listToolGrantsForSubject "department" subject.2 = [] ∧
        grant.subjectType = "dept" ∧ added ∈ grown.listToolGrantsForSubject "department" subject.2 := by
  rcases mem_grantsOf.mp found with canonical | ⟨department, none_, legacy⟩
  · obtain ⟨stored, type, id⟩ := mem_listed.mp canonical
    exact .inl (mem_grantsOf.mpr (.inl (mem_listed.mpr ⟨adds.mem.mpr (.inr stored), type, id⟩)))
  · obtain ⟨stored, type, id⟩ := mem_listed.mp legacy
    rw [department] at none_
    by_cases still : grown.listToolGrantsForSubject "department" subject.2 = []
    · refine .inl (mem_grantsOf.mpr (.inr ⟨department, ?_, mem_listed.mpr ⟨adds.mem.mpr (.inr stored), type, id⟩⟩))
      rwa [department]
    · obtain ⟨row, member⟩ := exists_mem_of_ne_nil _ still
      obtain ⟨there, kind, here⟩ := mem_listed.mp member
      rcases adds.mem.mp there with rfl | old
      · exact .inr ⟨department, none_, type, member⟩
      · have listed : row ∈ tables.listToolGrantsForSubject "department" subject.2 := mem_listed.mpr ⟨old, kind, here⟩
        rw [none_] at listed
        exact absurd listed not_mem_nil

theorem Adds.found (adds : Adds tables added grown) (found : grant ∈ Authorization.grantsOf grown subject)
    (other : grant ≠ added) : grant ∈ Authorization.grantsOf tables subject := by
  rcases mem_grantsOf.mp found with canonical | ⟨department, none_, legacy⟩
  · obtain ⟨stored, type, id⟩ := mem_listed.mp canonical
    exact mem_grantsOf.mpr (.inl (mem_listed.mpr ⟨(adds.mem.mp stored).resolve_left other, type, id⟩))
  · obtain ⟨stored, type, id⟩ := mem_listed.mp legacy
    refine mem_grantsOf.mpr (.inr ⟨department, ?_, mem_listed.mpr ⟨(adds.mem.mp stored).resolve_left other, type, id⟩⟩)
    rw [eq_nil_iff_forall_not_mem]
    intro row member
    obtain ⟨there, kind, here⟩ := mem_listed.mp member
    have listed := mem_listed.mpr ⟨adds.mem.mpr (.inr there), kind, here⟩
    rw [none_] at listed
    exact absurd listed not_mem_nil

end Lookups

structure AddsPolicy (tables : Tables) (added : ActionPolicy) (grown : Tables) : Prop where
  tools : grown.tools = tables.tools
  grants : grown.grants = tables.grants
  policies : ∃ before after, tables.policies = before ++ after ∧ grown.policies = before ++ added :: after

section Grown

variable {tables grown : Tables} {request : Request} {grant added : ToolGrant} {slug : String}

theorem Adds.hidden {id : String} (adds : Adds tables added grown) (department : given request.departmentId = some id)
    (hides : added ∈ grown.listToolGrantsForSubject "department" id) (other : grant ≠ added) :
    grant ∈ allGrants grown request ↔ grant ∈ (allGrants tables request).filter (·.subjectType ≠ "dept") := by
  rw [mem_filter, mem_allGrants, mem_allGrants]
  constructor
  · rintro ⟨subject, member, found⟩
    refine ⟨⟨subject, member, adds.found found other⟩, ?_⟩
    rw [decide_eq_true_iff]
    intro dept
    rcases mem_grantsOf.mp found with canonical | ⟨here, empty, _⟩
    · have kind := subject_kind member
      simp [← (mem_listed.mp canonical).2.1, dept] at kind
    · obtain ⟨scope, named⟩ := subject
      cases (here : scope = "department")
      have same := department_id member
      rw [department] at same
      cases same
      have row : added ∈ grown.listToolGrantsForSubject "department" id := hides
      rw [empty] at row
      exact absurd row not_mem_nil
  · rintro ⟨⟨subject, member, found⟩, kept⟩
    refine ⟨subject, member, ?_⟩
    rcases adds.grantsOf found with still | ⟨_, _, dept, _⟩
    · exact still
    · exact absurd dept (of_decide_eq_true kept)

end Grown

section Inserted

variable {tables grown : Tables} {request : Request} {added : ActionPolicy} {slug scope : String}

theorem AddsPolicy.allGrants (adds : AddsPolicy tables added grown) :
    Authorization.allGrants grown request = Authorization.allGrants tables request := by
  unfold Authorization.allGrants grantsByScope Authorization.grantsOf Tables.listToolGrantsForSubject
  rw [adds.grants]

theorem AddsPolicy.passes (adds : AddsPolicy tables added grown) {grants : List ToolGrant} :
    Passes grown request grants slug ↔ Passes tables request grants slug := by
  have names : ∀ grant, Names grown grant slug ↔ Names tables grant slug := by
    intro grant
    unfold Names
    rw [adds.tools]
  constructor
  · intro passes
    obtain ⟨grant, found, allows_, named⟩ := passes.allowed
    exact ⟨passes.named, passes.wanted, passes.declared, ⟨grant, found, allows_, (names grant).mp named⟩,
      fun other there same => passes.undenied other there ((names other).mpr same)⟩
  · intro passes
    obtain ⟨grant, found, allows_, named⟩ := passes.allowed
    exact ⟨passes.named, passes.wanted, passes.declared, ⟨grant, found, allows_, (names grant).mpr named⟩,
      fun other there same => passes.undenied other there ((names other).mp same)⟩

theorem AddsPolicy.first (adds : AddsPolicy tables added grown) (other : added.scope ≠ scope) :
    firstOf (matched grown request slug) scope = firstOf (matched tables request slug) scope := by
  obtain ⟨before, after, old, new⟩ := adds.policies
  unfold matched listApplicablePolicies firstOf
  simp_all

end Inserted

section Law

variable {tables : Tables} {request : Request}

/-- A grant of the context that denies and a policy of its scopes that prohibits win, and neither adds a tool. -/
structure DenyWins (tables : Tables) (request : Request) : Prop where
  denied : ∀ slug ∈ (resolveEffectiveToolPermissions tables request).effectiveAllow, ∀ grant ∈ tables.grants,
    InContext request grant → Names tables grant slug → denies grant = false
  prohibited : ∀ slug ∈ (resolveEffectiveToolPermissions tables request).effectiveAllow, ∀ policy ∈ tables.policies,
    policy.ownerId = request.ownerId → policy.actionKey = slug → InScope request policy → ¬ policy.prohibits
  denyAdds : ∀ grown added, Adds tables added grown → denies added = true →
    ∀ slug ∈ (resolveEffectiveToolPermissions grown request).effectiveAllow,
      slug ∈ (resolveEffectiveToolPermissions tables request).effectiveAllow
  prohibitionAdds : ∀ grown added, AddsPolicy tables added grown → added.prohibits →
    ∀ slug ∈ (resolveEffectiveToolPermissions grown request).effectiveAllow,
      slug ∈ (resolveEffectiveToolPermissions tables request).effectiveAllow

/-- For every tool the grants that are looked up allow: no other row of the context denies it, unless a policy stops it;
    a policy of the context that prohibits it is followed by one that stops it; if legacy rows of the department deny it,
    a row of the new type for another tool does not free it; and if one policy stops it, one of another scope does. -/
structure Heeded (tables : Tables) (request : Request) : Prop where
  rows : ∀ slug, Passes tables request (allGrants tables request) slug → ¬ Stopped tables request slug →
    ∀ grant ∈ tables.grants, Overlooked tables request grant → Names tables grant slug → denies grant = false
  policies : ∀ slug, Passes tables request (allGrants tables request) slug → ∀ policy ∈ tables.policies,
    policy.ownerId = request.ownerId → policy.actionKey = slug → InScope request policy → policy.prohibits →
    Stopped tables request slug
  legacy : ∀ id, given request.departmentId = some id → tables.listToolGrantsForSubject "department" id = [] →
    ∀ slug, Passes tables request ((allGrants tables request).filter (·.subjectType ≠ "dept")) slug →
    ¬ Stopped tables request slug → (∃ tool ∈ tables.tools, tool.slug ≠ slug) →
    ∀ grant ∈ allGrants tables request, grant.subjectType = "dept" → Names tables grant slug → denies grant = false
  twice : ∀ slug, Passes tables request (allGrants tables request) slug → ∀ scope policy,
    firstOf (matched tables request slug) scope = some policy → policy.decision = "prohibited" →
    ∃ other also_, other ≠ scope ∧ firstOf (matched tables request slug) other = some also_ ∧ also_.decision = "prohibited"

theorem mem_allow {slug : String} : slug ∈ (resolveEffectiveToolPermissions tables request).effectiveAllow ↔
    Passes tables request (allGrants tables request) slug ∧ ¬ Stopped tables request slug := by
  rw [mem_effectiveAllow, Ne, policyDecision_prohibited]

def Tables.denyFirst (tables : Tables) (tool : ToolDefinition) (member : tool ∈ tables.tools) (department : String) :
    Tables :=
  { tables with
    grants := ⟨"", tool.id, "department", department, "deny"⟩ :: tables.grants
    refers := fun grant among => by
      rcases List.mem_cons.mp among with rfl | old
      · exact ⟨tool, member, rfl⟩
      · exact tables.refers grant old }

def Tables.prohibitFirst (tables : Tables) (policy : ActionPolicy) : Tables :=
  { tables with policies := { policy with decision := "PROHIBITED" } :: tables.policies }

end Law

section Necessary

variable {tables : Tables} {request : Request}

theorem Tables.denyFirst_adds {tool : ToolDefinition} (member : tool ∈ tables.tools) (department : String) :
    Adds tables ⟨"", tool.id, "department", department, "deny"⟩ (tables.denyFirst tool member department) :=
  ⟨rfl, rfl, [], tables.grants, rfl, rfl⟩

theorem Tables.prohibitFirst_adds (policy : ActionPolicy) :
    AddsPolicy tables { policy with decision := "PROHIBITED" } (tables.prohibitFirst policy) :=
  ⟨rfl, rfl, [], tables.policies, rfl, rfl⟩

theorem DenyWins.legacy (wins : DenyWins tables request) {id : String} (department : given request.departmentId = some id)
    {slug : String} (passes : Passes tables request ((allGrants tables request).filter (·.subjectType ≠ "dept")) slug)
    (free : ¬ Stopped tables request slug) {tool : ToolDefinition} (member : tool ∈ tables.tools) (differs : tool.slug ≠ slug)
    {grant : ToolGrant} (found : grant ∈ allGrants tables request) (names : Names tables grant slug) : denies grant = false := by
  let added : ToolGrant := ⟨"", tool.id, "department", id, "deny"⟩
  let grown := tables.denyFirst tool member id
  have adds : Adds tables added grown := tables.denyFirst_adds member id
  have listed : added ∈ grown.listToolGrantsForSubject "department" id :=
    mem_listed.mpr ⟨mem_cons_self, rfl, rfl⟩
  have denied : denies added = true := decide_eq_true (by decide : Text.lower "deny" = "deny")
  have unnamed : ¬ Names tables added slug := by
    rintro ⟨other, among, same, rfl⟩
    exact differs (by rw [tables.same_id among member same])
  have passes' : Passes grown request (allGrants grown request) slug := by
    refine ⟨passes.named, passes.wanted, passes.declared, ?_, fun other there same => ?_⟩
    · obtain ⟨allowing, here, allows_, same⟩ := passes.allowed
      have fresh : allowing ≠ added := by grind
      exact ⟨allowing, (adds.hidden department listed fresh).mpr here, allows_, adds.names.mpr same⟩
    · have same' := adds.names.mp same
      have fresh : other ≠ added := by grind
      exact passes.undenied other ((adds.hidden department listed fresh).mp there) same'
  have granted := wins.denyAdds grown added adds denied slug (mem_allow.mpr ⟨passes', fun stops => free (adds.stopped.mp stops)⟩)
  exact (mem_allow.mp granted).1.undenied grant found names

theorem DenyWins.twice (wins : DenyWins tables request) {slug : String}
    (passes : Passes tables request (allGrants tables request) slug) {scope : String} {policy : ActionPolicy}
    (first : firstOf (matched tables request slug) scope = some policy) (spelled : policy.decision = "prohibited") :
    ∃ other also_, other ≠ scope ∧ firstOf (matched tables request slug) other = some also_ ∧
      also_.decision = "prohibited" := by
  by_contra alone
  obtain ⟨member, counts, rfl⟩ := firstOf_some first
  let added : ActionPolicy := { policy with decision := "PROHIBITED" }
  have adds : AddsPolicy tables added (tables.prohibitFirst policy) := tables.prohibitFirst_adds policy
  have known : policy.scope ∈ policyScopeOrder := (policy.counts_iff.mp counts).1
  have prohibits : added.prohibits := ⟨known, (by decide : normalized "PROHIBITED" = "prohibited")⟩
  have top : firstOf (matched (tables.prohibitFirst policy) request slug) policy.scope = some added := by
    obtain ⟨row, applies⟩ := mem_filter.mp member
    obtain ⟨_, keyed⟩ := mem_filter.mp row
    have head : matched (tables.prohibitFirst policy) request slug = added :: matched tables request slug := by
      unfold matched listApplicablePolicies
      rw [Tables.prohibitFirst, filter_cons_of_pos (by exact keyed), filter_cons_of_pos (by exact applies)]
    rw [head]
    exact find?_cons_of_pos (decide_eq_true ⟨prohibits.counts, rfl⟩)
  have free : ¬ Stopped (tables.prohibitFirst policy) request slug := by
    rintro ⟨scope, stopping, here, stops⟩
    by_cases same : scope = policy.scope
    · grind
    · rw [adds.first fun eq => same eq.symm] at here
      exact alone ⟨scope, stopping, same, here, stops⟩
  have passes' := adds.passes.mpr (adds.allGrants ▸ passes)
  have granted := wins.prohibitionAdds _ added adds prohibits slug (mem_allow.mpr ⟨passes', free⟩)
  exact (mem_allow.mp granted).2 ⟨_, policy, first, spelled⟩

theorem DenyWins.heeded (wins : DenyWins tables request) : Heeded tables request := by
  constructor
  case rows =>
    intro slug passes free grant stored overlooked names
    exact wins.denied slug (mem_allow.mpr ⟨passes, free⟩) grant stored overlooked.context names
  case policies =>
    intro slug passes policy stored owner key scope_ prohibits
    by_contra free
    exact wins.prohibited slug (mem_allow.mpr ⟨passes, free⟩) policy stored owner key scope_ prohibits
  case legacy =>
    intro id department _ slug passes free ⟨tool, member, differs⟩ grant found _ names
    exact wins.legacy department passes free member differs found names
  case twice =>
    intro slug passes scope policy first spelled
    exact wins.twice passes first spelled

end Necessary

section Sufficient

variable {tables grown : Tables} {request : Request} {slug : String}

theorem Heeded.denied (heeded : Heeded tables request)
    (allowed : slug ∈ (resolveEffectiveToolPermissions tables request).effectiveAllow) {grant : ToolGrant}
    (stored : grant ∈ tables.grants) (context : InContext request grant) (names : Names tables grant slug) :
    denies grant = false := by
  obtain ⟨passes, free⟩ := mem_allow.mp allowed
  rcases context.seen stored with found | overlooked
  · exact passes.undenied grant found names
  · exact heeded.rows slug passes free grant stored overlooked names

theorem Heeded.denyAdds (heeded : Heeded tables request) {added : ToolGrant} (adds : Adds tables added grown)
    (denying : denies added = true) (allowed : slug ∈ (resolveEffectiveToolPermissions grown request).effectiveAllow) :
    slug ∈ (resolveEffectiveToolPermissions tables request).effectiveAllow := by
  obtain ⟨passes, free⟩ := mem_allow.mp allowed
  have free' : ¬ Stopped tables request slug := fun stops => free (adds.stopped.mpr stops)
  obtain ⟨allowing, found, allows_, names⟩ := passes.allowed
  have fresh : ∀ {grant}, denies grant = false → grant ≠ added := by grind
  have other : allowing ≠ added := fresh (passes.undenied allowing found names)
  have before : allowing ∈ allGrants tables request := by
    obtain ⟨subject, member, here⟩ := mem_allGrants.mp found
    exact mem_allGrants.mpr ⟨subject, member, adds.found here other⟩
  refine mem_allow.mpr ⟨⟨passes.named, passes.wanted, passes.declared, ?_, fun grant there same => ?_⟩, free'⟩
  · exact ⟨allowing, before, allows_, adds.names.mp names⟩
  obtain ⟨⟨scope, id⟩, member, here⟩ := mem_allGrants.mp there
  rcases adds.grantsOf here with still | ⟨department, none_, dept, hides⟩
  · exact passes.undenied grant (mem_allGrants.mpr ⟨_, member, still⟩) (adds.names.mpr same)
  -- The rows that were seen are hidden now: what remains of them passes by itself.
  cases (department : scope = "department")
  have department := department_id member
  have seen : added ∈ allGrants grown request := mem_allGrants.mpr ⟨_, member, mem_grantsOf.mpr (.inl hides)⟩
  obtain ⟨tool, among, refers⟩ := grown.refers added (allGrants_sub seen)
  have differs : tool.slug ≠ slug := by
    intro same
    have undenied := passes.undenied added seen ⟨tool, among, refers, same⟩
    simp [denying] at undenied
  have kept : Passes tables request ((allGrants tables request).filter (·.subjectType ≠ "dept")) slug := by
    refine ⟨passes.named, passes.wanted, passes.declared, ?_, fun row listed names => ?_⟩
    · exact ⟨allowing, (adds.hidden department hides other).mp found, allows_, adds.names.mp names⟩
    · by_cases again : row = added
      · exact passes.undenied row (again ▸ seen) (adds.names.mpr names)
      · exact passes.undenied row ((adds.hidden department hides again).mpr listed) (adds.names.mpr names)
  exact heeded.legacy id department none_ slug kept free' ⟨tool, adds.tools ▸ among, differs⟩ grant there dept same

theorem Heeded.prohibitionAdds (heeded : Heeded tables request) {added : ActionPolicy} (adds : AddsPolicy tables added grown)
    (allowed : slug ∈ (resolveEffectiveToolPermissions grown request).effectiveAllow) :
    slug ∈ (resolveEffectiveToolPermissions tables request).effectiveAllow := by
  obtain ⟨passes, free⟩ := mem_allow.mp allowed
  rw [adds.allGrants, adds.passes] at passes
  refine mem_allow.mpr ⟨passes, ?_⟩
  rintro ⟨scope, policy, first, spelled⟩
  obtain ⟨other, also_, differs, second, spelled'⟩ := heeded.twice slug passes scope policy first spelled
  by_cases here : added.scope = scope
  · have elsewhere : added.scope ≠ other := fun same => differs (same.symm.trans here)
    exact free ⟨other, also_, (adds.first elsewhere).trans second, spelled'⟩
  · exact free ⟨scope, policy, (adds.first here).trans first, spelled⟩

end Sufficient

def secondSkill : Tables where
  tools := [⟨"t1", "shell", "high", false⟩]
  grants := [⟨"g1", "t1", "project", "p1", "allow"⟩]
  policies := [⟨"a1", "u1", "skill", some "s2", "shell", "prohibited"⟩]
  ids := by decide
  named := by decide
  slugs := by decide
  refers := by decide

def twoSkills : Request :=
  { ownerId := "u1", agentId := none, projectId := some "p1", companyId := none, departmentId := none,
    skillIds := ["s1", "s2"], toolSlugs := [], declaredTools := [] }

end Troop.Authorization
