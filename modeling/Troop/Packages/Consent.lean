import Troop.Packages.Installs

namespace Troop.Packages

open List

variable {service : Service}

inductive Action where
  | create (workspaceId userId kind marketplaceSlug : String)
  | publish (workspaceId userId packageId : String) (payload : Dict Json)
  | install (request : InstallRequest)
  /-- Skills, workflows and the rest are changed by their owners. -/
  | edited (skills : List SkillRow) (workflows : List WorkflowRow) (others : List OtherRow)
  | userDeleted (userId : String)

def Version.forget (userId : String) (version : Version) : Version :=
  { version with createdBy := if version.createdBy = some userId then none else version.createdBy }

def World.step (service : Service) (w : World) : Action → World
  | .create workspaceId userId kind slug => (createFromMarketplace service workspaceId userId kind slug w).2
  | .publish workspaceId userId packageId payload => (publishVersion service workspaceId userId packageId payload w).2
  | .install request => (installOrUpgrade service request w).2
  | .edited skills workflows others => { w with library := { w.library with skills, workflows, others } }
  | .userDeleted userId => { w with versions := w.versions.map (Version.forget userId) }

inductive Reaches (service : Service) (careful : World → Action → Prop) : World → Prop
  | init : Reaches service careful {}
  | step {w : World} (earlier : Reaches service careful w) (action : Action) (care : careful w action) :
      Reaches service careful (w.step service action)

def runtimeTools (kind : String) (payload : Dict Json) : List String :=
  if kind = "workflow" then
    (graphOf payload).nodes.filterMap fun node =>
      if Workflow.nodeType node = some .tool then
        match Workflow.nodeConfig node with
        | .ok config => if Workflow.configuredTool config = "" then none else some (Workflow.configuredTool config)
        | .error _ => none
      else none
  else []

def Manifest.tool (manifest : Manifest) (tool : String) : Prop :=
  tool ∈ manifest .requiredTools ∨ tool ∈ manifest .allowedTools

section Claim

variable (service) (request : InstallRequest) (before after : World) (package : Package) (version : Version)

structure FromPayload : Prop where
  skills : ∀ row ∈ after.library.skills, row ∉ before.library.skills →
    package.kind = "skill" ∧ ∃ slug, row.content = skillOf slug version.payload
  workflows : ∀ row ∈ after.library.workflows, row ∉ before.library.workflows →
    package.kind = "workflow" ∧ row.content = workflowOf version.payload
  skill : package.kind = "skill" → ∃ slug row, package.sourceMarketplaceSlug = some slug ∧
    after.library.skill? request.userId slug = some row ∧ row.content = skillOf slug version.payload
  workflow : package.kind = "workflow" → ∃ slug row, package.sourceMarketplaceSlug = some slug ∧
    after.library.workflow? request.userId slug = some row ∧ row.content = workflowOf version.payload

def Previously (previous : Version) : Prop :=
  ∃ row, before.installation? request.workspaceId package.id = some row ∧
    before.version? package.id row.installedVersionId = some previous

/-- What is installed after a successful call is what was signed and consented to. -/
structure Consented : Prop where
  content : FromPayload request before after package version
  signed : ∃ signer, version.trust = signWorkspacePackage service.signing (contentHash service.signing version.payload) signer
  manifest : version.manifest = extractPermissionManifest version.payload package.kind
  accepted : ∃ row, after.installation? request.workspaceId package.id = some row ∧ row.installedVersionId = version.id ∧
    (∀ permission, version.manifest.grants permission → row.accepted permission) ∧
    ∀ tool ∈ runtimeTools package.kind version.payload,
      row.accepted (.requiredTools, tool) ∨ row.accepted (.allowedTools, tool)
  permissions : ∀ permission, version.manifest.grants permission →
    (∀ previous, Previously request before package previous → ¬ previous.manifest.grants permission) →
    request.acceptPermissionChanges = true
  tools : ∀ tool ∈ runtimeTools package.kind version.payload,
    (∀ previous, Previously request before package previous → ¬ previous.manifest.tool tool) →
    request.acceptPermissionChanges = true

structure SameContent : Prop where
  skill : package.kind = "skill" → request.applyMarketplaceInstall = true ∧
    ∃ slug, package.sourceMarketplaceSlug = some slug ∧ slug ≠ "" ∧
      (∀ row, before.library.skill? request.userId slug = some row → row.content = skillOf slug version.payload) ∧
      (before.library.skill? request.userId slug = none → ∀ item, findItem service.market.skills slug = some item →
        skillOf slug item = skillOf slug version.payload)
  workflow : package.kind = "workflow" → request.applyMarketplaceInstall = true ∧
    ∃ slug, package.sourceMarketplaceSlug = some slug ∧ slug ≠ "" ∧
      (∀ row, before.library.workflow? request.userId slug = some row → row.content = workflowOf version.payload) ∧
      (before.library.workflow? request.userId slug = none → slug ≠ emailApprovalFlagshipSlug ∧
        ∀ item, findItem service.market.workflows slug = some item → workflowOf item = workflowOf version.payload)

structure CarefulInstall : Prop where
  content : SameContent service request before package version
  listed : ∀ tool ∈ runtimeTools package.kind version.payload, version.manifest.tool tool
  allowed : request.acceptPermissionChanges = false → ∀ tool ∈ version.manifest .allowedTools,
    ∃ previous, Previously request before package previous ∧ tool ∈ previous.manifest .allowedTools

end Claim

def careful (service : Service) (w : World) : Action → Prop
  | .install request => ∀ package version, w.ownedPackage? request.workspaceId request.packageId = some package →
      w.version? package.id request.versionId = some version → CarefulInstall service request w package version
  | _ => True

section Inversion

variable {owner slug : String} {library after : Library} {id : String}

theorem installSkill_ok (ran : installSkill service.market owner slug library = (.ok id, after)) :
    (∃ row, library.skill? owner slug = some row ∧ after = library) ∨
      library.skill? owner slug = none ∧ ∃ item, findItem service.market.skills slug = some item ∧
        after = { library with
          drawn := library.drawn + 1
          skills := library.skills ++ [⟨service.market.uuid4 library.drawn, owner, slug, skillOf slug item⟩] } := by
  unfold installSkill at ran
  split at ran
  · cases ran
  split at ran
  · split at ran
    · simp_all
    · cases ran
  · split at ran
    · cases ran
    · grind

theorem storeWorkflow_ok {item : Dict Json} {graph : Workflow.Graph} {publish : Bool}
    (ran : storeWorkflow service.market owner slug item graph publish library = (.ok id, after)) :
    after = { library with
      drawn := library.drawn + 1
      workflows := library.workflows ++ [⟨service.market.uuid4 library.drawn, owner, slug,
        { workflowOf item with graph := canonicalizeWorkflowGraph graph, published := publish }⟩] } := by
  unfold storeWorkflow at ran
  dsimp only at ran
  split at ran
  · cases ran
  · split at ran
    · cases ran
    · cases ran
      rfl

theorem installWorkflow_ok (other : library.workflow? owner slug = none → slug ≠ emailApprovalFlagshipSlug)
    (ran : installWorkflow service.market owner slug library = (.ok id, after)) :
    (∃ row, library.workflow? owner slug = some row ∧ after = library) ∨
      library.workflow? owner slug = none ∧ ∃ item, findItem service.market.workflows slug = some item ∧
        after = { library with
          drawn := library.drawn + 1
          workflows := library.workflows ++
            [⟨service.market.uuid4 library.drawn, owner, slug, workflowOf item⟩] } := by
  unfold installWorkflow at ran
  split at ran
  · cases ran
  rename_i item found
  split at ran
  · simp_all
  · rename_i none
    rw [if_neg (other none)] at ran
    exact .inr ⟨none, item, found, storeWorkflow_ok ran⟩

theorem installOther_keeps {items : List (Dict Json)} {kind place : String} {result : Except HttpError String}
    (ran : installOther service.market items kind place slug library = (result, after)) :
    after.skills = library.skills ∧ after.workflows = library.workflows ∧ after.drawn = library.drawn := by
  unfold installOther at ran
  split at ran
  · simp_all
  split at ran
  · simp_all
  · split at ran
    · simp_all
    · grind

end Inversion

section Drawn

variable {owner slug : String} {library : Library}

theorem installSkill_drawn : library.drawn ≤ (installSkill service.market owner slug library).2.drawn := by
  unfold installSkill
  split
  · exact Nat.le_refl _
  split
  · split <;> exact Nat.le_refl _
  · split
    · exact Nat.le_refl _
    · exact Nat.le_succ _

theorem storeWorkflow_drawn {item : Dict Json} {graph : Workflow.Graph} {publish : Bool} :
    library.drawn ≤ (storeWorkflow service.market owner slug item graph publish library).2.drawn := by
  unfold storeWorkflow
  dsimp only
  split
  · exact Nat.le_refl _
  · split
    · exact Nat.le_refl _
    · exact Nat.le_succ _

theorem installWorkflow_drawn : library.drawn ≤ (installWorkflow service.market owner slug library).2.drawn := by
  unfold installWorkflow
  split
  · exact Nat.le_refl _
  split
  · exact Nat.le_refl _
  split
  · have skill : library.drawn ≤ (installSkill service.market owner "email-response-drafter" library).2.drawn :=
      installSkill_drawn
    split
    · simp_all
    · rename_i ran
      rw [ran] at skill
      exact Nat.le_trans skill storeWorkflow_drawn
  · exact storeWorkflow_drawn

theorem applied_drawn {request : InstallRequest} {package : Package} {version : Version} :
    library.drawn ≤ (applied service request package version library).2.drawn := by
  have payload : ∀ slug, library.drawn ≤
      (applyMarketplacePayload service request.userId package.kind slug version.payload library).2.drawn := by
    intro slug
    unfold applyMarketplacePayload
    dsimp only
    split
    · exact installSkill_drawn
    split
    · exact installWorkflow_drawn
    split
    · split
      · exact Nat.le_refl _
      · exact (installOther_keeps rfl).2.2.ge
    · split
      · exact (installOther_keeps rfl).2.2.ge
      · exact Nat.le_refl _
  unfold applied
  split
  · rename_i slug _
    split
    · have more := payload slug
      split <;> simp_all
    · exact Nat.le_refl _
  · exact Nat.le_refl _

end Drawn

structure Succeeded (service : Service) (request : InstallRequest) (before after : World) (package : Package)
    (version : Version) : Prop where
  owned : before.ownedPackage? request.workspaceId request.packageId = some package
  found : before.version? package.id request.versionId = some version
  previous : ∃ previous, previousManifest before package (before.installation? request.workspaceId package.id) = .ok previous ∧
    ((diffPermissionManifests previous version.manifest).requiresExplicitAcceptance = true →
      request.acceptPermissionChanges = true)
  installed : ∃ marketplace library, applied service request package version before.library = (.ok marketplace, library) ∧
    after = before.recordInstallation request package version library

theorem installOrUpgrade_ok {request : InstallRequest} {before after : World} {installed : Installed}
    (ran : installOrUpgrade service request before = (.ok installed, after)) :
    ∃ package version, Succeeded service request before after package version := by
  unfold installOrUpgrade at ran
  split at ran
  · cases ran
  rename_i package owned
  split at ran
  · cases ran
  rename_i version found
  split at ran
  · cases ran
  dsimp only at ran
  split at ran
  · cases ran
  rename_i previous known
  split at ran
  · cases ran
  rename_i quiet
  split at ran
  · cases ran
  rename_i marketplace library done
  cases ran
  refine ⟨package, version, owned, found, ⟨previous, known, fun asks => ?_⟩, marketplace, library, done, rfl⟩
  by_contra refused
  exact quiet ⟨asks, refused⟩

theorem installOrUpgrade_tables {request : InstallRequest} {w : World} :
    (∃ library, w.library.drawn ≤ library.drawn ∧ (installOrUpgrade service request w).2 = { w with library }) ∨
      ∃ package version, Succeeded service request w (installOrUpgrade service request w).2 package version := by
  cases ran : installOrUpgrade service request w with
  | mk result after =>
    cases result with
    | ok installed => exact .inr (installOrUpgrade_ok ran)
    | error error =>
      refine .inl ?_
      have same : ∃ library, w.library.drawn ≤ library.drawn ∧ w = { w with library } := ⟨w.library, Nat.le_refl _, rfl⟩
      unfold installOrUpgrade at ran
      split at ran
      · simp_all
      rename_i package _
      split at ran
      · simp_all
      rename_i version _
      split at ran
      · simp_all
      dsimp only at ran
      split at ran
      · simp_all
      split at ran
      · simp_all
      have more : w.library.drawn ≤ (applied service request package version w.library).2.drawn :=
        applied_drawn
      split at ran
      · grind
      · cases ran

def Drawn (service : Service) (w : World) (id : String) : Prop := ∃ k < w.library.drawn, id = service.market.uuid4 k

theorem Drawn.fresh {w : World} {id : String} (drawn : Drawn service w id) : id ≠ service.market.uuid4 w.library.drawn := by
  obtain ⟨k, before, rfl⟩ := drawn
  exact fun same => absurd (service.market.uuid4_injective same) (Nat.ne_of_lt before)

structure Sound (service : Service) (w : World) : Prop where
  packageIds : (w.packages.map Package.id).Nodup
  versionIds : (w.versions.map Version.id).Nodup
  drawnPackages : ∀ package ∈ w.packages, Drawn service w package.id
  drawnVersions : ∀ version ∈ w.versions, Drawn service w version.id
  signed : ∀ version ∈ w.versions, ∃ signer,
    version.trust = signWorkspacePackage service.signing (contentHash service.signing version.payload) signer
  manifests : ∀ version ∈ w.versions, ∃ package ∈ w.packages, package.id = version.packageId ∧
    version.manifest = extractPermissionManifest version.payload package.kind
  consented : ∀ row ∈ w.installations, ∃ version ∈ w.versions, version.id = row.installedVersionId ∧
    version.packageId = row.packageId ∧ ∀ permission, version.manifest.grants permission → row.accepted permission

theorem unique_of_nodup {α : Type} {id : α → String} {items : List α} (nodup : (items.map id).Nodup) {a b : α}
    (left : a ∈ items) (right : b ∈ items) (same : id a = id b) : a = b :=
  inj_on_of_nodup_map nodup left right same

section Lookups

variable {w : World}

theorem World.ownedPackage?_some {workspaceId packageId : String} {package : Package}
    (found : w.ownedPackage? workspaceId packageId = some package) :
    package ∈ w.packages ∧ package.id = packageId ∧ package.workspaceId = workspaceId := by
  have given := find?_some found
  simp only [decide_eq_true_eq] at given
  exact ⟨mem_of_find?_eq_some found, given⟩

theorem World.version?_some {packageId versionId : String} {version : Version}
    (found : w.version? packageId versionId = some version) :
    version ∈ w.versions ∧ version.id = versionId ∧ version.packageId = packageId := by
  have given := find?_some found
  simp only [decide_eq_true_eq] at given
  exact ⟨mem_of_find?_eq_some found, given⟩

theorem World.installation?_some {workspaceId packageId : String} {row : Installation}
    (found : w.installation? workspaceId packageId = some row) :
    row ∈ w.installations ∧ row.workspaceId = workspaceId ∧ row.packageId = packageId := by
  have given := find?_some found
  simp only [decide_eq_true_eq] at given
  exact ⟨mem_of_find?_eq_some found, given⟩

end Lookups

theorem Sound.init : Sound service {} := by
  constructor <;> simp

section Steps

variable {w : World}

theorem Sound.draw (sound : Sound service w) {library : Library} (more : w.library.drawn ≤ library.drawn) :
    Sound service { w with library } where
  packageIds := sound.packageIds
  versionIds := sound.versionIds
  drawnPackages package member := by
    obtain ⟨k, before, same⟩ := sound.drawnPackages package member
    exact ⟨k, Nat.lt_of_lt_of_le before more, same⟩
  drawnVersions version member := by
    obtain ⟨k, before, same⟩ := sound.drawnVersions version member
    exact ⟨k, Nat.lt_of_lt_of_le before more, same⟩
  signed := sound.signed
  manifests := sound.manifests
  consented := sound.consented

theorem Sound.addVersion (sound : Sound service w) {package : Package} (member : package ∈ w.packages) (userId : String)
    (payload : Dict Json) (number : Nat) : Sound service (w.addVersion service package userId payload number) := by
  have grown : Sound service { w with library := { w.library with drawn := w.library.drawn + 1 } } :=
    sound.draw (Nat.le_succ _)
  have fresh : service.market.uuid4 w.library.drawn ∉ w.versions.map Version.id := by
    intro there
    obtain ⟨version, inside, same⟩ := mem_map.mp there
    exact (sound.drawnVersions version inside).fresh same
  constructor
  · exact sound.packageIds
  · change (map Version.id (w.versions ++ [_])).Nodup
    rw [map_append, nodup_append]
    refine ⟨sound.versionIds, by simp, ?_⟩
    intro id there other last same
    obtain rfl : other = service.market.uuid4 w.library.drawn := by simpa [signedVersion] using last
    exact fresh (same ▸ there)
  · exact grown.drawnPackages
  · intro version inside
    rcases mem_append.mp inside with old | new
    · exact grown.drawnVersions version old
    · obtain rfl := mem_singleton.mp new
      exact ⟨w.library.drawn, Nat.lt_succ_self _, rfl⟩
  · intro version inside
    rcases mem_append.mp inside with old | new
    · exact sound.signed version old
    · obtain rfl := mem_singleton.mp new
      exact ⟨userId, rfl⟩
  · intro version inside
    rcases mem_append.mp inside with old | new
    · exact sound.manifests version old
    · obtain rfl := mem_singleton.mp new
      exact ⟨package, member, rfl, rfl⟩
  · intro row inside
    obtain ⟨version, there, given⟩ := sound.consented row inside
    exact ⟨version, mem_append_left _ there, given⟩

theorem Sound.addPackage (sound : Sound service w) (workspaceId slug kind : String) (source : Option String) :
    Sound service { w with
      library := { w.library with drawn := w.library.drawn + 1 }
      packages := w.packages ++ [⟨service.market.uuid4 w.library.drawn, workspaceId, slug, kind, source⟩] } := by
  have grown : Sound service { w with library := { w.library with drawn := w.library.drawn + 1 } } :=
    sound.draw (Nat.le_succ _)
  constructor
  · rw [map_append, nodup_append]
    refine ⟨sound.packageIds, by simp, ?_⟩
    intro id there other last same
    obtain rfl : other = service.market.uuid4 w.library.drawn := by simpa using last
    obtain ⟨package, inside, named⟩ := mem_map.mp there
    exact (sound.drawnPackages package inside).fresh (named.trans same)
  · exact sound.versionIds
  · intro package inside
    rcases mem_append.mp inside with old | new
    · exact grown.drawnPackages package old
    · obtain rfl := mem_singleton.mp new
      exact ⟨w.library.drawn, Nat.lt_succ_self _, rfl⟩
  · exact grown.drawnVersions
  · exact sound.signed
  · intro version inside
    obtain ⟨package, there, given⟩ := sound.manifests version inside
    exact ⟨package, mem_append_left _ there, given⟩
  · exact sound.consented

theorem Sound.forget (sound : Sound service w) (userId : String) :
    Sound service { w with versions := w.versions.map (Version.forget userId) } := by
  have ids : (w.versions.map (Version.forget userId)).map Version.id = w.versions.map Version.id := by
    rw [map_map]
    rfl
  constructor
  · exact sound.packageIds
  · exact ids ▸ sound.versionIds
  · exact sound.drawnPackages
  · intro version inside
    obtain ⟨old, there, rfl⟩ := mem_map.mp inside
    exact sound.drawnVersions old there
  · intro version inside
    obtain ⟨old, there, rfl⟩ := mem_map.mp inside
    exact sound.signed old there
  · intro version inside
    obtain ⟨old, there, rfl⟩ := mem_map.mp inside
    exact sound.manifests old there
  · intro row inside
    obtain ⟨version, there, given⟩ := sound.consented row inside
    exact ⟨version.forget userId, mem_map_of_mem there, given⟩

end Steps

section Consent

variable {request : InstallRequest} {before after : World} {package : Package} {version : Version}

theorem previously {previous : Option Manifest}
    (known : previousManifest before package (before.installation? request.workspaceId package.id) = .ok previous)
    {manifest : Manifest} (some_ : previous = some manifest) :
    ∃ installed, Previously request before package installed ∧ installed.manifest = manifest := by
  subst some_
  cases there : before.installation? request.workspaceId package.id with
  | none =>
    rw [there] at known
    cases known
  | some row =>
    rw [there] at known
    unfold previousManifest at known
    dsimp only at known
    split at known
    · rename_i installed found
      cases known
      exact ⟨installed, ⟨row, there, found⟩, rfl⟩
    · cases known

theorem Sound.stripped (sound : Sound service before) (member : version ∈ before.versions) (key : PermissionKey) :
    Stripped (version.manifest key) := by
  obtain ⟨package, _, _, same⟩ := sound.manifests version member
  rw [same]
  exact stripped_extract _ _ key

theorem Succeeded.granted (succeeded : Succeeded service request before after package version) (sound : Sound service before)
    (care : CarefulInstall service request before package version) (refused : request.acceptPermissionChanges = false)
    {permission : Permission} (grants : version.manifest.grants permission) :
    ∃ previous, Previously request before package previous ∧ previous.manifest.grants permission := by
  obtain ⟨key, text⟩ := permission
  have here := (World.version?_some succeeded.found).1
  obtain ⟨previous, known, asks⟩ := succeeded.previous
  have quiet : (diffPermissionManifests previous version.manifest).requiresExplicitAcceptance = false := by
    cases asked : (diffPermissionManifests previous version.manifest).requiresExplicitAcceptance with
    | true => exact absurd (asks asked) (by simp [refused])
    | false => rfl
  by_cases counts : key ∈ escalationKeys
  · have none := no_escalation quiet counts
    have before_ : ∀ manifest, previous = some manifest → ∀ key, Stripped (manifest key) := by
      intro manifest same key
      obtain ⟨installed, ⟨row, _, found⟩, rfl⟩ := previously known same
      exact sound.stripped (World.version?_some found).1 key
    have unlisted := eq_nil_iff_forall_not_mem.mp none text
    rw [mem_added (fun key => sound.stripped here key) before_] at unlisted
    simp only [not_and, not_forall, not_not] at unlisted
    obtain ⟨manifest, same, there⟩ := unlisted grants
    obtain ⟨installed, given, rfl⟩ := previously known same
    exact ⟨installed, given, there⟩
  · obtain rfl : key = .allowedTools := by
      cases key <;> first | rfl | exact absurd (by decide) counts
    exact care.allowed refused text grants

theorem Succeeded.covers (succeeded : Succeeded service request before after package version) (sound : Sound service before)
    (care : CarefulInstall service request before package version) (permission : Permission)
    (grants : version.manifest.grants permission) :
    acceptedAfter request version (before.installation? request.workspaceId package.id) permission := by
  unfold acceptedAfter
  cases accepts : request.acceptPermissionChanges with
  | true => exact grants
  | false =>
    obtain ⟨previous, ⟨row, there, found⟩, granted⟩ := succeeded.granted sound care accepts grants
    rw [there]
    obtain ⟨inside, _, _⟩ := World.installation?_some there
    obtain ⟨member, named, _⟩ := World.version?_some found
    obtain ⟨other, known, same, _, covered⟩ := sound.consented row inside
    obtain rfl := unique_of_nodup sound.versionIds member known (named.trans same.symm)
    exact covered permission granted

theorem Sound.recordInstallation (sound : Sound service before)
    (succeeded : Succeeded service request before after package version)
    (care : CarefulInstall service request before package version) : Sound service after := by
  obtain ⟨marketplace, library, done, rfl⟩ := succeeded.installed
  have more : before.library.drawn ≤ (applied service request package version before.library).2.drawn := applied_drawn
  rw [done] at more
  have drawn := sound.draw more
  obtain ⟨member, named, owned⟩ := World.version?_some succeeded.found
  refine ⟨drawn.packageIds, drawn.versionIds, drawn.drawnPackages, drawn.drawnVersions, drawn.signed, drawn.manifests, ?_⟩
  intro row inside
  rcases mem_cons.mp inside with rfl | old
  · exact ⟨version, member, rfl, owned, succeeded.covers sound care⟩
  · exact sound.consented row (mem_filter.mp old).1

end Consent

theorem Sound.step {w : World} (sound : Sound service w) (action : Action) (care : careful service w action) :
    Sound service (w.step service action) := by
  cases action with
  | create workspaceId userId kind slug =>
    dsimp only [World.step]
    unfold createFromMarketplace
    split
    · exact sound
    · dsimp only
      split
      · exact sound
      · exact (sound.addPackage workspaceId _ kind (some slug)).addVersion (by simp) _ _ _
  | publish workspaceId userId packageId payload =>
    dsimp only [World.step]
    unfold publishVersion
    split
    · exact sound
    · rename_i found
      exact sound.addVersion (World.ownedPackage?_some found).1 _ _ _
  | install request =>
    dsimp only [World.step]
    rcases @installOrUpgrade_tables service request w with
      ⟨library, more, same⟩ | ⟨package, version, succeeded⟩
    · rw [same]
      exact sound.draw more
    · exact sound.recordInstallation succeeded (care package version succeeded.owned succeeded.found)
  | edited skills workflows others =>
    exact sound.draw (Nat.le_refl _)
  | userDeleted userId => exact sound.forget userId

theorem Reaches.sound {w : World} (reached : Reaches service (careful service) w) : Sound service w := by
  induction reached with
  | init => exact .init
  | step _ action care ih => exact ih.step action care

section Content

variable {request : InstallRequest} {before after : World} {package : Package} {version : Version}
  {library installed : Library} {marketplace : Option String} {slug : String}

theorem applied_runs (source : package.sourceMarketplaceSlug = some slug) (named : slug ≠ "")
    (asked : request.applyMarketplaceInstall = true)
    (done : applied service request package version library = (.ok marketplace, installed)) :
    ∃ id, applyMarketplacePayload service request.userId package.kind slug version.payload library = (.ok id, installed) := by
  unfold applied at done
  rw [source] at done
  dsimp only at done
  rw [if_pos ⟨asked, named⟩] at done
  split at done
  · simp_all
  · cases done

theorem applyMarketplacePayload_other {userId kind : String} {payload : Dict Json} {id : String}
    (noSkill : kind ≠ "skill") (noWorkflow : kind ≠ "workflow")
    (ran : applyMarketplacePayload service userId kind slug payload library = (.ok id, installed)) :
    installed.skills = library.skills ∧ installed.workflows = library.workflows := by
  unfold applyMarketplacePayload at ran
  dsimp only at ran
  rw [if_neg noSkill, if_neg noWorkflow] at ran
  split at ran
  · split at ran
    · cases ran
    · exact ⟨(installOther_keeps ran).1, (installOther_keeps ran).2.1⟩
  · split at ran
    · exact ⟨(installOther_keeps ran).1, (installOther_keeps ran).2.1⟩
    · cases ran

theorem applied_other (noSkill : package.kind ≠ "skill") (noWorkflow : package.kind ≠ "workflow")
    (done : applied service request package version library = (.ok marketplace, installed)) :
    installed.skills = library.skills ∧ installed.workflows = library.workflows := by
  unfold applied at done
  split at done
  · split at done
    · split at done
      · rename_i ran
        cases done
        exact applyMarketplacePayload_other noSkill noWorkflow ran
      · cases done
    · simp_all
  · simp_all

theorem find?_append_new {α : Type} {test : α → Bool} {items : List α} {item : α} (none : items.find? test = none)
    (holds : test item = true) : (items ++ [item]).find? test = some item := by
  simp [find?_append, none, holds]

theorem Succeeded.fromPayload (succeeded : Succeeded service request before after package version)
    (same : SameContent service request before package version) : FromPayload request before after package version := by
  obtain ⟨marketplace, library, done, rfl⟩ := succeeded.installed
  by_cases skill : package.kind = "skill"
  · obtain ⟨asked, slug, source, named, there, absent⟩ := same.skill skill
    obtain ⟨id, ran⟩ := applied_runs source named asked done
    have ran : installSkill service.market request.userId slug before.library = (.ok id, library) := by
      unfold applyMarketplacePayload at ran
      rwa [if_pos skill] at ran
    rcases installSkill_ok ran with ⟨row, found, rfl⟩ | ⟨none, item, found, rfl⟩
    · refine ⟨fun row inside new => absurd inside new, fun row inside new => absurd inside new, fun _ => ?_, fun workflow => ?_⟩
      · exact ⟨slug, row, source, found, there row found⟩
      · exact absurd (skill.symm.trans workflow) (by decide)
    · refine ⟨fun row inside new => ?_, fun row inside new => absurd inside new, fun _ => ?_, fun workflow => ?_⟩
      · obtain rfl := mem_singleton.mp ((mem_append.mp inside).resolve_left new)
        exact ⟨skill, slug, absent none item found⟩
      · exact ⟨slug, _, source, find?_append_new none (by simp), absent none item found⟩
      · exact absurd (skill.symm.trans workflow) (by decide)
  · by_cases workflow : package.kind = "workflow"
    · obtain ⟨asked, slug, source, named, there, absent⟩ := same.workflow workflow
      obtain ⟨id, ran⟩ := applied_runs source named asked done
      have ran : installWorkflow service.market request.userId slug before.library = (.ok id, library) := by
        unfold applyMarketplacePayload at ran
        rwa [if_neg skill, if_pos workflow] at ran
      rcases installWorkflow_ok (fun none => (absent none).1) ran with ⟨row, found, rfl⟩ | ⟨none, item, found, rfl⟩
      · refine ⟨fun row inside new => absurd inside new, fun row inside new => absurd inside new, fun given => ?_, fun _ => ?_⟩
        · exact absurd given skill
        · exact ⟨slug, row, source, found, there row found⟩
      · refine ⟨fun row inside new => absurd inside new, fun row inside new => ?_, fun given => ?_, fun _ => ?_⟩
        · obtain rfl := mem_singleton.mp ((mem_append.mp inside).resolve_left new)
          exact ⟨workflow, (absent none).2 item found⟩
        · exact absurd given skill
        · exact ⟨slug, _, source, find?_append_new none (by simp), (absent none).2 item found⟩
    · obtain ⟨skills, workflows⟩ := applied_other skill workflow done
      refine ⟨fun row inside new => ?_, fun row inside new => ?_, fun given => absurd given skill,
        fun given => absurd given workflow⟩
      · exact absurd (skills ▸ inside) new
      · exact absurd (workflows ▸ inside) new

end Content

/-- After a run of careful installs every further careful install leaves what was signed and consented
    to. -/
theorem packages_install_what_was_consented {w after : World} {request : InstallRequest} {installed : Installed}
    (reached : Reaches service (careful service) w) (care : careful service w (.install request))
    (ran : installOrUpgrade service request w = (.ok installed, after)) :
    ∃ package version, w.ownedPackage? request.workspaceId request.packageId = some package ∧
      w.version? package.id request.versionId = some version ∧ Consented service request w after package version := by
  obtain ⟨package, version, succeeded⟩ := installOrUpgrade_ok ran
  have sound := reached.sound
  have given := care package version succeeded.owned succeeded.found
  have here := (World.version?_some succeeded.found).1
  refine ⟨package, version, succeeded.owned, succeeded.found, succeeded.fromPayload given.content, sound.signed version here,
    ?_, ?_, ?_, ?_⟩
  · obtain ⟨other, member, named, same⟩ := sound.manifests version here
    obtain ⟨owned, _, _⟩ := World.ownedPackage?_some succeeded.owned
    have equal := (World.version?_some succeeded.found).2.2
    obtain rfl := unique_of_nodup sound.packageIds member owned (named.trans equal)
    exact same
  · have covers := succeeded.covers sound given
    obtain ⟨marketplace, library, done, rfl⟩ := succeeded.installed
    refine ⟨⟨request.workspaceId, package.id, version.id,
      acceptedAfter request version (w.installation? request.workspaceId package.id)⟩, ?_, rfl, covers, fun tool used => ?_⟩
    · rw [World.installation?, World.recordInstallation, find?_cons_of_pos (by simp)]
    · exact (given.listed tool used).imp (covers (.requiredTools, tool)) (covers (.allowedTools, tool))
  · intro permission grants new
    by_contra refused
    obtain ⟨previous, before, granted⟩ := succeeded.granted sound given (by simpa using refused) grants
    exact new previous before granted
  · intro tool used new
    by_contra refused
    have refused : request.acceptPermissionChanges = false := by simpa using refused
    rcases given.listed tool used with required | allowed
    · have grants : version.manifest.grants (.requiredTools, tool) := required
      obtain ⟨previous, before, granted⟩ := succeeded.granted sound given refused grants
      exact new previous before (.inl granted)
    · obtain ⟨previous, before, granted⟩ := given.allowed refused tool allowed
      exact new previous before (.inr granted)

def researchSkill : Dict Json :=
  [("slug", .str "web-research-specialist"), ("name", .str "Web Research Specialist"), ("category", .str "research"),
    ("department", .str "R&D"),
    ("description", .str "Plan and execute structured web research with source verification."),
    ("capabilities", .arr [.str "web_research"]), ("required_tools", .arr [.str "web_search"]),
    ("instructions_markdown", .str "Plan queries, search, verify sources.")]

def researchService : Service where
  signing := { secret := "secret", digest := Json.pyStr, hmac := fun secret message => secret ++ message }
  market :=
    { skills := [researchSkill], workflows := [], departments := [], agentTemplates := [], validDraft := fun _ => true,
      storable := fun _ _ => true, external := fun _ => false
      uuid4 := fun n => String.ofList (List.replicate (n + 1) 'p')
      uuid4_injective := by
        intro m n same
        simpa using congrArg (fun text => text.toList.length) same }

def imported : World :=
  World.step researchService {} (.create "workspace" "user" "skill" "web-research-specialist")

def firstInstall : InstallRequest := ⟨"workspace", "user", "p", "pp", true, true⟩

theorem imported_skill :
    (imported.ownedPackage? "workspace" "p").map (fun package => (package.kind, package.sourceMarketplaceSlug)) =
        some ("skill", some "web-research-specialist") ∧
      imported.library.skills = [] ∧
      (imported.version? "p" "pp").map (fun version => (version.payload, version.manifest .allowedTools)) =
        some (Dict.set researchSkill "required_tools" (.arr [.str "web_search"]), []) := by
  decide +kernel

theorem firstInstall_careful : careful researchService imported (.install firstInstall) := by
  intro package version owned found
  obtain ⟨skill, none, stored⟩ := imported_skill
  have kind : (package.kind, package.sourceMarketplaceSlug) = ("skill", some "web-research-specialist") := by
    rw [show imported.ownedPackage? "workspace" "p" = some package from owned] at skill
    exact Option.some.inj skill
  have named := (World.ownedPackage?_some owned).2.1
  have payload : (version.payload, version.manifest .allowedTools) =
      (Dict.set researchSkill "required_tools" (.arr [.str "web_search"]), []) := by
    rw [named] at found
    rw [show imported.version? "p" "pp" = some version from found] at stored
    exact Option.some.inj stored
  obtain ⟨isSkill, source⟩ := Prod.mk.inj kind
  refine ⟨⟨fun _ => ⟨rfl, "web-research-specialist", source, by decide, fun row there => ?_, fun _ item known => ?_⟩,
    fun workflow => ?_⟩, fun tool used => ?_, fun refused => ?_⟩
  · have empty : imported.library.skill? "user" "web-research-specialist" = .none := by
      simp [Library.skill?, none]
    cases empty.symm.trans there
  · have item : item = researchSkill := by
      have only : findItem researchService.market.skills "web-research-specialist" = some researchSkill := by decide
      exact (Option.some.inj (only.symm.trans known)).symm
    rw [item, (Prod.mk.inj payload).1]
    decide
  · exact absurd (isSkill.symm.trans workflow) (by decide)
  · simp [runtimeTools, isSkill] at used
  · cases refused

theorem firstInstall_consented :
    ∃ package version, Consented researchService firstInstall imported
      (installOrUpgrade researchService firstInstall imported).2 package version := by
  have succeeds : (installOrUpgrade researchService firstInstall imported).1.isOk = true := by decide +kernel
  cases ran : installOrUpgrade researchService firstInstall imported with
  | mk result after =>
    rw [ran] at succeeds
    cases result with
    | error error => cases succeeds
    | ok installed =>
      obtain ⟨package, version, _, _, consented⟩ := packages_install_what_was_consented
        (.step .init (.create "workspace" "user" "skill" "web-research-specialist") trivial) firstInstall_careful ran
      exact ⟨package, version, consented⟩

def rewrittenSkill : Dict Json :=
  [("slug", .str "web-research-specialist"), ("name", .str "Web Research Specialist"),
    ("required_tools", .arr [.str "web_search"]), ("instructions_markdown", .str "Answer from memory.")]

def rewritten : World :=
  (imported.step researchService (.install firstInstall)).step researchService
    (.publish "workspace" "user" "p" rewrittenSkill)

theorem upgrade_keeps_old_skill :
    Reaches researchService (fun _ _ => True) rewritten ∧
      ∃ request installed after, installOrUpgrade researchService request rewritten = (.ok installed, after) ∧
        ∀ package version, rewritten.ownedPackage? request.workspaceId request.packageId = some package →
          rewritten.version? package.id request.versionId = some version →
          ¬ Consented researchService request rewritten after package version := by
  have reached : Reaches researchService (fun _ _ => True) rewritten :=
    .step (.step (.step .init (.create "workspace" "user" "skill" "web-research-specialist") trivial)
      (.install firstInstall) trivial) (.publish "workspace" "user" "p" rewrittenSkill) trivial
  let request : InstallRequest := ⟨"workspace", "user", "p", "pppp", false, true⟩
  have computed :
      (installOrUpgrade researchService request rewritten).1.isOk = true ∧
        ((installOrUpgrade researchService request rewritten).2.library.skill? "user" "web-research-specialist").map
            (fun row => row.content.instructionsMarkdown) = some (.str "Plan queries, search, verify sources.") ∧
        (rewritten.ownedPackage? "workspace" "p").map (fun package => (package.kind, package.sourceMarketplaceSlug)) =
            some ("skill", some "web-research-specialist") ∧
        (rewritten.version? "p" "pppp").map (fun version => version.payload) = some rewrittenSkill := by
    decide +kernel
  obtain ⟨succeeds, kept, kinds, payloads⟩ := computed
  cases ran : installOrUpgrade researchService request rewritten with
  | mk result after =>
    rw [ran] at succeeds kept
    cases result with
    | error error => cases succeeds
    | ok installed =>
      refine ⟨reached, request, installed, after, ran, fun package version owned found consented => ?_⟩
      have kind : (package.kind, package.sourceMarketplaceSlug) = ("skill", some "web-research-specialist") := by
        rw [show rewritten.ownedPackage? "workspace" "p" = some package from owned] at kinds
        exact Option.some.inj kinds
      have payload : version.payload = rewrittenSkill := by
        rw [(World.ownedPackage?_some owned).2.1] at found
        rw [show rewritten.version? "p" "pppp" = some version from found] at payloads
        exact Option.some.inj payloads
      obtain ⟨isSkill, source⟩ := Prod.mk.inj kind
      obtain ⟨slug, row, named, there, content⟩ := consented.content.skill isSkill
      cases source.symm.trans named
      rw [show after.library.skill? "user" "web-research-specialist" = some row from there, Option.map_some, content,
        payload] at kept
      exact absurd kept (by decide)

end Troop.Packages
