import Mathlib.Data.List.Dedup
import Troop.Workflow.Promotions

namespace Troop.Workflow

open List

def Registry.Usable (registry : Registry) (ownerId env installationId : String) : Prop :=
  ∃ installation, registry.installations.get? installationId = some installation ∧
    installation.ownerId = ownerId ∧ installationAllowedForEnvironment installation.environment env = true

def overlayBinding (overlay : Json) (key : String) : String :=
  match overlay with
  | .obj bindings => bindingText (Dict.get bindings key)
  | .str text => if key = "connector_installation_id" then Text.strip text else ""
  | _ => ""

def leftInline (bindings : Dict Json) (node : Json) : List String :=
  match node.asObj?, nodeConfig node with
  | some members, .ok config =>
    ((bindingKeys.filter fun key => overlayBinding (bindings.get (members.get "id").strOrEmpty) key = "").map
      fun key => bindingText (config.get key)).filter (· ≠ "")
  | _, _ => []

/-- A session's tables hold the versions and the deployments of the registry. -/
structure Registry.ShownBy (registry : Registry) (db : Db) : Prop where
  versions : ∀ versionId, db.versions.get? versionId = registry.versions.find? fun row => row.id = versionId
  deployments : db.deployments = registry.deployments

def Registry.tables (registry : Registry) : Db :=
  { versions := registry.versions.map fun row => (row.id, row), deployments := registry.deployments }

theorem Registry.shown_tables (registry : Registry) : registry.ShownBy registry.tables where
  versions versionId := by
    unfold Registry.tables
    induction registry.versions with
    | nil => rfl
    | cons row rest ih =>
      rw [map_cons, Dict.get?_cons, ih, find?_cons]
      by_cases same : row.id = versionId <;> simp [same]
  deployments := rfl

section Overlay

variable {registry : Registry} {ownerId env key installationId : String} {overlay : Json} {config : Dict Json}

theorem bindingError_none_iff :
    bindingError registry ownerId env installationId = none ↔ registry.Usable ownerId env installationId := by
  unfold bindingError Registry.Usable
  cases found : registry.installations.get? installationId with
  | none => simp
  | some installation =>
    by_cases own : installation.ownerId = ownerId <;> simp [Option.filter, own]

theorem bindingText_str (text : String) : bindingText (.str text) = Text.strip text := by
  simp [bindingText]

theorem overlayConfig_binding (member : key ∈ bindingKeys) :
    bindingText ((overlayConfig overlay config).get key) =
      if overlayBinding overlay key = "" then bindingText (config.get key) else overlayBinding overlay key := by
  cases overlay with
  | obj bindings =>
    have settled (other : String) : bindingText (.str (bindingText (Json.get (.obj bindings) other))) =
        bindingText (Json.get (.obj bindings) other) := by
      rw [bindingText_str]
      exact Text.strip_strip _
    have given (other : String) : overlayBinding (.obj bindings) other = bindingText (Json.get (.obj bindings) other) := rfl
    simp only [bindingKeys, mem_cons, not_mem_nil, or_false] at member
    unfold overlayConfig
    simp only [bindingKeys, foldl_cons, foldl_nil, given]
    rcases member with rfl | rfl <;> split <;> split <;> simp_all [Dict.get_set]
  | str text =>
    simp only [bindingKeys, mem_cons, not_mem_nil, or_false] at member
    unfold overlayConfig overlayBinding
    rcases member with rfl | rfl
    · by_cases blank : Text.strip text = ""
      · simp [blank]
      · simp [blank, bindingText_str, Text.strip_strip]
    · by_cases blank : Text.strip text = ""
      · simp [blank]
      · simp [blank, Dict.get_set]
  | _ => rfl

theorem mem_boundInstallations :
    installationId ∈ boundInstallations overlay ↔
      installationId ≠ "" ∧ ∃ key ∈ bindingKeys, overlayBinding overlay key = installationId := by
  cases overlay with
  | obj bindings =>
    unfold boundInstallations
    rw [mem_filter, mem_map]
    simp only [decide_eq_true_eq]
    exact and_comm
  | str text =>
    unfold boundInstallations overlayBinding
    dsimp only
    by_cases blank : Text.strip text = ""
    · simp [blank, bindingKeys]
    rw [if_neg blank, mem_singleton]
    constructor
    · intro same
      exact ⟨same ▸ blank, "connector_installation_id", by decide, by simp [same]⟩
    · intro ⟨present, key, _, same⟩
      split at same
      · exact same.symm
      · exact absurd same.symm present
  | _ => simpa [boundInstallations, overlayBinding] using fun present _ _ => present

end Overlay

section Resolving

variable {bindings : Dict Json} {nodes resolved : List Json} {members : Dict Json} {out : Json}
  {installationId : String}

theorem mem_applyBindingsToGraph (applied : applyBindingsToGraph bindings nodes = .ok resolved) :
    out ∈ resolved ↔ ∃ members, Json.obj members ∈ nodes ∧ applyBindingsToNode bindings members = .ok out := by
  induction nodes generalizing resolved with
  | nil =>
    cases applied
    simp
  | cons node rest ih =>
    cases node with
    | obj own =>
      obtain ⟨first, resolvedFirst, applied⟩ := except_bind_ok applied
      obtain ⟨others, resolvedRest, applied⟩ := except_bind_ok applied
      have same : first :: others = resolved := Except.ok.inj applied
      rw [← same, mem_cons, ih resolvedRest]
      constructor
      · intro found
        rcases found with rfl | ⟨other, member, resolvedOther⟩
        · exact ⟨own, by simp, resolvedFirst⟩
        · exact ⟨other, by simp [member], resolvedOther⟩
      · intro ⟨other, member, resolvedOther⟩
        rcases mem_cons.mp member with same | member
        · simp_all
        · exact .inr ⟨other, member, resolvedOther⟩
    | _ => simpa using ih applied

theorem applyBindingsToGraph_resolves (applied : applyBindingsToGraph bindings nodes = .ok resolved)
    (member : Json.obj members ∈ nodes) : ∃ out, applyBindingsToNode bindings members = .ok out := by
  induction nodes generalizing resolved with
  | nil => cases member
  | cons node rest ih =>
    rcases mem_cons.mp member with rfl | later
    · obtain ⟨first, resolvedFirst, _⟩ := except_bind_ok applied
      exact ⟨first, resolvedFirst⟩
    · cases node with
      | obj own =>
        obtain ⟨_, _, applied⟩ := except_bind_ok applied
        obtain ⟨_, resolvedRest, _⟩ := except_bind_ok applied
        exact ih resolvedRest later
      | _ => exact ih applied later

theorem mem_leftInline {config : Dict Json} (configured : nodeConfig (.obj members) = .ok config) :
    installationId ∈ leftInline bindings (.obj members) ↔ installationId ≠ "" ∧
      ∃ key ∈ bindingKeys, overlayBinding (bindings.get (members.get "id").strOrEmpty) key = "" ∧
        bindingText (config.get key) = installationId := by
  unfold leftInline
  simp only [Json.asObj?, mem_filter, mem_map, decide_eq_true_eq]
  constructor <;> grind

theorem resolvedNode_installations (applied : applyBindingsToNode bindings members = .ok out) :
    installationId ∈ boundInstallations (out.get "config") ↔
      installationId ∈ boundInstallations (bindings.get (members.get "id").strOrEmpty) ∨
        installationId ∈ leftInline bindings (.obj members) := by
  obtain ⟨config, configured, applied⟩ := except_bind_ok applied
  have resolvedConfig : out.get "config" =
      .obj (overlayConfig (bindings.get (members.get "id").strOrEmpty) config) := by
    rw [← Except.ok.inj applied, Json.get_obj, Dict.get_set_self]
  rw [resolvedConfig, mem_boundInstallations, mem_boundInstallations, mem_leftInline configured, ← and_or_left]
  apply and_congr_right
  intro present
  constructor
  · intro ⟨key, member, named⟩
    have named : bindingText ((overlayConfig (bindings.get (members.get "id").strOrEmpty) config).get key) =
        installationId := named
    rw [overlayConfig_binding member] at named
    split at named
    · grind
    · exact .inl ⟨key, member, named⟩
  · intro named
    rcases named with ⟨key, member, given⟩ | ⟨key, member, free, inline⟩
    · refine ⟨key, member, (overlayConfig_binding member).trans ?_⟩
      rwa [if_neg (given ▸ present)]
    · refine ⟨key, member, (overlayConfig_binding member).trans ?_⟩
      rwa [if_pos free]

theorem mem_values_of_get {key : String} (bound : installationId ∈ boundInstallations (bindings.get key)) :
    bindings.get key ∈ bindings.values := by
  unfold Dict.get at bound ⊢
  cases found : bindings.get? key with
  | none =>
    rw [found] at bound
    cases bound
  | some value =>
    exact mem_map.mpr ⟨(key, value), Dict.mem_of_get? found, rfl⟩

end Resolving

section Promoting

variable {definition : WorkflowDefinition} {environment versionId env : String} {given : Option (Dict Json)}
  {registry after : Registry} {deployment : WorkflowEnvironmentDeployment} {bindings : Dict Json}

theorem validateBindings_usable {ownerId : String} {nodes : List Json} {validation : BindingValidation}
    (normal : normalizeEnvironment environment = .ok env)
    (validated : validateBindings registry ownerId environment bindings nodes = .ok validation)
    (clean : validation.errors = []) {overlay : Json} (entry : overlay ∈ bindings.values) {installationId : String}
    (bound : installationId ∈ boundInstallations overlay) : registry.Usable ownerId env installationId := by
  unfold validateBindings at validated
  rw [normal] at validated
  obtain ⟨_, same, validated⟩ := except_bind_ok validated
  cases Except.ok.inj same
  obtain ⟨warnings, _, validated⟩ := except_bind_ok validated
  cases Except.ok.inj validated
  have silent := filterMap_eq_nil_iff.mp clean
  apply bindingError_none_iff.mp
  apply silent
  rw [mem_dedup, mem_flatMap]
  exact ⟨overlay, entry, bound⟩

theorem normalizeEnvironment_known (normal : normalizeEnvironment environment = .ok env) :
    env ∈ workflowEnvironments := by
  unfold normalizeEnvironment at normal
  by_cases known : Text.lower (Text.strip (if environment = "" then "dev" else environment)) ∈ workflowEnvironments
  · simp_all
  · simp [if_neg known] at normal

theorem normalizeEnvironment_again (normal : normalizeEnvironment environment = .ok env) :
    normalizeEnvironment env = .ok env := by
  have known := normalizeEnvironment_known normal
  simp only [workflowEnvironments, mem_cons, not_mem_nil, or_false] at known
  rcases known with rfl | rfl | rfl <;> decide +kernel

theorem writePromotion_tables (workflowId : String) :
    (registry.writePromotion workflowId env versionId bindings).installations = registry.installations ∧
      (registry.writePromotion workflowId env versionId bindings).versions = registry.versions := by
  unfold Registry.writePromotion Registry.deploy
  split <;> exact ⟨rfl, rfl⟩

theorem promote_usable (promoted : promote definition environment versionId given registry = .ok (deployment, after)) :
    ∃ env version bindings, normalizeEnvironment environment = .ok env ∧
      registry.getVersion versionId = some version ∧ promotedBindings version given = .ok bindings ∧
      deployment = ⟨definition.id, env, versionId, bindings⟩ ∧
      after.getDeployment definition.id env = some deployment ∧
      after.installations = registry.installations ∧ after.versions = registry.versions ∧
      ∀ overlay ∈ bindings.values, ∀ installationId ∈ boundInstallations overlay,
        registry.Usable definition.ownerId env installationId := by
  obtain ⟨env, normal, ok⟩ := except_bind_ok promoted
  cases found : (registry.getVersion versionId).filter (fun version => version.workflowId = definition.id) with
  | none => simp [found] at ok
  | some version =>
    have read : registry.getVersion versionId = some version := (Option.filter_eq_some_iff.mp found).1
    have same := getVersion_id read
    simp only [found] at ok
    split at ok
    · cases ok
    obtain ⟨bindings, chosen, ok⟩ := except_bind_ok ok
    obtain ⟨validation, validated, ok⟩ := except_bind_ok ok
    split at ok
    · cases ok
    rename_i clean
    rw [not_not] at clean
    obtain ⟨rfl, rfl⟩ := Prod.mk.inj (Except.ok.inj ok)
    refine ⟨env, version, bindings, normal, read, chosen, by rw [same], ?_, ?_, ?_, ?_⟩
    · have written : (registry.writePromotion definition.id env version.id bindings).getDeployment definition.id env =
          some ⟨definition.id, env, version.id, bindings⟩ := by
        unfold Registry.writePromotion
        rw [getDeployment_add, getDeployment_deploy, if_pos ⟨rfl, rfl⟩]
      split <;> exact written
    · split <;> exact (writePromotion_tables definition.id).1
    · split <;> exact (writePromotion_tables definition.id).2
    · intro overlay entry installationId bound
      exact validateBindings_usable (normalizeEnvironment_again normal) validated clean entry bound

theorem resolvedGraph_deployed {w final : World} {row : WorkflowEnvironmentDeployment} {resolved : WorkflowVersion}
    (normal : normalizeEnvironment environment = .ok env) (deployed : findDeployment w.db definition.id env = some row)
    (ran : (resolvedGraphForEnvironment definition environment).exec w = (.ok resolved, final)) :
    ∃ version nodes, w.db.versions.get? row.workflowVersionId = some version ∧
      applyBindingsToGraph row.connectionBindingsJson version.nodesJson = .ok nodes ∧
      resolved = { version with nodesJson := nodes } := by
  unfold resolvedGraphForEnvironment resolveVersionForEnvironment getVersion at ran
  simp only [normal, Prog.exec_bind, Prog.exec_ofExcept, Prog.exec_get, Prog.exec_pure, deployed,
    Option.bind_some] at ran
  by_cases named : row.workflowVersionId = ""
  · rw [if_pos named] at ran
    simp [raiseValueError] at ran
  · rw [if_neg named] at ran
    cases found : w.db.versions.get? row.workflowVersionId with
    | none => simp [found, raiseValueError] at ran
    | some version =>
      refine ⟨version, ?_⟩
      simp only [found] at ran
      by_cases published : version.isPublished = true
      · simp only [published, if_true, Prog.exec_pure, resolveNodes] at ran
        cases applied : applyBindingsToGraph row.connectionBindingsJson version.nodesJson with
        | error error => simp [applied] at ran
        | ok nodes => simp_all
      · simp [published, raiseValueError] at ran

/-- After a promotion every installation that the resolved nodes name is usable exactly where the bindings leave
    no other one in a node's own config. -/
theorem promotion_isolates_iff {version resolved : WorkflowVersion} {w final : World}
    (found : registry.getVersion versionId = some version) (chosen : promotedBindings version given = .ok bindings)
    (promoted : promote definition environment versionId given registry = .ok (deployment, after))
    (shown : after.ShownBy w.db)
    (ran : (resolvedGraphForEnvironment definition environment).exec w = (.ok resolved, final)) :
    (∀ node ∈ resolved.nodesJson, ∀ installationId ∈ boundInstallations (node.get "config"),
        after.Usable definition.ownerId deployment.environment installationId) ↔
      ∀ node ∈ version.nodesJson, ∀ installationId ∈ leftInline bindings node,
        registry.Usable definition.ownerId deployment.environment installationId := by
  obtain ⟨env, source, used, normal, read, own, row, written, installations, versions, usable⟩ := promote_usable promoted
  cases Option.some.inj (read.symm.trans found)
  cases Except.ok.inj (own.symm.trans chosen)
  have deployed : findDeployment w.db definition.id env = some deployment := by
    unfold findDeployment
    rwa [shown.deployments]
  obtain ⟨seen, nodes, there, applied, rfl⟩ := resolvedGraph_deployed normal deployed ran
  have same : seen = version := by
    rw [shown.versions, versions, row] at there
    unfold Registry.getVersion at found
    split at found
    · cases found
    · exact Option.some.inj (there.symm.trans found)
  subst same
  subst row
  have kept (installationId : String) : after.Usable definition.ownerId env installationId ↔
      registry.Usable definition.ownerId env installationId := by
    unfold Registry.Usable
    rw [installations]
  constructor
  · intro isolated node member installationId left
    cases node with
    | obj members =>
      obtain ⟨out, resolvedNode⟩ := applyBindingsToGraph_resolves applied member
      apply (kept installationId).mp
      apply isolated out ((mem_applyBindingsToGraph applied).mpr ⟨members, member, resolvedNode⟩)
      exact (resolvedNode_installations resolvedNode).mpr (.inr left)
    | null | bool | num | str | arr => cases left
  · intro inline node member installationId bound
    obtain ⟨members, source, resolvedNode⟩ := (mem_applyBindingsToGraph applied).mp member
    apply (kept installationId).mpr
    rcases (resolvedNode_installations resolvedNode).mp bound with given | left
    · exact usable _ (mem_values_of_get given) installationId given
    · exact inline _ source installationId left

end Promoting

def connectedTool (id installationId : String) : Json :=
  .obj [("id", .str id), ("type", .str "tool"),
    ("config", .obj [("connector_installation_id", .str installationId)])]

def connected : Registry :=
  { versions := [⟨"v1", "flow", [connectedTool "read" "inbox", connectedTool "send" "mail"], [], none, true⟩],
    installations := [("inbox", ⟨"owner", some "dev"⟩), ("mail", ⟨"owner", some "prod"⟩)] }

def resolvedAfter (environment : String) (given : Option (Dict Json)) :
    Option (WorkflowEnvironmentDeployment × Registry × WorkflowVersion) :=
  match promote flow environment "v1" given connected with
  | .error _ => none
  | .ok (deployment, after) =>
    ((resolvedGraphForEnvironment flow environment).exec { db := after.tables }).1.toOption.map (deployment, after, ·)

theorem resolvedAfter_some {environment : String} {given : Option (Dict Json)} {deployment : WorkflowEnvironmentDeployment}
    {after : Registry} {resolved : WorkflowVersion}
    (done : resolvedAfter environment given = some (deployment, after, resolved)) :
    promote flow environment "v1" given connected = .ok (deployment, after) ∧
      ∃ final, (resolvedGraphForEnvironment flow environment).exec { db := after.tables } = (.ok resolved, final) := by
  unfold resolvedAfter at done
  cases promoted : promote flow environment "v1" given connected with
  | error error => simp [promoted] at done
  | ok result =>
    obtain ⟨row, registry⟩ := result
    simp only [promoted, Option.map_eq_some_iff] at done
    obtain ⟨version, read, same⟩ := done
    cases same
    cases ran : (resolvedGraphForEnvironment flow environment).exec { db := after.tables } with
    | mk answer final =>
      rw [ran] at read
      cases answer with
      | error error => cases read
      | ok found =>
        cases Option.some.inj read
        exact ⟨rfl, final, rfl⟩

theorem development_isolated : ∃ (deployment : WorkflowEnvironmentDeployment) (after : Registry)
    (resolved : WorkflowVersion),
    promote flow "dev" "v1" none connected = .ok (deployment, after) ∧
      ∀ node ∈ resolved.nodesJson, ∀ installationId ∈ boundInstallations (node.get "config"),
        after.Usable "owner" deployment.environment installationId := by
  have done : (resolvedAfter "dev" none).isSome = true := by decide +kernel
  obtain ⟨⟨deployment, after, resolved⟩, done⟩ := Option.isSome_iff_exists.mp done
  obtain ⟨promoted, final, ran⟩ := resolvedAfter_some done
  have chosen : promotedBindings connected.versions.head! none = .ok [("read",
      .obj [("connector_installation_id", .str "inbox")]), ("send", .obj [("connector_installation_id", .str "mail")])] := by
    decide +kernel
  refine ⟨deployment, after, resolved, promoted, ?_⟩
  apply (promotion_isolates_iff (by decide +kernel) chosen promoted after.shown_tables ran).mpr
  have covered : ∀ node ∈ connected.versions.head!.nodesJson, leftInline [("read",
      .obj [("connector_installation_id", .str "inbox")]), ("send", .obj [("connector_installation_id", .str "mail")])]
      node = [] := by
    decide +kernel
  simp_all

theorem partial_bindings_leak : ∃ (deployment : WorkflowEnvironmentDeployment) (after : Registry) (w : World)
    (resolved : WorkflowVersion) (final : World),
    promote flow "prod" "v1" (some [("send", .str "mail")]) connected = .ok (deployment, after) ∧
      after.ShownBy w.db ∧
      (resolvedGraphForEnvironment flow "prod").exec w = (.ok resolved, final) ∧
      ∃ node ∈ resolved.nodesJson, ∃ installationId ∈ boundInstallations (node.get "config"),
        ¬ after.Usable "owner" "prod" installationId := by
  have leaks : (resolvedAfter "prod" (some [("send", .str "mail")])).any (fun done =>
      done.2.2.nodesJson.any fun node => (boundInstallations (node.get "config")).any fun installationId =>
        (bindingError done.2.1 "owner" "prod" installationId).isSome) = true := by
    decide +kernel
  obtain ⟨⟨deployment, after, resolved⟩, done, found⟩ := (Option.any_eq_true _ _).mp leaks
  obtain ⟨promoted, final, ran⟩ := resolvedAfter_some done
  refine ⟨deployment, after, _, resolved, final, promoted, after.shown_tables, ran, ?_⟩
  simp only [any_eq_true] at found
  obtain ⟨node, member, installationId, bound, refused⟩ := found
  refine ⟨node, member, installationId, bound, ?_⟩
  rw [← bindingError_none_iff]
  grind

end Troop.Workflow
