import Troop.Hierarchy.Policy

namespace Troop.Hierarchy

open List
open Except (ok)
open Json (arr pyOr str truthy)

section Cleaned

variable {rules : Dict (List String)} {value : Json} {α : Type}

theorem firstOccurrences_of_nodup [DecidableEq α] {items : List α} (distinct : items.Nodup) :
    firstOccurrences items = items := by
  have reversed : items.reverse.dedup = items.reverse := Nodup.dedup (nodup_reverse.mpr distinct)
  rw [firstOccurrences, reversed, reverse_reverse]

theorem nodup_firstOccurrences [DecidableEq α] (items : List α) : (firstOccurrences items).Nodup :=
  nodup_reverse.mpr (nodup_dedup _)

def Clean (id : String) : Prop := id ≠ "" ∧ Text.strip id = id

instance (id : String) : Decidable (Clean id) := inferInstanceAs (Decidable (_ ∧ _))

def CleanIds (ids : List String) : Prop := ids.Nodup ∧ ∀ id ∈ ids, Clean id

def CleanEdge (edge : HierarchyEdge) : Prop :=
  Clean edge.sourceAgentId ∧ Clean edge.targetAgentId ∧ edge.sourceAgentId ≠ edge.targetAgentId

def CleanRules (rules : Dict (List String)) : Prop :=
  rules.keys.Nodup ∧ ∀ entry ∈ rules, Clean entry.1 ∧ CleanIds entry.2

/-- What normalization leaves behind, the mode of the reviewer chain apart. -/
structure Settled (policy : HierarchyPolicy) : Prop where
  manager : ∀ id, policy.managerAgentId = some id → Clean id
  distinct : policy.edges.Nodup
  edges : ∀ edge ∈ policy.edges, CleanEdge edge
  delegation : CleanRules policy.delegationRules
  brainstorm : CleanRules policy.brainstormRules
  reviewers : CleanIds policy.reviewerAgentIds
  chain : Text.strip policy.reviewerChainMode = policy.reviewerChainMode
  routing : policy.routingMode ∈ routingModes
  balance : policy.siblingLoadBalance ∈ loadBalanceModes
  execution : policy.defaultExecutionMode ∈ executionModes
  handoff : policy.blockedHandoff.mode ∈ handoffModes
  target : ∀ id, policy.blockedHandoff.targetAgentId = some id → Clean id

theorem strippedOr_stripped (fallback : String) (value : Json) :
    Text.strip (strippedOr fallback value) = strippedOr fallback value := Text.strip_strip _

theorem optionalId_clean (value : Json) {id : String} (kept : optionalId value = some id) : Clean id := by
  unfold optionalId at kept
  split at kept
  case isTrue => cases kept
  case isFalse present =>
    cases kept
    exact ⟨present, strippedOr_stripped "" value⟩

theorem modeOf_mem (allowed : List String) (fallback : String) (value : Json) (known : fallback ∈ allowed) :
    modeOf allowed fallback value ∈ allowed := by
  unfold modeOf
  split
  · assumption
  · exact known

theorem cleanIds_clean (value : Json) : CleanIds (cleanIds value) := by
  constructor
  · exact nodup_firstOccurrences _
  · intro id member
    rw [cleanIds, mem_firstOccurrences, mem_filter, mem_map] at member
    obtain ⟨⟨item, _, rfl⟩, present⟩ := member
    exact ⟨by simpa using present, Text.strip_strip _⟩

theorem edgeOf_clean {item : Json} {edge : HierarchyEdge} (kept : edgeOf item = some edge) : CleanEdge edge := by
  unfold edgeOf at kept
  split at kept
  case h_1 members =>
    dsimp only at kept
    split at kept
    case h_1 =>
      split at kept
      case isTrue present =>
        rw [← Option.some.inj kept]
        exact ⟨⟨present.1, strippedOr_stripped _ _⟩, ⟨present.2.1, strippedOr_stripped _ _⟩, present.2.2⟩
      case isFalse => cases kept
    case h_2 => cases kept
  case h_2 => cases kept

theorem edgesOf_clean {edges : List HierarchyEdge} (kept : edgesOf value = .ok edges) :
    edges.Nodup ∧ ∀ edge ∈ edges, CleanEdge edge := by
  unfold edgesOf at kept
  cases listed : value.toList with
  | error raised =>
    rw [listed] at kept
    cases kept
  | ok items =>
    rw [listed] at kept
    cases kept
    refine ⟨nodup_firstOccurrences _, fun edge member => ?_⟩
    obtain ⟨item, _, found⟩ := mem_filterMap.mp (mem_firstOccurrences.mp member)
    exact edgeOf_clean found

theorem CleanRules.set (clean : CleanRules rules) {source : String} (named : Clean source)
    {ids : List String} (listed : CleanIds ids) : CleanRules (rules.set source ids) := by
  constructor
  · by_cases known : source ∈ rules.keys
    · rw [Dict.keys_set_of_mem ids known]
      exact clean.1
    · rw [Dict.keys_set_of_not_mem ids known]
      have apart : Disjoint rules.keys [source] := by simpa using known
      exact nodup_append'.mpr ⟨clean.1, nodup_singleton _, apart⟩
  · intro entry member
    rcases Dict.mem_set member with rfl | old
    · exact ⟨named, listed⟩
    · exact clean.2 entry old

theorem rulesOf_clean (kept : rulesOf value = .ok rules) : CleanRules rules := by
  have folded : ∀ (members : List (String × Json)) (start : Dict (List String)), CleanRules start →
      CleanRules (members.foldl (fun rules entry =>
        if Text.strip entry.1 = "" then rules else rules.set (Text.strip entry.1) (cleanIds entry.2)) start) := by
    intro members
    induction members with
    | nil => exact fun _ clean => clean
    | cons entry rest ih =>
      intro start clean
      rw [foldl_cons]
      apply ih
      split
      case isTrue => exact clean
      case isFalse present => exact clean.set ⟨present, Text.strip_strip _⟩ (cleanIds_clean _)
  have empty : CleanRules [] := ⟨nodup_nil, fun _ member => by cases member⟩
  unfold rulesOf at kept
  split at kept
  case h_1 members => grind
  case h_2 =>
    split at kept
    · cases kept
    · simp_all

end Cleaned

/-- What `normalize_hierarchy_policy` makes of each key. -/
structure Normalizes (raw : Dict Json) (policy : HierarchyPolicy) : Prop where
  manager : policy.managerAgentId = optionalId (raw.get "manager_agent_id")
  edges : edgesOf (rawEdges raw) = .ok policy.edges
  delegation : rulesOf (raw.get "delegation_rules") = .ok policy.delegationRules
  brainstorm : rulesOf (raw.get "brainstorm_rules") = .ok policy.brainstormRules
  reviewers : policy.reviewerAgentIds = cleanIds (raw.get "reviewer_agent_ids")
  chain : policy.reviewerChainMode = strippedOr "sequential" (raw.get "reviewer_chain_mode")
  routing : policy.routingMode = modeOf routingModes "capability_based" (raw.get "routing_mode")
  balance : policy.siblingLoadBalance = modeOf loadBalanceModes "queue_depth" (raw.get "sibling_load_balance")
  execution : policy.defaultExecutionMode = modeOf executionModes "single_agent" (raw.get "default_execution_mode")
  handoff : (raw.get "blocked_handoff").toDict.map handoffOf = .ok policy.blockedHandoff

variable {raw : Dict Json}

theorem Normalizes.normalize {policy : HierarchyPolicy} (keys : Normalizes raw policy) :
    normalizeHierarchyPolicy raw = .ok policy := by
  have handed := keys.handoff
  cases given : (raw.get "blocked_handoff").toDict with
  | error raised =>
    rw [given] at handed
    cases handed
  | ok handoff =>
    rw [given] at handed
    have handedOver : handoffOf handoff = policy.blockedHandoff := ok.inj handed
    unfold normalizeHierarchyPolicy
    rw [keys.edges, keys.delegation, keys.brainstorm, given, ← keys.manager, ← keys.reviewers, ← keys.chain,
      ← keys.routing, ← keys.balance, ← keys.execution]
    show ok _ = ok policy
    rw [handedOver]

theorem normalizes {policy : HierarchyPolicy} (normalized : normalizeHierarchyPolicy raw = .ok policy) :
    Normalizes raw policy := by
  unfold normalizeHierarchyPolicy at normalized
  cases listed : edgesOf (rawEdges raw) with
  | error raised =>
    rw [listed] at normalized
    cases normalized
  | ok edges =>
    cases delegated : rulesOf (raw.get "delegation_rules") with
    | error raised =>
      rw [listed, delegated] at normalized
      cases normalized
    | ok delegationRules =>
      cases stormed : rulesOf (raw.get "brainstorm_rules") with
      | error raised =>
        rw [listed, delegated, stormed] at normalized
        cases normalized
      | ok brainstormRules =>
        cases handed : (raw.get "blocked_handoff").toDict with
        | error raised =>
          rw [listed, delegated, stormed, handed] at normalized
          cases normalized
        | ok handoff =>
          rw [listed, delegated, stormed, handed] at normalized
          have found := ok.inj normalized
          constructor
          case edges => rw [listed, ← found]
          case delegation => rw [delegated, ← found]
          case brainstorm => rw [stormed, ← found]
          case handoff => rw [handed, ← found, Except.map]
          all_goals rw [← found]

theorem handoff_given {given : Except PyError (Dict Json)} {handoff : BlockedHandoff}
    (kept : given.map handoffOf = .ok handoff) : ∃ raw, handoffOf raw = handoff := by
  cases given with
  | error raised => cases kept
  | ok raw => exact ⟨raw, ok.inj kept⟩

theorem Normalizes.settled {policy : HierarchyPolicy} (keys : Normalizes raw policy) : Settled policy where
  manager id kept := optionalId_clean (raw.get "manager_agent_id") (keys.manager ▸ kept)
  distinct := (edgesOf_clean keys.edges).1
  edges := (edgesOf_clean keys.edges).2
  delegation := rulesOf_clean keys.delegation
  brainstorm := rulesOf_clean keys.brainstorm
  reviewers := keys.reviewers ▸ cleanIds_clean _
  chain := by
    rw [keys.chain]
    exact strippedOr_stripped _ _
  routing := by
    rw [keys.routing]
    exact modeOf_mem routingModes "capability_based" _ (by decide)
  balance := by
    rw [keys.balance]
    exact modeOf_mem loadBalanceModes "queue_depth" _ (by decide)
  execution := by
    rw [keys.execution]
    exact modeOf_mem executionModes "single_agent" _ (by decide)
  handoff := by
    obtain ⟨raw, same⟩ := handoff_given keys.handoff
    rw [← same]
    dsimp only [handoffOf]
    exact modeOf_mem handoffModes "escalation_path" _ (by decide)
  target id kept := by
    obtain ⟨raw, same⟩ := handoff_given keys.handoff
    rw [← same] at kept
    dsimp only [handoffOf] at kept
    exact optionalId_clean (raw.get "target_agent_id") kept

section Reading

theorem strippedOr_clean {fallback id : String} (clean : Clean id) : strippedOr fallback (.str id) = id := by
  have given : (str id).truthy = true := by simp [truthy, clean.1]
  rw [strippedOr, pyOr, if_pos given, Json.strOrEmpty_str, clean.2]

theorem strippedOr_str {fallback text : String} (stripped : Text.strip text = text) :
    strippedOr fallback (.str text) = if text = "" then Text.strip fallback else text := by
  split
  case isTrue empty =>
    subst empty
    rw [strippedOr, pyOr, if_neg (by decide), Json.strOrEmpty_str]
  case isFalse present => exact strippedOr_clean ⟨present, stripped⟩

theorem optionalId_ofOption {kept : Option String} (clean : ∀ id, kept = some id → Clean id) :
    optionalId (.ofOption kept) = kept := by
  cases kept with
  | none => decide
  | some id =>
    have read : strippedOr "" (.str id) = id := strippedOr_clean (clean id rfl)
    rw [Json.ofOption, optionalId, read, if_neg (clean id rfl).1]

theorem modeOf_str {allowed : List String} {mode fallback : String} (known : mode ∈ allowed) (clean : Clean mode) :
    modeOf allowed fallback (.str mode) = mode := by
  rw [modeOf, strippedOr_clean clean, if_pos known]

theorem clean_routing : ∀ mode ∈ routingModes, Clean mode := by decide

theorem clean_balance : ∀ mode ∈ loadBalanceModes, Clean mode := by decide

theorem clean_execution : ∀ mode ∈ executionModes, Clean mode := by decide

theorem clean_handoff : ∀ mode ∈ handoffModes, Clean mode := by decide

theorem cleanIds_idsJson {ids : List String} (clean : CleanIds ids) : cleanIds (idsJson ids) = ids := by
  have stripped : (ids.map str).map (fun item => Text.strip item.pyStr) = ids := by
    rw [map_map]
    conv_rhs => rw [← map_id ids]
    exact map_congr_left fun id member => (clean.2 id member).2
  have kept : ids.filter (· ≠ "") = ids := by
    rw [filter_eq_self]
    intro id member
    simpa using (clean.2 id member).1
  rw [cleanIds, idsJson, idItems, stripped, kept]
  exact firstOccurrences_of_nodup clean.1

theorem clean_relationship (relationship : Relationship) : Clean relationship.text := by
  cases relationship <;> decide

theorem ofText_text (relationship : Relationship) : Relationship.ofText relationship.text = some relationship := by
  cases relationship <;> rfl

theorem pyOr_of_clean {id : String} (clean : Clean id) (other : Json) : (Json.str id).pyOr other = .str id :=
  if_pos (by simp [truthy, clean.1])

variable {edges : List HierarchyEdge} {edge : HierarchyEdge}

theorem edgeOf_eq {item : Dict Json}
    (source : strippedOr "" ((item.get "source_agent_id").pyOr (item.get "source")) = edge.sourceAgentId)
    (target : strippedOr "" ((item.get "target_agent_id").pyOr (item.get "target")) = edge.targetAgentId)
    (typed : Relationship.ofText (strippedOr "delegates_to" (((item.get "relationship").pyOr (item.get "semantic")).pyOr
      (Dict.get ((item.get "data").asObj?.getD []) "semantic"))) = some edge.relationship)
    (clean : CleanEdge edge) : edgeOf (.obj item) = some edge := by
  unfold edgeOf
  simp only [source, target, typed]
  exact if_pos ⟨clean.1.1, clean.2.1.1, clean.2.2⟩

theorem edgeOf_json (clean : CleanEdge edge) : edgeOf edge.json = some edge := by
  have typed := clean_relationship edge.relationship
  apply edgeOf_eq _ _ _ clean
  · show strippedOr "" ((str edge.sourceAgentId).pyOr _) = _
    rw [pyOr_of_clean clean.1, strippedOr_clean clean.1]
  · show strippedOr "" ((str edge.targetAgentId).pyOr _) = _
    rw [pyOr_of_clean clean.2.1, strippedOr_clean clean.2.1]
  · show Relationship.ofText (strippedOr "delegates_to" (((str edge.relationship.text).pyOr _).pyOr _)) = _
    rw [pyOr_of_clean typed, pyOr_of_clean typed, strippedOr_clean typed, ofText_text]

theorem edgesOf_json (distinct : edges.Nodup) (clean : ∀ edge ∈ edges, CleanEdge edge) :
    edgesOf (.arr (edges.map HierarchyEdge.json)) = .ok edges := by
  have read : (edges.map HierarchyEdge.json).filterMap edgeOf = edges := by
    rw [filterMap_map]
    conv_rhs => rw [← filterMap_some (l := edges)]
    apply filterMap_congr
    intro edge member
    rw [Function.comp_apply]
    exact edgeOf_json (clean edge member)
  show ok (firstOccurrences ((edges.map HierarchyEdge.json).filterMap edgeOf)) = _
  rw [read, firstOccurrences_of_nodup distinct]

theorem set_of_not_mem {α : Type} {d : Dict α} {key : String} (value : α) (absent : key ∉ d.keys) :
    d.set key value = d ++ [(key, value)] := by
  induction d with
  | nil => rfl
  | cons entry rest ih =>
    rw [Dict.keys, map_cons, mem_cons, not_or] at absent
    rw [Dict.set, if_neg (Ne.symm absent.1), ih absent.2, cons_append]

theorem rulesOf_json {rules : Dict (List String)} (clean : CleanRules rules) : rulesOf (rulesJson rules) = .ok rules := by
  have folded : ∀ (rest start : Dict (List String)), (start ++ rest).keys.Nodup →
      (∀ entry ∈ rest, Clean entry.1 ∧ CleanIds entry.2) →
      (rest.map fun entry => (entry.1, idsJson entry.2)).foldl (fun rules entry =>
        if Text.strip entry.1 = "" then rules else rules.set (Text.strip entry.1) (cleanIds entry.2)) start =
      start ++ rest := by
    intro rest
    induction rest with
    | nil => exact fun start _ _ => (append_nil start).symm
    | cons entry rest ih =>
      intro start distinct listed
      obtain ⟨named, ids⟩ := listed entry mem_cons_self
      have absent : entry.1 ∉ start.keys := by
        intro known
        rw [Dict.keys, map_append, map_cons] at distinct
        exact (nodup_append'.mp distinct).2.2 known mem_cons_self
      rw [map_cons, foldl_cons, named.2, if_neg named.1, cleanIds_idsJson ids, set_of_not_mem _ absent]
      have moved : (start ++ [(entry.1, entry.2)]) ++ rest = start ++ entry :: rest := by simp
      rw [ih _ (by rw [moved]; exact distinct) fun other member => listed other (mem_cons_of_mem _ member), moved]
  show ok _ = ok rules
  rw [folded rules [] clean.1 clean.2, nil_append]

theorem handoffOf_json {handoff : BlockedHandoff} (known : handoff.mode ∈ handoffModes)
    (target : ∀ id, handoff.targetAgentId = some id → Clean id) :
    handoff.json.toDict.map handoffOf = .ok handoff := by
  obtain ⟨mode, targetAgentId, fallback⟩ := handoff
  show ok (BlockedHandoff.mk (modeOf handoffModes "escalation_path" (.str mode)) (optionalId (.ofOption targetAgentId))
    (decide (Json.bool fallback ≠ .bool false))) = _
  rw [modeOf_str known (clean_handoff mode known), optionalId_ofOption target]
  cases fallback <;> rfl

def policyKeys : List String :=
  ["manager_agent_id", "delegation_rules", "brainstorm_rules", "reviewer_agent_ids", "reviewer_chain_mode", "routing_mode",
    "sibling_load_balance", "default_execution_mode", "blocked_handoff"]

theorem Settled.normalizes {policy : HierarchyPolicy} (settled : Settled policy) {raw : Dict Json}
    (same : ∀ key ∈ policyKeys, raw.get key = policy.dict.get key) (listed : edgesOf (rawEdges raw) = .ok edges) :
    Normalizes raw { policy with
      edges := edges
      reviewerChainMode := if policy.reviewerChainMode = "" then "sequential" else policy.reviewerChainMode } where
  manager := by
    rw [same "manager_agent_id" (by decide)]
    exact (optionalId_ofOption settled.manager).symm
  edges := listed
  delegation := by
    rw [same "delegation_rules" (by decide)]
    exact rulesOf_json settled.delegation
  brainstorm := by
    rw [same "brainstorm_rules" (by decide)]
    exact rulesOf_json settled.brainstorm
  reviewers := by
    rw [same "reviewer_agent_ids" (by decide)]
    exact (cleanIds_idsJson settled.reviewers).symm
  chain := by
    have spelled : Text.strip "sequential" = "sequential" := by decide
    have read : strippedOr "sequential" (.str policy.reviewerChainMode) = _ := strippedOr_str settled.chain
    rw [same "reviewer_chain_mode" (by decide), ← spelled]
    exact read.symm
  routing := by
    rw [same "routing_mode" (by decide)]
    exact (modeOf_str settled.routing (clean_routing _ settled.routing)).symm
  balance := by
    rw [same "sibling_load_balance" (by decide)]
    exact (modeOf_str settled.balance (clean_balance _ settled.balance)).symm
  execution := by
    rw [same "default_execution_mode" (by decide)]
    exact (modeOf_str settled.execution (clean_execution _ settled.execution)).symm
  handoff := by
    rw [same "blocked_handoff" (by decide)]
    exact handoffOf_json settled.handoff settled.target

end Reading

section Stored

def Edgeless (value : Json) : Prop := ∃ items, value.toList = .ok items ∧ ∀ item ∈ items, edgeOf item = none

theorem edgesOf_empty_iff (value : Json) : edgesOf value = .ok [] ↔ Edgeless value := by
  unfold edgesOf Edgeless
  cases listed : value.toList with
  | error raised =>
    constructor
    · nofun
    · simp_all
  | ok items =>
    show ok (firstOccurrences (items.filterMap edgeOf)) = ok [] ↔ _
    constructor
    · intro same
      refine ⟨items, rfl, fun item member => ?_⟩
      have none_ : firstOccurrences (items.filterMap edgeOf) = [] := ok.inj same
      cases kept : edgeOf item with
      | none => rfl
      | some edge =>
        have found : edge ∈ firstOccurrences (items.filterMap edgeOf) :=
          mem_firstOccurrences.mpr (mem_filterMap.mpr ⟨item, member, kept⟩)
        simp [none_] at found
    · intro ⟨_, same, dropped⟩
      cases same
      rw [filterMap_eq_nil_iff.mpr dropped]
      rfl

variable {raw : Dict Json} {value : Json}

theorem toList_of_falsy (falsy : value.truthy = false) : value.toList = .ok [] := by
  cases value with
  | null => rfl
  | bool value => exact if_neg (by rw [falsy]; decide)
  | num value => exact if_neg (by rw [falsy]; decide)
  | str text =>
    have empty : text = "" := by simpa [truthy] using falsy
    subst empty
    rfl
  | arr items =>
    have empty : items = [] := by simpa [truthy] using falsy
    subst empty
    rfl
  | obj members =>
    have empty : members = [] := by simpa [truthy] using falsy
    subst empty
    rfl

theorem edgesOf_or (value : Json) {other : Json} (falsy : other.truthy = false) :
    edgesOf (value.pyOr other) = edgesOf value := by
  unfold pyOr
  split
  case isTrue => rfl
  case isFalse empty =>
    rw [edgesOf, edgesOf, toList_of_falsy falsy, toList_of_falsy (Bool.eq_false_iff.mpr empty)]

variable {policy : HierarchyPolicy}

theorem Settled.edges_again (settled : Settled policy) : edgesOf (rawEdges policy.dict) = .ok policy.edges := by
  show edgesOf ((arr (policy.edges.map HierarchyEdge.json)).pyOr .null) = _
  rw [edgesOf_or _ rfl]
  exact edgesOf_json settled.distinct settled.edges

theorem Settled.again_iff (settled : Settled policy)
    (same : ∀ key ∈ policyKeys, raw.get key = policy.dict.get key) (named : policy.reviewerChainMode ≠ "") :
    normalizeHierarchyPolicy raw = .ok policy ↔ edgesOf (rawEdges raw) = .ok policy.edges := by
  constructor
  · exact fun normalized => (Hierarchy.normalizes normalized).edges
  · intro listed
    have again := (settled.normalizes same listed).normalize
    rwa [if_neg named] at again

theorem Settled.unnamed (settled : Settled policy)
    (same : ∀ key ∈ policyKeys, raw.get key = policy.dict.get key) (unnamed : policy.reviewerChainMode = "") :
    normalizeHierarchyPolicy raw ≠ .ok policy := by
  intro normalized
  have listed := (Hierarchy.normalizes normalized).edges
  have again := (settled.normalizes same listed).normalize
  rw [normalized, if_pos unnamed] at again
  have read : policy.reviewerChainMode = "sequential" := congrArg HierarchyPolicy.reviewerChainMode (ok.inj again)
  simp [unnamed] at read

theorem stored_get {execution value stored : Dict Json} (normalized : normalizeHierarchyPolicy value = .ok policy)
    (applied : applyPolicyToExecution execution value = .ok stored) :
    stored.get "hierarchy_policy" = .obj policy.dict ∧
      stored.get "team_graph_layout" = execution.get "team_graph_layout" := by
  unfold applyPolicyToExecution at applied
  rw [normalized] at applied
  have written := ok.inj applied
  subst written
  rw [Dict.get_update, Dict.get_update]
  exact ⟨rfl, rfl⟩

theorem inherit_present {execution raw : Dict Json} {key : String} (present : raw.get? key = some value) :
    inherit execution raw key = raw := by
  rw [inherit, present]

theorem read_stored {stored : Dict Json} (held : stored.get "hierarchy_policy" = .obj policy.dict) :
    policyFromExecution stored = normalizeHierarchyPolicy (withLayoutEdges stored policy.dict) := by
  have inherited : flattenedKeys.foldl (inherit stored) policy.dict = policy.dict := by
    have present : ∀ key ∈ flattenedKeys, ∃ value, policy.dict.get? key = some value := by
      intro key member
      simp only [flattenedKeys, mem_cons, not_mem_nil, or_false] at member
      rcases member with rfl | rfl | rfl | rfl | rfl | rfl <;> exact ⟨_, rfl⟩
    have folded : ∀ keys : List String, (∀ key ∈ keys, ∃ value, policy.dict.get? key = some value) →
        keys.foldl (inherit stored) policy.dict = policy.dict := by
      intro keys
      induction keys with
      | nil => exact fun _ => rfl
      | cons key rest ih =>
        intro found
        obtain ⟨value, there⟩ := found key mem_cons_self
        rw [foldl_cons, inherit_present there]
        exact ih fun other member => found other (mem_cons_of_mem _ member)
    exact folded flattenedKeys present
  have moded : policy.dict.get? "default_execution_mode" = some (.str policy.defaultExecutionMode) := rfl
  have kept : withExecutionMode stored policy.dict = policy.dict := by rw [withExecutionMode, moded]
  rw [policyFromExecution, held]
  simp only [Json.toDict, bind, Except.bind]
  rw [inherited, kept]

theorem withLayoutEdges_get (stored : Dict Json) : ∀ key ∈ policyKeys,
    (withLayoutEdges stored policy.dict).get key = policy.dict.get key := by
  intro key member
  have apart : "edges" ≠ key := by
    rintro rfl
    exact absurd member (by decide)
  unfold withLayoutEdges
  split
  · rfl
  · split
    · exact Dict.get_set_of_ne _ _ apart
    · rfl

theorem Settled.edges_stored_iff (settled : Settled policy) (stored : Dict Json) :
    edgesOf (rawEdges (withLayoutEdges stored policy.dict)) = .ok policy.edges ↔
      (policy.edges ≠ [] ∨ ∀ layout, stored.get "team_graph_layout" = .obj layout → Edgeless (Dict.get layout "edges")) := by
  have listed : policy.dict.get "edges" = .arr (policy.edges.map HierarchyEdge.json) := rfl
  unfold withLayoutEdges
  rw [listed]
  by_cases empty : policy.edges = []
  · rw [if_neg (by rw [empty]; decide)]
    cases laid : stored.get "team_graph_layout" with
    | obj layout =>
      have other : (policy.dict.set "edges" ((Dict.get layout "edges").pyOr (.arr []))).get "hierarchy_edges" = .null := by
        rfl
      rw [rawEdges, Dict.get_set_self, other, edgesOf_or _ rfl, edgesOf_or _ rfl, empty, edgesOf_empty_iff]
      constructor <;> simp_all
    | null | bool | num | str | arr =>
      constructor
      · simp_all
      · exact fun _ => settled.edges_again
  · have given : (arr (policy.edges.map HierarchyEdge.json)).truthy = true := by
      simp [truthy, empty]
    rw [if_pos given]
    exact ⟨fun _ => .inl empty, fun _ => settled.edges_again⟩

def edgelessPolicy : HierarchyPolicy :=
  { managerAgentId := none, edges := [], delegationRules := [], brainstormRules := [], reviewerAgentIds := []
    reviewerChainMode := "sequential", routingMode := "capability_based", siblingLoadBalance := "queue_depth"
    defaultExecutionMode := "single_agent"
    blockedHandoff := { mode := "escalation_path", targetAgentId := none, fallbackToManager := true } }

def drawnLayout : Dict Json :=
  [("team_graph_layout", .obj [("edges", .arr [.obj [("source", .str "lead"), ("target", .str "dev")]])])]

end Stored

end Troop.Hierarchy
