import Mathlib.Tactic.NormNum
import Troop.Retrieval.Scope

namespace Troop.Retrieval

open List
open Except (ok)
open Text (joinColons splitColons)

section Keys

theorem splitOn_intercalate_pieces {pieces : List (List Char)} (some_ : pieces ≠ []) :
    ([':'].intercalate pieces).splitOn ':' = pieces.flatMap (·.splitOn ':') := by
  induction pieces with
  | nil => exact absurd rfl some_
  | cons piece rest ih =>
    cases rest with
    | nil => simp
    | cons next more =>
      have later := ih (cons_ne_nil next more)
      rw [intercalate_cons_cons, append_assoc, singleton_append, splitOn_append_cons_self, later]
      simp only [flatMap_cons]

theorem splitColons_joinColons {parts : List String} (some_ : parts ≠ []) :
    Text.splitColons (Text.joinColons parts) = parts.flatMap Text.splitColons := by
  have pieces : parts.map String.toList ≠ [] := by simpa using some_
  have text : (joinColons parts).toList = [':'].intercalate (parts.map String.toList) := by
    simp [joinColons]
  unfold splitColons
  rw [text, splitOn_intercalate_pieces pieces, flatMap_map, map_flatMap]

theorem splitColons_plain_text {text : String} (plain : ':' ∉ text.toList) : Text.splitColons text = [text] := by
  unfold splitColons
  rw [splitOn_eq_singleton plain]
  simp

theorem splitColons_joined {parts : List String} (some_ : parts ≠ []) (plain : ∀ part ∈ parts, ':' ∉ part.toList) :
    Text.splitColons (Text.joinColons parts) = parts := by
  rw [splitColons_joinColons some_]
  have single : ∀ part ∈ parts, splitColons part = [part] := fun part member =>
    splitColons_plain_text (plain part member)
  rw [flatMap_congr single]
  simp

theorem toString_plain (n : Nat) : ':' ∉ (toString n).toList := by
  have digits : (toString n).toList = Nat.toDigits 10 n := by simp
  rw [digits]
  intro member
  exact Cache.digits_plain n (mem_cons_of_mem _ member)

theorem toString_inj {m n : Nat} (same : toString m = toString n) : m = n := by
  have digits := congrArg String.toList same
  apply Cache.toDigits_inj
  simpa using digits

theorem Sha256.short_plain (sha256 : Sha256) (n : Nat) (text : String) : ':' ∉ (sha256.short n text).toList := by
  unfold short
  rw [String.toList_ofList]
  exact fun member => sha256.plain text (mem_of_mem_take member)

def flag (on : Bool) : String := if on then "1" else "0"

theorem flag_plain (on : Bool) : ':' ∉ (flag on).toList := by
  cases on <;> decide

theorem flag_inj {on on' : Bool} (same : flag on = flag on') : on = on' := by
  revert same
  cases on <;> cases on' <;> decide

theorem splitColons_ne_nil (text : String) : Text.splitColons text ≠ [] := by
  unfold splitColons
  simp

section Pieces

variable {sha256 : Sha256} {topK : Nat} {projectId query : String} {request request' : Request}

def lastPieces (sha256 : Sha256) (topK : Nat) (request : Request) : List String :=
  [flag request.filters.includeDecisions, toString (request.cap topK),
    sha256.short 16 (Text.lower (orDash request.filters.actorEmail))]

theorem key_pieces : ∃ first middle,
    Text.splitColons (request.key sha256 topK projectId query) =
      ["cache", "rag", "retrieve", first] ++ (middle ++ lastPieces sha256 topK request) := by
  have tag : splitColons "cache:rag:retrieve" = ["cache", "rag", "retrieve"] := by decide
  obtain ⟨first, rest, project⟩ := exists_cons_of_ne_nil (splitColons_ne_nil projectId)
  refine ⟨first, rest ++ (splitColons (sha256.short 32 (Text.strip query)) ++
    (splitColons (orDash request.filters.taskId) ++
      splitColons (orDash request.filters.sourceKind))), ?_⟩
  unfold Request.key ragRetrievalCacheKey lastPieces
  rw [splitColons_joinColons (cons_ne_nil _ _)]
  have included := splitColons_plain_text (flag_plain request.filters.includeDecisions)
  have limit := splitColons_plain_text (toString_plain (request.cap topK))
  have email := splitColons_plain_text (sha256.short_plain 16 (Text.lower (orDash request.filters.actorEmail)))
  unfold flag at included ⊢
  simp_all

theorem slot_inj (same : request.slot sha256 topK projectId query = request'.slot sha256 topK projectId query) :
    request.cap topK = request'.cap topK ∧
      request.filters.includeDecisions = request'.filters.includeDecisions := by
  have rests : joinColons ((splitColons (request.key sha256 topK projectId query)).drop 4) =
      joinColons ((splitColons (request'.key sha256 topK projectId query)).drop 4) :=
    (Prod.mk.inj same).2
  obtain ⟨first, middle, pieces⟩ := @key_pieces sha256 topK projectId query request
  obtain ⟨first', middle', pieces'⟩ := @key_pieces sha256 topK projectId query request'
  have parts : ∀ part ∈ splitColons (request.key sha256 topK projectId query), ':' ∉ part.toList :=
    fun part member => Cache.splitColons_plain member
  have parts' : ∀ part ∈ splitColons (request'.key sha256 topK projectId query), ':' ∉ part.toList :=
    fun part member => Cache.splitColons_plain member
  rw [pieces] at rests parts
  rw [pieces'] at rests parts'
  simp only [cons_append, nil_append, drop_succ_cons, drop_zero] at rests
  have texts := congrArg splitColons rests
  rw [splitColons_joined (by simp [lastPieces]) fun part member => parts part (mem_append_right _ member),
    splitColons_joined (by simp [lastPieces]) fun part member => parts' part (mem_append_right _ member)]
    at texts
  have last := append_inj_right' texts rfl
  unfold lastPieces at last
  simp only [cons.injEq] at last
  exact ⟨toString_inj last.2.1, flag_inj last.1⟩

end Pieces

end Keys

def Request.at (request : Request) (projectId : Option String) : Request :=
  { request with filters := { request.filters with projectId := projectId } }

/-- On all data, a request is answered as with an empty cache when another has been answered before. -/
def Isolated (sha256 : Sha256) (cacheEnabled : Bool) (topK : Nat) (projectId : Option String) (query : String)
    (a b : Request) : Prop :=
  ∀ (config : RagConfig) (engine : Engine) (tables : Tables), config.topK = topK →
    let service : Service := ⟨cacheEnabled, sha256, config, engine, tables⟩
    let before := (service.retrieve (fun _ => none) query (a.at projectId)).2
    (service.retrieve before query (b.at projectId)).1 = (service.retrieve (fun _ => none) query (b.at projectId)).1

/-- The cache is off, the request has no project or asks for nothing, the requests do not share a slot, or the
    searches depend on the same of both. -/
def Harmless (sha256 : Sha256) (cacheEnabled : Bool) (topK : Nat) (projectId : Option String) (query : String)
    (a b : Request) : Prop :=
  cacheEnabled = false ∨ given projectId = none ∨ b.cap topK = 0 ∨
    (∀ project ∈ given projectId, a.slot sha256 topK project query ≠ b.slot sha256 topK project query) ∨
    (a.filters.chunkScope = b.filters.chunkScope ∧ a.filters.memoryScope = b.filters.memoryScope)

section Shared

variable {service : Service} {projectId : Option String} {project query : String} {a b request : Request}

def Service.filled (service : Service) (project query : String) (request : Request) :
    Except PyError (List RagChunkMatch) :=
  fill service.config service.engine service.tables project query request.filters
    (request.cap service.config.topK)

theorem retrieve_no_project (none_ : given projectId = none) (answers : Answers) :
    service.retrieve answers query (request.at projectId) = (.ok [], answers) := by
  unfold Service.retrieve
  have nowhere : given (request.at projectId).filters.projectId = none := none_
  rw [nowhere]

theorem retrieve_missed (there : given projectId = some project) (enabled : service.config.enabled = true)
    {answers : Answers} (missed : (if service.cacheEnabled then
      answers (request.slot service.sha256 service.config.topK project query) else none) = none) :
    service.retrieve answers query (request.at projectId) =
      match service.filled project query request with
      | .ok items => (.ok items, if service.cacheEnabled then
          Function.update answers (request.slot service.sha256 service.config.topK project query) (some items)
        else answers)
      | .error error => (.error error, answers) := by
  have somewhere : given (request.at projectId).filters.projectId = some project := there
  have slot : (request.at projectId).slot service.sha256 service.config.topK project query =
      request.slot service.sha256 service.config.topK project query := rfl
  unfold Service.retrieve
  rw [somewhere]
  simp only [enabled, slot, missed]
  rfl

theorem retrieve_hit (there : given projectId = some project) (enabled : service.config.enabled = true)
    {answers : Answers} {items : List RagChunkMatch} (hit : (if service.cacheEnabled then
      answers (request.slot service.sha256 service.config.topK project query) else none) = some items) :
    service.retrieve answers query (request.at projectId) = (.ok items, answers) := by
  have somewhere : given (request.at projectId).filters.projectId = some project := there
  have slot : (request.at projectId).slot service.sha256 service.config.topK project query =
      request.slot service.sha256 service.config.topK project query := rfl
  unfold Service.retrieve
  simp_all

end Shared

section Apart

def plainConfig (topK : Nat) : RagConfig where
  topK := topK
  candidateTopK := 1
  hybridSearchEnabled := false
  dedupSimilarityThreshold := 2
  maxContextTokens := 1

def plainEngine : Engine where
  embed _ := .ok []
  distance _ _ := 0
  cosineSimilarity _ _ := 0
  matchesText _ _ := false
  rankText _ _ := 0
  ilike _ _ := false

variable {topK : Nat} {query : String} {filters : RagSearchFilters} {cap : Nat} {item : RagChunkMatch}

theorem fused_one {limit : Nat} (some_ : 0 < limit) :
    reciprocalRankFusion [[item]] limit 60 = [{ item with score := 1 }] := by
  have share : (1 : ℚ) / ((max 1 60 : Nat) + (1 : Nat)) ≠ 0 := by norm_num
  have candidates : addRanking 60 [] 1 [] [item] = [(item, (1 : ℚ) / ((max 1 60 : Nat) + (1 : Nat)))] := by
    simp [addRanking, addScore]
  have first (candidate : RagChunkMatch × ℚ) : [candidate].take limit = [candidate] :=
    take_of_length_le some_
  unfold reciprocalRankFusion
  simp only [foldl_cons, foldl_nil, candidates, mergeSort_singleton, first, map_cons, map_nil, div_self share]

theorem selected_nothing (limit tokens perDocument perSource : Int) (threshold : ℚ) (estimate : String → Nat) :
    selectContextMatches [] limit tokens perDocument perSource threshold estimate = [] := by
  simp [selectContextMatches, uniqueMatches, diversified, roundRobin, withinBudget]

theorem selected_one (empty : item.content = "") (some_ : 0 < cap) :
    selectContextMatches [item] cap 1 2 4 2 estimateTokens = [item] := by
  have unique : uniqueMatches 2 4 2 [] [item] = [item] := by
    have apart : nearDuplicate item [] 2 = false := by
      unfold nearDuplicate
      rw [if_pos (by norm_num)]
    simp [uniqueMatches, apart]
  have alone : diversified [item] = [item] := by
    simp [diversified, roundRobin, served]
  obtain ⟨n, rfl⟩ := Nat.exists_eq_succ_of_ne_zero (Nat.pos_iff_ne_zero.mp some_)
  have tokens : estimateTokens item.content = 1 := by
    rw [empty]
    decide
  unfold selectContextMatches
  rw [unique, alone, if_neg (by omega)]
  simp [withinBudget, tokens]

theorem chosen_one (read : readable filters.actorEmail item = true) (empty : item.content = "") (some_ : 0 < cap) :
    chosen (plainConfig topK) query filters cap [[item]] = [{ item with score := 1 }] := by
  have fused := @fused_one item (candidateCap (plainConfig topK) cap) (Nat.lt_of_lt_of_le some_ (Nat.le_max_left _ _))
  have shown : readable filters.actorEmail { item with score := 1 } = true := read
  have kept : filterDriveAclMatches filters.actorEmail [{ item with score := 1 }] = [{ item with score := 1 }] := by
    unfold filterDriveAclMatches
    rw [filter_cons, if_pos shown, filter_nil]
  have selected := @selected_one cap { item with score := 1 } empty some_
  unfold chosen
  dsimp only [plainConfig] at fused ⊢
  rwa [fused, kept]

theorem chosen_none : chosen (plainConfig topK) query filters cap [] = [] := by
  have fused (limit : Nat) : reciprocalRankFusion [] limit 60 = [] := by simp [reciprocalRankFusion]
  unfold chosen
  dsimp only [plainConfig]
  rw [fused]
  exact selected_nothing ..

section Tables

variable {projectId owner : String} {task : Option String} {metadata : Dict Json}

def theChunk (projectId : String) (task : Option String) (metadata : Dict Json) : Chunk where
  id := "c"
  projectDocumentId := "d"
  projectId := projectId
  taskId := task
  content := ""
  metadataJson := metadata
  embeddingVector := some []

def theDocument (projectId : String) : ProjectDocument where
  id := "d"
  projectId := projectId
  filename := "d"

def chunkTables (projectId : String) (task : Option String) (metadata : Dict Json) : Tables where
  chunks := [theChunk projectId task metadata]
  documents := [theDocument projectId]

def theMemory (projectId owner : String) (metadata : Dict Json) : SemanticMemoryEntry where
  id := "m"
  ownerId := owner
  projectId := projectId
  title := ""
  body := ""
  metadataJson := metadata
  embeddingVector := some []

def memoryTables (projectId owner : String) (metadata : Dict Json) : Tables where
  memories := [theMemory projectId owner metadata]

def theHit (metadata : Dict Json) : RagChunkMatch where
  chunkId := "c"
  documentId := "d"
  title := "d"
  content := ""
  chunkIndex := 0
  score := 1
  metadata := metadata

theorem theHit_above {metadata : Dict Json} : decide (0 ≤ (theHit metadata).score) = true :=
  decide_eq_true (show (0 : ℚ) ≤ 1 from zero_le_one)

structure Seen (filters : RagSearchFilters) (task : Option String) (metadata : Dict Json) : Prop where
  tasks : ∀ asked ∈ filters.taskId, task = some asked ∨ task = none
  kinds : ∀ kind ∈ given filters.sourceKind, metadata.get "source_kind" = .str kind
  read : readable filters.actorEmail (theHit metadata) = true

theorem live_chunk {asked kind : Option String} (tasks : ∀ task_ ∈ asked, task = some task_ ∨ task = none)
    (kinds : ∀ kind_ ∈ given kind, metadata.get "source_kind" = .str kind_) :
    (chunkTables projectId task metadata).liveChunks projectId asked kind =
      [(theChunk projectId task metadata, theDocument projectId)] := by
  have found : (chunkTables projectId task metadata).documents.find?
      (fun document => document.id = (theChunk projectId task metadata).projectDocumentId) =
      some (theDocument projectId) := rfl
  have conditions : (theChunk projectId task metadata).projectId = projectId ∧
      (!(theChunk projectId task metadata).deleted) = true ∧ (!(theDocument projectId).deleted) = true ∧
      (∀ task_ ∈ asked, (theChunk projectId task metadata).taskId = some task_ ∨
        (theChunk projectId task metadata).taskId = none) ∧
      (∀ kind_ ∈ given kind, (theChunk projectId task metadata).metadataJson.get "source_kind" = .str kind_) :=
    ⟨rfl, rfl, rfl, tasks, kinds⟩
  show [theChunk projectId task metadata].filterMap _ = _
  simp_all

theorem no_live_chunk {asked kind : Option String}
    (hidden : ¬ ((∀ task_ ∈ asked, task = some task_ ∨ task = none) ∧
      (∀ kind_ ∈ given kind, metadata.get "source_kind" = .str kind_))) :
    (chunkTables projectId task metadata).liveChunks projectId asked kind = [] := by
  rw [eq_nil_iff_forall_not_mem]
  intro row member
  obtain ⟨chunk, inside, made⟩ := mem_filterMap.mp member
  obtain rfl : chunk = theChunk projectId task metadata := mem_singleton.mp inside
  split at made
  · split at made
    · rename_i conditions
      exact hidden conditions.2.2.2
    · cases made
  · cases made

variable {tables : Tables}

theorem plain_rankings (none_ : tables.decisions = []) :
    rankings (plainConfig topK) plainEngine tables projectId query filters [] cap =
      [vectorMatches (plainConfig topK) plainEngine tables projectId filters [] cap,
        memoriesFound (plainConfig topK) plainEngine tables projectId filters [] cap].filter (· ≠ []) := by
  have lexical : lexicalMatches (plainConfig topK) plainEngine tables projectId query filters cap = [] := rfl
  have fallback : fallbackMatches (plainConfig topK) plainEngine tables projectId filters [] cap = [] := by
    exact if_neg fun both => Bool.false_ne_true both.2
  have decisions : decisionsFound (plainConfig topK) plainEngine tables projectId query filters cap = [] := by
    have found (limit : Nat) : listProjectDecisions plainEngine tables projectId query limit (plainConfig topK) = [] := by
      unfold listProjectDecisions
      simp only [none_, reverse_nil, filter_nil, take_nil]
    unfold decisionsFound
    split
    · unfold decisionMatches topOf
      simp only [found, filterMap_nil, mergeSort_nil, take_nil]
    · rfl
  unfold rankings
  rw [lexical, fallback, decisions]
  simp only [filter_cons, ne_eq, not_true_eq_false, decide_false, Bool.false_eq_true, if_false]

theorem fill_plain :
    fill (plainConfig topK) plainEngine tables projectId query filters cap =
      .ok (chosen (plainConfig topK) query filters cap
        (rankings (plainConfig topK) plainEngine tables projectId query filters [] cap)) := rfl

theorem chunk_memories : memoriesFound (plainConfig topK) plainEngine (chunkTables projectId task metadata) projectId
    filters [] cap = [] := by
  rw [memoriesFound_eq]
  split
  · simp [semanticMemoryMatches, searchSemanticMemoryByVector, chunkTables]
  · rfl

theorem topOf_one {limit : Nat} (some_ : 0 < limit) : topOf limit [item] = [item] := by
  unfold topOf
  rw [mergeSort_singleton]
  exact take_of_length_le some_

theorem topOf_none (limit : Nat) : topOf limit [] = [] := by
  unfold topOf
  rw [mergeSort_nil, take_nil]

theorem plain_vectors :
    vectorMatches (plainConfig topK) plainEngine tables projectId filters [] cap =
      filterDriveAclMatches filters.actorEmail ((searchDocumentChunksByVector plainEngine tables projectId []
        filters.taskId filters.sourceKind (candidateCap (plainConfig topK) cap)).filter (0 ≤ ·.score)) := rfl

theorem found_live (tasks : ∀ asked ∈ filters.taskId, task = some asked ∨ task = none)
    (kinds : ∀ kind ∈ given filters.sourceKind, metadata.get "source_kind" = .str kind) {topK : Nat} :
    searchDocumentChunksByVector plainEngine (chunkTables projectId task metadata) projectId [] filters.taskId
      filters.sourceKind topK = [theHit metadata] := by
  have shown : hit (theChunk projectId task metadata, theDocument projectId) (1 - 0) = theHit metadata := by
    rw [sub_zero]
    rfl
  unfold searchDocumentChunksByVector
  rw [live_chunk tasks kinds]
  have found : [(theChunk projectId task metadata, theDocument projectId)].filterMap (fun row =>
      row.1.embeddingVector.map fun vector => hit row (1 - plainEngine.distance vector [])) = [theHit metadata] := by
    rw [← shown]
    rfl
  rw [found]
  exact topOf_one (Nat.lt_of_lt_of_le Nat.zero_lt_one (Nat.le_max_left _ _))

theorem fill_seen (seen : Seen filters task metadata) (some_ : 0 < cap) :
    fill (plainConfig topK) plainEngine (chunkTables projectId task metadata) projectId query filters cap =
      .ok [theHit metadata] := by
  have vectors : vectorMatches (plainConfig topK) plainEngine (chunkTables projectId task metadata) projectId filters
      [] cap = [theHit metadata] := by
    rw [plain_vectors, found_live seen.tasks seen.kinds]
    unfold filterDriveAclMatches
    rw [filter_cons, if_pos theHit_above, filter_nil, filter_cons, if_pos seen.read, filter_nil]
  rw [fill_plain, plain_rankings rfl, vectors, chunk_memories]
  have chosen := @chosen_one topK query filters cap (theHit metadata) seen.read rfl some_
  exact congrArg ok chosen

theorem fill_unseen (unseen : ¬ Seen filters task metadata) :
    fill (plainConfig topK) plainEngine (chunkTables projectId task metadata) projectId query filters cap =
      .ok [] := by
  have vectors : vectorMatches (plainConfig topK) plainEngine (chunkTables projectId task metadata) projectId filters
      [] cap = [] := by
    rw [plain_vectors]
    by_cases live : (∀ asked ∈ filters.taskId, task = some asked ∨ task = none) ∧
        (∀ kind ∈ given filters.sourceKind, metadata.get "source_kind" = .str kind)
    · have hidden : ¬ readable filters.actorEmail (theHit metadata) = true := fun read =>
        unseen ⟨live.1, live.2, read⟩
      rw [found_live live.1 live.2]
      unfold filterDriveAclMatches
      rw [filter_cons, if_pos theHit_above, filter_nil, filter_cons, if_neg hidden, filter_nil]
    · unfold searchDocumentChunksByVector
      rw [no_live_chunk live, filterMap_nil, topOf_none]
      rfl
  rw [fill_plain, plain_rankings rfl, vectors, chunk_memories]
  exact congrArg ok chosen_none

theorem chosen_hidden (hidden : ¬ readable filters.actorEmail item = true) :
    chosen (plainConfig topK) query filters cap [[item]] = [] := by
  have fused := @fused_one item (candidateCap (plainConfig topK) cap)
    (Nat.lt_of_lt_of_le Nat.zero_lt_one (Nat.le_max_right _ _))
  have shown : ¬ readable filters.actorEmail { item with score := 1 } = true := hidden
  have dropped : filterDriveAclMatches filters.actorEmail [{ item with score := 1 }] = [] := by
    unfold filterDriveAclMatches
    rw [filter_cons, if_neg shown, filter_nil]
  unfold chosen
  dsimp only [plainConfig] at fused ⊢
  rw [fused, dropped]
  exact selected_nothing ..

def theRecalled (projectId owner : String) (metadata : Dict Json) : RagChunkMatch :=
  { memoryMatch (theMemory projectId owner metadata) 1 with score := 1 }

structure Recalled (filters : RagSearchFilters) (owner : String) (metadata : Dict Json) : Prop where
  scope : (filters.memoryScope.map Prod.fst) = some owner
  read : readable filters.actorEmail (theHit metadata) = true

theorem readable_recalled (email : Option String) :
    readable email (theRecalled projectId owner metadata) = readable email (theHit metadata) := by
  have kept (key : String) (apart : key ∉ ["source_id", "source_task_id", "source_run_id", "provenance"]) :
      Dict.get (theRecalled projectId owner metadata).metadata key = metadata.get key := by
    simp only [mem_cons, not_mem_nil, or_false, not_or] at apart
    unfold theRecalled memoryMatch
    rw [Dict.get_update]
    simp only [Dict.get?_cons, Dict.get?_nil, Ne.symm apart.1, Ne.symm apart.2.1, Ne.symm apart.2.2.1,
      Ne.symm apart.2.2.2, if_false, Option.none_or]
    rfl
  have kinds := kept "source_kind" (by decide)
  have snapshots := kept "acl_snapshot" (by decide)
  unfold readable
  rw [kinds, snapshots]
  rfl

theorem memory_vectors : vectorMatches (plainConfig topK) plainEngine (memoryTables projectId owner metadata) projectId
    filters [] cap = [] := by
  rw [plain_vectors]
  have none_ : (memoryTables projectId owner metadata).liveChunks projectId filters.taskId filters.sourceKind = [] := rfl
  unfold searchDocumentChunksByVector
  rw [none_, filterMap_nil, topOf_none]
  rfl

theorem recalled_own (limit : Nat) :
    semanticMemoryMatches plainEngine (memoryTables projectId owner metadata) owner projectId [] limit =
      [memoryMatch (theMemory projectId owner metadata) 1] := by
  have searched : searchSemanticMemoryByVector plainEngine (memoryTables projectId owner metadata) owner projectId []
      limit = [theMemory projectId owner metadata] := by
    have owned : (memoryTables projectId owner metadata).memories.filter (fun entry =>
        entry.ownerId = owner ∧ entry.projectId = projectId ∧ entry.current) =
        [theMemory projectId owner metadata] := by
      simp [memoryTables, theMemory]
    have first (placed : SemanticMemoryEntry × ℚ) : [placed].take (max 1 (min limit 50)) = [placed] :=
      take_of_length_le (Nat.le_max_left _ _)
    unfold searchSemanticMemoryByVector
    rw [owned]
    simp only [filterMap_cons, filterMap_nil, theMemory, Option.map_some, mergeSort_singleton, first, map_cons, map_nil]
  unfold semanticMemoryMatches
  simp_all

theorem recalled_other {user : String} (other : user ≠ owner) (limit : Nat) :
    semanticMemoryMatches plainEngine (memoryTables projectId owner metadata) user projectId [] limit = [] := by
  have owned : (memoryTables projectId owner metadata).memories.filter (fun entry =>
      entry.ownerId = user ∧ entry.projectId = projectId ∧ entry.current) = [] := by
    simp [memoryTables, theMemory, Ne.symm other]
  unfold semanticMemoryMatches searchSemanticMemoryByVector
  rw [owned]
  simp

theorem fill_recalled (recalled : Recalled filters owner metadata) (some_ : 0 < cap) :
    fill (plainConfig topK) plainEngine (memoryTables projectId owner metadata) projectId query filters cap =
      .ok [theRecalled projectId owner metadata] := by
  obtain ⟨⟨user, email⟩, scope, own⟩ := Option.map_eq_some_iff.mp recalled.scope
  obtain rfl : user = owner := own
  have memories : memoriesFound (plainConfig topK) plainEngine (memoryTables projectId user metadata) projectId filters
      [] cap = [memoryMatch (theMemory projectId user metadata) 1] := by
    rw [memoriesFound_eq, scope]
    exact recalled_own _
  have read : readable filters.actorEmail (memoryMatch (theMemory projectId user metadata) 1) = true :=
    (readable_recalled filters.actorEmail).trans recalled.read
  rw [fill_plain, plain_rankings rfl, memory_vectors, memories]
  exact congrArg ok (chosen_one read rfl some_)

theorem fill_unrecalled (unrecalled : ¬ Recalled filters owner metadata) :
    fill (plainConfig topK) plainEngine (memoryTables projectId owner metadata) projectId query filters cap =
      .ok [] := by
  rw [fill_plain, plain_rankings rfl, memory_vectors]
  cases scope : filters.memoryScope with
  | none =>
    have memories : memoriesFound (plainConfig topK) plainEngine (memoryTables projectId owner metadata) projectId
        filters [] cap = [] := by rw [memoriesFound_eq, scope]
    rw [memories]
    exact congrArg ok chosen_none
  | some pair =>
    obtain ⟨user, email⟩ := pair
    by_cases own : user = owner
    · subst own
      have memories : memoriesFound (plainConfig topK) plainEngine (memoryTables projectId user metadata) projectId
          filters [] cap = [memoryMatch (theMemory projectId user metadata) 1] := by
        rw [memoriesFound_eq, scope]
        exact recalled_own _
      have hidden : ¬ readable filters.actorEmail (memoryMatch (theMemory projectId user metadata) 1) = true := by
        intro read
        exact unrecalled ⟨by rw [scope]; rfl, (readable_recalled filters.actorEmail).symm.trans read⟩
      rw [memories]
      exact congrArg ok (chosen_hidden hidden)
    · have memories : memoriesFound (plainConfig topK) plainEngine (memoryTables projectId owner metadata) projectId
          filters [] cap = [] := by
        rw [memoriesFound_eq, scope]
        exact recalled_other own _
      rw [memories]
      exact congrArg ok chosen_none

end Tables

section Telling

variable {a b : RagSearchFilters}

variable {email : Option String} {x y : Option String} {address : String}

theorem tasks_apart (apart : x ≠ y) :
    ∃ task : Option String, ¬ ((∀ asked ∈ x, task = some asked ∨ task = none) ↔
      ∀ asked ∈ y, task = some asked ∨ task = none) := by
  cases x with
  | none =>
    cases y with
    | none => exact absurd rfl apart
    | some t =>
      refine ⟨some (t ++ "x"), fun same => ?_⟩
      have found := same.mp (fun _ member => by cases member) t rfl
      simp at found
  | some s =>
    cases y with
    | none =>
      refine ⟨some (s ++ "x"), fun same => ?_⟩
      have found := same.mpr (fun _ member => by cases member) s rfl
      simp at found
    | some t =>
      refine ⟨some s, fun same => ?_⟩
      have found := same.mp (fun asked member => .inl (by rw [Option.mem_some_iff.mp member])) t rfl
      simp only [Option.some.injEq, reduceCtorEq, or_false] at found
      exact apart (congrArg some found)

def driveFile (kind : String) (acl : Json) : Dict Json := [("source_kind", .str kind), ("acl_snapshot", acl)]

theorem driveFile_kind (kind : String) (acl : Json) : (driveFile kind acl).get "source_kind" = .str kind := by
  simp [driveFile, Dict.get_eq, Dict.get?_cons]

theorem driveFile_acl (kind : String) (acl : Json) : (driveFile kind acl).get "acl_snapshot" = acl := by
  simp [driveFile, Dict.get_eq, Dict.get?_cons]

theorem readable_driveFile {kind : String} (drive : kind ∈ driveSourceKinds) {acl : Json} :
    readable email (theHit (driveFile kind acl)) = true ↔
      ∃ address, given email = some address ∧ actorCanReadAcl acl address = true := by
  rw [readable_iff]
  have checked : ¬ (theHit (driveFile kind acl)).Plain := by
    unfold RagChunkMatch.Plain theHit
    rw [driveFile_kind, Json.strOrEmpty_str]
    exact not_not.mpr drive
  have snapshot : (theHit (driveFile kind acl)).metadata.get "acl_snapshot" = acl := driveFile_acl kind acl
  simp_all

def publicFile : Json := .obj [("public", .bool true)]

theorem readable_public {kind : String} (drive : kind ∈ driveSourceKinds) :
    readable email (theHit (driveFile kind publicFile)) = true ↔ checkedEmail email ≠ none := by
  have everybody (address : String) : actorCanReadAcl publicFile address = true := by
    simp [actorCanReadAcl, publicFile, Json.truthy, Json.get, Dict.get?_cons]
  rw [readable_driveFile drive]
  unfold checkedEmail
  cases given email <;> simp [everybody]

def sharedFile (address : String) : Json := .obj [("allowed_emails", .arr [.str address])]

theorem readable_shared {kind : String} (drive : kind ∈ driveSourceKinds)
    (lower : Text.lower address = address) (some_ : address ≠ "") :
    readable email (theHit (driveFile kind (sharedFile address))) = true ↔ checkedEmail email = some address := by
  have shared (asked : String) : actorCanReadAcl (sharedFile address) asked = true ↔
      Text.lower (Text.strip asked) = address := by
    have allowed : (sharedFile address).get "allowed_emails" = .arr [.str address] := by
      simp [sharedFile, Json.get, Dict.get?_cons]
    have nobody : (sharedFile address).get "owner_email" = .null := by
      simp [sharedFile, Json.get, Dict.get?_cons]
    have closed : (sharedFile address).get "public" = .null := by
      simp [sharedFile, Json.get, Dict.get?_cons]
    have blank : Text.lower (Json.strOrEmpty .null) = "" := by decide
    have there : (sharedFile address).truthy = true := rfl
    unfold actorCanReadAcl
    simp only [there, closed, allowed, nobody, blank, map_cons, map_nil, Json.pyStr, lower]
    by_cases empty : Text.lower (Text.strip asked) = ""
    · simp [empty, Ne.symm some_]
    · simp [empty]
  rw [readable_driveFile drive]
  unfold checkedEmail
  cases given email <;> simp [shared]

theorem checkedEmail_lower (checked : checkedEmail email = some address) :
    Text.lower address = address := by
  obtain ⟨written, _, rfl⟩ := Option.map_eq_some_iff.mp checked
  exact Text.lower_lower _

theorem emails_apart {kind : String} (drive : kind ∈ driveSourceKinds) (apart : checkedEmail x ≠ checkedEmail y) :
    ∃ acl, ¬ (readable x (theHit (driveFile kind acl)) = true ↔ readable y (theHit (driveFile kind acl)) = true) := by
  cases first : checkedEmail x with
  | none =>
    refine ⟨publicFile, fun same => ?_⟩
    rw [readable_public drive, readable_public drive] at same
    exact (same.mpr fun second => apart (first.trans second.symm)) first
  | some address =>
    by_cases blank : address = ""
    · cases second : checkedEmail y with
      | none =>
        refine ⟨publicFile, fun same => ?_⟩
        rw [readable_public drive, readable_public drive] at same
        exact (same.mp fun none_ => apart (none_.trans second.symm)) second
      | some other =>
        have named : other ≠ "" := fun equal => apart (by rw [first, second, blank, equal])
        refine ⟨sharedFile other, fun same => ?_⟩
        rw [readable_shared drive (checkedEmail_lower second) named,
          readable_shared drive (checkedEmail_lower second) named] at same
        exact apart ((same.mpr second).trans second.symm)
    · refine ⟨sharedFile address, fun same => ?_⟩
      rw [readable_shared drive (checkedEmail_lower first) blank,
        readable_shared drive (checkedEmail_lower first) blank] at same
      exact apart (first.trans (same.mp first).symm)

section Chunks

variable {kind : String} {acl : Json}

theorem readable_other (other : kind ∉ driveSourceKinds) (email : Option String) :
    readable email (theHit (driveFile kind acl)) = true := by
  apply readable_plain
  unfold RagChunkMatch.Plain theHit
  rwa [driveFile_kind, Json.strOrEmpty_str]

theorem readable_open (shown : kind ∉ driveSourceKinds ∨ checkedEmail a.actorEmail ≠ none) :
    readable a.actorEmail (theHit (driveFile kind publicFile)) = true := by
  by_cases drive : kind ∈ driveSourceKinds
  · exact (readable_public drive).mpr (shown.resolve_left (not_not.mpr drive))
  · exact readable_other drive _

theorem seen_of_kind (asked : given a.sourceKind = some kind) {task : Option String} :
    Seen a task (driveFile kind acl) ↔
      (∀ asked ∈ a.taskId, task = some asked ∨ task = none) ∧
        readable a.actorEmail (theHit (driveFile kind acl)) = true := by
  constructor
  · intro seen
    exact ⟨seen.tasks, seen.read⟩
  · rintro ⟨tasks, read⟩
    refine ⟨tasks, ?_, read⟩
    intro kind' member
    rw [asked, Option.mem_some_iff] at member
    rw [driveFile_kind, member]

variable {x y : RagSearchFilters} {kind' : String}

theorem not_seen_of_kind (asked : given a.sourceKind = some kind') (apart : kind ≠ kind')
    {task : Option String} : ¬ Seen a task (driveFile kind acl) := by
  intro seen
  have held := seen.kinds kind' asked
  exact apart (Json.str.inj held)

theorem seen_of_no_kind (asked : given a.sourceKind = none) {task : Option String} {metadata : Dict Json} :
    Seen a task metadata ↔
      (∀ asked ∈ a.taskId, task = some asked ∨ task = none) ∧ readable a.actorEmail (theHit metadata) = true := by
  constructor
  · intro seen
    exact ⟨seen.tasks, seen.read⟩
  · rintro ⟨tasks, read⟩
    refine ⟨tasks, ?_, read⟩
    simp [asked]

theorem for_everyone (filters : RagSearchFilters) :
    ∀ asked ∈ filters.taskId, (none : Option String) = some asked ∨ (none : Option String) = none :=
  fun _ _ => .inr rfl

theorem readable_bare (email : Option String) : readable email (theHit []) = true :=
  readable_plain (plain_of_no_metadata rfl)

theorem kinds_apart (asked : given x.sourceKind = some kind) (asked' : given y.sourceKind = some kind')
    (apart : kind ≠ kind') (shown : kind ∉ driveSourceKinds ∨ checkedEmail x.actorEmail ≠ none) :
    ¬ (Seen x none (driveFile kind publicFile) ↔ Seen y none (driveFile kind publicFile)) := by
  intro same
  have seen := (seen_of_kind asked).mpr ⟨for_everyone x, readable_open shown⟩
  exact not_seen_of_kind asked' apart (same.mp seen)

theorem scope_of_kind (asked : given a.sourceKind = some kind) :
    a.chunkScope = if kind ∈ driveSourceKinds then
      (checkedEmail a.actorEmail).map fun email => (a.taskId, some kind, some email)
    else some (a.taskId, some kind, none) := by
  unfold RagSearchFilters.chunkScope
  rw [asked]

theorem scope_of_no_kind (asked : given a.sourceKind = none) :
    a.chunkScope = some (a.taskId, none, checkedEmail a.actorEmail) := by
  unfold RagSearchFilters.chunkScope
  rw [asked]

theorem chunks_apart_of_kind (asked : given a.sourceKind = some kind) (asked' : given b.sourceKind = some kind)
    (apart : a.chunkScope ≠ b.chunkScope) : ∃ task metadata, ¬ (Seen a task metadata ↔ Seen b task metadata) := by
  rw [scope_of_kind asked, scope_of_kind asked'] at apart
  by_cases drive : kind ∈ driveSourceKinds
  · rw [if_pos drive, if_pos drive] at apart
    by_cases emails : checkedEmail a.actorEmail = checkedEmail b.actorEmail
    · have tasks : a.taskId ≠ b.taskId := fun tasks => apart (by rw [emails, tasks])
      have somebody : checkedEmail a.actorEmail ≠ none := by
        intro nobody
        rw [← emails, nobody] at apart
        exact apart rfl
      obtain ⟨task, told⟩ := tasks_apart tasks
      refine ⟨task, driveFile kind publicFile, fun same => told ?_⟩
      rw [seen_of_kind asked, seen_of_kind asked'] at same
      have read : readable a.actorEmail (theHit (driveFile kind publicFile)) = true :=
        readable_open (.inr somebody)
      have read' : readable b.actorEmail (theHit (driveFile kind publicFile)) = true :=
        readable_open (.inr (emails ▸ somebody))
      simpa only [read, read', and_true] using same
    · obtain ⟨acl, told⟩ := emails_apart drive emails
      refine ⟨none, driveFile kind acl, fun same => told ?_⟩
      rw [seen_of_kind asked, seen_of_kind asked', and_iff_right (for_everyone a),
        and_iff_right (for_everyone b)] at same
      exact same
  · rw [if_neg drive, if_neg drive] at apart
    have tasks : a.taskId ≠ b.taskId := fun tasks => apart (by rw [tasks])
    obtain ⟨task, told⟩ := tasks_apart tasks
    refine ⟨task, driveFile kind publicFile, fun same => told ?_⟩
    rw [seen_of_kind asked, seen_of_kind asked'] at same
    simpa only [readable_other drive, and_true] using same

theorem chunks_apart_of_no_kind (asked : given a.sourceKind = none) (asked' : given b.sourceKind = none)
    (apart : a.chunkScope ≠ b.chunkScope) : ∃ task metadata, ¬ (Seen a task metadata ↔ Seen b task metadata) := by
  rw [scope_of_no_kind asked, scope_of_no_kind asked'] at apart
  by_cases emails : checkedEmail a.actorEmail = checkedEmail b.actorEmail
  · have tasks : a.taskId ≠ b.taskId := fun tasks => apart (by rw [emails, tasks])
    obtain ⟨task, told⟩ := tasks_apart tasks
    refine ⟨task, [], fun same => told ?_⟩
    rw [seen_of_no_kind asked, seen_of_no_kind asked'] at same
    simpa only [readable_bare, and_true] using same
  · have drive : "google_drive" ∈ driveSourceKinds := by decide
    obtain ⟨acl, told⟩ := emails_apart drive emails
    refine ⟨none, driveFile "google_drive" acl, fun same => told ?_⟩
    rw [seen_of_no_kind asked, seen_of_no_kind asked', and_iff_right (for_everyone a),
      and_iff_right (for_everyone b)] at same
    exact same

theorem no_kind_apart (asked : given x.sourceKind = none)
    (asked' : given y.sourceKind = some kind) : ¬ (Seen x none [] ↔ Seen y none []) := by
  intro same
  have seen := (seen_of_no_kind asked).mpr ⟨for_everyone x, readable_bare _⟩
  have held := (same.mp seen).kinds kind asked'
  simp at held

theorem chunks_apart (apart : a.chunkScope ≠ b.chunkScope) :
    ∃ task metadata, ¬ (Seen a task metadata ↔ Seen b task metadata) := by
  cases asked : given a.sourceKind with
  | none =>
    cases asked' : given b.sourceKind with
    | none => exact chunks_apart_of_no_kind asked asked' apart
    | some kind' => exact ⟨none, [], no_kind_apart asked asked'⟩
  | some kind =>
    cases asked' : given b.sourceKind with
    | none => exact ⟨none, [], fun same => no_kind_apart asked' asked same.symm⟩
    | some kind' =>
      by_cases equal : kind = kind'
      · subst equal
        exact chunks_apart_of_kind asked asked' apart
      · by_cases shown : kind ∉ driveSourceKinds ∨ checkedEmail a.actorEmail ≠ none
        · exact ⟨none, _, kinds_apart asked asked' equal shown⟩
        by_cases shown' : kind' ∉ driveSourceKinds ∨ checkedEmail b.actorEmail ≠ none
        · exact ⟨none, _, fun same => kinds_apart asked' asked (Ne.symm equal) shown' same.symm⟩
        · -- both look for files of a drive without an address
          simp only [not_or, not_not] at shown shown'
          refine absurd ?_ apart
          simp [scope_of_kind asked, scope_of_kind asked', if_pos shown.1, if_pos shown'.1, shown.2, shown'.2]

end Chunks

theorem recalled_bare {x : RagSearchFilters} {pair : String × Option String} (scope : x.memoryScope = some pair) :
    Recalled x pair.1 [] where
  scope := by rw [scope]; rfl
  read := readable_bare _

theorem memories_apart (apart : a.memoryScope ≠ b.memoryScope) :
    ∃ owner metadata, ¬ (Recalled a owner metadata ↔ Recalled b owner metadata) := by
  cases scope : a.memoryScope with
  | none =>
    obtain ⟨pair, scope'⟩ := Option.ne_none_iff_exists'.mp fun none_ => apart (scope.trans none_.symm)
    refine ⟨pair.1, [], fun same => ?_⟩
    have recalled := (same.mpr (recalled_bare scope')).scope
    simp [scope] at recalled
  | some pair =>
    by_cases owners : b.memoryScope.map Prod.fst = some pair.1
    · obtain ⟨pair', scope', equal⟩ := Option.map_eq_some_iff.mp owners
      have emails : checkedEmail a.actorEmail ≠ checkedEmail b.actorEmail := by
        intro equal'
        have address := memoryScope_email scope
        have address' := memoryScope_email scope'
        exact apart (by rw [scope, scope', Prod.ext equal.symm (address.trans (equal'.trans address'.symm))])
      have drive : "google_drive" ∈ driveSourceKinds := by decide
      obtain ⟨acl, told⟩ := emails_apart drive emails
      refine ⟨pair.1, driveFile "google_drive" acl, fun same => told ⟨fun read => ?_, fun read => ?_⟩⟩
      · exact (same.mp ⟨by rw [scope]; rfl, read⟩).read
      · exact (same.mpr ⟨owners, read⟩).read
    · refine ⟨pair.1, [], fun same => ?_⟩
      exact owners (same.mp (recalled_bare scope)).scope

end Telling

end Apart

section Answers

variable {service : Service} {projectId : Option String} {project query : String} {a b : Request} {topK : Nat}

theorem retrieve_disabled (disabled : service.config.enabled = false) (answers : Answers) :
    (service.retrieve answers query (b.at projectId)).1 = .ok [] := by
  unfold Service.retrieve
  split
  · rfl
  · simp [disabled]

theorem nothing_cached (cacheEnabled : Bool) :
    (if cacheEnabled = true then (none : Option (List RagChunkMatch)) else none) = none := by
  cases cacheEnabled <;> rfl

theorem retrieve_fresh (there : given projectId = some project) (enabled : service.config.enabled = true) :
    (service.retrieve (fun _ => none) query (b.at projectId)).1 = service.filled project query b := by
  rw [retrieve_missed there enabled (nothing_cached _)]
  cases service.filled project query b <;> rfl

theorem retrieve_leaves (there : given projectId = some project) (enabled : service.config.enabled = true) :
    (service.retrieve (fun _ => none) query (a.at projectId)).2 =
      match service.filled project query a with
      | .ok items => if service.cacheEnabled then
          Function.update (fun _ => none) (a.slot service.sha256 service.config.topK project query) (some items)
        else fun _ => none
      | .error _ => fun _ => none := by
  rw [retrieve_missed there enabled (nothing_cached _)]
  cases service.filled project query a <;> rfl

theorem retrieve_shared (there : given projectId = some project) (enabled : service.config.enabled = true)
    (cached : service.cacheEnabled = true) {items : List RagChunkMatch}
    (filled : service.filled project query a = .ok items)
    (shared : a.slot service.sha256 service.config.topK project query =
      b.slot service.sha256 service.config.topK project query) :
    (service.retrieve (service.retrieve (fun _ => none) query (a.at projectId)).2 query (b.at projectId)).1 =
      .ok items := by
  rw [retrieve_leaves there enabled, filled]
  simp only [cached, if_true]
  rw [retrieve_hit there enabled]
  rw [if_pos cached, ← shared, Function.update_self]

theorem retrieve_apart (there : given projectId = some project) (enabled : service.config.enabled = true)
    (apart : service.cacheEnabled = true → (∃ error, service.filled project query a = .error error) ∨
      a.slot service.sha256 service.config.topK project query ≠
        b.slot service.sha256 service.config.topK project query) :
    (service.retrieve (service.retrieve (fun _ => none) query (a.at projectId)).2 query (b.at projectId)).1 =
      service.filled project query b := by
  have missed : (if service.cacheEnabled = true then
      (service.retrieve (fun _ => none) query (a.at projectId)).2
        (b.slot service.sha256 service.config.topK project query) else none) = none := by
    by_cases cached : service.cacheEnabled = true
    · rw [if_pos cached, retrieve_leaves there enabled]
      rcases apart cached with ⟨error, failed⟩ | other
      · rw [failed]
      cases service.filled project query a with
      | error error => rfl
      | ok items =>
        simp only [cached, if_true]
        exact Function.update_of_ne (Ne.symm other) _ _
    · rw [if_neg cached]
  rw [retrieve_missed there enabled missed]
  cases service.filled project query b <;> rfl

theorem filled_nothing (nothing : b.cap service.config.topK = 0) :
    service.filled project query b =
      (service.engine.embed (if Text.strip query = "" then "context" else Text.strip query)).map fun _ => [] := by
  unfold Service.filled fill
  congr 1
  funext queryVec
  unfold chosen selectContextMatches
  rw [if_pos (.inl (by omega))]

theorem filled_congr
    (shared : a.slot service.sha256 service.config.topK project query =
      b.slot service.sha256 service.config.topK project query)
    (alike : b.cap service.config.topK = 0 ∨
      (a.filters.chunkScope = b.filters.chunkScope ∧ a.filters.memoryScope = b.filters.memoryScope)) :
    service.filled project query a = service.filled project query b := by
  obtain ⟨caps, decisions⟩ := slot_inj shared
  rcases alike with nothing | ⟨chunks, memories⟩
  · rw [filled_nothing nothing, filled_nothing (caps.trans nothing)]
  · unfold Service.filled
    rw [caps]
    exact fill_congr chunks memories decisions

theorem alike_of_shared (harmless : Harmless service.sha256 service.cacheEnabled topK projectId query a b)
    (there : given projectId = some project) (cached : service.cacheEnabled = true)
    (tops : service.config.topK = topK)
    (shared : a.slot service.sha256 service.config.topK project query =
      b.slot service.sha256 service.config.topK project query) :
    b.cap service.config.topK = 0 ∨
      (a.filters.chunkScope = b.filters.chunkScope ∧ a.filters.memoryScope = b.filters.memoryScope) := by
  subst tops
  rcases harmless with off | nowhere | nothing | slots | scopes
  · simp [cached] at off
  · simp [there] at nowhere
  · exact .inl nothing
  · exact absurd shared (slots project there)
  · exact .inr scopes

theorem isolated_of_harmless {sha256 : Sha256} {cacheEnabled : Bool}
    (harmless : Harmless sha256 cacheEnabled topK projectId query a b) :
    Isolated sha256 cacheEnabled topK projectId query a b := by
  intro config engine tables tops service before
  cases there : given projectId with
  | none => rw [retrieve_no_project there, retrieve_no_project there]
  | some project =>
    by_cases enabled : config.enabled = true
    · rw [retrieve_fresh there enabled]
      by_cases apart : service.cacheEnabled = true →
          (∃ error, service.filled project query a = .error error) ∨
            a.slot service.sha256 service.config.topK project query ≠
              b.slot service.sha256 service.config.topK project query
      · exact retrieve_apart there enabled apart
      obtain ⟨cached, left⟩ := Classical.not_imp.mp apart
      obtain ⟨succeeded, shared⟩ := not_or.mp left
      have shared := not_not.mp shared
      have alike := filled_congr shared (alike_of_shared harmless there cached tops shared)
      cases filled : service.filled project query a with
      | error error => exact absurd ⟨error, filled⟩ succeeded
      | ok items => rw [retrieve_shared there enabled cached filled shared, ← alike, filled]
    · have disabled : service.config.enabled = false := by simpa using enabled
      rw [retrieve_disabled disabled, retrieve_disabled disabled]

theorem not_isolated {sha256 : Sha256} (there : given projectId = some project) {tables : Tables}
    (shared : a.slot sha256 topK project query = b.slot sha256 topK project query)
    {items items' : List RagChunkMatch} (apart : items ≠ items')
    (filled : fill (plainConfig topK) plainEngine tables project query a.filters (a.cap topK) = .ok items)
    (filled' : fill (plainConfig topK) plainEngine tables project query b.filters (b.cap topK) = .ok items') :
    ¬ Isolated sha256 true topK projectId query a b := by
  intro isolated
  let service : Service := ⟨true, sha256, plainConfig topK, plainEngine, tables⟩
  have same : (service.retrieve (service.retrieve (fun _ => none) query (a.at projectId)).2 query
      (b.at projectId)).1 = (service.retrieve (fun _ => none) query (b.at projectId)).1 :=
    isolated (plainConfig topK) plainEngine tables rfl
  have first : (service.retrieve (service.retrieve (fun _ => none) query (a.at projectId)).2 query
      (b.at projectId)).1 = .ok items := retrieve_shared there rfl rfl filled shared
  have fresh : (service.retrieve (fun _ => none) query (b.at projectId)).1 = .ok items' :=
    (retrieve_fresh there rfl).trans filled'
  rw [first, fresh] at same
  exact apart (ok.inj same)

theorem harmless_of_isolated {sha256 : Sha256} {cacheEnabled : Bool}
    (isolated : Isolated sha256 cacheEnabled topK projectId query a b) :
    Harmless sha256 cacheEnabled topK projectId query a b := by
  by_contra harmful
  unfold Harmless at harmful
  simp only [not_or, not_forall, not_not] at harmful
  obtain ⟨on, somewhere, something, ⟨project, there, shared⟩, scopes⟩ := harmful
  obtain rfl : cacheEnabled = true := by simpa using on
  obtain ⟨caps, _⟩ := slot_inj shared
  have asked' : 0 < b.cap topK := Nat.pos_of_ne_zero something
  have asked : 0 < a.cap topK := caps ▸ asked'
  by_cases chunks : a.filters.chunkScope = b.filters.chunkScope
  · obtain ⟨owner, metadata, told⟩ := memories_apart fun memories => scopes ⟨chunks, memories⟩
    by_cases recalled : Recalled a.filters owner metadata
    · have unrecalled : ¬ Recalled b.filters owner metadata := fun other => told ⟨fun _ => other, fun _ => recalled⟩
      exact not_isolated there shared (cons_ne_nil _ _) (fill_recalled recalled asked)
        (fill_unrecalled unrecalled) isolated
    · have recalled' : Recalled b.filters owner metadata := by
        by_contra neither
        exact told ⟨fun other => absurd other recalled, fun other => absurd other neither⟩
      exact not_isolated there shared (cons_ne_nil _ _).symm (fill_unrecalled recalled)
        (fill_recalled recalled' asked') isolated
  · obtain ⟨task, metadata, told⟩ := chunks_apart chunks
    by_cases seen : Seen a.filters task metadata
    · have unseen : ¬ Seen b.filters task metadata := fun other => told ⟨fun _ => other, fun _ => seen⟩
      exact not_isolated there shared (cons_ne_nil _ _) (fill_seen seen asked) (fill_unseen unseen) isolated
    · have seen' : Seen b.filters task metadata := by
        by_contra neither
        exact told ⟨fun other => absurd other seen, fun other => absurd other neither⟩
      exact not_isolated there shared (cons_ne_nil _ _).symm (fill_unseen seen) (fill_seen seen' asked')
        isolated

end Answers

/-- The answer does not depend on what was asked for before exactly where that is harmless. -/
theorem isolated_iff_harmless (sha256 : Sha256) (cacheEnabled : Bool) (topK : Nat) (projectId : Option String)
    (query : String) (a b : Request) :
    Isolated sha256 cacheEnabled topK projectId query a b ↔
      Harmless sha256 cacheEnabled topK projectId query a b :=
  ⟨harmless_of_isolated, isolated_of_harmless⟩

def bareText : Sha256 where
  hexdigest text := String.ofList (text.toList.filter (· ≠ ':'))
  plain text := by simp

def askedBy (userId : String) : Request where
  filters := { userId := some userId, includeDecisions := true }

theorem memories_of_another_user :
    ¬ Isolated bareText true 5 (some "p1") "deploy" (askedBy "u1") (askedBy "u2") := by
  have recalled : Recalled (askedBy "u1").filters "u1" [] := ⟨by decide, by decide⟩
  have unrecalled : ¬ Recalled (askedBy "u2").filters "u1" [] := by
    intro recalled
    exact absurd recalled.scope (by decide)
  have there : given (some "p1") = some "p1" := by decide
  exact not_isolated there rfl (cons_ne_nil _ _) (fill_recalled recalled (by decide))
    (fill_unrecalled unrecalled)

end Troop.Retrieval
