import Mathlib.Data.List.MinMax
import Troop.Pagination.Ascending
import Troop.Retrieval.Ingestion
import Troop.Systems.Queues

namespace Troop.Retrieval.Indexing

open Pagination Systems
open List
open Option (getD_none getD_some map_some some)

def embeddingVectorDimensions : Nat := 1536

def normalizeEmbeddingForVector (values : Vec) : Vec :=
  if values = [] then List.replicate embeddingVectorDimensions 0
  else if values.length = embeddingVectorDimensions then values
  else if embeddingVectorDimensions < values.length then values.take embeddingVectorDimensions
  else values ++ List.replicate (embeddingVectorDimensions - values.length) 0

theorem length_normalize (values : Vec) : (normalizeEmbeddingForVector values).length = embeddingVectorDimensions := by
  unfold normalizeEmbeddingForVector
  split
  · exact length_replicate
  split
  · assumption
  · split
    · grind
    · simp_all

theorem normalize_ne_nil (values : Vec) : normalizeEmbeddingForVector values ≠ [] := by
  intro empty
  have size := length_normalize values
  rw [empty] at size
  cases size

theorem normalize_normalize (values : Vec) :
    normalizeEmbeddingForVector (normalizeEmbeddingForVector values) = normalizeEmbeddingForVector values := by
  rw [normalizeEmbeddingForVector.eq_def (normalizeEmbeddingForVector values), if_neg (normalize_ne_nil values),
    if_pos (length_normalize values)]

section Rows

/-- A `ProjectDocumentChunk` of the document. -/
structure Row where
  id : Nat
  chunkIndex : Nat
  content : String
  tokenCount : Nat
  embeddingJson : Vec
  embeddingVector : Option Vec
  metadataJson : Dict Json
  deletedAt : Option Int := none
deriving DecidableEq

structure NewChunk where
  chunkIndex : Nat
  content : String
  tokenCount : Nat
  embedding : Vec
  metadata : Dict Json

/-- `str((metadata or {}).get("content_hash") or "")` -/
def contentHashOf (metadata : Dict Json) : String := (metadata.get "content_hash").strOrEmpty

def Row.contentHash (row : Row) : String := contentHashOf row.metadataJson

def NewChunk.contentHash (chunk : NewChunk) : String := contentHashOf chunk.metadata

def NewChunk.row (chunk : NewChunk) (writeEmbeddingJson : Bool) (id : Nat) : Row :=
  { id := id
    chunkIndex := chunk.chunkIndex
    content := chunk.content
    tokenCount := chunk.tokenCount
    embeddingJson := if writeEmbeddingJson then chunk.embedding else []
    embeddingVector := some (normalizeEmbeddingForVector chunk.embedding)
    metadataJson := chunk.metadata }

structure Table where
  rows : List Row
  keyed : (rows.map Row.id).Nodup

namespace Table

/-- `replace_document_chunks(document, [])` -/
def empty : Table := ⟨[], List.nodup_nil⟩

def fresh (table : Table) : Nat := (table.rows.map Row.id).foldr max 0 + 1

theorem fresh_notMem (table : Table) : table.fresh ∉ table.rows.map Row.id := by
  intro isThere
  have bounded := le_max_of_le' 0 isThere le_rfl
  unfold fresh at bounded
  omega

def insert (table : Table) (make : Nat → Row) (named : ∀ id, (make id).id = id) : Table where
  rows := table.rows ++ [make table.fresh]
  keyed := by
    rw [List.map_append, List.map_singleton, named]
    exact List.nodup_append.mpr ⟨table.keyed, List.nodup_singleton _, fun id old other new same => by
      rw [List.mem_singleton.mp new] at same
      exact table.fresh_notMem (same ▸ old)⟩

def write (table : Table) (id : Nat) (make : Nat → Row) (named : ∀ id, (make id).id = id) : Table where
  rows := table.rows.map fun row => if row.id = id then make id else row
  keyed := by
    have same : (table.rows.map fun row => if row.id = id then make id else row).map Row.id = table.rows.map Row.id := by
      rw [List.map_map]
      apply List.map_congr_left
      intro row _
      rw [Function.comp_apply]
      split
      · rename_i mine
        rw [named, mine]
      · rfl
    rw [same]
    exact table.keyed

def delete (table : Table) (ids : List Nat) : Table where
  rows := table.rows.filter (·.id ∉ ids)
  keyed := table.keyed.sublist (List.Sublist.map Row.id List.filter_sublist)

/-- `list_document_chunks_for_document` -/
def live (table : Table) : List Row := ascending Row.chunkIndex (table.rows.filter (·.deletedAt = none))

theorem live_empty : empty.live = [] := rfl

end Table

end Rows

section Sync

/-- One round of `sync_document_chunks`, over the rows still to be reused, the ids retained and the table. -/
def syncChunk (writeEmbeddingJson : Bool) (state : (String → List Row) × List Nat × Table) (chunk : NewChunk) :
    (String → List Row) × List Nat × Table :=
  let (byHash, retainedIds, table) := state
  match if chunk.contentHash = "" then [] else byHash chunk.contentHash with
  | [] => (byHash, retainedIds, table.insert (chunk.row writeEmbeddingJson) fun _ => rfl)
  | row :: rest =>
    (Function.update byHash chunk.contentHash rest, retainedIds ++ [row.id],
      table.write row.id (chunk.row writeEmbeddingJson) fun _ => rfl)

def syncDocumentChunks (writeEmbeddingJson : Bool) (table : Table) (chunks : List NewChunk) : Table :=
  let existing := table.live
  let (_, retainedIds, written) :=
    chunks.foldl (syncChunk writeEmbeddingJson) (queues Row.contentHash existing, [], table)
  written.delete ((existing.filter (·.id ∉ retainedIds)).map Row.id)

def Row.anonymous (row : Row) : Row := { row with id := 0 }

theorem NewChunk.anonymous_row (chunk : NewChunk) (writeEmbeddingJson : Bool) (id : Nat) :
    (chunk.row writeEmbeddingJson id).anonymous = chunk.row writeEmbeddingJson 0 := rfl

theorem filter_ne_perm {rows : List Row} {row : Row} (keyed : (rows.map Row.id).Nodup) (isThere : row ∈ rows) :
    rows.Perm (row :: rows.filter (·.id ≠ row.id)) := by
  have distinct : rows.Nodup := Nodup.of_map Row.id keyed
  have other : row ∉ rows.filter (·.id ≠ row.id) := by simp
  refine (perm_ext_iff_of_nodup distinct (nodup_cons.mpr ⟨other, distinct.filter _⟩)).mpr fun entry => ?_
  simp only [mem_cons, mem_filter, decide_eq_true_eq]
  constructor
  · intro old
    by_cases same : entry.id = row.id
    · exact .inl (inj_on_of_nodup_map keyed old isThere same)
    · exact .inr ⟨old, same⟩
  · rintro (rfl | ⟨old, _⟩)
    · exact isThere
    · exact old

theorem Table.write_perm {table : Table} {row : Row} {others : List Row} {make : Nat → Row} (named : ∀ id, (make id).id = id)
    (perm : table.rows.Perm (row :: others)) : (table.write row.id make named).rows.Perm (make row.id :: others) := by
  have keyed : ((row :: others).map Row.id).Nodup := (perm.map Row.id).nodup_iff.mp table.keyed
  have untouched : others.map (fun other => if other.id = row.id then make row.id else other) = others := by
    conv_rhs => rw [← map_id others]
    apply map_congr_left
    intro other isThere
    rw [if_neg]
    · rfl
    · simp_all
  have mapped := perm.map fun other => if other.id = row.id then make row.id else other
  rwa [map_cons, if_pos rfl, untouched] at mapped

section Rounds

variable (existing hidden : List Row) (writeEmbeddingJson : Bool)

def left (retainedIds : List Nat) : List Row := existing.filter (·.id ∉ retainedIds)

structure Syncing (done : List NewChunk) (state : (String → List Row) × List Nat × Table) : Prop where
  queued : ∀ hash, state.1 hash = (left existing state.2.1).filter (·.contentHash = hash)
  made : ∃ written : List Row, state.2.2.rows.Perm (hidden ++ left existing state.2.1 ++ written) ∧
    written.map Row.anonymous = done.map fun chunk => chunk.row writeEmbeddingJson 0

variable {existing hidden writeEmbeddingJson} {done : List NewChunk} {state : (String → List Row) × List Nat × Table}

theorem Syncing.keyed (syncing : Syncing existing hidden writeEmbeddingJson done state) :
    ((left existing state.2.1).map Row.id).Nodup := by
  obtain ⟨written, perm, _⟩ := syncing.made
  have keyed := (perm.map Row.id).nodup_iff.mp state.2.2.keyed
  rw [map_append, map_append] at keyed
  exact (keyed.of_append_left).of_append_right

theorem left_concat (retainedIds : List Nat) (id : Nat) :
    left existing (retainedIds ++ [id]) = (left existing retainedIds).filter (·.id ≠ id) := by
  unfold left
  rw [filter_filter]
  apply filter_congr
  simp [and_comm]

theorem Syncing.step (syncing : Syncing existing hidden writeEmbeddingJson done state) (chunk : NewChunk) :
    Syncing existing hidden writeEmbeddingJson (done ++ [chunk]) (syncChunk writeEmbeddingJson state chunk) := by
  obtain ⟨byHash, retainedIds, table⟩ := state
  have keyed : ((left existing retainedIds).map Row.id).Nodup := syncing.keyed
  obtain ⟨queued, written, perm, made⟩ := syncing
  dsimp only at queued perm
  unfold syncChunk
  dsimp only
  split
  · refine ⟨queued, written ++ [chunk.row writeEmbeddingJson table.fresh], ?_, ?_⟩
    · rw [← append_assoc]
      exact perm.append_right _
    · rw [map_append, made, map_append, map_singleton, map_singleton, NewChunk.anonymous_row]
  · rename_i row rest drawn
    have mine : byHash chunk.contentHash = row :: rest := by
      split at drawn
      · cases drawn
      · exact drawn
    have front : (left existing retainedIds).filter (·.contentHash = chunk.contentHash) = row :: rest := by
      rw [← queued, mine]
    have member : row ∈ (left existing retainedIds).filter (·.contentHash = chunk.contentHash) := by simp_all
    obtain ⟨isThere, hashed⟩ := mem_filter.mp member
    have hashed : row.contentHash = chunk.contentHash := of_decide_eq_true hashed
    refine ⟨fun hash => ?_, written ++ [chunk.row writeEmbeddingJson row.id], ?_, ?_⟩
    · show Function.update byHash chunk.contentHash rest hash = (left existing (retainedIds ++ [row.id])).filter _
      rw [left_concat, filter_comm]
      by_cases same : hash = chunk.contentHash
      · -- The front of the queue is the only one of its id.
        subst same
        have alone : row.id ∉ rest.map Row.id := by
          have distinct : ((row :: rest).map Row.id).Nodup := by grind
          exact (nodup_cons.mp distinct).1
        rw [Function.update_self, front, filter_cons_of_neg (by simp)]
        symm
        rw [filter_eq_self]
        intro other later
        exact decide_eq_true fun equal => alone (equal ▸ mem_map_of_mem later)
      · rw [Function.update_of_ne same, queued]
        symm
        rw [filter_eq_self]
        intro other inside
        obtain ⟨old, under⟩ := mem_filter.mp inside
        refine decide_eq_true fun equal => same ?_
        have one : other = row := inj_on_of_nodup_map keyed old isThere equal
        rw [← hashed, ← one]
        exact (of_decide_eq_true under).symm
    · have chosen : table.rows.Perm (row :: (hidden ++ (left existing retainedIds).filter (·.id ≠ row.id) ++ written)) := by
        refine perm.trans ?_
        have inside := filter_ne_perm keyed isThere
        refine ((inside.append_left hidden).append_right written).trans ?_
        simp
      refine (Table.write_perm (fun _ => rfl) chosen).trans ?_
      rw [left_concat, ← append_assoc]
      exact (perm_append_singleton _ _).symm
    · rw [map_append, made, map_append, map_singleton, map_singleton, NewChunk.anonymous_row]

theorem Syncing.rounds (syncing : Syncing existing hidden writeEmbeddingJson done state) (chunks : List NewChunk) :
    Syncing existing hidden writeEmbeddingJson (done ++ chunks) (chunks.foldl (syncChunk writeEmbeddingJson) state) := by
  induction chunks generalizing done state with
  | nil => rwa [append_nil]
  | cons chunk rest ih =>
    have more := ih (syncing.step chunk)
    rwa [append_assoc, singleton_append] at more

theorem Syncing.live_delete {chunks : List NewChunk} (syncing : Syncing existing hidden writeEmbeddingJson chunks state)
    (gone : ∀ row ∈ hidden, row.deletedAt ≠ none) (rising : Rising NewChunk.chunkIndex chunks) :
    (state.2.2.delete ((left existing state.2.1).map Row.id)).live.map Row.anonymous =
      chunks.map fun chunk => chunk.row writeEmbeddingJson 0 := by
  obtain ⟨_, written, perm, made⟩ := syncing
  have keyed := (perm.map Row.id).nodup_iff.mp state.2.2.keyed
  rw [map_append, map_append, nodup_append] at keyed
  obtain ⟨_, _, apart⟩ := keyed
  have plain : ∀ row ∈ written, row.deletedAt = none := by
    intro row isThere
    have same : row.anonymous ∈ chunks.map fun chunk => chunk.row writeEmbeddingJson 0 :=
      made ▸ mem_map_of_mem isThere
    obtain ⟨chunk, _, same⟩ := mem_map.mp same
    exact (congrArg Row.deletedAt same).symm
  have indexed : written.map Row.chunkIndex = chunks.map NewChunk.chunkIndex := by
    have same := congrArg (map Row.chunkIndex) made
    rwa [map_map, map_map] at same
  have ordered : Rising Row.chunkIndex written := by
    unfold Rising at rising ⊢
    rwa [← pairwise_map, indexed, pairwise_map]
  have keep : written.filter (fun row => row.id ∉ (left existing state.2.1).map Row.id ∧ row.deletedAt = none) = written := by
    rw [filter_eq_self]
    intro row isThere
    refine decide_eq_true ⟨fun other => ?_, plain row isThere⟩
    exact apart row.id (mem_append_right _ other) row.id (mem_map_of_mem isThere) rfl
  have drop : (hidden ++ left existing state.2.1).filter
      (fun row => row.id ∉ (left existing state.2.1).map Row.id ∧ row.deletedAt = none) = [] := by
    rw [filter_eq_nil_iff]
    intro row isThere
    rw [decide_eq_true_eq]
    rintro ⟨out, shown⟩
    rcases mem_append.mp isThere with old | remaining
    · exact gone row old shown
    · exact out (mem_map_of_mem remaining)
  have all := perm.filter fun row => row.id ∉ (left existing state.2.1).map Row.id ∧ row.deletedAt = none
  rw [filter_append, keep, drop, nil_append] at all
  rw [← made]
  congr 1
  refine ordered.ascending_perm (Perm.trans (Perm.of_eq ?_) all)
  unfold Table.delete
  rw [filter_filter]
  apply filter_congr
  intro row _
  rw [Bool.decide_and, Bool.and_comm, decide_not]

end Rounds

theorem Table.syncing_start (table : Table) (writeEmbeddingJson : Bool) :
    Syncing table.live (table.rows.filter fun row => !decide (row.deletedAt = none)) writeEmbeddingJson []
      (queues Row.contentHash table.live, [], table) := by
  have whole : left table.live [] = table.live := filter_eq_self.mpr fun _ _ => by simp
  refine ⟨fun hash => ?_, [], ?_, rfl⟩
  · rw [whole]
    exact queues_eq table.live hash
  · rw [whole, append_nil]
    have sorted : table.live.Perm (table.rows.filter (·.deletedAt = none)) := perm_insertionSort _ _
    refine (filter_append_perm (fun row => decide (row.deletedAt = none)) table.rows).symm.trans ?_
    exact (perm_append_comm).trans (sorted.symm.append_left _)

theorem live_sync (writeEmbeddingJson : Bool) (table : Table) {chunks : List NewChunk}
    (rising : Rising NewChunk.chunkIndex chunks) :
    (syncDocumentChunks writeEmbeddingJson table chunks).live.map Row.anonymous =
      chunks.map fun chunk => chunk.row writeEmbeddingJson 0 := by
  have syncing := (table.syncing_start writeEmbeddingJson).rounds chunks
  refine syncing.live_delete (fun row isThere => ?_) rising
  simpa using (mem_filter.mp isThere).2

end Sync

section Ingestion

/-- What the ingestion reads of the settings and of a `RagConfig`. -/
structure IndexingConfig where
  chunkSize : Int
  chunkOverlap : Int
  embeddingModel : String
  openaiEmbeddingModel : String
  aiEmbeddingProvider : String
  vectorWriteEmbeddingJson : Bool

inductive IngestionStatus where
  | pending
  | completed
  | failed
deriving Repr, DecidableEq

structure Document where
  id : String
  filename : String
  contentType : Option String
  sourceText : String
  summaryText : String
  ingestionStatus : IngestionStatus
  chunkCount : Nat
  metadataJson : Dict Json

/-- `_estimate_embedding_tokens` -/
def estimateTokens (text : String) : Nat := max 1 ((text.length + 3) / 4)

/-- The model that `embed_texts` asks for. -/
def IndexingConfig.modelName (config : IndexingConfig) : String :=
  if config.embeddingModel ≠ "" then config.embeddingModel else config.openaiEmbeddingModel

def IndexingConfig.embed (config : IndexingConfig) (lib : Library) (text : String) : Vec :=
  lib.embed config.aiEmbeddingProvider config.modelName text

def Row.storedVector (row : Row) : Vec :=
  match row.embeddingVector with
  | none => row.embeddingJson
  | some vector => if vector = [] then row.embeddingJson else vector

def existingVectors (existing : List Row) (contentHash : String) : List Vec :=
  (queues Row.contentHash (existing.filter fun row => row.contentHash ≠ "" ∧ row.storedVector ≠ []) contentHash).map
    Row.storedVector

def changedTexts : List (Option Vec) → List RagChunk → List String
  | some _ :: rest, _ :: chunks => changedTexts rest chunks
  | none :: rest, chunk :: chunks => chunk.content :: changedTexts rest chunks
  | [], _ | _, [] => []

def fill : List (Option Vec) → List Vec → List Vec
  | [], _ => []
  | some vector :: rest, changed => vector :: fill rest changed
  | none :: rest, changed => changed.headD [] :: fill rest changed.tail

/-- The rows of `index_project_document`. -/
def newChunks (lib : Library) (config : IndexingConfig) (existing : List Row) (ragChunks : List RagChunk) : List NewChunk :=
  let embeddings := draw (existingVectors existing) (ragChunks.map RagChunk.contentHash)
  let filled := fill embeddings ((changedTexts embeddings ragChunks).map (config.embed lib))
  ragChunks.zipWith (fun chunk embedding =>
    { chunkIndex := chunk.chunkIndex
      content := chunk.content
      tokenCount := estimateTokens chunk.content
      embedding := embedding
      metadata := (chunk.metadata.set "content_hash" (.str chunk.contentHash)).set "rag_chunk_id" (.str chunk.chunkId) }) filled

def Document.normalized (document : Document) (lib : Library) : Except PyError (Option RagDocument × List String) :=
  match sanitizeForStorage lib.sensitivePatterns document.sourceText with
  | (none, hits) => .ok (none, hits)
  | (some safeSource, hits) =>
    (normalizeDocument lib document.id (detectSourceType document.contentType document.filename) document.filename safeSource
      document.metadataJson).map fun normalized => (some normalized, hits)

def indexProjectDocument (lib : Library) (config : IndexingConfig) (document : Document) (table : Table) :
    Except PyError (Nat × Document × Table) := do
  match ← document.normalized lib with
  | (none, hits) =>
    return (0, { document with
      ingestionStatus := .failed
      metadataJson := (document.metadataJson.set "ingest_error" (.str "blocked_by_redaction")).set "redaction_applied"
        (.arr (hits.map .str)) }, table)
  | (some normalized, hits) =>
    let ragChunks := buildChunks lib ⟨config.chunkSize, config.chunkOverlap⟩ normalized
    let rows := newChunks lib config table.live ragChunks
    let described := (document.metadataJson.set "checksum" (.str normalized.checksum)).set "source_type"
      (.str normalized.sourceType.name)
    let summary := if document.summaryText = "" then Text.cut 500 normalized.content else document.summaryText
    return (ragChunks.length, { document with
      ingestionStatus := .completed
      chunkCount := ragChunks.length
      summaryText := Text.cut 1000 summary
      metadataJson := if hits = [] then described else described.set "redaction_applied" (.arr (hits.map .str)) },
      syncDocumentChunks config.vectorWriteEmbeddingJson table rows)

end Ingestion

section Runs

/-- An edit of the document, and the configuration at its re-indexing. -/
structure Revision where
  config : IndexingConfig
  filename : String
  contentType : Option String
  sourceText : String
  metadataJson : Dict Json

structure State where
  document : Document
  table : Table

def Document.edit (document : Document) (revision : Revision) : Document :=
  { document with
    filename := revision.filename
    contentType := revision.contentType
    sourceText := revision.sourceText
    metadataJson := revision.metadataJson }

def State.reindex (lib : Library) (state : State) (revision : Revision) : State :=
  let edited := state.document.edit revision
  match indexProjectDocument lib revision.config edited state.table with
  | .ok (_, document, table) => ⟨document, table⟩
  | .error _ => ⟨edited, state.table⟩

def State.stored (state : State) : List (Nat × String × Option Vec) :=
  state.table.live.map fun row => (row.chunkIndex, row.content, row.embeddingVector)

def State.fromScratch (lib : Library) (state : State) (revision : Revision) : State :=
  State.reindex lib { state with table := .empty } revision

def State.chunksOf (lib : Library) (state : State) (revision : Revision) : Option (List RagChunk) :=
  match (state.document.edit revision).normalized lib with
  | .ok (some normalized, _) => some (buildChunks lib ⟨revision.config.chunkSize, revision.config.chunkOverlap⟩ normalized)
  | _ => none

/-- How many of the first `i` chunks have a content hash. -/
def earlier (chunks : List RagChunk) (i : Nat) (contentHash : String) : Nat :=
  ((chunks.take i).map RagChunk.contentHash).count contentHash

/-- Each chunk is handed a stored vector of its hash only where the current model gives it the same; where the text is not
    indexed, nothing is stored. -/
def State.Current (lib : Library) (state : State) (revision : Revision) : Prop :=
  match state.chunksOf lib revision with
  | none => state.table.live = []
  | some chunks => ∀ i chunk vector, chunks[i]? = some chunk →
      (existingVectors state.table.live chunk.contentHash)[earlier chunks i chunk.contentHash]? = some vector →
      normalizeEmbeddingForVector vector = normalizeEmbeddingForVector (revision.config.embed lib chunk.content)

theorem fill_eq (embed : String → Vec) (embeddings : List (Option Vec)) (chunks : List RagChunk)
    (long : embeddings.length = chunks.length) :
    fill embeddings ((changedTexts embeddings chunks).map embed) =
      embeddings.zipWith (fun embedding chunk => embedding.getD (embed chunk.content)) chunks := by
  induction embeddings generalizing chunks with
  | nil => rfl
  | cons embedding rest ih =>
    cases chunks with
    | nil => cases long
    | cons chunk chunks =>
      have rest_ := ih chunks (Nat.succ.inj long)
      cases embedding with
      | none => simp [changedTexts, map_cons, fill, headD_cons, tail_cons, rest_]
      | some vector => simp [changedTexts, fill, rest_]

theorem getElem?_newChunks (lib : Library) (config : IndexingConfig) (existing : List Row) (chunks : List RagChunk) (i : Nat) :
    (newChunks lib config existing chunks)[i]? = chunks[i]?.map fun chunk =>
      { chunkIndex := chunk.chunkIndex
        content := chunk.content
        tokenCount := estimateTokens chunk.content
        embedding := ((existingVectors existing chunk.contentHash)[earlier chunks i chunk.contentHash]?).getD
          (config.embed lib chunk.content)
        metadata := (chunk.metadata.set "content_hash" (.str chunk.contentHash)).set "rag_chunk_id" (.str chunk.chunkId) } := by
  unfold newChunks
  dsimp only
  rw [fill_eq _ _ _ (by simp), getElem?_zipWith, getElem?_zipWith]
  cases isThere : chunks[i]? with
  | none => rfl
  | some chunk =>
    have hashed : (chunks.map RagChunk.contentHash)[i]? = some chunk.contentHash := by
      rw [getElem?_map, isThere, map_some]
    rw [getElem?_draw _ _ hashed, ← map_take]
    rfl

theorem existingVectors_nil (contentHash : String) : existingVectors [] contentHash = [] := rfl

theorem rising_newChunks (lib : Library) (config : IndexingConfig) (existing : List Row) (document : RagDocument)
    (opts : ChunkingOptions) :
    Rising NewChunk.chunkIndex (newChunks lib config existing (buildChunks lib opts document)) := by
  unfold Rising
  rw [pairwise_iff_getElem]
  intro i j inside further less
  have placed (k : Nat) (bound : k < (newChunks lib config existing (buildChunks lib opts document)).length) :
      ((newChunks lib config existing (buildChunks lib opts document))[k]).chunkIndex = k := by
    have isThere := getElem?_eq_getElem bound
    rw [getElem?_newChunks, Option.map_eq_some_iff] at isThere
    obtain ⟨chunk, found, same⟩ := isThere
    rw [← same]
    exact (getElem?_buildChunks lib opts document found).1
  rwa [placed i inside, placed j further]

def NewChunk.view (chunk : NewChunk) : Nat × String × Option Vec :=
  (chunk.chunkIndex, chunk.content, some (normalizeEmbeddingForVector chunk.embedding))

variable {revision : Revision} {chunks : List RagChunk}

theorem table_none {lib : Library} {state : State} (refused : state.chunksOf lib revision = none) :
    (state.reindex lib revision).table = state.table := by
  unfold State.chunksOf at refused
  unfold State.reindex indexProjectDocument
  split at refused
  · cases refused
  rename_i other
  dsimp only
  cases read : (state.document.edit revision).normalized lib with
  | error raised => rfl
  | ok outcome =>
    obtain ⟨normalized, hits⟩ := outcome
    cases normalized with
    | none => rfl
    | some normalized => exact absurd read (other normalized hits)

theorem table_some {lib : Library} {state : State} (split_ : state.chunksOf lib revision = some chunks) :
    (state.reindex lib revision).table = syncDocumentChunks revision.config.vectorWriteEmbeddingJson state.table
      (newChunks lib revision.config state.table.live chunks) := by
  unfold State.chunksOf at split_
  unfold State.reindex indexProjectDocument
  split at split_
  · rename_i read
    obtain rfl := some.inj split_
    dsimp only
    rw [read]
    rfl
  · cases split_

theorem chunksOf_built {lib : Library} {state : State} (split_ : state.chunksOf lib revision = some chunks) :
    ∃ opts normalized, chunks = buildChunks lib opts normalized := by
  unfold State.chunksOf at split_
  split at split_
  · exact ⟨_, _, (some.inj split_).symm⟩
  · cases split_

theorem live_reindex {lib : Library} {state : State} (split_ : state.chunksOf lib revision = some chunks) :
    (state.reindex lib revision).table.live.map Row.anonymous =
      (newChunks lib revision.config state.table.live chunks).map fun chunk =>
        chunk.row revision.config.vectorWriteEmbeddingJson 0 := by
  obtain ⟨opts, normalized, rfl⟩ := chunksOf_built split_
  rw [table_some split_, live_sync]
  exact rising_newChunks ..

theorem stored_some {lib : Library} {state : State} (split_ : state.chunksOf lib revision = some chunks) :
    (state.reindex lib revision).stored = (newChunks lib revision.config state.table.live chunks).map NewChunk.view := by
  have rows := congrArg (map fun row : Row => (row.chunkIndex, row.content, row.embeddingVector)) (live_reindex split_)
  rwa [map_map, map_map] at rows

theorem chunksOf_fromScratch (lib : Library) (state : State) (revision : Revision) :
    State.chunksOf lib { state with table := .empty } revision = state.chunksOf lib revision := rfl

theorem reindex_iff (lib : Library) (state : State) (revision : Revision) :
    (state.reindex lib revision).stored = (state.fromScratch lib revision).stored ↔ state.Current lib revision := by
  unfold State.Current State.fromScratch
  cases split_ : state.chunksOf lib revision with
  | none =>
    unfold State.stored
    rw [table_none split_, @table_none _ _ { state with table := .empty } split_]
    exact map_eq_nil_iff
  | some chunks =>
    rw [stored_some split_, @stored_some _ _ _ { state with table := .empty } split_]
    constructor
    · intro same i chunk vector isThere handed
      have row := congrArg (·[i]?) same
      simp only [getElem?_map, getElem?_newChunks, isThere, handed, existingVectors_nil, Table.live_empty, map_some,
        getElem?_nil, getD_some, getD_none, some.injEq, NewChunk.view, Prod.mk.injEq] at row
      exact row.2.2
    · intro current
      apply ext_getElem?
      intro i
      rw [getElem?_map, getElem?_map, getElem?_newChunks, getElem?_newChunks]
      cases isThere : chunks[i]? with
      | none => rfl
      | some chunk =>
        cases handed : (existingVectors state.table.live chunk.contentHash)[earlier chunks i chunk.contentHash]? with
        | none => simp [handed, Table.live_empty, existingVectors_nil]
        | some vector =>
          have same := current i chunk vector isThere handed
          simp [handed, Table.live_empty, existingVectors_nil, NewChunk.view, same]

section OneModel

variable {lib : Library} {provider model : String}

def MadeBy (lib : Library) (provider model : String) (rows : List Row) : Prop :=
  ∀ row ∈ rows, row.contentHash = lib.sha256 row.content ∧
    row.embeddingVector = some (normalizeEmbeddingForVector (lib.embed provider model row.content))

theorem MadeBy.handed {rows : List Row} (made : MadeBy lib provider model rows) (injective : Function.Injective lib.sha256)
    {content : String} {vector : Vec} (isThere : vector ∈ existingVectors rows (lib.sha256 content)) :
    vector = normalizeEmbeddingForVector (lib.embed provider model content) := by
  obtain ⟨row, queued, rfl⟩ := mem_map.mp isThere
  rw [queues_eq, mem_filter] at queued
  obtain ⟨usable, same⟩ := queued
  obtain ⟨hashed, embedded⟩ := made row (mem_of_mem_filter usable)
  have one : row.content = content := injective (hashed.symm.trans (of_decide_eq_true same))
  rw [Row.storedVector, embedded]
  dsimp only
  rw [if_neg (normalize_ne_nil _), one]

theorem contentHash_row (chunk : RagChunk) :
    contentHashOf ((chunk.metadata.set "content_hash" (.str chunk.contentHash)).set "rag_chunk_id" (.str chunk.chunkId)) =
      chunk.contentHash := by
  unfold contentHashOf
  rw [Dict.get_set_of_ne _ _ (by decide), Dict.get_set_self, Json.strOrEmpty_str]

variable {history : List Revision} {revision : Revision}

theorem MadeBy.reindex {state : State} (made : MadeBy lib provider model state.table.live)
    (injective : Function.Injective lib.sha256)
    (same : revision.config.aiEmbeddingProvider = provider ∧ revision.config.modelName = model) :
    MadeBy lib provider model (state.reindex lib revision).table.live := by
  cases split_ : state.chunksOf lib revision with
  | none => rwa [table_none split_]
  | some chunks =>
    obtain ⟨opts, normalized, built⟩ := chunksOf_built split_
    intro row isThere
    have anonymous : row.anonymous ∈ (newChunks lib revision.config state.table.live chunks).map fun chunk =>
        chunk.row revision.config.vectorWriteEmbeddingJson 0 := live_reindex split_ ▸ mem_map_of_mem isThere
    obtain ⟨fresh, member, equal⟩ := mem_map.mp anonymous
    obtain ⟨i, found⟩ := mem_iff_getElem?.mp member
    rw [getElem?_newChunks, Option.map_eq_some_iff] at found
    obtain ⟨chunk, found, rfl⟩ := found
    have hashed : chunk.contentHash = lib.sha256 chunk.content := by
      rw [built] at found
      exact (getElem?_buildChunks lib opts normalized found).2
    have content : row.content = chunk.content := (congrArg Row.content equal).symm
    have metadata : row.contentHash = chunk.contentHash := (congrArg Row.contentHash equal).symm.trans (contentHash_row chunk)
    refine ⟨by rw [metadata, hashed, content], (congrArg Row.embeddingVector equal).symm.trans ?_⟩
    show some (normalizeEmbeddingForVector _) = _
    rw [content]
    cases handed : (existingVectors state.table.live chunk.contentHash)[earlier chunks i chunk.contentHash]? with
    | none => rw [getD_none, IndexingConfig.embed, same.1, same.2]
    | some vector =>
      rw [getD_some]
      have queued := mem_of_getElem? handed
      rw [hashed] at queued
      rw [made.handed injective queued, normalize_normalize]

theorem MadeBy.run {state : State} (made : MadeBy lib provider model state.table.live)
    (injective : Function.Injective lib.sha256)
    (same : ∀ revision ∈ history, revision.config.aiEmbeddingProvider = provider ∧ revision.config.modelName = model) :
    MadeBy lib provider model (history.foldl (State.reindex lib) state).table.live := by
  induction history generalizing state with
  | nil => exact made
  | cons revision rest ih =>
    exact ih (made.reindex injective (same revision mem_cons_self)) fun later isThere =>
      same later (mem_cons_of_mem _ isThere)

theorem MadeBy.current {state : State} (made : MadeBy lib provider model state.table.live)
    (injective : Function.Injective lib.sha256)
    (same : revision.config.aiEmbeddingProvider = provider ∧ revision.config.modelName = model)
    (read : state.chunksOf lib revision ≠ none) : state.Current lib revision := by
  unfold State.Current
  cases split_ : state.chunksOf lib revision with
  | none => exact absurd split_ read
  | some chunks =>
    obtain ⟨opts, normalized, built⟩ := chunksOf_built split_
    intro i chunk vector isThere handed
    have hashed : chunk.contentHash = lib.sha256 chunk.content := by
      rw [built] at isThere
      exact (getElem?_buildChunks lib opts normalized isThere).2
    have queued := mem_of_getElem? handed
    rw [hashed] at queued
    rw [made.handed injective queued, normalize_normalize, IndexingConfig.embed, same.1, same.2]

theorem incremental_of_one_model (injective : Function.Injective lib.sha256) {initial : State}
    (created : initial.table = .empty) {last : Revision}
    (same : ∀ revision ∈ history ++ [last], revision.config.aiEmbeddingProvider = provider ∧ revision.config.modelName = model)
    (read : (history.foldl (State.reindex lib) initial).chunksOf lib last ≠ none) :
    ((history ++ [last]).foldl (State.reindex lib) initial).stored =
      ((history.foldl (State.reindex lib) initial).fromScratch lib last).stored := by
  have start : MadeBy lib provider model initial.table.live := by
    rw [created, Table.live_empty]
    exact fun _ isThere => absurd isThere not_mem_nil
  have made := start.run injective fun revision isThere => same revision (mem_append_left _ isThere)
  have current := made.current injective (same last (mem_append_right _ (mem_singleton_self _))) read
  rw [foldl_append, foldl_cons, foldl_nil]
  exact (reindex_iff lib _ last).mpr current

end OneModel

/-- In every history of edits and configurations the last re-indexing stores what indexing its text from scratch stores, exactly
    where what it reuses is current. -/
theorem incremental_iff (lib : Library) (initial : State) (history : List Revision) (last : Revision) :
    ((history ++ [last]).foldl (State.reindex lib) initial).stored =
        ((history.foldl (State.reindex lib) initial).fromScratch lib last).stored ↔
      (history.foldl (State.reindex lib) initial).Current lib last := by
  rw [foldl_append, foldl_cons, foldl_nil]
  exact reindex_iff lib _ last

section Switched

def twoModels : Library where
  sensitivePatterns := []
  parseJson text metadata := (text, metadata)
  parseHtml text := text
  sha256 _ := "ab5aa97074c454a0632057e704220d9a6678fbf773a0a5806fc09b8173b07309"
  embed _ model _ := if model = "text-embedding-3-large" then [1] else [-1]

def created : State where
  document := ⟨"doc-1", "notes", none, "", "", .pending, 0, []⟩
  table := .empty

def byModel (model : String) : Revision :=
  ⟨⟨1200, 150, model, "text-embedding-3-small", "openai", false⟩, "notes", none, "notes", []⟩

theorem chunksOf_notes {lib : Library} (plain : lib.sensitivePatterns = []) (state : State) (model : String) :
    ∃ chunk, state.chunksOf lib (byModel model) = some [chunk] ∧ chunk.content = "notes" ∧
      chunk.contentHash = lib.sha256 "notes" := by
  have trimmed : Text.trim "notes" = "notes" := by decide
  have safe : sanitizeForStorage lib.sensitivePatterns (byModel model).sourceText = (some "notes", []) := by
    show sanitizeForStorage _ "notes" = _
    rw [plain, sanitizeForStorage_of_clean [] (by rw [trimmed]; decide) (fun _ isThere => absurd isThere not_mem_nil), trimmed]
  have typed : detectSourceType none (some "notes") = .text := by decide
  have read : (state.document.edit (byModel model)).normalized lib =
      .ok (some ⟨state.document.id, .text, "notes", "notes", [], lib.sha256 "notes"⟩, []) := by
    unfold Document.normalized
    rw [show (state.document.edit (byModel model)).sourceText = (byModel model).sourceText from rfl, safe]
    show Except.map _ (normalizeDocument lib state.document.id (detectSourceType none (some "notes")) "notes" "notes" []) = _
    rw [typed]
    show Except.ok (some (RagDocument.mk _ _ _ (Text.trim "notes") _ (lib.sha256 (Text.trim "notes"))), []) = _
    rw [trimmed]
  have split_ : splitText ⟨1200, 150⟩ "notes" = ["notes"] := by
    rw [splitText_short (by rw [trimmed]; decide) (by rw [trimmed]; decide), trimmed]
  obtain ⟨chunk, built, content, hashed⟩ := @buildChunks_one lib _
    ⟨state.document.id, .text, "notes", "notes", [], lib.sha256 "notes"⟩ _ split_
  refine ⟨chunk, ?_, content, hashed⟩
  unfold State.chunksOf
  rw [read]
  exact congrArg some built

theorem chunksOf_byModel (state : State) (model : String) : ∃ chunk, state.chunksOf twoModels (byModel model) = some [chunk] ∧
    chunk.content = "notes" ∧ chunk.contentHash = twoModels.sha256 "notes" := chunksOf_notes rfl state model

theorem head?_normalize (value : ℚ) : (normalizeEmbeddingForVector [value]).head? = some value := by
  rfl

theorem embed_byModel {model : String} (named : model ≠ "") (text : String) :
    (byModel model).config.embed twoModels text = if model = "text-embedding-3-large" then [1] else [-1] := by
  have asked : (byModel model).config.modelName = model := if_pos named
  unfold IndexingConfig.embed
  rw [asked]
  rfl

theorem newChunks_one (lib : Library) (config : IndexingConfig) (chunk : RagChunk) :
    newChunks lib config [] [chunk] =
      [{ chunkIndex := chunk.chunkIndex
         content := chunk.content
         tokenCount := estimateTokens chunk.content
         embedding := config.embed lib chunk.content
         metadata := (chunk.metadata.set "content_hash" (.str chunk.contentHash)).set "rag_chunk_id" (.str chunk.chunkId) }] := rfl

theorem existingVectors_one {row : Row} (named : row.contentHash ≠ "") (embedded : row.storedVector ≠ []) :
    existingVectors [row] row.contentHash = [row.storedVector] := by
  simp [existingVectors, queues_eq, named, embedded]

theorem old_model_vector_kept :
    ¬ ∀ lib initial history last, ((history ++ [last]).foldl (State.reindex lib) initial).stored =
      ((history.foldl (State.reindex lib) initial).fromScratch lib last).stored := by
  intro all
  have current := all twoModels created [byModel "text-embedding-3-small"] (byModel "text-embedding-3-large")
  simp only [foldl_append, foldl_cons, foldl_nil, reindex_iff] at current
  obtain ⟨first, split_, _, hashed⟩ := chunksOf_byModel created "text-embedding-3-small"
  obtain ⟨chunk, again, _, digest⟩ :=
    chunksOf_byModel (created.reindex twoModels (byModel "text-embedding-3-small")) "text-embedding-3-large"
  have rows := live_reindex split_
  obtain ⟨row, live, equal⟩ := map_eq_singleton_iff.mp rows
  have under : row.contentHash = twoModels.sha256 "notes" :=
    (congrArg Row.contentHash equal).trans ((contentHash_row first).trans hashed)
  have vector : row.storedVector = normalizeEmbeddingForVector [-1] := by
    have embedded : row.anonymous.embeddingVector = some (normalizeEmbeddingForVector [-1]) := by
      rw [equal]
      rfl
    change row.embeddingVector = _ at embedded
    rw [Row.storedVector, embedded]
    exact if_neg (normalize_ne_nil [-1])
  have handed : existingVectors [row] chunk.contentHash = [normalizeEmbeddingForVector [-1]] := by
    have named : row.contentHash ≠ "" := by
      rw [under]
      decide
    rw [digest, ← under, existingVectors_one named (vector ▸ normalize_ne_nil [-1]), vector]
  unfold State.Current at current
  rw [again, live] at current
  have stale := current 0 chunk (normalizeEmbeddingForVector [-1]) rfl (by rw [handed]; rfl)
  rw [normalize_normalize, embed_byModel (by decide), if_pos rfl] at stale
  have heads := congrArg head? stale
  exact absurd (some.inj heads) (by decide)

theorem notes_incremental :
    (([byModel "text-embedding-3-small"] ++ [byModel "text-embedding-3-small"]).foldl
        (State.reindex { twoModels with sha256 := id }) created).stored =
      (([byModel "text-embedding-3-small"].foldl (State.reindex { twoModels with sha256 := id }) created).fromScratch
        { twoModels with sha256 := id } (byModel "text-embedding-3-small")).stored := by
  apply @incremental_of_one_model _ "openai" "text-embedding-3-small" _ Function.injective_id _ rfl
  · intro revision member
    simp only [cons_append, nil_append, mem_cons, not_mem_nil, or_false, or_self] at member
    subst member
    exact ⟨rfl, rfl⟩
  · obtain ⟨chunk, split_, _⟩ := @chunksOf_notes { twoModels with sha256 := id } rfl
      ([byModel "text-embedding-3-small"].foldl (State.reindex { twoModels with sha256 := id }) created)
      "text-embedding-3-small"
    rw [split_]
    exact Option.some_ne_none _

end Switched

end Runs

end Troop.Retrieval.Indexing
