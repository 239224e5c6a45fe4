import Troop.Retrieval.Matches

namespace Troop.Retrieval

/-- A row of `project_document_chunks`. -/
structure Chunk where
  id : String
  projectDocumentId : String
  projectId : String
  taskId : Option String := none
  chunkIndex : Nat := 0
  content : String
  metadataJson : Dict Json := []
  deleted : Bool := false
  embeddingVector : Option Vec := none
  embeddingJson : Vec := []

structure ProjectDocument where
  id : String
  projectId : String
  taskId : Option String := none
  filename : String
  deleted : Bool := false

structure ProjectDecision where
  id : String
  projectId : String
  title : String
  decision : String
  rationale : String

/-- A row of `semantic_memory_entries`; `current` also says that it is neither deleted nor expired. -/
structure SemanticMemoryEntry where
  id : String
  ownerId : String
  projectId : String
  title : String
  body : String
  sourceChunkId : Option String := none
  sourceTaskId : Option String := none
  sourceRunId : Option String := none
  metadataJson : Dict Json := []
  provenanceJson : Dict Json := []
  current : Bool := true
  embeddingVector : Option Vec := none

structure Tables where
  chunks : List Chunk := []
  documents : List ProjectDocument := []
  decisions : List ProjectDecision := []
  memories : List SemanticMemoryEntry := []

/-- What the code leaves to the embedding provider and to Postgres: the distance of two vectors, text search and
    `ILIKE`, and whether the vector and the text search raise. -/
structure Engine where
  embed : String → Except PyError Vec
  distance : Vec → Vec → ℚ
  cosineSimilarity : Vec → Vec → ℚ
  matchesText : String → String → Bool
  rankText : String → String → ℚ
  ilike : String → String → Bool
  vectorFails : Bool := false
  textFails : Bool := false

structure RagConfig where
  enabled : Bool := true
  topK : Nat := 5
  candidateTopK : Nat := 30
  scoreThreshold : ℚ := 0
  rerankEnabled : Bool := false
  rerankMode : String := "lexical"
  rerankTopN : Nat := 15
  hybridSearchEnabled : Bool := true
  rrfK : Nat := 60
  maxChunksPerDocument : Nat := 2
  maxChunksPerSource : Nat := 4
  dedupSimilarityThreshold : ℚ := 9 / 10
  maxContextTokens : Nat := 4000
  pythonFallbackEnabled : Bool := false
  chunkFallbackMax : Nat := 200
  listDocumentsMax : Nat := 2000
  decisionsMergeLimit : Nat := 300

structure RagSearchFilters where
  userId : Option String := none
  projectId : Option String := none
  workspaceId : Option String := none
  taskId : Option String := none
  sourceType : Option String := none
  sourceKind : Option String := none
  documentIds : List String := []
  includeDecisions : Bool := false
  actorEmail : Option String := none

/-- `text or None`: what a condition on an optional text sees. -/
def given (text : Option String) : Option String := text.filter (· ≠ "")

namespace Tables

variable (tables : Tables)

/-- The live chunks of a project that `task_id` and `source_kind` leave, with their documents. -/
def liveChunks (projectId : String) (taskId sourceKind : Option String) : List (Chunk × ProjectDocument) :=
  tables.chunks.filterMap fun chunk =>
    match tables.documents.find? (·.id = chunk.projectDocumentId) with
    | some document =>
      if chunk.projectId = projectId ∧ !chunk.deleted ∧ !document.deleted ∧
          (∀ task ∈ taskId, chunk.taskId = some task ∨ chunk.taskId = none) ∧
          (∀ kind ∈ given sourceKind, chunk.metadataJson.get "source_kind" = .str kind) then
        some (chunk, document)
      else none
    | none => none

end Tables

section Searches

variable (engine : Engine) (tables : Tables)

def hit (row : Chunk × ProjectDocument) (score : ℚ) : RagChunkMatch where
  chunkId := row.1.id
  documentId := row.1.projectDocumentId
  title := if row.2.filename = "" then "document" else row.2.filename
  content := row.1.content
  chunkIndex := row.1.chunkIndex
  score := score
  metadata := row.1.metadataJson

def topOf (limit : Nat) (items : List RagChunkMatch) : List RagChunkMatch :=
  (items.mergeSort fun a b => b.score ≤ a.score).take limit

def searchDocumentChunksByVector (projectId : String) (queryVec : Vec) (taskId sourceKind : Option String)
    (topK : Nat) : List RagChunkMatch :=
  topOf (max 1 (min topK 50)) <| (tables.liveChunks projectId taskId sourceKind).filterMap fun row =>
    row.1.embeddingVector.map fun vector => hit row (1 - engine.distance vector queryVec)

def searchedText (row : Chunk × ProjectDocument) : String := row.2.filename ++ " " ++ row.1.content

def searchDocumentChunksByText (projectId query : String) (taskId sourceKind : Option String) (topK : Nat) :
    List RagChunkMatch :=
  if Text.strip query = "" then []
  else
    let asked := String.ofList (query.toList.take 1000)
    let rows := (tables.liveChunks projectId taskId sourceKind).filter fun row =>
      engine.matchesText (searchedText row) asked
    (rows.map fun row => hit row (engine.rankText (searchedText row) asked)).mergeSort
      (fun a b => b.score < a.score ∨ (a.score = b.score ∧ a.chunkId ≤ b.chunkId)) |>.take (max 1 (min topK 50))

def listDocumentChunks (config : RagConfig) (projectId : String) (taskId sourceKind : Option String) : List Chunk :=
  let rows := (tables.liveChunks projectId taskId sourceKind).map Prod.fst
  (rows.mergeSort fun a b => a.projectDocumentId < b.projectDocumentId ∨
    (a.projectDocumentId = b.projectDocumentId ∧ a.chunkIndex ≤ b.chunkIndex)).take (max 1 config.chunkFallbackMax)

def listDocuments (config : RagConfig) (projectId : String) (taskId : Option String) : List ProjectDocument :=
  (tables.documents.reverse.filter fun document =>
    document.projectId = projectId ∧ !document.deleted ∧
      ∀ task ∈ taskId, document.taskId = some task ∨ document.taskId = none).take (max 1 config.listDocumentsMax)

/-- `_fallback_search` before its ACL filter -/
def fallbackHits (config : RagConfig) (projectId : String) (queryVec : Vec) (taskId sourceKind : Option String)
    (cap : Nat) : List RagChunkMatch :=
  let documents := listDocuments tables config projectId taskId
  topOf (min cap config.chunkFallbackMax) <|
    (listDocumentChunks tables config projectId taskId sourceKind).filterMap fun chunk =>
      if chunk.embeddingJson = [] then none
      else
        (documents.find? (·.id = chunk.projectDocumentId)).map fun document =>
          { hit (chunk, document) (engine.cosineSimilarity queryVec chunk.embeddingJson) with
            title := document.filename }

def listProjectDecisions (projectId query : String) (limit : Nat) (config : RagConfig) : List ProjectDecision :=
  let tokens := ((Text.lower query |>.toList.splitOnP Char.isWhitespace).filter (3 ≤ ·.length)).take 8
  let cap := max 1 (min (if limit = 0 then config.decisionsMergeLimit else limit) 1000)
  (tables.decisions.reverse.filter fun decision =>
    decision.projectId = projectId ∧ ∀ token ∈ tokens,
      let pattern := String.ofList ('%' :: token ++ ['%'])
      engine.ilike decision.title pattern ∨ engine.ilike decision.decision pattern ∨
        engine.ilike decision.rationale pattern).take cap

def decisionMatches (config : RagConfig) (projectId query : String) (cap : Nat) : List RagChunkMatch :=
  let tokens := queryTokens query
  topOf cap <| (listProjectDecisions engine tables projectId query cap config).filterMap fun decision =>
    let blob := queryTokens (decision.title ++ " " ++ decision.decision)
    let score : ℚ := (tokens.filter (· ∈ blob)).length / max tokens.length 1
    if score ≤ 0 ∧ Text.strip query ≠ "" then none
    else some {
      chunkId := decision.id
      documentId := decision.id
      title := if decision.title = "" then "decision" else decision.title
      content := "\n".intercalate ([decision.title, decision.decision, decision.rationale].filter (· ≠ ""))
      chunkIndex := 0
      score := score
      hitKind := "decision" }

def searchSemanticMemoryByVector (ownerId projectId : String) (queryVec : Vec) (limit : Nat) :
    List SemanticMemoryEntry :=
  let owned := tables.memories.filter fun entry =>
    entry.ownerId = ownerId ∧ entry.projectId = projectId ∧ entry.current
  let placed := owned.filterMap fun entry =>
    entry.embeddingVector.map fun vector => (entry, engine.distance vector queryVec)
  ((placed.mergeSort fun a b => a.2 ≤ b.2).take (max 1 (min limit 50))).map Prod.fst

def memoryMatch (entry : SemanticMemoryEntry) (rank : Nat) : RagChunkMatch where
  chunkId := entry.id
  documentId := (given entry.sourceChunkId).getD entry.id
  title := if entry.title = "" then "memory" else entry.title
  content := entry.body
  chunkIndex := 0
  score := 1 / rank
  hitKind := "semantic_memory"
  metadata := Dict.update entry.metadataJson [
    ("source_id", .str ((given entry.sourceChunkId).getD entry.id)),
    ("source_task_id", .ofOption entry.sourceTaskId),
    ("source_run_id", .ofOption entry.sourceRunId),
    ("provenance", .obj entry.provenanceJson)]

def semanticMemoryMatches (ownerId projectId : String) (queryVec : Vec) (cap : Nat) : List RagChunkMatch :=
  (searchSemanticMemoryByVector engine tables ownerId projectId queryVec cap).mapIdx fun i entry =>
    memoryMatch entry (i + 1)

end Searches

end Troop.Retrieval
