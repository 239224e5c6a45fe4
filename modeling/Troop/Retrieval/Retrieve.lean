import Mathlib.Logic.Function.Basic
import Troop.Cache.Keys
import Troop.Retrieval.Search

namespace Troop.Retrieval

/-- `hashlib.sha256(text).hexdigest()`, which has no colon. -/
structure Sha256 where
  hexdigest : String → String
  plain : ∀ text, ':' ∉ (hexdigest text).toList

def orDash (text : Option String) : String := (given text).getD "-"

def Sha256.short (sha256 : Sha256) (n : Nat) (text : String) : String :=
  String.ofList ((sha256.hexdigest text).toList.take n)

def ragRetrievalCacheKey (sha256 : Sha256) (projectId query : String) (taskId sourceKind : Option String)
    (includeDecisions : Bool) (limit : Nat) (actorEmail : Option String) : String :=
  Text.joinColons [
    "cache:rag:retrieve",
    projectId,
    sha256.short 32 (Text.strip query),
    orDash taskId,
    orDash sourceKind,
    if includeDecisions then "1" else "0",
    toString limit,
    sha256.short 16 (Text.lower (orDash actorEmail))]

section Fill

variable (config : RagConfig) (engine : Engine) (tables : Tables) (projectId query : String)
  (filters : RagSearchFilters) (queryVec : Vec) (cap : Nat)

def candidateCap : Nat := max cap config.candidateTopK

def vectorMatches : List RagChunkMatch :=
  let hits := if engine.vectorFails then [] else
    searchDocumentChunksByVector engine tables projectId queryVec filters.taskId filters.sourceKind
      (candidateCap config cap)
  filterDriveAclMatches filters.actorEmail (hits.filter (config.scoreThreshold ≤ ·.score))

def lexicalMatches : List RagChunkMatch :=
  if !config.hybridSearchEnabled ∨ engine.textFails then []
  else filterDriveAclMatches filters.actorEmail <|
    searchDocumentChunksByText engine tables projectId query filters.taskId filters.sourceKind
      (candidateCap config cap)

def fallbackMatches : List RagChunkMatch :=
  if (engine.vectorFails ∨ vectorMatches config engine tables projectId filters queryVec cap = []) ∧
      config.pythonFallbackEnabled then
    filterDriveAclMatches filters.actorEmail <|
      fallbackHits engine tables config projectId queryVec filters.taskId filters.sourceKind
        (candidateCap config cap)
  else []

def decisionsFound : List RagChunkMatch :=
  if filters.includeDecisions then decisionMatches engine tables config projectId query (candidateCap config cap)
  else []

def memoriesFound : List RagChunkMatch :=
  match filters.includeDecisions, given filters.userId with
  | true, some userId => semanticMemoryMatches engine tables userId projectId queryVec (candidateCap config cap)
  | _, _ => []

def rankings : List (List RagChunkMatch) :=
  [vectorMatches config engine tables projectId filters queryVec cap,
    lexicalMatches config engine tables projectId query filters cap,
    fallbackMatches config engine tables projectId filters queryVec cap,
    decisionsFound config engine tables projectId query filters cap,
    memoriesFound config engine tables projectId filters queryVec cap].filter (· ≠ [])

/-- What `retrieve` makes of the rankings. -/
def chosen (found : List (List RagChunkMatch)) : List RagChunkMatch :=
  let fused := reciprocalRankFusion found (candidateCap config cap) config.rrfK
  let allowed := filterDriveAclMatches filters.actorEmail fused
  let reranked := rerank config.rerankEnabled config.rerankMode query (allowed.take (max 1 config.rerankTopN))
  selectContextMatches reranked cap config.maxContextTokens config.maxChunksPerDocument config.maxChunksPerSource
    config.dedupSimilarityThreshold estimateTokens

/-- `fill` of `retrieve`, without its look at the cache -/
def fill : Except PyError (List RagChunkMatch) :=
  (engine.embed (if Text.strip query = "" then "context" else Text.strip query)).map fun queryVec =>
    chosen config query filters cap (rankings config engine tables projectId query filters queryVec cap)

end Fill

/-- A call of `retrieve`: its filters, and its limit. -/
structure Request where
  filters : RagSearchFilters
  limit : Option Nat := none

namespace Request

variable (request : Request)

/-- `limit or self._config.top_k` -/
def cap (topK : Nat) : Nat :=
  match request.limit with
  | some (limit + 1) => limit + 1
  | _ => topK

def key (sha256 : Sha256) (topK : Nat) (projectId query : String) : String :=
  ragRetrievalCacheKey sha256 projectId query request.filters.taskId request.filters.sourceKind
    request.filters.includeDecisions (request.cap topK) request.filters.actorEmail

def slot (sha256 : Sha256) (topK : Nat) (projectId query : String) : String × String :=
  let key := request.key sha256 topK projectId query
  (Cache.keyProject key, Cache.keyRest key)

end Request

abbrev Answers := String × String → Option (List RagChunkMatch)

structure Service where
  cacheEnabled : Bool
  sha256 : Sha256
  config : RagConfig
  engine : Engine
  tables : Tables

/-- `retrieve`: the answer, and the cache after it. -/
def Service.retrieve (service : Service) (answers : Answers) (query : String) (request : Request) :
    Except PyError (List RagChunkMatch) × Answers :=
  match given request.filters.projectId with
  | none => (.ok [], answers)
  | some projectId =>
    if !service.config.enabled then (.ok [], answers)
    else
      let topK := service.config.topK
      let slot := request.slot service.sha256 topK projectId query
      match if service.cacheEnabled then answers slot else none with
      | some items => (.ok items, answers)
      | none =>
        match fill service.config service.engine service.tables projectId query request.filters
            (request.cap topK) with
        | .ok items =>
          (.ok items, if service.cacheEnabled then Function.update answers slot (some items) else answers)
        | .error error => (.error error, answers)

end Troop.Retrieval
