import Mathlib.Data.String.Basic
import Troop.Pagination.Descending
import Troop.Python.Merging

namespace Troop.Memory

structure SemanticMemoryEntry where
  id : String
  ownerId : String
  companyId : Option String
  projectId : Option String
  entryNamespace : String
  sourceTaskId : Option String
  status : String
  deletedAt : Option Int
  expiresAt : Option Int
  embedded : Bool
deriving DecidableEq

structure EpisodicSearchIndex where
  id : String
  ownerId : String
  projectId : String
  archivedAt : Option Int
  embedded : Bool
deriving DecidableEq

/-- What the searches read. The rows come in the order of their distance to the query vector. -/
structure Repository where
  now : Int
  semantic : List SemanticMemoryEntry
  episodic : List EpisodicSearchIndex
  /-- `(owner_id, project_id)` of `episodic_archive_manifests` -/
  manifests : List (String × String)
  /-- `(id, owner_id)` of `orchestrator_projects` -/
  projects : List (String × String)
  /-- `(project_id, github_repository_id)` -/
  repositoryLinks : List (String × Option String)
  /-- `(project_id, agent_id)` -/
  agentMemberships : List (String × String)
  semanticIds : (semantic.map SemanticMemoryEntry.id).Nodup
  episodicIds : (episodic.map EpisodicSearchIndex.id).Nodup

structure Request where
  ownerId : String
  projectId : String
  taskId : String
  companyId : Option String
  agentId : Option String
  minHits : Int
  perStageLimit : Int
  relatedProjectLimit : Int

/-- SQL's `LIKE`: `%` is any text, `_` any character, and a backslash takes the next character as it is. -/
def like : List Char → List Char → Bool
  | [], text => text.isEmpty
  | '\\' :: c :: pattern, d :: text => c = d && like pattern text
  | '\\' :: _, _ => false
  | '%' :: pattern, text => text.tails.any fun rest => like pattern rest
  | '_' :: pattern, _ :: text => like pattern text
  | c :: pattern, d :: text => c = d && like pattern text
  | _ :: _, [] => false

/-- `max(1, min(limit, most))` -/
def capped (most limit : Int) : Nat := (max 1 (min limit most)).toNat

namespace Repository

variable (repo : Repository) (request : Request)

def current (row : SemanticMemoryEntry) : Bool :=
  row.ownerId = request.ownerId ∧ row.status = "current" ∧ row.deletedAt = none ∧
    row.expiresAt.all (repo.now < ·) ∧ row.embedded

def taskLinked (row : SemanticMemoryEntry) : Bool :=
  like ("task/" ++ request.taskId ++ "/%").toList row.entryNamespace.toList ∨ row.sourceTaskId = some request.taskId

/-- `search_semantic_memory_by_vector_scoped` with the task's prefix and id -/
def searchScoped : List SemanticMemoryEntry :=
  (repo.semantic.filter fun row =>
    repo.current request row && (row.projectId = some request.projectId && taskLinked request row)).take
      (capped 50 request.perStageLimit)

/-- `search_semantic_memory_by_vector` -/
def searchProject : List SemanticMemoryEntry :=
  (repo.semantic.filter fun row => repo.current request row && row.projectId = some request.projectId).take
    (capped 50 request.perStageLimit)

/-- `search_semantic_memory_by_vector_company` -/
def searchCompany (companyId : String) : List SemanticMemoryEntry :=
  (repo.semantic.filter fun row =>
    repo.current request row && (row.companyId = some companyId && row.projectId = none)).take
      (capped 50 request.perStageLimit)

/-- `search_semantic_memory_by_vector_for_projects` -/
def searchForProjects (projectIds : List String) : List SemanticMemoryEntry :=
  (repo.semantic.filter fun row => repo.current request row && row.projectId.any (· ∈ projectIds)).take
    (capped 80 (request.perStageLimit * 2))

def indexed (row : EpisodicSearchIndex) : Bool := row.ownerId = request.ownerId ∧ row.embedded ∧ row.archivedAt = none

/-- `search_episodic_index_by_vector` -/
def searchEpisodic : List EpisodicSearchIndex :=
  (repo.episodic.filter fun row => indexed request row && row.projectId = request.projectId).take
    (capped 80 request.perStageLimit)

/-- `search_episodic_index_by_vector_for_projects` -/
def searchEpisodicForProjects (projectIds : List String) : List EpisodicSearchIndex :=
  (repo.episodic.filter fun row => indexed request row && row.projectId ∈ projectIds).take
    (capped 120 (request.perStageLimit * 2))

def owned (projectIds : List String) (cap : Nat) : List String :=
  ((projectIds.filter fun id => id ≠ request.projectId ∧ repo.projects.any (· = (id, request.ownerId))).reverse.dedup.reverse).take
    cap

def linkedProjectIds (cap : Nat) : List String :=
  let repositories := (repo.repositoryLinks.filter (·.1 = request.projectId)).filterMap fun link => link.2.filter (· ≠ "")
  if repositories = [] then []
  else repo.owned request ((repo.repositoryLinks.filter fun link => link.2.any (· ∈ repositories)).map Prod.fst) cap

def agentProjectIds (agentId : String) (cap : Nat) : List String :=
  repo.owned request ((repo.agentMemberships.filter (·.2 = agentId)).map Prod.fst) cap

/-- `list_related_project_ids_for_retrieval` -/
def relatedProjectIds : List String :=
  let cap := capped 24 request.relatedProjectLimit
  let linked := repo.linkedProjectIds request cap
  match request.agentId.filter (· ≠ "") with
  | some agentId =>
    if linked.length < cap then (mergeUnique id linked (repo.agentProjectIds request agentId cap)).take cap
    else linked.take cap
  | none => linked.take cap

/-- `list_episodic_archive_manifests` -/
def archiveManifests : List (String × String) :=
  (repo.manifests.filter (· = (request.ownerId, request.projectId))).take (capped 200 (min 6 request.perStageLimit))

end Repository

/-- An entry of `meta["stages"]`. -/
inductive Stage where
  | searched (scope : String) (added total : Nat) (projectIds : List String)
  | companyNote
deriving DecidableEq

structure Meta where
  stages : List Stage
  archiveManifestCount : Option Nat
deriving DecidableEq

/-- `out` and `meta["stages"]` between two stages. -/
structure Gathered (α : Type) where
  out : List α
  stages : List Stage

def Gathered.merge {α : Type} (id : α → String) (gathered : Gathered α) (scope : String) (rows : List α)
    (projectIds : List String) : Gathered α :=
  let out := mergeUnique id gathered.out rows
  { out := out
    stages := gathered.stages ++ [.searched scope (out.length - gathered.out.length) out.length projectIds] }

section Retrieval

variable (repo : Repository) (request : Request)

def narrowSemantic : Gathered SemanticMemoryEntry :=
  (Gathered.merge SemanticMemoryEntry.id ⟨[], []⟩ "task" (repo.searchScoped request) []).merge SemanticMemoryEntry.id
    "project" (repo.searchProject request) []

def crossSemantic (gathered : Gathered SemanticMemoryEntry) : List SemanticMemoryEntry × Meta :=
  let related := repo.relatedProjectIds request
  let widened :=
    if related = [] then gathered
    else gathered.merge SemanticMemoryEntry.id "cross_project" (repo.searchForProjects request related) related
  (widened.out, ⟨widened.stages, none⟩)

def stagedSemanticVectorRetrieval : List SemanticMemoryEntry × Meta :=
  let narrow := narrowSemantic repo request
  match request.companyId.filter (· ≠ "") with
  | some companyId =>
    let company := narrow.merge SemanticMemoryEntry.id "company" (repo.searchCompany request companyId) []
    if request.minHits ≤ company.out.length then (company.out, ⟨company.stages, none⟩)
    else crossSemantic repo request company
  | none => crossSemantic repo request narrow

def stagedEpisodicVectorRetrieval : List EpisodicSearchIndex × Meta :=
  let project := Gathered.merge EpisodicSearchIndex.id ⟨[], []⟩ "project" (repo.searchEpisodic request) []
  if request.minHits ≤ project.out.length then (project.out, ⟨project.stages, none⟩)
  else
    let related := repo.relatedProjectIds request
    let widened :=
      if related = [] then project
      else project.merge EpisodicSearchIndex.id "cross_project" (repo.searchEpisodicForProjects request related) related
    let few := decide ((widened.out.length : Int) < request.minHits)
    let noted := if (request.companyId.filter (· ≠ "")).isSome && few then [Stage.companyNote] else []
    (widened.out, ⟨widened.stages ++ noted, if few then some (repo.archiveManifests request).length else none⟩)

end Retrieval

end Troop.Memory
