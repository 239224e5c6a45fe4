import Troop.Memory.Staged

namespace Troop.Memory

open List

/-- The rank of the narrowest scope a row belongs to: the task's, the project's, the company's or another project's. -/
def SemanticMemoryEntry.scope (request : Request) (row : SemanticMemoryEntry) : Nat :=
  if row.projectId = some request.projectId then (if Repository.taskLinked request row then 0 else 1)
  else if row.projectId = none then 2 else 3

def EpisodicSearchIndex.scope (request : Request) (row : EpisodicSearchIndex) : Nat :=
  if row.projectId = request.projectId then 1 else 3

section Layers

variable {α : Type} {id : α → String} {scope : α → Nat} {out rows : List α} {rank : Nat}

structure Layered (id : α → String) (scope : α → Nat) (rank : Nat) (out : List α) : Prop where
  distinct : (out.map id).Nodup
  ordered : out.Pairwise fun a b => scope a ≤ scope b
  below : ∀ row ∈ out, scope row ≤ rank

theorem Layered.nil : Layered id scope rank [] := ⟨nodup_nil, Pairwise.nil, fun _ member => by cases member⟩

theorem Layered.merge (layered : Layered id scope rank out) (distinct : (rows.map id).Nodup) {next : Nat} (wider : rank ≤ next)
    (new : ∀ row ∈ rows, id row ∉ out.map id → scope row = next) : Layered id scope next (mergeUnique id out rows) where
  distinct := nodup_mergeUnique layered.distinct
  ordered := by
    rw [mergeUnique_eq distinct, pairwise_append]
    have added : ∀ row ∈ rows.filter (fun row => id row ∉ out.map id), scope row = next := by simp_all
    refine ⟨layered.ordered, ?_, ?_⟩
    · apply pairwise_of_forall_mem_list
      simp_all
    · intro a first b second
      rw [added b second]
      exact le_trans (layered.below a first) wider
  below := by
    rw [mergeUnique_eq distinct]
    intro row member
    rcases mem_append.mp member with old | added
    · exact le_trans (layered.below row old) wider
    · simp_all

structure WidensWhenNeeded (id : α → String) (scope : α → Nat) (minHits : Int) (narrower result : List α) : Prop where
  distinct : (result.map id).Nodup
  ordered : result.Pairwise fun a b => scope a ≤ scope b
  needed : ∀ row ∈ result, scope row = 3 → ((narrower.map id).dedup.length : Int) < minHits

theorem Layered.widens (layered : Layered id scope rank out) {minHits : Int} {narrower : List α}
    (needed : rank ≤ 2 ∨ ((narrower.map id).dedup.length : Int) < minHits) :
    WidensWhenNeeded id scope minHits narrower out where
  distinct := layered.distinct
  ordered := layered.ordered
  needed row member wide := by
    rcases needed with narrow | few
    · have bound := layered.below row member
      omega
    · exact few

end Layers

section Searches

variable {repo : Repository} {request : Request}

theorem nodup_search (kept : SemanticMemoryEntry → Bool) (cap : Nat) :
    (((repo.semantic.filter kept).take cap).map SemanticMemoryEntry.id).Nodup :=
  repo.semanticIds.sublist (((take_sublist _ _).trans filter_sublist).map _)

theorem nodup_searchEpisodic (kept : EpisodicSearchIndex → Bool) (cap : Nat) :
    (((repo.episodic.filter kept).take cap).map EpisodicSearchIndex.id).Nodup :=
  repo.episodicIds.sublist (((take_sublist _ _).trans filter_sublist).map _)

variable {row : SemanticMemoryEntry} {cap : Nat}

theorem of_mem_search {α : Type} {table : List α} {kept : α → Bool} {row : α}
    (member : row ∈ (table.filter kept).take cap) : row ∈ table ∧ kept row = true :=
  mem_filter.mp (mem_of_mem_take member)

theorem scope_searchScoped (found : row ∈ repo.searchScoped request) :
    row.scope request = 0 := by
  have kept := (of_mem_search found).2
  simp only [Bool.and_eq_true, decide_eq_true_eq] at kept
  rw [SemanticMemoryEntry.scope, if_pos kept.2.1, if_pos kept.2.2]

theorem scope_searchProject (found : row ∈ repo.searchProject request)
    (new : row ∉ repo.searchScoped request) : row.scope request = 1 := by
  have kept := (of_mem_search found).2
  simp only [Bool.and_eq_true, decide_eq_true_eq] at kept
  have unlinked : ¬ Repository.taskLinked request row = true := by
    intro linked
    apply new
    have listed := Pagination.mem_take_filter found linked
    rw [filter_filter] at listed
    unfold Repository.searchScoped
    convert listed using 3
    funext other
    rw [← Bool.and_assoc, Bool.and_comm (Repository.taskLinked request other)]
  rw [SemanticMemoryEntry.scope, if_pos kept.2, if_neg unlinked]

theorem scope_searchCompany {companyId : String} (found : row ∈ repo.searchCompany request companyId) :
    row.scope request = 2 := by
  have kept := (of_mem_search found).2
  simp only [Bool.and_eq_true, decide_eq_true_eq] at kept
  rw [SemanticMemoryEntry.scope, kept.2.2, if_neg (by simp), if_pos rfl]

theorem owned_ne {ids : List String} : ∀ other ∈ repo.owned request ids cap, other ≠ request.projectId := by
  intro other member
  have kept := mem_of_mem_take member
  rw [mem_reverse, mem_dedup, mem_reverse, mem_filter, decide_eq_true_eq] at kept
  exact kept.2.1

theorem related_ne {projectId : String} (related : projectId ∈ repo.relatedProjectIds request) : projectId ≠ request.projectId := by
  have linked : ∀ cap, ∀ other ∈ repo.linkedProjectIds request cap, other ≠ request.projectId := by
    intro cap other member
    unfold Repository.linkedProjectIds at member
    dsimp only at member
    split at member
    · cases member
    · exact owned_ne other member
  unfold Repository.relatedProjectIds at related
  dsimp only at related
  split at related
  · split at related
    · have listed := mem_map_of_mem (f := id) (mem_of_mem_take related)
      rw [mem_keys_mergeUnique, map_id, map_id] at listed
      exact listed.elim (linked _ _) (owned_ne _)
    · exact linked _ _ (mem_of_mem_take related)
  · exact linked _ _ (mem_of_mem_take related)

theorem scope_searchForProjects
    (found : row ∈ repo.searchForProjects request (repo.relatedProjectIds request)) : row.scope request = 3 := by
  have kept := (of_mem_search found).2
  rw [Bool.and_eq_true] at kept
  cases placed : row.projectId with
  | none => simp_all
  | some projectId =>
    rw [placed] at kept
    have related : projectId ∈ repo.relatedProjectIds request := of_decide_eq_true kept.2
    have other : ¬ some projectId = some request.projectId := fun same => related_ne related (Option.some.inj same)
    rw [SemanticMemoryEntry.scope, placed, if_neg other, if_neg (by simp)]

theorem scope_searchEpisodic {row : EpisodicSearchIndex} (found : row ∈ repo.searchEpisodic request) :
    row.scope request = 1 := by
  have kept := (of_mem_search found).2
  simp only [Bool.and_eq_true, decide_eq_true_eq] at kept
  rw [EpisodicSearchIndex.scope, if_pos kept.2]

theorem scope_searchEpisodicForProjects {row : EpisodicSearchIndex}
    (found : row ∈ repo.searchEpisodicForProjects request (repo.relatedProjectIds request)) : row.scope request = 3 := by
  have kept := (of_mem_search found).2
  simp only [Bool.and_eq_true, decide_eq_true_eq] at kept
  rw [EpisodicSearchIndex.scope, if_neg (related_ne kept.2)]

end Searches

section Retrieval

variable (repo : Repository) (request : Request)

def narrowerSemantic : List SemanticMemoryEntry :=
  repo.searchScoped request ++ repo.searchProject request ++
    ((request.companyId.filter (· ≠ "")).map (repo.searchCompany request)).getD []

def StagedRetrievals : Prop :=
  WidensWhenNeeded SemanticMemoryEntry.id (·.scope request) request.minHits (narrowerSemantic repo request)
    (stagedSemanticVectorRetrieval repo request).1 ∧
  WidensWhenNeeded EpisodicSearchIndex.id (·.scope request) request.minHits (repo.searchEpisodic request)
    (stagedEpisodicVectorRetrieval repo request).1

variable {repo request}

theorem layered_narrow : Layered SemanticMemoryEntry.id (·.scope request) 1 (narrowSemantic repo request).out := by
  have task : Layered SemanticMemoryEntry.id (·.scope request) 0 (mergeUnique SemanticMemoryEntry.id [] (repo.searchScoped request)) :=
    Layered.nil.merge (nodup_search _ _) (le_refl 0) fun row member _ => scope_searchScoped member
  apply task.merge (nodup_search _ _) (Nat.zero_le 1)
  intro row member unseen
  apply scope_searchProject member
  intro listed
  exact unseen (mem_keys_mergeUnique.mpr (.inr (mem_map_of_mem listed)))

theorem narrowSemantic_out : (narrowSemantic repo request).out =
    mergeUnique SemanticMemoryEntry.id [] (repo.searchScoped request ++ repo.searchProject request) := mergeUnique_append.symm

theorem length_gathered (rows : List SemanticMemoryEntry) :
    (mergeUnique SemanticMemoryEntry.id [] rows).length = (rows.map SemanticMemoryEntry.id).dedup.length :=
  length_mergeUnique nodup_nil

theorem crossSemantic_out (gathered : Gathered SemanticMemoryEntry) : (crossSemantic repo request gathered).1 =
    mergeUnique SemanticMemoryEntry.id gathered.out (repo.searchForProjects request (repo.relatedProjectIds request)) := by
  unfold crossSemantic
  dsimp only
  by_cases alone : repo.relatedProjectIds request = []
  · have nothing : repo.searchForProjects request [] = [] := by
      have none_ : repo.semantic.filter (fun row => repo.current request row && row.projectId.any (· ∈ ([] : List String))) = [] := by
        simp_all
      rw [Repository.searchForProjects, none_, take_nil]
    rw [if_pos alone, alone, nothing]
    rfl
  · rw [if_neg alone]
    rfl

theorem layered_cross {gathered : Gathered SemanticMemoryEntry} {rank : Nat}
    (layered : Layered SemanticMemoryEntry.id (·.scope request) rank gathered.out) (narrow : rank ≤ 3) :
    Layered SemanticMemoryEntry.id (·.scope request) 3 (crossSemantic repo request gathered).1 := by
  rw [crossSemantic_out]
  exact layered.merge (nodup_search _ _) narrow fun row member _ => scope_searchForProjects member

theorem episodic_widens : WidensWhenNeeded EpisodicSearchIndex.id (·.scope request) request.minHits (repo.searchEpisodic request)
    (stagedEpisodicVectorRetrieval repo request).1 := by
  have own : Layered EpisodicSearchIndex.id (·.scope request) 1 (mergeUnique EpisodicSearchIndex.id [] (repo.searchEpisodic request)) :=
    Layered.nil.merge (nodup_searchEpisodic _ _) (Nat.le_succ 0) fun row member _ => scope_searchEpisodic member
  have counted : (mergeUnique EpisodicSearchIndex.id [] (repo.searchEpisodic request)).length =
      ((repo.searchEpisodic request).map EpisodicSearchIndex.id).dedup.length := length_mergeUnique nodup_nil
  unfold stagedEpisodicVectorRetrieval
  dsimp only [Gathered.merge]
  by_cases enough : request.minHits ≤ (mergeUnique EpisodicSearchIndex.id [] (repo.searchEpisodic request)).length
  · rw [if_pos enough]
    exact own.widens (.inl (by omega))
  · rw [if_neg enough]
    have few : (((repo.searchEpisodic request).map EpisodicSearchIndex.id).dedup.length : Int) < request.minHits := by
      simp_all
    split
    · exact own.widens (.inr few)
    · have wide := own.merge (nodup_searchEpisodic _ _) (by omega)
        fun row member _ => @scope_searchEpisodicForProjects repo _ row member
      exact wide.widens (.inr few)

theorem semantic_widens_company {companyId : String} (named : request.companyId.filter (· ≠ "") = some companyId) :
    WidensWhenNeeded SemanticMemoryEntry.id (·.scope request) request.minHits (narrowerSemantic repo request)
      (stagedSemanticVectorRetrieval repo request).1 := by
  have company : Layered SemanticMemoryEntry.id (·.scope request) 2
      (mergeUnique SemanticMemoryEntry.id (narrowSemantic repo request).out (repo.searchCompany request companyId)) :=
    layered_narrow.merge (nodup_search _ _) (Nat.le_succ 1) fun row member _ => scope_searchCompany member
  unfold stagedSemanticVectorRetrieval
  rw [named]
  dsimp only
  split
  case isTrue enough => exact company.widens (.inl (le_refl 2))
  case isFalse few =>
    apply (layered_cross company (Nat.le_succ 2)).widens
    right
    have counted : (mergeUnique SemanticMemoryEntry.id (narrowSemantic repo request).out
        (repo.searchCompany request companyId)).length =
        ((narrowerSemantic repo request).map SemanticMemoryEntry.id).dedup.length := by
      rw [narrowSemantic_out, ← mergeUnique_append, length_gathered, narrowerSemantic, named]
      rfl
    rw [← counted]
    exact not_le.mp few

theorem semantic_no_company (unnamed : request.companyId.filter (· ≠ "") = none) :
    WidensWhenNeeded SemanticMemoryEntry.id (·.scope request) request.minHits (narrowerSemantic repo request)
      (stagedSemanticVectorRetrieval repo request).1 ↔
    ((((repo.searchScoped request ++ repo.searchProject request).map SemanticMemoryEntry.id).dedup.length : Int) <
        request.minHits ∨
      repo.searchForProjects request (repo.relatedProjectIds request) = []) := by
  have narrower : narrowerSemantic repo request = repo.searchScoped request ++ repo.searchProject request := by
    rw [narrowerSemantic, unnamed]
    exact append_nil _
  have reached : (stagedSemanticVectorRetrieval repo request).1 =
      mergeUnique SemanticMemoryEntry.id (narrowSemantic repo request).out
        (repo.searchForProjects request (repo.relatedProjectIds request)) := by
    rw [← crossSemantic_out, stagedSemanticVectorRetrieval, unnamed]
  have layered := @layered_cross repo request (narrowSemantic repo request) 1 layered_narrow (by omega)
  rw [crossSemantic_out] at layered
  rw [narrower, reached]
  constructor
  · intro widens
    by_cases none_ : repo.searchForProjects request (repo.relatedProjectIds request) = []
    · exact .inr none_
    left
    obtain ⟨row, found⟩ := exists_mem_of_ne_nil _ none_
    have wide := scope_searchForProjects found
    -- the row of that id is in the table once, and no narrower stage lists it
    have unseen : row.id ∉ (narrowSemantic repo request).out.map SemanticMemoryEntry.id := by
      intro seen
      obtain ⟨known, member, same⟩ := mem_map.mp seen
      have bound := layered_narrow.below known member
      rw [narrowSemantic_out] at member
      have inside : known ∈ repo.semantic := by
        rcases mem_append.mp ((of_mem_mergeUnique member).resolve_left not_mem_nil) with task | project
        · exact (of_mem_search task).1
        · exact (of_mem_search project).1
      have equal : known = row := inj_on_of_nodup_map repo.semanticIds inside (of_mem_search found).1 same
      simp_all
    have others : ((repo.searchForProjects request (repo.relatedProjectIds request)).map SemanticMemoryEntry.id).Nodup :=
      nodup_search _ _
    apply widens.needed row _ wide
    rw [mergeUnique_eq others, mem_append, mem_filter, decide_eq_true_eq]
    exact .inr ⟨found, unseen⟩
  · intro either
    rcases either with few | none_
    · exact layered.widens (.inr few)
    · rw [none_]
      exact layered_narrow.widens (.inl (by omega))

/-- Related projects are searched in need only, unless there is no company and they have something to add to enough. -/
theorem staged_retrievals_iff (repo : Repository) (request : Request) : StagedRetrievals repo request ↔
    ((∃ companyId, request.companyId = some companyId ∧ companyId ≠ "") ∨
      (((repo.searchScoped request ++ repo.searchProject request).map SemanticMemoryEntry.id).dedup.length : Int) <
        request.minHits ∨
      repo.searchForProjects request (repo.relatedProjectIds request) = []) := by
  rw [StagedRetrievals, and_iff_left episodic_widens]
  cases named : request.companyId.filter (· ≠ "") with
  | some companyId =>
    obtain ⟨there, present⟩ := Option.filter_eq_some_iff.mp named
    constructor
    · exact fun _ => .inl ⟨companyId, there, of_decide_eq_true present⟩
    · exact fun _ => semantic_widens_company named
  | none =>
    have unnamed : ¬ ∃ companyId, request.companyId = some companyId ∧ companyId ≠ "" := by simp_all
    rw [semantic_no_company named, or_iff_right unnamed]

def sharedRepository : Repository where
  now := 0
  semantic :=
    [⟨"m1", "u", none, some "p", "", none, "current", none, none, true⟩,
      ⟨"m2", "u", none, some "q", "", none, "current", none, none, true⟩]
  episodic := []
  manifests := []
  projects := [("p", "u"), ("q", "u")]
  repositoryLinks := [("p", some "r"), ("q", some "r")]
  agentMemberships := []
  semanticIds := by decide
  episodicIds := by decide

def oneHit : Request where
  ownerId := "u"
  projectId := "p"
  taskId := "t"
  companyId := none
  agentId := none
  minHits := 1
  perStageLimit := 4
  relatedProjectLimit := 2

theorem other_project_entry_returned :
    (stagedSemanticVectorRetrieval sharedRepository oneHit).1.map SemanticMemoryEntry.id = ["m1", "m2"] ∧
    ¬ (∀ repo request, StagedRetrievals repo request) := by
  have found : (stagedSemanticVectorRetrieval sharedRepository oneHit).1.map SemanticMemoryEntry.id = ["m1", "m2"] := by
    decide
  refine ⟨found, fun claimed => ?_⟩
  have needed := (claimed sharedRepository oneHit).1.needed
    ⟨"m2", "u", none, some "q", "", none, "current", none, none, true⟩ (by decide) (by decide)
  exact absurd needed (by decide)

end Retrieval

end Troop.Memory
