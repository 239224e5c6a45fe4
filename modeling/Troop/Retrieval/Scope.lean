import Troop.Retrieval.Retrieve

namespace Troop.Retrieval

open List

def checkedEmail (email : Option String) : Option String :=
  (given email).map fun email => Text.lower (Text.strip email)

namespace RagSearchFilters

variable (filters : RagSearchFilters)

def chunkScope : Option (Option String × Option String × Option String) :=
  match given filters.sourceKind with
  | none => some (filters.taskId, none, checkedEmail filters.actorEmail)
  | some kind =>
    if kind ∈ driveSourceKinds then
      (checkedEmail filters.actorEmail).map fun email => (filters.taskId, some kind, some email)
    else some (filters.taskId, some kind, none)

def memoryScope : Option (String × Option String) :=
  if filters.includeDecisions then (given filters.userId).map (·, checkedEmail filters.actorEmail) else none

end RagSearchFilters

theorem actorCanReadAcl_congr {acl : Json} {email email' : String}
    (same : Text.lower (Text.strip email) = Text.lower (Text.strip email')) :
    actorCanReadAcl acl email = actorCanReadAcl acl email' := by
  unfold actorCanReadAcl
  rw [same]

def RagChunkMatch.Plain (item : RagChunkMatch) : Prop :=
  (item.metadata.get "source_kind").strOrEmpty ∉ driveSourceKinds

theorem readable_iff {email : Option String} {item : RagChunkMatch} :
    readable email item = true ↔
      item.Plain ∨ ∃ address, given email = some address ∧
        actorCanReadAcl (item.metadata.get "acl_snapshot") address = true := by
  unfold readable RagChunkMatch.Plain
  by_cases plain : (item.metadata.get "source_kind").strOrEmpty ∉ driveSourceKinds
  · simp [plain]
  · cases email with
    | none => simp [plain, given]
    | some address => by_cases blank : address = "" <;> simp [plain, given, blank]

theorem checkedEmail_some {email : Option String} {address : String} (given_ : given email = some address) :
    checkedEmail email = some (Text.lower (Text.strip address)) := by
  unfold checkedEmail
  rw [given_]
  rfl

theorem readable_mono {email email' : Option String} {item : RagChunkMatch}
    (same : checkedEmail email = checkedEmail email') (read : readable email item = true) :
    readable email' item = true := by
  rcases readable_iff.mp read with plain | ⟨address, given_, allowed⟩
  · exact readable_iff.mpr (.inl plain)
  · rw [checkedEmail_some given_] at same
    obtain ⟨address', given', normal⟩ := Option.map_eq_some_iff.mp same.symm
    rw [actorCanReadAcl_congr normal.symm] at allowed
    exact readable_iff.mpr (.inr ⟨address', given', allowed⟩)

theorem readable_congr {email email' : Option String} (same : checkedEmail email = checkedEmail email')
    (item : RagChunkMatch) : readable email item = readable email' item := by
  rw [Bool.eq_iff_iff]
  exact ⟨readable_mono same, readable_mono same.symm⟩

theorem readable_plain {email : Option String} {item : RagChunkMatch} (plain : item.Plain) :
    readable email item = true := readable_iff.mpr (.inl plain)

theorem readable_drive {email : Option String} {item : RagChunkMatch} (drive : ¬ item.Plain)
    (nobody : checkedEmail email = none) : readable email item = false := by
  by_contra read
  rcases readable_iff.mp (by simpa using read) with plain | ⟨address, given_, _⟩
  · exact drive plain
  · simp [checkedEmail_some given_] at nobody

theorem filterDriveAclMatches_same {email email' : Option String} {items : List RagChunkMatch}
    (same : ∀ item ∈ items, readable email item = readable email' item) :
    filterDriveAclMatches email items = filterDriveAclMatches email' items :=
  filter_congr same

def OfKind (sourceKind : Option String) (items : List RagChunkMatch) : Prop :=
  ∀ item ∈ items, ∀ kind ∈ given sourceKind, item.metadata.get "source_kind" = .str kind

section Kinds

variable {items : List RagChunkMatch} {sourceKind : Option String} {kind : String} {email : Option String}

theorem OfKind.plain (kinds : OfKind sourceKind items) (asked : given sourceKind = some kind)
    (other : kind ∉ driveSourceKinds) {item : RagChunkMatch} (member : item ∈ items) : item.Plain := by
  have held := kinds item member kind asked
  unfold RagChunkMatch.Plain
  rwa [held, Json.strOrEmpty_str]

theorem OfKind.drive (kinds : OfKind sourceKind items) (asked : given sourceKind = some kind)
    (drive : kind ∈ driveSourceKinds) {item : RagChunkMatch} (member : item ∈ items) : ¬ item.Plain := by
  have held := kinds item member kind asked
  unfold RagChunkMatch.Plain
  rw [held, Json.strOrEmpty_str]
  exact not_not.mpr drive

theorem OfKind.blind (kinds : OfKind sourceKind items) (asked : given sourceKind = some kind)
    (drive : kind ∈ driveSourceKinds) (nobody : checkedEmail email = none) :
    filterDriveAclMatches email items = [] := by
  unfold filterDriveAclMatches
  rw [filter_eq_nil_iff]
  intro item member
  rw [readable_drive (kinds.drive asked drive member) nobody]
  simp

end Kinds

inductive SameChunks (a b : RagSearchFilters) : Prop where
  | blind (kind kind' : String) (asked : given a.sourceKind = some kind) (asked' : given b.sourceKind = some kind')
      (drive : kind ∈ driveSourceKinds) (drive' : kind' ∈ driveSourceKinds)
      (nobody : checkedEmail a.actorEmail = none) (nobody' : checkedEmail b.actorEmail = none)
  | plain (kind : String) (tasks : a.taskId = b.taskId) (asked : given a.sourceKind = some kind)
      (asked' : given b.sourceKind = some kind) (other : kind ∉ driveSourceKinds)
  | address (tasks : a.taskId = b.taskId) (kinds : given a.sourceKind = given b.sourceKind)
      (emails : checkedEmail a.actorEmail = checkedEmail b.actorEmail)

theorem sameChunks_of_scope {a b : RagSearchFilters} (same : a.chunkScope = b.chunkScope) : SameChunks a b := by
  unfold RagSearchFilters.chunkScope at same
  cases asked : given a.sourceKind with
  | none =>
    cases asked' : given b.sourceKind with
    | none =>
      simp only [asked, asked', Option.some.injEq, Prod.mk.injEq, true_and] at same
      exact .address same.1 (asked.trans asked'.symm) same.2
    | some kind' =>
      simp only [asked, asked'] at same
      split at same
      · simp_all
      · simp at same
  | some kind =>
    cases asked' : given b.sourceKind with
    | none =>
      simp only [asked, asked'] at same
      split at same
      · simp_all
      · simp at same
    | some kind' =>
      simp only [asked, asked'] at same
      by_cases drive : kind ∈ driveSourceKinds <;> by_cases drive' : kind' ∈ driveSourceKinds
      · rw [if_pos drive, if_pos drive'] at same
        cases nobody : checkedEmail a.actorEmail with
        | none =>
          rw [nobody, Option.map_none] at same
          exact .blind kind kind' asked asked' drive drive' nobody (Option.map_eq_none_iff.mp same.symm)
        | some email =>
          rw [nobody, Option.map_some] at same
          obtain ⟨email', address, scope⟩ := Option.map_eq_some_iff.mp same.symm
          simp only [Prod.mk.injEq, Option.some.injEq] at scope
          obtain ⟨tasks, kinds, emails⟩ := scope
          exact .address tasks.symm (by rw [asked, asked', kinds]) (by rw [nobody, address, emails])
      · simp_all
      · simp_all
      · rw [if_neg drive, if_neg drive'] at same
        simp only [Option.some.injEq, Prod.mk.injEq, and_true] at same
        exact .plain kind same.1 asked (by rw [asked', same.2]) drive

theorem filterDriveAclMatches_congr {a b : RagSearchFilters}
    (search : Option String → Option String → List RagChunkMatch)
    (reads : ∀ {task kind kind'}, given kind = given kind' → search task kind = search task kind')
    (kinds : ∀ task kind, OfKind kind (search task kind)) (same : SameChunks a b) :
    filterDriveAclMatches a.actorEmail (search a.taskId a.sourceKind) =
      filterDriveAclMatches b.actorEmail (search b.taskId b.sourceKind) := by
  cases same with
  | blind kind kind' asked asked' drive drive' nobody nobody' =>
    rw [(kinds a.taskId a.sourceKind).blind asked drive nobody,
      (kinds b.taskId b.sourceKind).blind asked' drive' nobody']
  | plain kind tasks asked asked' other =>
    have searched : search a.taskId a.sourceKind = search b.taskId b.sourceKind := by grind
    rw [searched]
    apply filterDriveAclMatches_same
    intro item member
    have plain := (kinds b.taskId b.sourceKind).plain asked' other member
    rw [readable_plain plain, readable_plain plain]
  | address tasks asked emails =>
    have searched : search a.taskId a.sourceKind = search b.taskId b.sourceKind := by grind
    rw [searched]
    exact filterDriveAclMatches_same fun item _ => readable_congr emails item

section Searches

variable {config : RagConfig} {engine : Engine} {tables : Tables} {projectId query : String} {queryVec : Vec}
  {task kind kind' : Option String} {cap : Nat}

theorem liveChunks_congr (same : given kind = given kind') :
    tables.liveChunks projectId task kind = tables.liveChunks projectId task kind' := by
  unfold Tables.liveChunks
  rw [same]

theorem liveChunks_kind {row : Chunk × ProjectDocument} (live : row ∈ tables.liveChunks projectId task kind) :
    ∀ asked ∈ given kind, row.1.metadataJson.get "source_kind" = .str asked := by
  obtain ⟨chunk, _, found⟩ := mem_filterMap.mp live
  split at found
  · split at found
    · grind
    · cases found
  · cases found

theorem mem_topOf {limit : Nat} {items : List RagChunkMatch} {item : RagChunkMatch}
    (member : item ∈ topOf limit items) : item ∈ items :=
  mem_mergeSort.mp (mem_of_mem_take member)

theorem vectorSearch_kind :
    OfKind kind (searchDocumentChunksByVector engine tables projectId queryVec task kind cap) := by
  intro item member
  obtain ⟨row, live, made⟩ := mem_filterMap.mp (mem_topOf member)
  obtain ⟨vector, _, rfl⟩ := Option.map_eq_some_iff.mp made
  exact liveChunks_kind live

theorem textSearch_kind : OfKind kind (searchDocumentChunksByText engine tables projectId query task kind cap) := by
  intro item member
  unfold searchDocumentChunksByText at member
  split at member
  · cases member
  · obtain ⟨row, live, rfl⟩ := mem_map.mp (mem_mergeSort.mp (mem_of_mem_take member))
    exact liveChunks_kind (mem_of_mem_filter live)

theorem fallback_kind : OfKind kind (fallbackHits engine tables config projectId queryVec task kind cap) := by
  intro item member
  obtain ⟨chunk, listed, made⟩ := mem_filterMap.mp (mem_topOf member)
  split at made
  · cases made
  obtain ⟨document, _, rfl⟩ := Option.map_eq_some_iff.mp made
  have live := mem_mergeSort.mp (mem_of_mem_take listed)
  obtain ⟨row, inside, rfl⟩ := mem_map.mp live
  intro asked given_
  exact liveChunks_kind inside asked given_

end Searches

section Agreement

variable {config : RagConfig} {engine : Engine} {tables : Tables} {projectId query : String} {queryVec : Vec}
  {a b : RagSearchFilters} {cap : Nat}

theorem vectorMatches_congr (same : SameChunks a b) :
    vectorMatches config engine tables projectId a queryVec cap =
      vectorMatches config engine tables projectId b queryVec cap := by
  have searched := filterDriveAclMatches_congr
    (fun task kind => (if engine.vectorFails then [] else searchDocumentChunksByVector engine tables projectId
      queryVec task kind (candidateCap config cap)).filter (config.scoreThreshold ≤ ·.score))
    (fun {task kind kind'} kinds => by
      unfold searchDocumentChunksByVector
      rw [liveChunks_congr kinds])
    (fun task kind item member => by
      have hit := mem_of_mem_filter member
      split at hit
      · cases hit
      · exact vectorSearch_kind item hit) same
  exact searched

theorem lexicalMatches_congr (same : SameChunks a b) :
    lexicalMatches config engine tables projectId query a cap =
      lexicalMatches config engine tables projectId query b cap := by
  have searched := filterDriveAclMatches_congr
    (fun task kind => searchDocumentChunksByText engine tables projectId query task kind (candidateCap config cap))
    (fun {task kind kind'} kinds => by
      unfold searchDocumentChunksByText
      rw [liveChunks_congr kinds])
    (fun task kind => textSearch_kind) same
  unfold lexicalMatches
  rw [searched]

theorem fallbackMatches_congr (same : SameChunks a b) :
    fallbackMatches config engine tables projectId a queryVec cap =
      fallbackMatches config engine tables projectId b queryVec cap := by
  have searched := filterDriveAclMatches_congr
    (fun task kind => fallbackHits engine tables config projectId queryVec task kind (candidateCap config cap))
    (fun {task kind kind'} kinds => by
      unfold fallbackHits listDocumentChunks
      rw [liveChunks_congr kinds])
    (fun task kind => fallback_kind) same
  unfold fallbackMatches
  rw [searched, vectorMatches_congr same]

theorem memoryScope_email {pair : String × Option String} (scope : a.memoryScope = some pair) :
    pair.2 = checkedEmail a.actorEmail := by
  unfold RagSearchFilters.memoryScope at scope
  split at scope
  · grind [Option.map_eq_some_iff]
  · cases scope

theorem memoriesFound_eq :
    memoriesFound config engine tables projectId a queryVec cap =
      match a.memoryScope with
      | some (userId, _) => semanticMemoryMatches engine tables userId projectId queryVec (candidateCap config cap)
      | none => [] := by
  unfold memoriesFound RagSearchFilters.memoryScope
  cases included : a.includeDecisions with
  | false => rfl
  | true =>
    cases user : given a.userId with
    | _ => rfl

theorem memoriesFound_congr (same : a.memoryScope = b.memoryScope) :
    memoriesFound config engine tables projectId a queryVec cap =
      memoriesFound config engine tables projectId b queryVec cap := by
  rw [memoriesFound_eq, memoriesFound_eq, same]

theorem rankings_congr (chunks : SameChunks a b) (memories : a.memoryScope = b.memoryScope)
    (decisions : a.includeDecisions = b.includeDecisions) :
    rankings config engine tables projectId query a queryVec cap =
      rankings config engine tables projectId query b queryVec cap := by
  unfold rankings decisionsFound
  rw [vectorMatches_congr chunks, lexicalMatches_congr chunks, fallbackMatches_congr chunks, decisions,
    memoriesFound_congr memories]

end Agreement

section Fusion

variable {candidates : Fused} {item source : RagChunkMatch} {score share : ℚ} {rankConstant : Nat}

theorem mem_addScore (member : (source, score) ∈ addScore candidates item share) :
    (∃ before, (source, before) ∈ candidates) ∨ source = item := by
  unfold addScore at member
  split at member
  · grind
  · rcases mem_append.mp member with had | new
    · exact .inl ⟨score, had⟩
    · simp_all

theorem mem_addRanking {ranking : List RagChunkMatch} {rank : Nat} {seen : List String}
    (member : (source, score) ∈ addRanking rankConstant candidates rank seen ranking) :
    (∃ before, (source, before) ∈ candidates) ∨ source ∈ ranking := by
  induction ranking generalizing candidates rank seen with
  | nil => exact .inl ⟨score, member⟩
  | cons item rest ih =>
    unfold addRanking at member
    split at member
    · exact (ih member).imp_right (mem_cons_of_mem _)
    rcases ih member with ⟨before, had⟩ | later
    · rcases mem_addScore had with earlier | rfl
      · exact .inl earlier
      · exact .inr mem_cons_self
    · exact .inr (mem_cons_of_mem _ later)

theorem mem_candidates {rankings : List (List RagChunkMatch)}
    (member : (source, score) ∈
      rankings.foldl (fun candidates ranking => addRanking rankConstant candidates 1 [] ranking) candidates) :
    (∃ before, (source, before) ∈ candidates) ∨ ∃ ranking ∈ rankings, source ∈ ranking := by
  induction rankings generalizing candidates with
  | nil => exact .inl ⟨score, member⟩
  | cons ranking rest ih =>
    rcases ih member with ⟨before, had⟩ | ⟨later, inside, there⟩
    · rcases mem_addRanking had with earlier | here
      · exact .inl earlier
      · exact .inr ⟨ranking, mem_cons_self, here⟩
    · exact .inr ⟨later, mem_cons_of_mem _ inside, there⟩

theorem fused_from {rankings : List (List RagChunkMatch)} {limit : Nat}
    (member : item ∈ reciprocalRankFusion rankings limit rankConstant) :
    ∃ ranking ∈ rankings, ∃ source ∈ ranking, source.metadata = item.metadata := by
  unfold reciprocalRankFusion at member
  dsimp only at member
  split at member
  · cases member
  obtain ⟨⟨source, score⟩, ordered, rfl⟩ := mem_map.mp member
  have candidate := mem_mergeSort.mp (mem_of_mem_take ordered)
  rcases mem_candidates candidate with ⟨_, none⟩ | ⟨ranking, inside, there⟩
  · cases none
  · exact ⟨ranking, inside, source, there, rfl⟩

end Fusion

section Chosen

variable {config : RagConfig} {engine : Engine} {tables : Tables} {projectId query : String} {queryVec : Vec}
  {a b : RagSearchFilters} {cap : Nat}

theorem plain_of_no_metadata {item : RagChunkMatch} (none : item.metadata = []) : item.Plain := by
  unfold RagChunkMatch.Plain
  rw [none]
  decide

theorem decision_plain {item : RagChunkMatch}
    (member : item ∈ decisionsFound config engine tables projectId query a cap) : item.Plain := by
  unfold decisionsFound at member
  split at member
  · obtain ⟨decision, _, made⟩ := mem_filterMap.mp (mem_topOf member)
    dsimp only at made
    split at made
    · cases made
    · cases made
      exact plain_of_no_metadata rfl
  · cases member

theorem found_plain {kind : String} (asked : given a.sourceKind = some kind) (other : kind ∉ driveSourceKinds)
    (memories : memoriesFound config engine tables projectId a queryVec cap = []) {ranking : List RagChunkMatch}
    (found : ranking ∈ rankings config engine tables projectId query a queryVec cap) {item : RagChunkMatch}
    (member : item ∈ ranking) : item.Plain := by
  have cases_ := mem_of_mem_filter found
  simp only [mem_cons, not_mem_nil, or_false] at cases_
  rcases cases_ with rfl | rfl | rfl | rfl | rfl
  · have hit := mem_of_mem_filter (mem_of_mem_filter member)
    split at hit
    · cases hit
    · exact vectorSearch_kind.plain asked other hit
  · unfold lexicalMatches at member
    split at member
    · cases member
    · exact textSearch_kind.plain asked other (mem_of_mem_filter member)
  · unfold fallbackMatches at member
    split at member
    · exact fallback_kind.plain asked other (mem_of_mem_filter member)
    · cases member
  · exact decision_plain member
  · simp [memories] at member

theorem chosen_congr {found : List (List RagChunkMatch)}
    (same : ∀ ranking ∈ found, ∀ item ∈ ranking, ∀ other : RagChunkMatch, item.metadata = other.metadata →
      readable a.actorEmail other = readable b.actorEmail other) :
    chosen config query a cap found = chosen config query b cap found := by
  have allowed : filterDriveAclMatches a.actorEmail
      (reciprocalRankFusion found (candidateCap config cap) config.rrfK) =
      filterDriveAclMatches b.actorEmail (reciprocalRankFusion found (candidateCap config cap) config.rrfK) := by
    apply filterDriveAclMatches_same
    intro item member
    obtain ⟨ranking, inside, source, there, metadata⟩ := fused_from member
    exact same ranking inside source there item metadata
  unfold chosen
  simp_all

theorem fill_congr (chunks : a.chunkScope = b.chunkScope) (memories : a.memoryScope = b.memoryScope)
    (decisions : a.includeDecisions = b.includeDecisions) :
    fill config engine tables projectId query a cap = fill config engine tables projectId query b cap := by
  have same := sameChunks_of_scope chunks
  have answered (queryVec : Vec) :
      chosen config query a cap (rankings config engine tables projectId query b queryVec cap) =
        chosen config query b cap (rankings config engine tables projectId query b queryVec cap) := by
    apply chosen_congr
    intro ranking found item member other metadata
    by_cases emails : checkedEmail a.actorEmail = checkedEmail b.actorEmail
    · exact readable_congr emails other
    cases same with
    | blind _ _ _ _ _ _ nobody nobody' => exact absurd (nobody.trans nobody'.symm) emails
    | address _ _ equal => exact absurd equal emails
    | plain kind _ _ asked' plain =>
      have alone : b.memoryScope = none := by
        cases scope : b.memoryScope with
        | none => rfl
        | some pair =>
          have mine := memoryScope_email (memories.trans scope)
          have theirs := memoryScope_email scope
          exact absurd (mine.symm.trans theirs) emails
      have empty : memoriesFound config engine tables projectId b queryVec cap = [] := by
        rw [memoriesFound_eq, alone]
      have unchecked := found_plain asked' plain empty found member
      unfold RagChunkMatch.Plain at unchecked
      rw [metadata] at unchecked
      rw [readable_plain unchecked, readable_plain unchecked]
  have found : (fun queryVec => chosen config query a cap
      (rankings config engine tables projectId query a queryVec cap)) =
      fun queryVec => chosen config query b cap (rankings config engine tables projectId query b queryVec cap) := by
    funext queryVec
    rw [rankings_congr same memories decisions, answered queryVec]
  unfold fill
  rw [found]

end Chosen

end Troop.Retrieval
