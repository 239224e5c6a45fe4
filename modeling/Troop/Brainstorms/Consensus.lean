import Mathlib.Data.Finset.Card
import Mathlib.Data.Rat.Floor
import Troop.Python.Lines
import Troop.Retrieval.Matches

namespace Troop.Brainstorms

open List
open Text (cut isSpace lineOf lower trim)

def messageTokens (text : String) : Finset String :=
  ((Retrieval.runsOf (fun c => ('a' ≤ c ∧ c ≤ 'z') ∨ ('0' ≤ c ∧ c ≤ '9') ∨ c = '_') (Text.lower text)).filter
    (2 < ·.length)).toFinset

def messageSimilarity (left right : String) : ℚ :=
  if messageTokens left = ∅ ∨ messageTokens right = ∅ then 0
  else (messageTokens left ∩ messageTokens right).card / (messageTokens left ∪ messageTokens right).card

def brainstormFirstLine (text : String) : String :=
  Text.cut 160 (Text.lower ((((Text.splitlines text).map Text.trim).find? (· ≠ "")).getD (Text.trim text)))

def pairwise : List String → List ℚ
  | [] => []
  | first :: rest => rest.map (messageSimilarity first) ++ pairwise rest

def adjScores : List String → List ℚ
  | first :: second :: rest => messageSimilarity first second :: adjScores (second :: rest)
  | _ => []

/-- `min` of a list with an element -/
def least : List ℚ → ℚ
  | [] => 0
  | first :: rest => rest.foldl min first

/-- `max` of a list, with the default 0 -/
def greatest : List ℚ → ℚ
  | [] => 0
  | first :: rest => rest.foldl max first

/-- `round(value, 4)`, ties to even -/
def round4 (value : ℚ) : ℚ :=
  let below := ⌊value * 10000⌋
  let rest := value * 10000 - below
  (if rest < 1 / 2 ∨ rest = 1 / 2 ∧ below % 2 = 0 then below else below + 1 : ℤ) / 10000

inductive ConsensusKind where
  | hard | soft | none
deriving DecidableEq

structure ConsensusMetrics where
  pairwiseMinSimilarity : Option ℚ
  pairwiseMaxSimilarity : Option ℚ
  repetitionScore : ℚ
  conflictSignal : Bool
  consensusKind : ConsensusKind
  softConsensusMatch : Bool
deriving DecidableEq

/-- A message as positions are compared, `content.strip().lower()[:120]`. -/
def position (content : String) : String := Text.cut 120 (Text.lower (Text.trim content))

/-- `_brainstorm_consensus_metrics_from_contents` -/
def consensusMetrics (contents : List String) (softThr conflictThr : ℚ) : ConsensusMetrics :=
  if contents.length < 2 then
    { pairwiseMinSimilarity := none, pairwiseMaxSimilarity := none, repetitionScore := 0, conflictSignal := false,
      consensusKind := .none, softConsensusMatch := false }
  else
    let minS := least (pairwise contents)
    let maxS := greatest (pairwise contents)
    let normalized := ((contents.filter (Text.trim · ≠ "")).map position).toFinset
    let softMatch := decide (softThr ≤ minS)
    let distinctLines := (contents.map brainstormFirstLine).toFinset
    { pairwiseMinSimilarity := some (round4 minS)
      pairwiseMaxSimilarity := some (round4 maxS)
      repetitionScore := round4 (greatest (adjScores contents))
      conflictSignal := maxS ≤ conflictThr ∧ min 3 contents.length ≤ distinctLines.card
      consensusKind := if normalized.card = 1 then .hard else if softMatch then .soft else .none
      softConsensusMatch := softMatch }

structure StopConditions where
  softConsensusMinSimilarity : ℚ := 72 / 100
  conflictPairwiseMaxSimilarity : ℚ := 38 / 100
  stopOnConsensus : Bool := true
  acceptSoftConsensus : Bool := true
  maxRepetitionScore : ℚ := 92 / 100

inductive ConsensusStatus where
  | consensus | softConsensus | conflict | loopDetected | open
deriving DecidableEq

/-- What `_execute_brainstorm_run` makes of a round. -/
structure RoundConsensus where
  repetitionScore : ℚ
  metrics : ConsensusMetrics
  hardConsensus : Bool
  consensusReached : Bool
  status : ConsensusStatus
deriving DecidableEq

/-- The messages of a round as `_execute_brainstorm_run` judges them. -/
def roundConsensus (stop : StopConditions) (contents : List String) : RoundConsensus :=
  let repetitionScore := if 2 ≤ contents.length then greatest (adjScores contents) else 0
  let computed := consensusMetrics contents stop.softConsensusMinSimilarity stop.conflictPairwiseMaxSimilarity
  let metrics := if 2 ≤ contents.length then { computed with repetitionScore := round4 repetitionScore } else computed
  let normalizedPositions := (contents.map position).toFinset
  let hardConsensus := decide (2 ≤ contents.length ∧ normalizedPositions.card = 1)
  let consensusReached := stop.stopOnConsensus && decide (2 ≤ contents.length) &&
    (hardConsensus || metrics.softConsensusMatch && stop.acceptSoftConsensus)
  { repetitionScore, metrics, hardConsensus, consensusReached
    status :=
      if consensusReached then (if hardConsensus then .consensus else .softConsensus)
      else if metrics.conflictSignal then .conflict
      else if stop.maxRepetitionScore ≤ repetitionScore then .loopDetected
      else .open }

section Notion

variable (stop : StopConditions) (contents : List String)

def RoundConsensus.metricsHard (round : RoundConsensus) : Bool := round.metrics.consensusKind = .hard

def OrderFree : Prop :=
  ∀ others, others.Perm contents →
    (roundConsensus stop others).metrics.consensusKind = (roundConsensus stop contents).metrics.consensusKind ∧
    (roundConsensus stop others).metrics.softConsensusMatch = (roundConsensus stop contents).metrics.softConsensusMatch ∧
    (roundConsensus stop others).metrics.conflictSignal = (roundConsensus stop contents).metrics.conflictSignal ∧
    (roundConsensus stop others).hardConsensus = (roundConsensus stop contents).hardConsensus

structure OneNotion : Prop where
  same : (roundConsensus stop contents).metricsHard = (roundConsensus stop contents).hardConsensus
  softExcludes : (roundConsensus stop contents).metrics.softConsensusMatch = true →
    (roundConsensus stop contents).metrics.conflictSignal = false
  hardExcludes : (roundConsensus stop contents).metricsHard = true ∨ (roundConsensus stop contents).hardConsensus = true →
    (roundConsensus stop contents).metrics.conflictSignal = false
  equal : (roundConsensus stop contents).metricsHard = true ∨ (roundConsensus stop contents).hardConsensus = true →
    ∀ first ∈ contents, ∀ second ∈ contents,
      Text.lower (Text.trim first) = Text.lower (Text.trim second)
  orderFree : OrderFree stop contents

def Said : Prop := ∀ content ∈ contents, Text.trim content ≠ ""

def ShortLines : Prop := ∀ content ∈ contents, (Text.lineOf (Text.trim content).toList).length ≤ 120

/-- As `OneNotion`, with equality in the first 120 characters; hard consensus is between messages that say something. -/
structure PrefixNotion : Prop where
  same : Said contents → (roundConsensus stop contents).metricsHard = (roundConsensus stop contents).hardConsensus
  softExcludes : (roundConsensus stop contents).metrics.softConsensusMatch = true →
    (roundConsensus stop contents).metrics.conflictSignal = false
  hardExcludes : Said contents → ShortLines contents →
    (roundConsensus stop contents).metricsHard = true ∨ (roundConsensus stop contents).hardConsensus = true →
    (roundConsensus stop contents).metrics.conflictSignal = false
  equal : Said contents →
    (roundConsensus stop contents).metricsHard = true ∨ (roundConsensus stop contents).hardConsensus = true →
    ∀ first ∈ contents, ∀ second ∈ contents, position first = position second
  orderFree : OrderFree stop contents

end Notion

section Similarities

theorem messageSimilarity_comm (left right : String) : messageSimilarity left right = messageSimilarity right left := by
  unfold messageSimilarity
  rw [Finset.inter_comm, Finset.union_comm]
  simp only [or_comm]

theorem pairwise_perm {contents others : List String} (same : others.Perm contents) :
    (pairwise others).Perm (pairwise contents) := by
  induction same with
  | nil => exact Perm.refl _
  | cons first same ih => exact (same.map _).append ih
  | swap first second rest =>
    unfold pairwise pairwise
    rw [map_cons, map_cons, messageSimilarity_comm second first, cons_append, cons_append,
      ← append_assoc, ← append_assoc]
    exact (perm_append_comm.append_right _).cons _
  | trans _ _ first second => exact first.trans second

theorem le_foldl_min (values : List ℚ) (first bound : ℚ) : bound ≤ values.foldl min first ↔ bound ≤ first ∧ ∀ value ∈ values, bound ≤ value := by
  induction values generalizing first with
  | nil => simp
  | cons value rest ih => rw [foldl_cons, ih, le_min_iff, forall_mem_cons, and_assoc]

theorem foldl_max_le (values : List ℚ) (first bound : ℚ) : values.foldl max first ≤ bound ↔ first ≤ bound ∧ ∀ value ∈ values, value ≤ bound := by
  induction values generalizing first with
  | nil => simp
  | cons value rest ih => rw [foldl_cons, ih, max_le_iff, forall_mem_cons, and_assoc]

theorem le_least {values : List ℚ} (some_ : values ≠ []) (bound : ℚ) : bound ≤ least values ↔ ∀ value ∈ values, bound ≤ value := by
  cases values with
  | nil => exact absurd rfl some_
  | cons first rest => rw [least, le_foldl_min, forall_mem_cons]

theorem greatest_le {values : List ℚ} (some_ : values ≠ []) (bound : ℚ) : greatest values ≤ bound ↔ ∀ value ∈ values, value ≤ bound := by
  cases values with
  | nil => exact absurd rfl some_
  | cons first rest => rw [greatest, foldl_max_le, forall_mem_cons]

theorem pairwise_ne_nil {contents : List String} (several : 2 ≤ contents.length) : pairwise contents ≠ [] := by
  match contents, several with
  | first :: second :: rest, _ => simp [pairwise]

theorem least_perm {values others : List ℚ} (same : others.Perm values) : least others = least values := by
  by_cases empty : values = []
  · simp_all
  have some_ : others ≠ [] := fun none_ => empty (nil_perm.mp (none_ ▸ same))
  apply eq_of_forall_le_iff
  intro bound
  rw [le_least empty, le_least some_]
  simp only [same.mem_iff]

theorem greatest_perm {values others : List ℚ} (same : others.Perm values) : greatest others = greatest values := by
  by_cases empty : values = []
  · simp_all
  have some_ : others ≠ [] := fun none_ => empty (nil_perm.mp (none_ ▸ same))
  apply eq_of_forall_ge_iff
  intro bound
  rw [greatest_le empty, greatest_le some_]
  simp only [same.mem_iff]

end Similarities

section Lines

theorem firstLine_eq (content : String) : brainstormFirstLine content =
    String.ofList ((Text.lineOf (Text.lower (Text.trim content)).toList).take 160) := by
  unfold brainstormFirstLine cut
  rw [Text.first_line, lower, lower, String.toList_ofList, String.toList_ofList, String.toList_ofList,
    Text.lineOf_map_toLower]

theorem lineOf_short {chars : List Char} (short : (Text.lineOf chars).length ≤ 120) :
    Text.lineOf chars = Text.lineOf (chars.take 120) := by
  have cut := Text.rdropWhile_take short
  unfold lineOf
  rw [← take_takeWhile]
  exact cut.symm

theorem firstLine_of_position {first second : String} (equal : position first = position second)
    (firstShort : (Text.lineOf (Text.trim first).toList).length ≤ 120)
    (secondShort : (Text.lineOf (Text.trim second).toList).length ≤ 120) :
    brainstormFirstLine first = brainstormFirstLine second := by
  have chars := congrArg String.toList equal
  unfold position cut at chars
  rw [String.toList_ofList, String.toList_ofList] at chars
  have lowered (content : String) (short : (lineOf (trim content).toList).length ≤ 120) :
      (lineOf (lower (trim content)).toList).length ≤ 120 := by
    rwa [lower, String.toList_ofList, Text.lineOf_map_toLower, length_map]
  rw [firstLine_eq, firstLine_eq, lineOf_short (lowered first firstShort), lineOf_short (lowered second secondShort), chars]

end Lines

section Verdicts

variable {stop : StopConditions} {contents : List String}

theorem consensusMetrics_several (several : 2 ≤ contents.length) (softThr conflictThr : ℚ) :
    consensusMetrics contents softThr conflictThr =
      { pairwiseMinSimilarity := some (round4 (least (pairwise contents)))
        pairwiseMaxSimilarity := some (round4 (greatest (pairwise contents)))
        repetitionScore := round4 (greatest (adjScores contents))
        conflictSignal := decide (greatest (pairwise contents) ≤ conflictThr ∧
          min 3 contents.length ≤ (contents.map brainstormFirstLine).toFinset.card)
        consensusKind :=
          if ((contents.filter (Text.trim · ≠ "")).map position).toFinset.card = 1 then .hard
          else if softThr ≤ least (pairwise contents) then .soft else .none
        softConsensusMatch := decide (softThr ≤ least (pairwise contents)) } := by
  unfold consensusMetrics
  rw [if_neg (by omega)]
  simp only [decide_eq_true_eq]

theorem metricsHard_iff (several : 2 ≤ contents.length) : (roundConsensus stop contents).metricsHard = true ↔
    ((contents.filter (Text.trim · ≠ "")).map position).toFinset.card = 1 := by
  unfold RoundConsensus.metricsHard roundConsensus
  simp only [if_pos several, consensusMetrics_several several, decide_eq_true_eq]
  constructor
  · grind
  · exact fun one => if_pos one

theorem hardConsensus_iff : (roundConsensus stop contents).hardConsensus = true ↔
    2 ≤ contents.length ∧ (contents.map position).toFinset.card = 1 := by
  exact decide_eq_true_iff

theorem softMatch_iff (several : 2 ≤ contents.length) : (roundConsensus stop contents).metrics.softConsensusMatch = true ↔
    ∀ value ∈ pairwise contents, stop.softConsensusMinSimilarity ≤ value := by
  unfold roundConsensus
  simp only [if_pos several, consensusMetrics_several several, decide_eq_true_eq]
  exact le_least (pairwise_ne_nil several) _

theorem conflict_iff (several : 2 ≤ contents.length) : (roundConsensus stop contents).metrics.conflictSignal = true ↔
    (∀ value ∈ pairwise contents, value ≤ stop.conflictPairwiseMaxSimilarity) ∧
      min 3 contents.length ≤ (contents.map brainstormFirstLine).toFinset.card := by
  unfold roundConsensus
  simp only [if_pos several, consensusMetrics_several several, decide_eq_true_eq]
  rw [greatest_le (pairwise_ne_nil several)]

theorem roundConsensus_few (few : contents.length < 2) : (roundConsensus stop contents).metricsHard = false ∧
    (roundConsensus stop contents).hardConsensus = false ∧
    (roundConsensus stop contents).metrics.softConsensusMatch = false ∧
    (roundConsensus stop contents).metrics.conflictSignal = false := by
  have short : ¬ 2 ≤ contents.length := by omega
  unfold RoundConsensus.metricsHard roundConsensus consensusMetrics
  simp [short, few]

theorem orderFree (stop : StopConditions) (contents : List String) : OrderFree stop contents := by
  intro others same
  have length := same.length_eq
  have lows := least_perm (pairwise_perm same)
  have highs := greatest_perm (pairwise_perm same)
  have positions := toFinset_eq_of_perm _ _ (same.map position)
  have lines := toFinset_eq_of_perm _ _ (same.map brainstormFirstLine)
  have said := toFinset_eq_of_perm _ _ ((same.filter (trim · ≠ "")).map position)
  unfold roundConsensus consensusMetrics
  by_cases several : 2 ≤ contents.length <;> grind

theorem one_element {values : List String} (one : (values.map position).toFinset.card = 1) :
    ∀ first ∈ values, ∀ second ∈ values, position first = position second := by
  obtain ⟨only, same⟩ := Finset.card_eq_one.mp one
  have each : ∀ value ∈ values, position value = only := by
    intro value isThere
    have listed : position value ∈ (values.map position).toFinset := mem_toFinset.mpr (mem_map_of_mem isThere)
    rw [same] at listed
    exact Finset.mem_singleton.mp listed
  simp_all

theorem card_one {values : List String} {f : String → String} (some_ : values ≠ [])
    (equal : ∀ first ∈ values, ∀ second ∈ values, f first = f second) : (values.map f).toFinset.card = 1 := by
  cases values with
  | nil => exact absurd rfl some_
  | cons first rest =>
    apply Finset.card_eq_one.mpr
    refine ⟨f first, ?_⟩
    ext value
    rw [mem_toFinset, mem_map, Finset.mem_singleton]
    constructor
    · grind
    · simp_all

theorem filter_said (said : Said contents) : contents.filter (Text.trim · ≠ "") = contents :=
  filter_eq_self.mpr fun content isThere => decide_eq_true (said content isThere)

theorem verdicts_said (said : Said contents) :
    (roundConsensus stop contents).metricsHard = (roundConsensus stop contents).hardConsensus := by
  by_cases several : 2 ≤ contents.length
  · rw [Bool.eq_iff_iff, metricsHard_iff several, hardConsensus_iff, filter_said said]
    exact (and_iff_right several).symm
  · obtain ⟨metrics, hard, _⟩ := @roundConsensus_few stop contents (by omega)
    rw [metrics, hard]

theorem soft_excludes (apart : stop.conflictPairwiseMaxSimilarity < stop.softConsensusMinSimilarity)
    (soft : (roundConsensus stop contents).metrics.softConsensusMatch = true) :
    (roundConsensus stop contents).metrics.conflictSignal = false := by
  by_cases several : 2 ≤ contents.length
  · rw [Bool.eq_false_iff]
    intro conflict
    obtain ⟨value, isThere⟩ := exists_mem_of_ne_nil _ (pairwise_ne_nil several)
    have low := (softMatch_iff several).mp soft value isThere
    have high := ((conflict_iff several).mp conflict).1 value isThere
    exact absurd (low.trans high) (not_le.mpr apart)
  · exact (roundConsensus_few (by omega)).2.2.2

theorem no_conflict (equal : ∀ first ∈ contents, ∀ second ∈ contents, brainstormFirstLine first = brainstormFirstLine second) :
    (roundConsensus stop contents).metrics.conflictSignal = false := by
  by_cases several : 2 ≤ contents.length
  · rw [Bool.eq_false_iff]
    intro conflict
    have lines := ((conflict_iff several).mp conflict).2
    have some_ : contents ≠ [] := by grind
    rw [card_one some_ equal] at lines
    omega
  · exact (roundConsensus_few (by omega)).2.2.2

theorem positions_of_hard (said : Said contents)
    (hard : (roundConsensus stop contents).metricsHard = true ∨ (roundConsensus stop contents).hardConsensus = true) :
    ∀ first ∈ contents, ∀ second ∈ contents, position first = position second := by
  rw [verdicts_said said, or_self, hardConsensus_iff] at hard
  exact one_element hard.2

end Verdicts

def longMessage (last : Char) : String := String.ofList (List.replicate 120 'a' ++ [last])

theorem lower_longMessage {last : Char} (solid : Text.isSpace last = false) :
    Text.lower (Text.trim (longMessage last)) = String.ofList (List.replicate 120 'a' ++ [last.toLower]) := by
  have chars : ∀ c ∈ replicate 120 'a' ++ [last], isSpace c = false := by
    intro c isThere
    rcases mem_append.mp isThere with a | same
    · rw [eq_of_mem_replicate a]
      rfl
    · rwa [mem_singleton.mp same]
  rw [longMessage, Text.trim_solid chars, lower, String.toList_ofList, map_append, map_replicate]
  rfl

theorem position_longMessage {last : Char} (solid : Text.isSpace last = false) :
    position (longMessage last) = String.ofList (List.replicate 120 'a') := by
  rw [position, lower_longMessage solid, cut, String.toList_ofList, take_left' length_replicate]

end Troop.Brainstorms
