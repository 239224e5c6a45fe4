import Mathlib.Algebra.Order.Field.Rat
import Mathlib.Data.List.Dedup
import Troop.Python.Json
import Troop.Python.Lines

namespace Troop.Retrieval

abbrev Vec := List ℚ

structure RagChunkMatch where
  chunkId : String
  documentId : String
  title : String
  content : String
  chunkIndex : Nat
  score : ℚ
  sourceType : String := "text"
  metadata : Dict Json := []
  hitKind : String := "chunk"
deriving DecidableEq

/-- The runs of the characters that `word` accepts. -/
def runsOf (word : Char → Bool) (text : String) : List String :=
  ((text.toList.splitOnP fun c => !word c).filter (· ≠ [])).map String.ofList

/-- `re.findall(r"[a-z0-9]{3,}", text.lower())` -/
def queryTokens (text : String) : List String :=
  ((runsOf (fun c => ('a' ≤ c ∧ c ≤ 'z') ∨ ('0' ≤ c ∧ c ≤ '9')) (Text.lower text)).filter
    (3 ≤ ·.length)).dedup

section Acl

def driveSourceKinds : List String := ["google_drive", "microsoft_drive"]

def actorCanReadAcl (aclSnapshot : Json) (actorEmail : String) : Bool :=
  if !aclSnapshot.truthy then false
  else if (aclSnapshot.get "public").truthy then true
  else
    let email := Text.lower (Text.strip actorEmail)
    if email = "" then false
    else
      let allowed :=
        match aclSnapshot.get "allowed_emails" with
        | .arr items => items.map fun (item : Json) => Text.lower item.pyStr
        | _ => []
      let owner := Text.lower (aclSnapshot.get "owner_email").strOrEmpty
      email = owner ∨ email ∈ allowed

/-- What `_filter_drive_acl_matches` keeps. -/
def readable (actorEmail : Option String) (item : RagChunkMatch) : Bool :=
  if (item.metadata.get "source_kind").strOrEmpty ∉ driveSourceKinds then true
  else
    match actorEmail with
    | none => false
    | some email => email ≠ "" ∧ actorCanReadAcl (item.metadata.get "acl_snapshot") email

def filterDriveAclMatches (actorEmail : Option String) (items : List RagChunkMatch) : List RagChunkMatch :=
  items.filter (readable actorEmail)

end Acl

section Fusion

abbrev Fused := List (RagChunkMatch × ℚ)

def addScore (candidates : Fused) (item : RagChunkMatch) (share : ℚ) : Fused :=
  if candidates.any fun (other, _) => other.chunkId = item.chunkId then
    candidates.map fun (other, score) => (other, if other.chunkId = item.chunkId then score + share else score)
  else candidates ++ [(item, share)]

/-- One ranking, from a rank on; `seen` are its ids so far. -/
def addRanking (rankConstant : Nat) (candidates : Fused) (rank : Nat) (seen : List String) :
    List RagChunkMatch → Fused
  | [] => candidates
  | item :: rest =>
    if item.chunkId ∈ seen then addRanking rankConstant candidates (rank + 1) seen rest
    else
      let share : ℚ := 1 / (max 1 rankConstant + rank)
      addRanking rankConstant (addScore candidates item share) (rank + 1) (item.chunkId :: seen) rest

def reciprocalRankFusion (rankings : List (List RagChunkMatch)) (limit rankConstant : Nat) :
    List RagChunkMatch :=
  let candidates := rankings.foldl (fun candidates ranking => addRanking rankConstant candidates 1 [] ranking) []
  let ordered := (candidates.mergeSort fun a b => b.2 ≤ a.2).take limit
  match ordered with
  | [] => []
  | (_, maxScore) :: _ => ordered.map fun (item, score) => { item with score := score / maxScore }

end Fusion

section Rerank

def rerank (enabled : Bool) (mode query : String) (items : List RagChunkMatch) : List RagChunkMatch :=
  if !enabled ∨ Text.lower (Text.strip mode) ≠ "lexical" then items
  else
    let tokens := queryTokens query
    if tokens = [] then items
    else
      let boosted (item : RagChunkMatch) : ℚ :=
        let blob := queryTokens (item.title ++ " " ++ item.content)
        let overlap : ℚ := (tokens.filter (· ∈ blob)).length / tokens.length
        item.score + 15 / 100 * overlap
      items.mergeSort fun a b => boosted b ≤ boosted a

end Rerank

section Selection

/-- `[a-z0-9_./:-]` without regard to case, with the four letters beyond ASCII that it accepts -/
def isTokenChar (c : Char) : Bool := c.isAlphanum ∨ c ∈ ['_', '.', '/', ':', '-', 'İ', 'ı', 'ſ', 'K']

/-- `str.lower` on the characters of a token -/
def lowerToken (token : String) : String :=
  String.ofList (token.toList.flatMap fun c => if c = 'İ' then ['i', '\u0307'] else if c = 'K' then ['k'] else [c.toLower])

def contentTokens (text : String) : List String := ((runsOf isTokenChar text).map lowerToken).dedup

def nearDuplicate (item : RagChunkMatch) (selected : List RagChunkMatch) (threshold : ℚ) : Bool :=
  if 1 < threshold then false
  else
    let tokens := contentTokens item.content
    if tokens = [] then selected.any fun candidate => Text.trim candidate.content = ""
    else selected.any fun candidate =>
      let others := contentTokens candidate.content
      let union := (tokens ++ others).dedup
      threshold ≤ ((tokens.filter (· ∈ others)).length : ℚ) / max union.length 1

def sourceKey (item : RagChunkMatch) : String :=
  match ["source_id", "repository_id", "drive_file_id", "source_url"].find?
      fun key => (item.metadata.get key).truthy with
  | some key => key ++ ":" ++ (item.metadata.get key).pyStr
  | none => "document:" ++ item.documentId

def uniqueMatches (maxPerDocument maxPerSource : Int) (threshold : ℚ) (kept : List RagChunkMatch) :
    List RagChunkMatch → List RagChunkMatch
  | [] => kept
  | item :: rest =>
    if max 1 maxPerDocument ≤ kept.countP (·.documentId = item.documentId) then
      uniqueMatches maxPerDocument maxPerSource threshold kept rest
    else if max 1 maxPerSource ≤ kept.countP (sourceKey · = sourceKey item) then
      uniqueMatches maxPerDocument maxPerSource threshold kept rest
    else if nearDuplicate item kept threshold then
      uniqueMatches maxPerDocument maxPerSource threshold kept rest
    else uniqueMatches maxPerDocument maxPerSource threshold (kept ++ [item]) rest

/-- What one round takes: the first item of every queue that has one. -/
def served {α : Type} (queues : List (List α)) : List α := queues.filterMap List.head?

def waiting {α : Type} (queues : List (List α)) : List (List α) := queues.map List.tail

/-- `while len(diversified) < len(unique)` -/
def roundRobin {α : Type} (total : Nat) (queues : List (List α)) (done : List α) : List α :=
  if done.length < total then
    if served queues = [] then done else roundRobin total (waiting queues) (done ++ served queues)
  else done
termination_by total - done.length
decreasing_by
  rename_i some_
  have progress := List.length_pos_iff.mpr some_
  rw [List.length_append]
  omega

def diversified (items : List RagChunkMatch) : List RagChunkMatch :=
  let sources := (items.map sourceKey).reverse.dedup.reverse
  roundRobin items.length (sources.map fun source => items.filter (sourceKey · = source)) []

/-- `_estimate_embedding_tokens` -/
def estimateTokens (text : String) : Nat := max 1 ((text.length + 3) / 4)

/-- What fits into the tokens left, up to `limit` items. -/
def withinBudget (cost : RagChunkMatch → Nat) (limit tokens : Nat) : List RagChunkMatch → List RagChunkMatch
  | [] => []
  | item :: rest =>
    match limit with
    | 0 => []
    | limit + 1 =>
      if tokens < cost item then withinBudget cost (limit + 1) tokens rest
      else item :: withinBudget cost limit (tokens - cost item) rest

def selectContextMatches (items : List RagChunkMatch) (limit maxContextTokens maxPerDocument maxPerSource : Int)
    (threshold : ℚ) (estimate : String → Nat) : List RagChunkMatch :=
  if limit ≤ 0 ∨ maxContextTokens ≤ 0 then []
  else withinBudget (fun item => max 1 (estimate item.content)) limit.toNat maxContextTokens.toNat
    (diversified (uniqueMatches maxPerDocument maxPerSource threshold [] items))

end Selection

end Troop.Retrieval
