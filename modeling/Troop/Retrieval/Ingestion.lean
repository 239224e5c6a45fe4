import Troop.Python.Lines
import Troop.Retrieval.Matches

/-! What a document's text becomes before it is stored: redacted, parsed and split into chunks. -/

namespace Troop.Retrieval.Indexing

open Text (trim)

/-- A compiled pattern of `_SENSITIVE_PATTERNS`, under its label; `sub` puts a replacement in place of each match. -/
structure Pattern where
  label : String
  search : String → Bool
  sub : String → String → String

/-- What the code takes from `re`, `json`, `html`, `hashlib` and the embedding providers. `embed` is the vector that a provider
    gives a text by a model. -/
structure Library where
  sensitivePatterns : List Pattern
  parseJson : String → Dict Json → String × Dict Json
  parseHtml : String → String
  sha256 : String → String
  embed : String → String → String → Vec

section Redaction

inductive RedactionReason where
  | blockedPattern
  | emptyAfterRedaction
deriving Repr, DecidableEq

def redactionReplacement : String := "[REDACTED]"

variable (patterns : List Pattern)

def containsSensitiveContent (text : String) : Bool :=
  if text = "" then false else patterns.any fun pattern => pattern.search text

def redactSensitiveContent (text : String) : String × List String :=
  if text = "" then ("", [])
  else
    let (redacted, matched) := patterns.foldl (fun (redacted, matched) pattern =>
      if pattern.search redacted then (pattern.sub redactionReplacement redacted, matched ++ [pattern.label])
      else (redacted, matched)) (text, [])
    (Text.trim redacted, matched)

def meaningful (redacted : String) : String := Text.trim (Text.without redactionReplacement redacted)

def isSafeToStore (text : String) : Bool × Option RedactionReason :=
  if Text.trim text = "" then (false, some .emptyAfterRedaction)
  else if containsSensitiveContent patterns text then
    let (redacted, _) := redactSensitiveContent patterns text
    if redacted = "" ∨ meaningful redacted = "" then (false, some .blockedPattern)
    else if (meaningful redacted).length < 20 then (false, some .blockedPattern)
    else (true, none)
  else (true, none)

def sanitizeForStorage (text : String) : Option String × List String :=
  if Text.trim text = "" then (none, [])
  else
    let (redacted, matched) := redactSensitiveContent patterns text
    if matched ≠ [] ∧ (meaningful redacted).length < 20 then (none, matched)
    else if (isSafeToStore patterns redacted).1 then (some redacted, matched)
    else (none, matched)

theorem sanitizeForStorage_of_clean {text : String} (named : Text.trim text ≠ "")
    (clean : ∀ pattern ∈ patterns, pattern.search text = false ∧ pattern.search (Text.trim text) = false) :
    sanitizeForStorage patterns text = (some (Text.trim text), []) := by
  have written : text ≠ "" := by
    rintro rfl
    exact named rfl
  have untouched (seen : List Pattern) (all : ∀ pattern ∈ seen, pattern.search text = false) :
      seen.foldl (fun (redacted, matched) pattern =>
        if pattern.search redacted then (pattern.sub redactionReplacement redacted, matched ++ [pattern.label])
        else (redacted, matched)) (text, []) = (text, []) := by
    induction seen with
    | nil => rfl
    | cons pattern rest ih => simp_all
  have redacted : redactSensitiveContent patterns text = (trim text, []) := by
    rw [redactSensitiveContent, if_neg written, untouched patterns fun pattern isThere => (clean pattern isThere).1]
  have safe : isSafeToStore patterns (trim text) = (true, none) := by
    have quiet : containsSensitiveContent patterns (trim text) = false := by
      rw [containsSensitiveContent, if_neg named, List.any_eq_false]
      simp_all
    rw [isSafeToStore, Text.trim_trim, if_neg named, quiet, if_neg Bool.false_ne_true]
  simp [sanitizeForStorage, named, redacted, safe]

end Redaction

section Parsing

inductive SourceType where
  | text
  | markdown
  | pdf
  | html
  | json
  | csv
  | code
  | upload
  | repository
  | url
deriving Repr, DecidableEq

def SourceType.name : SourceType → String
  | .text => "text"
  | .markdown => "markdown"
  | .pdf => "pdf"
  | .html => "html"
  | .json => "json"
  | .csv => "csv"
  | .code => "code"
  | .upload => "upload"
  | .repository => "repository"
  | .url => "url"

def pdfUnsupportedDetail : String :=
  "PDF upload is not supported yet. Convert the document to plain text or Markdown " ++
    "before uploading, or paste the text via the document API."

def detectSourceType (contentType filename : Option String) : SourceType :=
  let name := Text.lower (filename.getD "")
  let ctype := Text.lower (contentType.getD "")
  let mentions (mark : String) : Bool := (Text.cutAt mark ctype).isSome
  if Text.endsWith ".md" name ∨ mentions "markdown" then .markdown
  else if Text.endsWith ".json" name ∨ mentions "json" then .json
  else if Text.endsWith ".csv" name ∨ mentions "csv" then .csv
  else if Text.endsWith ".html" name ∨ Text.endsWith ".htm" name ∨ mentions "html" then .html
  else if [".py", ".ts", ".tsx", ".js", ".go", ".rs", ".java"].any fun tail => Text.endsWith tail name then .code
  else if Text.endsWith ".pdf" name ∨ mentions "pdf" then .pdf
  else .text

def parseCsv (text : String) : String := "\n".intercalate (((Text.splitlines text).map Text.trim).filter (· ≠ ""))

def parse (lib : Library) (sourceType : SourceType) (content : String) (metadata : Dict Json) :
    Except PyError (String × Dict Json) :=
  match sourceType with
  | .json =>
    let (text, extended) := lib.parseJson content metadata
    .ok (Text.trim text, extended)
  | .html => .ok (Text.trim (lib.parseHtml content), metadata)
  | .csv => .ok (Text.trim (parseCsv content), metadata)
  | .pdf => .error (.valueError pdfUnsupportedDetail)
  | .markdown =>
    .ok (Text.trim content, if (metadata.get? "format").isSome then metadata else metadata.set "format" (.str "markdown"))
  | .text | .code | .upload | .repository | .url => .ok (Text.trim content, metadata)

structure RagDocument where
  documentId : String
  sourceType : SourceType
  title : String
  content : String
  metadata : Dict Json
  checksum : String

def normalizeDocument (lib : Library) (documentId : String) (sourceType : SourceType) (title content : String)
    (metadata : Dict Json) : Except PyError RagDocument := do
  let (parsed, extended) ← parse lib sourceType content metadata
  return ⟨documentId, sourceType, title, parsed, extended, lib.sha256 parsed⟩

end Parsing

section Chunking

structure ChunkingOptions where
  chunkSize : Int := 1200
  chunkOverlap : Int := 150

structure RagChunk where
  chunkId : String
  documentId : String
  title : String
  content : String
  chunkIndex : Nat
  contentHash : String
  metadata : Dict Json

/-- The loop of `split_text`; each round starts further on. -/
def splitFrom (opts : ChunkingOptions) (normalized : List Char) (start : Int) : List String :=
  if start < normalized.length then
    let stop := min (normalized.length : Int) (start + opts.chunkSize)
    let chunk := Text.trim (String.ofList (Text.slice normalized start stop))
    let chunks := if chunk = "" then [] else [chunk]
    if normalized.length ≤ stop then chunks
    else chunks ++ splitFrom opts normalized (max (stop - opts.chunkOverlap) (start + 1))
  else []
termination_by (normalized.length - start).toNat

def splitText (opts : ChunkingOptions) (text : String) : List String := splitFrom opts (Text.trim text).toList 0

def buildChunks (lib : Library) (opts : ChunkingOptions) (document : RagDocument) : List RagChunk :=
  (splitText opts document.content).mapIdx fun index part =>
    let digest := lib.sha256 part
    { chunkId := document.documentId ++ ":" ++ toString index ++ ":" ++ Text.cut 12 digest
      documentId := document.documentId
      title := document.title
      content := part
      chunkIndex := index
      contentHash := digest
      metadata := document.metadata.set "content_hash" (.str digest) }

theorem splitText_short {opts : ChunkingOptions} {text : String} (fits : (Text.trim text).length ≤ opts.chunkSize)
    (named : Text.trim text ≠ "") : splitText opts text = [Text.trim text] := by
  have long : 0 < (trim text).toList.length := by simp_all [List.length_pos_iff, String.toList_eq_nil_iff]
  have size : (trim text).toList.length = (trim text).length := String.length_toList
  unfold splitText
  rw [splitFrom, if_pos (by omega)]
  have stop : min ((trim text).toList.length : Int) (0 + opts.chunkSize) = (trim text).toList.length := by omega
  simp only [stop, Text.slice_whole, String.ofList_toList, Text.trim_trim, if_neg named, le_refl, if_true]

theorem getElem?_buildChunks (lib : Library) (opts : ChunkingOptions) (document : RagDocument) {i : Nat} {chunk : RagChunk}
    (isThere : (buildChunks lib opts document)[i]? = some chunk) :
    chunk.chunkIndex = i ∧ chunk.contentHash = lib.sha256 chunk.content := by
  unfold buildChunks at isThere
  grind

theorem buildChunks_one (lib : Library) {opts : ChunkingOptions} {document : RagDocument} {part : String}
    (one : splitText opts document.content = [part]) :
    ∃ chunk, buildChunks lib opts document = [chunk] ∧ chunk.content = part ∧ chunk.contentHash = lib.sha256 part := by
  unfold buildChunks
  simp_all

end Chunking

end Troop.Retrieval.Indexing
