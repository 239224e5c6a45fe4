import Troop.Python.Text
import Troop.Python.Dumps
import Mathlib.Data.List.Dedup
import Mathlib.Data.List.Sort

namespace Troop.Packages

open List

structure Signing where
  secret : String
  digest : Json → String
  hmac : String → String → String

def contentHash (signing : Signing) (payload : Dict Json) : String := signing.digest (Json.obj payload).sortKeys

structure Trust where
  contentHash : String
  signatureScheme : String
  signature : Option String
  trustLevel : String
  reviewStatus : String
  publicPublishAllowed : Bool
deriving DecidableEq, Repr

def signWorkspacePackage (signing : Signing) (contentDigest signerUserId : String) : Trust :=
  let signature := if signing.secret = "" then "" else signing.hmac signing.secret (contentDigest ++ ":" ++ signerUserId)
  { contentHash := contentDigest
    signatureScheme := if signature = "" then "unsigned" else "workspace_hmac_sha256"
    signature := if signature = "" then none else some signature
    trustLevel := "workspace_private"
    reviewStatus := "not_submitted"
    publicPublishAllowed := false }

def verifyWorkspacePackageSignature (signing : Signing) (contentDigest signerUserId : String) (trust : Trust) : Bool :=
  if trust.signatureScheme = "unsigned" then false
  else trust.signature.getD "" = (signWorkspacePackage signing contentDigest signerUserId).signature.getD ""

def uniqueTexts (texts : List String) : List String :=
  ((texts.map Text.strip).filter (· ≠ "")).dedup.mergeSort

def sortedUnique : Json → List String
  | .arr items => uniqueTexts (items.map Json.pyStr)
  | _ => []

theorem mem_uniqueTexts {texts : List String} {text : String} :
    text ∈ uniqueTexts texts ↔ text ≠ "" ∧ ∃ given ∈ texts, Text.strip given = text := by
  simp only [uniqueTexts, mem_mergeSort, mem_dedup, mem_filter, mem_map, decide_eq_true_eq]
  exact and_comm

/-- The texts are as `_sorted_unique` leaves them. -/
def Stripped (texts : List String) : Prop := ∀ text ∈ texts, text ≠ "" ∧ Text.strip text = text

theorem stripped_uniqueTexts (texts : List String) : Stripped (uniqueTexts texts) := by
  intro text member
  obtain ⟨named, given, _, rfl⟩ := mem_uniqueTexts.mp member
  exact ⟨named, Text.strip_strip given⟩

theorem stripped_sortedUnique (value : Json) : Stripped (sortedUnique value) := by
  cases value with
  | arr items => exact stripped_uniqueTexts _
  | _ => exact fun text member => by cases member

theorem Stripped.mem_unique {texts : List String} (stripped : Stripped texts) {text : String} :
    text ∈ uniqueTexts texts ↔ text ∈ texts := by
  rw [mem_uniqueTexts]
  constructor
  · rintro ⟨_, given, member, rfl⟩
    rwa [(stripped given member).2]
  · exact fun member => ⟨(stripped text member).1, text, member, (stripped text member).2⟩

inductive PermissionKey where
  | requiredTools | allowedTools | connectorSlugs | oauthScopes | externalWrites
deriving DecidableEq, Repr

abbrev Manifest := PermissionKey → List String

def PermissionKey.text : PermissionKey → String
  | .requiredTools => "required_tools"
  | .allowedTools => "allowed_tools"
  | .connectorSlugs => "connector_slugs"
  | .oauthScopes => "oauth_scopes"
  | .externalWrites => "external_writes"

def declared (payload : Dict Json) : Manifest := fun key => sortedUnique (payload.get key.text)

def nodesOf (payload : Dict Json) : List (Dict Json) :=
  match payload.get "nodes" with
  | .arr items => items.filterMap Json.asObj?
  | _ => []

def configOf (node : Dict Json) : Dict Json := (node.get "config").asObj?.getD []

/-- `str(config.get(key) or "").strip()` -/
def slugAt (config : Dict Json) (key : String) : String := Text.strip (config.get key).strOrEmpty

def named (slugs : List String) : List String := slugs.filter (· ≠ "")

def writeOf (node : Dict Json) : List String :=
  let config := configOf node
  if (config.get "requires_approval").truthy ∨ (config.get "approval_required").truthy then
    [if slugAt config "tool_slug" ≠ "" then slugAt config "tool_slug"
     else ((node.get "id").pyOr (.str "node")).strOrEmpty]
  else []

def nodePermissions (nodes : List (Dict Json)) : Manifest
  | .requiredTools => named (nodes.map fun node => slugAt (configOf node) "tool_slug")
  | .connectorSlugs => named (nodes.map fun node => slugAt (configOf node) "connector_slug")
  | .externalWrites => nodes.flatMap writeOf
  | _ => []

def extractPermissionManifest (payload : Dict Json) (kind : String) : Manifest := fun key =>
  if kind = "workflow" ∧ key ∈ [PermissionKey.requiredTools, .connectorSlugs, .externalWrites] then
    uniqueTexts (declared payload key ++ nodePermissions (nodesOf payload) key)
  else declared payload key

theorem stripped_extract (payload : Dict Json) (kind : String) (key : PermissionKey) :
    Stripped (extractPermissionManifest payload kind key) := by
  unfold extractPermissionManifest
  split
  · exact stripped_uniqueTexts _
  · exact stripped_sortedUnique _

structure PermissionDiff where
  added : Manifest
  removed : Manifest
  hasEscalation : Bool
  requiresExplicitAcceptance : Bool

def escalationKeys : List PermissionKey := [.requiredTools, .connectorSlugs, .oauthScopes, .externalWrites]

def without (texts others : List String) : List String := (uniqueTexts texts).filter (· ∉ uniqueTexts others)

def diffPermissionManifests (previous : Option Manifest) (current : Manifest) : PermissionDiff :=
  let before : Manifest := previous.getD fun _ => []
  let added : Manifest := fun key => without (current key) (before key)
  let escalation := escalationKeys.any fun key => !(added key).isEmpty
  { added, removed := fun key => without (before key) (current key), hasEscalation := escalation,
    requiresExplicitAcceptance := escalation }

theorem mem_added {previous : Option Manifest} {current : Manifest} (stripped : ∀ key, Stripped (current key))
    (before : ∀ manifest, previous = some manifest → ∀ key, Stripped (manifest key)) {key : PermissionKey} {text : String} :
    text ∈ (diffPermissionManifests previous current).added key ↔
      text ∈ current key ∧ ∀ manifest, previous = some manifest → text ∉ manifest key := by
  simp only [diffPermissionManifests, without, mem_filter, decide_eq_true_eq, (stripped key).mem_unique]
  cases previous with
  | none => simp [uniqueTexts]
  | some manifest =>
    rw [Option.getD_some, (before manifest rfl key).mem_unique]
    simp

theorem no_escalation {previous : Option Manifest} {current : Manifest}
    (quiet : (diffPermissionManifests previous current).requiresExplicitAcceptance = false) {key : PermissionKey}
    (counts : key ∈ escalationKeys) : (diffPermissionManifests previous current).added key = [] := by
  have none := any_eq_false.mp quiet key counts
  change without (current key) (Option.getD previous (fun _ => []) key) = []
  simpa using none

end Troop.Packages
