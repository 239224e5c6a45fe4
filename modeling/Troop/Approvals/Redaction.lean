import Troop.Python.Dict
import Troop.Python.Lines

/-! What an approval's payload shows of itself in a response. -/

namespace Troop.Approvals.Redaction

open List

/-- A value of Python. A key of a dict is there by its `str`, so that two keys of one dict may be one text; any other object
    has only its `str`. -/
inductive Value where
  | none
  | bool (value : Bool)
  | int (value : Int)
  | float (written : String)
  | str (text : String)
  | list (items : List Value)
  | tuple (items : List Value)
  | dict (entries : List (String × Value))
  | other (text : String)

def sensitivePayloadKeys : List String :=
  ["access_token", "api_key", "authorization", "cookie", "encrypted_token", "password", "private_key", "secret", "token"]

def sensitiveMarkers : List String := ["secret", "token", "password", "credential"]

section Redact

variable (lower : String → String)

/-- Whether `redact_approval_payload` hides what stands under a key; `lower` is `str.lower`. -/
def sensitive (key : String) : Bool :=
  let normalizedKey := Text.replaceChar '-' '_' (lower key)
  normalizedKey ∈ sensitivePayloadKeys ∨ sensitiveMarkers.any fun marker => (Text.cutAt marker normalizedKey).isSome

mutual
def redactApprovalPayload (depth : Nat) (value : Value) : Value :=
  if 5 < depth then .str "[truncated]"
  else
    match value with
    | .dict entries => .dict (redactEntries depth [] entries)
    | .list items | .tuple items => .list (redactItems depth 50 items)
    | .str text => if text.length ≤ 4000 then .str text else .str (Text.cut 4000 text ++ "…")
    | .other text => .str (Text.cut 4000 text)
    | plain => plain

def redactEntries (depth : Nat) (output : Dict Value) : List (String × Value) → Dict Value
  | [] => output
  | (key, item) :: rest =>
    if sensitive lower key then redactEntries depth (output.set key (.str "[redacted]")) rest
    else redactEntries depth (output.set key (redactApprovalPayload (depth + 1) item)) rest

/-- The first `left` of the items. -/
def redactItems (depth left : Nat) : List Value → List Value
  | [] => []
  | item :: rest =>
    if left = 0 then [] else redactApprovalPayload (depth + 1) item :: redactItems depth (left - 1) rest
end

mutual
/-- A payload without the values under its sensitive keys. -/
def withhold : Value → Value
  | .dict entries => .dict (withholdEntries entries)
  | .list items => .list (withholdItems items)
  | .tuple items => .tuple (withholdItems items)
  | plain => plain

def withholdEntries : List (String × Value) → List (String × Value)
  | [] => []
  | (key, item) :: rest => (key, if sensitive lower key then .none else withhold item) :: withholdEntries rest

def withholdItems : List Value → List Value
  | [] => []
  | item :: rest => withhold item :: withholdItems rest
end

end Redact

/-- A part of a value that stands in it below no hidden key. -/
inductive Part (hidden : String → Bool) : Value → Value → Prop
  | whole (value : Value) : Part hidden value value
  | entry {entries : List (String × Value)} {key : String} {value part : Value} :
      (key, value) ∈ entries → hidden key = false → Part hidden value part → Part hidden (.dict entries) part
  | item {items : List Value} {value part : Value} : value ∈ items → Part hidden value part → Part hidden (.list items) part
  | member {items : List Value} {value part : Value} : value ∈ items → Part hidden value part → Part hidden (.tuple items) part

mutual
/-- How deep dicts, lists and tuples are nested. -/
def nesting : Value → Nat
  | .dict entries => nestingEntries entries + 1
  | .list items | .tuple items => nestingItems items + 1
  | _ => 0

def nestingEntries : List (String × Value) → Nat
  | [] => 0
  | (_, value) :: rest => max (nesting value) (nestingEntries rest)

def nestingItems : List Value → Nat
  | [] => 0
  | value :: rest => max (nesting value) (nestingItems rest)
end

section Facts

variable {lower : String → String} {depth : Nat}

mutual
theorem redact_withhold (depth : Nat) (value : Value) :
    redactApprovalPayload lower depth (withhold lower value) = redactApprovalPayload lower depth value := by
  cases value with
  | dict entries => simp only [redactApprovalPayload, withhold, redactEntries_withhold]
  | list items => simp only [redactApprovalPayload, withhold, redactItems_withhold]
  | tuple items => simp only [redactApprovalPayload, withhold, redactItems_withhold]
  | _ => rfl

theorem redactEntries_withhold (depth : Nat) (output : Dict Value) (entries : List (String × Value)) :
    redactEntries lower depth output (withholdEntries lower entries) = redactEntries lower depth output entries := by
  match entries with
  | [] => rfl
  | (key, item) :: rest =>
    simp only [withholdEntries, redactEntries]
    split
    · exact redactEntries_withhold depth _ rest
    · rw [redact_withhold (depth + 1) item]
      exact redactEntries_withhold depth _ rest

theorem redactItems_withhold (depth left : Nat) (items : List Value) :
    redactItems lower depth left (withholdItems lower items) = redactItems lower depth left items := by
  match items with
  | [] => rfl
  | item :: rest => simp only [withholdItems, redactItems, redact_withhold (depth + 1) item, redactItems_withhold depth _ rest]
end

theorem nestingEntries_set (output : Dict Value) (key : String) (value : Value) :
    nestingEntries (output.set key value) ≤ max (nesting value) (nestingEntries output) := by
  induction output with
  | nil => simp [Dict.set, nestingEntries]
  | cons entry rest ih =>
    unfold Dict.set
    split <;> simp only [nestingEntries] <;> omega

mutual
theorem nesting_redact (depth : Nat) (value : Value) : nesting (redactApprovalPayload lower depth value) ≤ 6 - depth := by
  unfold redactApprovalPayload
  split
  · simp [nesting]
  cases value with
  | dict entries =>
    have inside := nesting_redactEntries depth [] entries (Nat.zero_le _)
    simp only [nesting]
    omega
  | list items | tuple items =>
    have inside := nesting_redactItems depth 50 items
    simp only [nesting]
    omega
  | str text =>
    dsimp only
    split <;> simp [nesting]
  | _ => simp [nesting]

theorem nesting_redactEntries (depth : Nat) (output : Dict Value) (entries : List (String × Value))
    (shallow : nestingEntries output ≤ 5 - depth) : nestingEntries (redactEntries lower depth output entries) ≤ 5 - depth := by
  match entries with
  | [] => exact shallow
  | (key, item) :: rest =>
    have below := nesting_redact (depth + 1) item
    simp only [redactEntries]
    split
    · apply nesting_redactEntries depth _ rest
      have set := nestingEntries_set output key (.str "[redacted]")
      simp only [nesting] at set
      omega
    · apply nesting_redactEntries depth _ rest
      have set := nestingEntries_set output key (redactApprovalPayload lower (depth + 1) item)
      omega

theorem nesting_redactItems (depth left : Nat) (items : List Value) :
    nestingItems (redactItems lower depth left items) ≤ 5 - depth := by
  match items with
  | [] => exact Nat.zero_le _
  | item :: rest =>
    have below := nesting_redact (depth + 1) item
    have after := nesting_redactItems depth (left - 1) rest
    simp only [redactItems]
    split
    · exact Nat.zero_le _
    · simp only [nestingItems]
      omega
end

theorem mem_redactEntries {output : Dict Value} {entries : List (String × Value)} {shown : String × Value}
    (isThere : shown ∈ redactEntries lower depth output entries) :
    shown ∈ output ∨ shown.2 = .str "[redacted]" ∨
      ∃ entry ∈ entries, sensitive lower entry.1 = false ∧ shown.2 = redactApprovalPayload lower (depth + 1) entry.2 := by
  induction entries generalizing output with
  | nil => exact .inl isThere
  | cons entry rest ih =>
    simp only [redactEntries] at isThere
    split at isThere
    · rcases ih isThere with old | marked | ⟨later, inside, rest⟩
      · rcases Dict.mem_set old with rfl | before
        · exact .inr (.inl rfl)
        · exact .inl before
      · exact .inr (.inl marked)
      · exact .inr (.inr ⟨later, mem_cons_of_mem _ inside, rest⟩)
    · rename_i plain
      rcases ih isThere with old | marked | ⟨later, inside, rest⟩
      · rcases Dict.mem_set old with rfl | before
        · exact .inr (.inr ⟨entry, mem_cons_self, Bool.eq_false_iff.mpr plain, rfl⟩)
        · exact .inl before
      · exact .inr (.inl marked)
      · exact .inr (.inr ⟨later, mem_cons_of_mem _ inside, rest⟩)

theorem mem_redactItems {left : Nat} {items : List Value} {shown : Value}
    (isThere : shown ∈ redactItems lower depth left items) :
    ∃ item ∈ items, shown = redactApprovalPayload lower (depth + 1) item := by
  induction items generalizing left with
  | nil => cases isThere
  | cons item rest ih =>
    simp only [redactItems] at isThere
    split at isThere
    · cases isThere
    · rcases mem_cons.mp isThere with rfl | later
      · exact ⟨item, mem_cons_self, rfl⟩
      · obtain ⟨other, inside, same⟩ := ih later
        exact ⟨other, mem_cons_of_mem _ inside, same⟩

theorem redact_cases (lower : String → String) (depth : Nat) (value : Value) :
    (∃ entries, value = .dict entries ∧ redactApprovalPayload lower depth value = .dict (redactEntries lower depth [] entries)) ∨
      (∃ items, (value = .list items ∨ value = .tuple items) ∧
        redactApprovalPayload lower depth value = .list (redactItems lower depth 50 items)) ∨
      ∀ hidden part, Part hidden (redactApprovalPayload lower depth value) part → part = redactApprovalPayload lower depth value := by
  unfold redactApprovalPayload
  split
  · right; right
    intro hidden part inside
    cases inside
    rfl
  · cases value with
    | dict entries => exact .inl ⟨entries, rfl, rfl⟩
    | list items => exact .inr (.inl ⟨items, .inl rfl, rfl⟩)
    | tuple items => exact .inr (.inl ⟨items, .inr rfl, rfl⟩)
    | str text =>
      right; right
      intro hidden part inside
      dsimp only at inside ⊢
      split at inside <;> cases inside <;> simp [*]
    | _ =>
      right; right
      intro hidden part inside
      cases inside
      rfl

theorem part_redact {left : Nat} {value shown : Value} (deep : 5 < depth + left)
    (part : Part (fun _ => false) (redactApprovalPayload lower depth value) shown) :
    shown = .str "[redacted]" ∨
      ∃ source at_, Part (sensitive lower) value source ∧ shown = redactApprovalPayload lower at_ source := by
  induction left generalizing depth value with
  | zero =>
    have cutOff : redactApprovalPayload lower depth value = .str "[truncated]" := by
      unfold redactApprovalPayload
      exact if_pos deep
    rw [cutOff] at part
    cases part
    exact .inr ⟨value, depth, .whole value, cutOff.symm⟩
  | succ left ih =>
    have next {item : Value} (above : ∀ {source : Value}, Part (sensitive lower) item source → Part (sensitive lower) value source)
        (part : Part (fun _ => false) (redactApprovalPayload lower (depth + 1) item) shown) :
        shown = .str "[redacted]" ∨
          ∃ source at_, Part (sensitive lower) value source ∧ shown = redactApprovalPayload lower at_ source := by
      rcases ih (by omega) part with marked | ⟨source, at_, below, same⟩
      · exact .inl marked
      · exact .inr ⟨source, at_, above below, same⟩
    rcases redact_cases lower depth value with ⟨entries, rfl, same⟩ | ⟨items, source, same⟩ | flat
    · rw [same] at part
      cases part with
      | whole => exact .inr ⟨_, depth, .whole _, same.symm⟩
      | entry isThere _ part =>
        rcases mem_redactEntries isThere with old | marked | ⟨entry, inside, plain, rfl⟩
        · cases old
        · subst marked
          cases part
          exact .inl rfl
        · exact next (.entry inside plain) part
    · rw [same] at part
      cases part with
      | whole => exact .inr ⟨value, depth, .whole value, same.symm⟩
      | item isThere part =>
        obtain ⟨item, inside, rfl⟩ := mem_redactItems isThere
        rcases source with rfl | rfl
        · exact next (.item inside) part
        · exact next (.member inside) part
    · exact .inr ⟨value, depth, .whole value, flat _ shown part⟩

end Facts

section Redacted

variable (lower : String → String)

/-- Payloads that differ only under sensitive keys have the same redaction. All that is in a redaction is a mark or the redaction
    of a part that no sensitive key is above, whatever its letter case and its dashes, and it is six levels deep at most. -/
theorem redaction_noninterfering :
    (∀ left right, withhold lower left = withhold lower right →
      redactApprovalPayload lower 0 left = redactApprovalPayload lower 0 right) ∧
    (∀ payload shown, Part (fun _ => false) (redactApprovalPayload lower 0 payload) shown → shown = .str "[redacted]" ∨
      ∃ source depth, Part (sensitive lower) payload source ∧ shown = redactApprovalPayload lower depth source) ∧
    (∀ payload, nesting (redactApprovalPayload lower 0 payload) ≤ 6) ∧
    ∀ key other, Text.replaceChar '-' '_' (lower key) = Text.replaceChar '-' '_' (lower other) →
      sensitive lower key = sensitive lower other := by
  refine ⟨?_, ?_, nesting_redact 0, ?_⟩
  · intro left right same
    rw [← redact_withhold 0 left, same, redact_withhold]
  · intro payload shown part
    exact @part_redact lower 0 6 payload shown (by decide) part
  · intro key other same
    unfold sensitive
    rw [same]

example : sensitive Text.lower "Private-Key" = true ∧ sensitive Text.lower "X-Auth-TOKEN" = true ∧
    sensitive Text.lower "recipient" = false := by decide

end Redacted

end Troop.Approvals.Redaction
