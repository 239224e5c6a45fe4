import Troop.Approvals.Exact

namespace Troop.Approvals

open List

/-- `str(arguments.get(k1) or arguments.get(k2) or ... or fallback)` -/
def textChain (arguments : Dict Json) (aliases : List String) (fallback : String) : String :=
  match aliases with
  | [] => fallback
  | key :: rest =>
    if (arguments.get key).truthy then (arguments.get key).pyStr else textChain arguments rest fallback

section Chains

variable (arguments : Dict Json)

theorem textChain_given {key : String} (given : (arguments.get key).truthy = true) (rest : List String)
    (fallback : String) : textChain arguments (key :: rest) fallback = (arguments.get key).pyStr := if_pos given

theorem textChain_skipped {key : String} (absent : ¬ (arguments.get key).truthy = true) (rest : List String)
    (fallback : String) : textChain arguments (key :: rest) fallback = textChain arguments rest fallback :=
  if_neg absent

theorem textChain_append (first rest : List String) (fallback : String) :
    textChain arguments (first ++ rest) fallback =
      if textChain arguments first "" = "" then textChain arguments rest fallback else textChain arguments first "" := by
  induction first with
  | nil => simp [textChain]
  | cons key others ih =>
    rw [cons_append]
    by_cases given : (arguments.get key).truthy = true
    · rw [textChain_given arguments given, textChain_given arguments given, if_neg (pyStr_ne_empty given)]
    · rwa [textChain_skipped arguments given, textChain_skipped arguments given]

theorem textChain_fallback (aliases : List String) (fallback : String) :
    textChain arguments aliases fallback =
      if textChain arguments aliases "" = "" then fallback else textChain arguments aliases "" := by
  have split := textChain_append arguments aliases [] fallback
  rwa [append_nil] at split

theorem textOf_eq (key : String) : textOf arguments key = .str (textChain arguments [key] "") := rfl

theorem textOfEither_eq (first second : String) :
    textOfEither arguments first second = .str (textChain arguments [first, second] "") := by
  unfold textOfEither textChain textChain textChain Json.pyOr Json.strOrEmpty
  by_cases given : (arguments.get first).truthy = true <;> simp [given]

theorem textOrElse_eq (key fallback : String) :
    textOrElse arguments key fallback = .str (textChain arguments [key] fallback) := by
  unfold textOrElse textChain textChain Json.pyOr
  split <;> rfl

theorem strOrEmpty_three (first second third : String) :
    (((arguments.get first).pyOr (arguments.get second)).pyOr (arguments.get third)).strOrEmpty =
      textChain arguments [first, second, third] "" := by
  unfold textChain textChain textChain textChain Json.pyOr Json.strOrEmpty
  by_cases given : (arguments.get first).truthy = true
  · simp [given]
  · simp only [given]
    by_cases other : (arguments.get second).truthy = true <;> simp [other]

end Chains

theorem textChain_each {a b : Dict Json} {aliases : List String} (fallback : String)
    (each : ∀ key ∈ aliases, textChain a [key] "" = textChain b [key] "") :
    textChain a aliases fallback = textChain b aliases fallback := by
  induction aliases with
  | nil => rfl
  | cons key rest ih =>
    have head := each key mem_cons_self
    have tail := ih fun other member => each other (mem_cons_of_mem _ member)
    rw [← singleton_append, textChain_append, textChain_append, head, tail]

theorem textChain_start {a b : Dict Json} {first rest : List String}
    (long : textChain a (first ++ rest) "" = textChain b (first ++ rest) "")
    (given : textChain a first "" = "" ↔ textChain b first "" = "") :
    textChain a first "" = textChain b first "" := by
  rw [textChain_append, textChain_append] at long
  by_cases empty : textChain a first "" = ""
  · rw [empty, given.mp empty]
  · rwa [if_neg empty, if_neg (fun other => empty (given.mpr other))] at long

/-- The ways in which adapters and normal forms read a value from their arguments. -/
inductive Reading where
  /-- the text of the first alias that is given, or the fallback -/
  | text (aliases : List String) (fallback : String)
  /-- such a text, where another key is given too -/
  | textWith (key : String) (aliases : List String)
  /-- the first alias that is given, as it is -/
  | raw (aliases : List String)
  /-- recipients as the hash sees them, normalized twice -/
  | recipients (key : String)
  /-- a sender as the hash sees it -/
  | sender (key : String)
  /-- the recipients of a mail header, left out or blank where none are given -/
  | header (key : String) (blank : Json)
  /-- recipients with their names -/
  | named (key : String)
  /-- the texts of the given fields of the dict `fields`, blank ones left out -/
  | fields (allowed : List String)
  | number (key : String)
  | stripped (aliases : List String)
  | flag (key : String)
deriving DecidableEq

def Reading.keys : Reading → List String
  | .text aliases _ | .raw aliases | .stripped aliases => aliases
  | .textWith key aliases => key :: aliases
  | .recipients key | .sender key | .header key _ | .named key | .number key | .flag key => [key]
  | .fields _ => ["fields"]

def senderText (text : String) : String := Text.lower (Text.strip text)

def firstGiven (arguments : Dict Json) : List String → Json
  | [] => .null
  | key :: rest => (arguments.get key).pyOr (firstGiven arguments rest)

def address : Json → Json
  | .obj members => Dict.get members "email"
  | item => item

def graphRecipients (value : Json) : Json :=
  let raw := match value with
    | .arr items => items
    | other => if other.truthy then [other] else []
  .arr ((raw.filter fun item => (address item).truthy).map fun item =>
    .arr [.str (address item).pyStr, .str (item.get "name").strOrEmpty])

def allowedText (members : Dict Json) (key : String) : Json :=
  match (members.get? key).bind fieldText with
  | some text => if Text.strip text = "" then .null else .str text
  | none => .null

def Reading.read (arguments : Dict Json) : Reading → Json
  | .text aliases fallback => .str (textChain arguments aliases fallback)
  | .textWith key aliases => if (arguments.get key).truthy then .str (textChain arguments aliases "") else .null
  | .raw aliases => (firstGiven arguments aliases).sortKeys
  | .recipients key => normalizeAddresses (normalizeAddresses (arguments.get key))
  | .sender key => .str (senderText (senderText (arguments.get key).strOrEmpty))
  | .header key blank =>
    if (arguments.get key).truthy then
      match (arguments.get key).toList with
      | .ok items => .str (", ".intercalate (items.map fun item => (address item).pyStr))
      | .error _ => .bool false
    else blank
  | .named key => graphRecipients (arguments.get key)
  | .fields allowed =>
    match (arguments.get "fields").toDict with
    | .ok members => .arr (allowed.map (allowedText members))
    | .error _ => .null
  | .number key =>
    match ((arguments.get key).pyOr (.num 0)).toInt with
    | .ok value => .num value
    | .error _ => .null
  | .stripped aliases => .str (Text.strip (textChain arguments aliases ""))
  | .flag key => .bool (arguments.get key).truthy

section Agreement

variable {a b : Dict Json}

theorem textChain_congr {aliases : List String} (same : ∀ key ∈ aliases, a.get key = b.get key)
    (fallback : String) : textChain a aliases fallback = textChain b aliases fallback := by
  induction aliases with
  | nil => rfl
  | cons key rest ih =>
    unfold textChain
    rw [same key mem_cons_self, ih fun other member => same other (mem_cons_of_mem _ member)]

theorem firstGiven_congr {aliases : List String} (same : ∀ key ∈ aliases, a.get key = b.get key) :
    firstGiven a aliases = firstGiven b aliases := by
  induction aliases with
  | nil => rfl
  | cons key rest ih =>
    unfold firstGiven
    rw [same key mem_cons_self, ih fun other member => same other (mem_cons_of_mem _ member)]

theorem Reading.read_congr (reading : Reading) (same : ∀ key ∈ reading.keys, a.get key = b.get key) :
    reading.read a = reading.read b := by
  cases reading with
  | text aliases fallback => exact congrArg Json.str (textChain_congr same fallback)
  | textWith key aliases =>
    have rest : ∀ other ∈ aliases, a.get other = b.get other := fun other member =>
      same other (mem_cons_of_mem _ member)
    have only : a.get key = b.get key := same _ mem_cons_self
    simp only [Reading.read, only, textChain_congr rest]
  | raw aliases => exact congrArg Json.sortKeys (firstGiven_congr same)
  | stripped aliases => exact congrArg (fun text => Json.str (Text.strip text)) (textChain_congr same "")
  | fields allowed =>
    have only : a.get "fields" = b.get "fields" := same _ mem_cons_self
    simp only [Reading.read, only]
  | recipients key | sender key | header key | named key | number key | flag key =>
    have only : a.get key = b.get key := same _ mem_cons_self
    simp only [Reading.read, only]

end Agreement

end Troop.Approvals
