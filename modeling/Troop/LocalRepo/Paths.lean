import Mathlib.Data.List.Infix
import Troop.Python.Text

namespace Troop.LocalRepo

open List

def Plain (part : String) : Prop := part ≠ "" ∧ part ≠ "." ∧ part ≠ ".." ∧ '/' ∉ part.toList

instance (part : String) : Decidable (Plain part) := inferInstanceAs (Decidable (_ ∧ _ ∧ _ ∧ _))

structure ResolvedPath where
  parts : List String
  plain : ∀ part ∈ parts, Plain part
deriving DecidableEq

/-- The characters of `str(path)` below the file system's root. -/
def spelled (parts : List String) : List Char := parts.flatMap fun part => '/' :: part.toList

/-- `str(path)` -/
def ResolvedPath.text (path : ResolvedPath) : String := if path.parts = [] then "/" else String.ofList (spelled path.parts)

/-- One step of `resolve`, where no part is a link. -/
def step (parts : List String) (segment : String) : List String :=
  if segment = "" ∨ segment = "." then parts
  else if segment = ".." then parts.dropLast
  else parts ++ [segment]

def segments (text : String) : List String := (text.toList.splitOn '/').map String.ofList

theorem not_mem_splitOn (c : Char) (chars : List Char) : ∀ piece ∈ chars.splitOn c, c ∉ piece := by
  induction chars with
  | nil => simp_all
  | cons d rest ih =>
    intro piece member
    rw [splitOn_cons_eq_if_modifyHead] at member
    split at member
    case isTrue =>
      rcases mem_cons.mp member with empty | later
      · simp [empty]
      · exact ih piece later
    case isFalse other =>
      cases pieces : rest.splitOn c with
      | nil => exact absurd pieces (splitOn_ne_nil _ _)
      | cons first more =>
        rw [pieces, modifyHead_cons] at member
        rcases mem_cons.mp member with head | later
        · grind
        · exact ih piece (by rw [pieces]; exact mem_cons_of_mem _ later)

theorem plain_steps {start : List String} (plain : ∀ part ∈ start, Plain part) (names : List String)
    (separate : ∀ name ∈ names, '/' ∉ name.toList) : ∀ part ∈ names.foldl step start, Plain part := by
  induction names generalizing start with
  | nil => exact plain
  | cons name rest ih =>
    apply ih _ fun other member => separate other (mem_cons_of_mem _ member)
    unfold step
    split
    case isTrue => exact plain
    case isFalse named =>
      split
      case isTrue => exact fun part member => plain part (mem_of_mem_dropLast member)
      case isFalse below =>
        rw [not_or] at named
        intro part member
        rcases mem_append.mp member with old | new
        · exact plain part old
        · rw [mem_singleton.mp new]
          exact ⟨named.1, named.2, below, separate name mem_cons_self⟩

/-- `(base / text).resolve()` -/
def ResolvedPath.join (base : ResolvedPath) (text : String) : ResolvedPath :=
  if Text.startsWith "/" text then
    { parts := (segments text).foldl step []
      plain := plain_steps (fun _ member => absurd member List.not_mem_nil) _ fun name member => by
        obtain ⟨piece, among, same⟩ := List.mem_map.mp member
        rw [← same, String.toList_ofList]
        exact not_mem_splitOn _ _ piece among }
  else
    { parts := (segments text).foldl step base.parts
      plain := plain_steps base.plain _ fun name member => by
        obtain ⟨piece, among, same⟩ := List.mem_map.mp member
        rw [← same, String.toList_ofList]
        exact not_mem_splitOn _ _ piece among }

def ResolvedPath.Within (root path : ResolvedPath) : Prop := root.parts <+: path.parts

instance (root path : ResolvedPath) : Decidable (root.Within path) := inferInstanceAs (Decidable (_ <+: _))

def ResolvedPath.ThroughSibling (root path : ResolvedPath) : Prop :=
  ∃ above name suffix below, root.parts = above ++ [name] ∧ suffix ≠ "" ∧ path.parts = above ++ (name ++ suffix) :: below

section Prefixes

variable {root path : List String} {name other : List Char}

theorem same_name (plain : '/' ∉ name) (separate : '/' ∉ other) {more rest : List Char}
    (next : rest = [] ∨ ∃ tail, rest = '/' :: tail) (starts : name ++ '/' :: more <+: other ++ rest) :
    name = other ∧ '/' :: more <+: rest := by
  induction name generalizing other with
  | nil =>
    cases other with
    | nil => exact ⟨rfl, starts⟩
    | cons c others => simp_all
  | cons c others ih =>
    cases other with
    | nil =>
      rcases next with none_ | ⟨tail, same⟩ <;> simp_all
    | cons d rest' => grind

theorem starts_name (plain : '/' ∉ name) {rest : List Char}
    (next : rest = [] ∨ ∃ tail, rest = '/' :: tail) (starts : name <+: other ++ rest) : name <+: other := by
  induction name generalizing other with
  | nil => exact nil_prefix
  | cons c others ih =>
    cases other with
    | nil =>
      rcases next with none_ | ⟨tail, same⟩
      · rwa [none_] at starts
      · simp_all
    | cons d rest' => simp_all

theorem spelled_next (parts : List String) : spelled parts = [] ∨ ∃ tail, spelled parts = '/' :: tail := by
  cases parts with
  | nil => exact .inl rfl
  | cons part rest => exact .inr ⟨part.toList ++ spelled rest, rfl⟩

theorem spelled_append (first second : List String) : spelled (first ++ second) = spelled first ++ spelled second :=
  flatMap_append

theorem spelled_prefix (plain : ∀ part ∈ root, '/' ∉ part.toList)
    (separate : ∀ part ∈ path, '/' ∉ part.toList) (starts : spelled root <+: spelled path) :
    root <+: path ∨ ∃ above name suffix below, root = above ++ [name] ∧ suffix ≠ "" ∧
      path = above ++ (name ++ suffix) :: below := by
  induction root generalizing path with
  | nil => exact .inl nil_prefix
  | cons name more ih =>
    have nameless := plain name mem_cons_self
    cases path with
    | nil => cases prefix_nil.mp starts
    | cons part rest =>
      have bare := separate part mem_cons_self
      have inner : name.toList ++ spelled more <+: part.toList ++ spelled rest := (cons_prefix_cons.mp starts).2
      cases more with
      | nil =>
        have first : name.toList <+: part.toList := by
          apply starts_name nameless (spelled_next rest)
          simpa [spelled] using inner
        obtain ⟨suffix, whole⟩ := first
        by_cases same : suffix = []
        · simp_all [append_nil, String.toList_inj, cons_prefix_cons, nil_prefix]
        right
        refine ⟨[], name, String.ofList suffix, rest, rfl, ?_, ?_⟩
        · simp_all
        · have joined : part = name ++ String.ofList suffix := by
            rw [← String.toList_inj, String.toList_append, String.toList_ofList, whole]
          rw [joined, nil_append]
      | cons second others =>
        have parted : name.toList ++ '/' :: (second.toList ++ spelled others) <+: part.toList ++ spelled rest := inner
        obtain ⟨same, further⟩ := same_name nameless bare (spelled_next rest) parted
        rw [String.toList_inj] at same
        subst same
        have later := ih (fun other member => plain other (mem_cons_of_mem _ member))
          (fun other member => separate other (mem_cons_of_mem _ member)) further
        rcases later with below | ⟨above, last, suffix, rest', rooted, present, through⟩
        · exact .inl (cons_prefix_cons.mpr ⟨rfl, below⟩)
        · exact .inr ⟨name :: above, last, suffix, rest', by rw [rooted]; rfl, present, by rw [through]; rfl⟩

theorem spelled_within (within : root <+: path) : spelled root <+: spelled path := by
  obtain ⟨below, same⟩ := within
  rw [← same, spelled_append]
  exact prefix_append _ _

theorem spelled_sibling (above : List String) (name suffix : String) (below : List String) :
    spelled (above ++ [name]) <+: spelled (above ++ (name ++ suffix) :: below) := by
  rw [spelled_append, spelled_append]
  apply (prefix_append_right_inj _).mpr
  refine ⟨suffix.toList ++ spelled below, ?_⟩
  simp [spelled]

theorem text_toList {path : ResolvedPath} (named : path.parts ≠ []) : path.text.toList = spelled path.parts := by
  rw [ResolvedPath.text, if_neg named, String.toList_ofList]

theorem startsWith_text_iff (root path : ResolvedPath) :
    Text.startsWith root.text path.text = true ↔ root.Within path ∨ root.ThroughSibling path := by
  rw [Text.startsWith, isPrefixOf_iff_prefix]
  by_cases top : root.parts = []
  · have within : root.Within path := by
      rw [ResolvedPath.Within, top]
      exact nil_prefix
    have slash : root.text.toList = ['/'] := by simp_all [ResolvedPath.text]
    refine ⟨fun _ => .inl within, fun _ => ?_⟩
    by_cases empty : path.parts = []
    · simp_all [ResolvedPath.text, prefix_refl]
    rw [text_toList empty]
    rcases spelled_next path.parts with none_ | ⟨tail, same⟩
    · cases parts : path.parts with
      | nil => exact absurd parts empty
      | cons part rest =>
        rw [parts] at none_
        cases none_
    · simp_all
  · rw [text_toList top]
    by_cases empty : path.parts = []
    · have slash : path.text.toList = ['/'] := by simp [ResolvedPath.text, if_pos empty]
      rw [slash]
      constructor
      · intro starts
        cases parts : root.parts with
        | nil => exact absurd parts top
        | cons part rest =>
          rw [parts] at starts
          have present := (root.plain part (by rw [parts]; exact mem_cons_self)).1
          have none_ := prefix_nil.mp (cons_prefix_cons.mp starts).2
          have nameless : part.toList = [] := (append_eq_nil_iff.mp none_).1
          exact absurd (String.toList_inj.mp (nameless.trans String.toList_empty.symm)) present
      · intro either
        rcases either with within | ⟨above, name, suffix, below, _, _, through⟩
        · simp_all [ResolvedPath.Within, prefix_nil]
        · simp_all
    · rw [text_toList empty]
      constructor
      · exact fun starts => spelled_prefix (fun part member => (root.plain part member).2.2.2)
          (fun part member => (path.plain part member).2.2.2) starts
      · intro either
        rcases either with within | ⟨above, name, suffix, below, rooted, _, through⟩
        · exact spelled_within within
        · rw [rooted, through]
          exact spelled_sibling above name suffix below

theorem ResolvedPath.ThroughSibling.not_within {root path : ResolvedPath} (through : root.ThroughSibling path) : ¬ root.Within path := by
  obtain ⟨above, name, suffix, below, rooted, present, parts⟩ := through
  intro within
  rw [ResolvedPath.Within, rooted, parts] at within
  have heads := (prefix_append_right_inj above).mp within
  have same : name = name ++ suffix := (cons_prefix_cons.mp heads).1
  have lengths := congrArg String.length same
  rw [String.length_append] at lengths
  have empty : suffix.length = 0 := by omega
  exact present (String.length_eq_zero_iff.mp empty)

end Prefixes

end Troop.LocalRepo
