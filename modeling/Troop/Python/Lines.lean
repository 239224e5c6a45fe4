import Troop.Python.Text

namespace Troop.Text

open List

/-- The characters that end a line for `str.splitlines`. -/
def endsLine (c : Char) : Bool := c.toNat ∈ [10, 11, 12, 13, 28, 29, 30, 133, 8232, 8233]

/-- The characters that `str.strip` takes off, in all of Unicode. -/
def isSpace (c : Char) : Bool :=
  c.toNat ∈ [9, 10, 11, 12, 13, 28, 29, 30, 31, 32, 133, 160, 5760, 8192, 8193, 8194, 8195, 8196, 8197, 8198, 8199, 8200, 8201,
    8202, 8232, 8233, 8239, 8287, 12288]

/-- `str.splitlines`; a carriage return and the newline after it end one line. -/
def splitlines (text : String) : List String := go false [] text.toList
where
  go (returned : Bool) (line : List Char) : List Char → List String
    | [] => if line.isEmpty then [] else [String.ofList line.reverse]
    | c :: rest =>
      if returned && c = '\n' then go false line rest
      else if endsLine c then String.ofList line.reverse :: go (c = '\r') [] rest
      else go false (c :: line) rest

/-- `str.strip`, by all white space -/
def trim (text : String) : String := String.ofList ((text.toList.dropWhile isSpace).rdropWhile isSpace)

/-- `text.strip(chars)` -/
def stripOf (chars text : String) : String :=
  String.ofList ((text.toList.dropWhile (· ∈ chars.toList)).rdropWhile (· ∈ chars.toList))

/-- `text[:n]` -/
def cut (n : Nat) (text : String) : String := String.ofList (text.toList.take n)

def endsWith (tail text : String) : Bool := tail.toList.isSuffixOf text.toList

/-- `text.replace(part, "")` for a part that is not empty -/
def without (part text : String) : String := String.ofList (go 0 text.toList)
where
  /-- `skip` characters of an occurrence are left -/
  go (skip : Nat) : List Char → List Char
    | [] => []
    | c :: rest =>
      if 0 < skip then go (skip - 1) rest
      else if part.toList.isPrefixOf (c :: rest) then go (part.length - 1) rest
      else c :: go 0 rest

/-- `chars[start:stop]`; a negative bound counts from the end. -/
def slice (chars : List Char) (start stop : Int) : List Char :=
  let clip (bound : Int) : Nat := (if bound < 0 then bound + chars.length else bound).toNat
  (chars.take (clip stop)).drop (clip start)

theorem slice_whole (chars : List Char) : slice chars 0 chars.length = chars := by
  have positive : ¬ (chars.length : Int) < 0 := by omega
  simp [slice, if_neg positive]

theorem trim_solid {chars : List Char} (solid : ∀ c ∈ chars, isSpace c = false) : trim (String.ofList chars) = String.ofList chars := by
  unfold trim
  rw [String.toList_ofList]
  congr 1
  cases chars using reverseRecOn with
  | nil => rfl
  | append_singleton start last =>
    have ended : isSpace last = false := solid last (mem_append_right _ (mem_singleton_self _))
    have begun : (start ++ [last]).dropWhile isSpace = start ++ [last] := by
      cases start with
      | nil => exact dropWhile_cons_of_neg (by simp [ended])
      | cons first rest => exact dropWhile_cons_of_neg (by simp [solid first mem_cons_self])
    rw [begun, rdropWhile_concat_neg _ _ _ (by simp [ended])]

theorem trim_trim (text : String) : trim (trim text) = trim text := by
  have begun : (text.toList.dropWhile isSpace).dropWhile isSpace = text.toList.dropWhile isSpace :=
    dropWhile_idempotent _ _
  unfold trim
  rw [String.toList_ofList, dropWhile_rdropWhile isSpace begun, rdropWhile_idempotent]

theorem isSpace_of_endsLine {c : Char} (ends : endsLine c = true) : isSpace c = true := by
  unfold endsLine isSpace at *
  rw [decide_eq_true_iff] at *
  simp only [mem_cons, not_mem_nil, or_false] at *
  omega

theorem toNat_toLower {c : Char} (code : Nat) (other : (code < 65 ∨ 90 < code) ∧ (code < 97 ∨ 122 < code)) :
    c.toLower.toNat = code ↔ c.toNat = code := by
  by_cases upper : 'A' ≤ c ∧ c ≤ 'Z'
  · have shifted : c.toLower.toNat = c.toNat + 32 := toLower_of_upper upper
    have low : 65 ≤ c.toNat := upper.1
    have high : c.toNat ≤ 90 := upper.2
    omega
  · rw [toLower_of_not_upper upper]

theorem isSpace_toLower (c : Char) : isSpace c.toLower = isSpace c := by
  unfold isSpace
  simp only [mem_cons, not_mem_nil, or_false]
  simp (disch := omega) only [toNat_toLower]

theorem endsLine_toLower (c : Char) : endsLine c.toLower = endsLine c := by
  unfold endsLine
  simp only [mem_cons, not_mem_nil, or_false]
  simp (disch := omega) only [toNat_toLower]

theorem rdropWhile_append_of_all {α : Type} {p : α → Bool} {items tail : List α} (all : ∀ item ∈ tail, p item = true) :
    (items ++ tail).rdropWhile p = items.rdropWhile p := by
  unfold rdropWhile
  rw [reverse_append, dropWhile_append_of_pos]
  intro item isThere
  exact all item (mem_reverse.mp isThere)

theorem rdropWhile_split {α : Type} (p : α → Bool) (items : List α) :
    ∃ tail, items = items.rdropWhile p ++ tail ∧ ∀ item ∈ tail, p item = true := by
  refine ⟨(items.reverse.takeWhile p).reverse, ?_, ?_⟩
  · unfold rdropWhile
    rw [← reverse_append, takeWhile_append_dropWhile, reverse_reverse]
  · intro item isThere
    exact mem_takeWhile_imp (mem_reverse.mp isThere)

theorem rdropWhile_take {α : Type} {p : α → Bool} {items : List α} {n : Nat} (short : (items.rdropWhile p).length ≤ n) :
    (items.take n).rdropWhile p = items.rdropWhile p := by
  obtain ⟨tail, same, all⟩ := rdropWhile_split p items
  have taken : items.take n = items.rdropWhile p ++ tail.take (n - (items.rdropWhile p).length) := by
    conv_lhs => rw [same]
    rw [take_append, take_of_length_le short]
  rw [taken, rdropWhile_append_of_all fun item isThere => all item (mem_of_mem_take isThere), rdropWhile_idempotent]

section FirstLine

def lineOf (chars : List Char) : List Char := (chars.takeWhile fun c => !endsLine c).rdropWhile isSpace

theorem lineOf_rdropWhile (chars : List Char) : lineOf (chars.rdropWhile isSpace) = lineOf chars := by
  obtain ⟨tail, same, all⟩ := rdropWhile_split isSpace chars
  conv_rhs => rw [same]
  unfold lineOf
  rw [takeWhile_append]
  split
  · rename_i whole
    rw [rdropWhile_append_of_all fun c isThere => all c (takeWhile_subset _ isThere)]
    rw [takeWhile_eq_self_iff.mpr]
    intro c isThere
    have kept := takeWhile_prefix (fun c => !endsLine c) (l := chars.rdropWhile isSpace)
    rw [← kept.eq_of_length whole] at isThere
    exact mem_takeWhile_imp (p := fun c => !endsLine c) isThere
  · rfl

theorem lineOf_map_toLower (chars : List Char) : lineOf (chars.map Char.toLower) = (lineOf chars).map Char.toLower := by
  unfold lineOf rdropWhile
  rw [takeWhile_map, ← map_reverse, dropWhile_map, map_reverse]
  have ends : ((fun c => !endsLine c) ∘ Char.toLower) = fun c => !endsLine c := funext fun c => by
    rw [Function.comp_apply, endsLine_toLower]
  have spaces : isSpace ∘ Char.toLower = isSpace := funext isSpace_toLower
  rw [ends, spaces]

theorem go_line (line rest : List Char) (begun : line ≠ []) :
    ∃ more, splitlines.go false line rest = String.ofList (line.reverse ++ rest.takeWhile fun c => !endsLine c) :: more := by
  induction rest generalizing line with
  | nil =>
    refine ⟨[], ?_⟩
    cases line with
    | nil => exact absurd rfl begun
    | cons c line => simp [splitlines.go]
  | cons c rest ih =>
    unfold splitlines.go
    cases ends : endsLine c with
    | true => simp [ends]
    | false =>
      obtain ⟨more, same⟩ := ih (c :: line) (cons_ne_nil c line)
      refine ⟨more, ?_⟩
      simp [ends, same]

theorem trim_blank {line : List Char} (blank : ∀ c ∈ line, isSpace c = true) : trim (String.ofList line.reverse) = "" := by
  have nothing : line.reverse.dropWhile isSpace = [] :=
    dropWhile_eq_nil_iff.mpr fun c isThere => blank c (mem_reverse.mp isThere)
  rw [trim, String.toList_ofList, nothing]
  rfl

theorem lineOf_ne_nil {c : Char} (rest : List Char) (space : isSpace c = false) : lineOf (c :: rest) ≠ [] := by
  have inside : endsLine c = false := Bool.eq_false_iff.mpr fun ends => by
    simp [isSpace_of_endsLine ends] at space
  unfold lineOf
  simp_all

theorem find_go {line : List Char} (blank : ∀ c ∈ line, isSpace c = true) (returned : Bool) (rest : List Char) :
    ((splitlines.go returned line rest).map trim).find? (· ≠ "") =
      if rest.dropWhile isSpace = [] then none else some (String.ofList (lineOf (rest.dropWhile isSpace))) := by
  induction rest generalizing line returned with
  | nil =>
    unfold splitlines.go
    split
    · rfl
    · simp [trim_blank blank]
  | cons c rest ih =>
    unfold splitlines.go
    cases space : isSpace c with
    | true =>
      rw [dropWhile_cons_of_pos space]
      split
      · exact ih blank false
      split
      · rw [map_cons, find?_cons_of_neg (by simp [trim_blank blank])]
        exact ih (fun _ isThere => absurd isThere not_mem_nil) _
      · apply ih
        intro d isThere
        rcases mem_cons.mp isThere with rfl | old
        · exact space
        · exact blank d old
    | false =>
      have inside : endsLine c = false := Bool.eq_false_iff.mpr fun ends => by
        simp [isSpace_of_endsLine ends] at space
      have notNewline : (returned && c = '\n') = false := by
        rw [Bool.and_eq_false_iff]
        right
        rw [decide_eq_false_iff_not]
        rintro rfl
        cases space
      obtain ⟨more, same⟩ := go_line (c :: line) rest (cons_ne_nil c line)
      have trimmed : trim (String.ofList ((c :: line).reverse ++ rest.takeWhile fun c => !endsLine c)) =
          String.ofList (lineOf (c :: rest)) := by
        rw [trim, String.toList_ofList, reverse_cons, append_assoc, singleton_append,
          dropWhile_append_of_pos fun d isThere => blank d (mem_reverse.mp isThere),
          dropWhile_cons_of_neg (by simp [space]), lineOf, takeWhile_cons_of_pos (by simp [inside])]
      have named : String.ofList (lineOf (c :: rest)) ≠ "" := by
        intro empty
        have chars := congrArg String.toList empty
        rw [String.toList_ofList] at chars
        exact lineOf_ne_nil rest space chars
      rw [dropWhile_cons_of_neg (by simp [space]), if_neg (cons_ne_nil c rest), notNewline,
        if_neg Bool.false_ne_true, inside, if_neg Bool.false_ne_true, same, map_cons, trimmed]
      simp [named]

theorem first_line (text : String) :
    (((splitlines text).map trim).find? (· ≠ "")).getD (trim text) = String.ofList (lineOf (trim text).toList) := by
  have found := @find_go [] (fun _ isThere => absurd isThere not_mem_nil) false text.toList
  unfold splitlines
  rw [found, trim, String.toList_ofList, lineOf_rdropWhile]
  split
  · rename_i blank
    rw [blank]
    rfl
  · rfl

end FirstLine

end Troop.Text
