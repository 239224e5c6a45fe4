import Mathlib.Data.List.DropRight

namespace Troop.Text

open List

def lower (text : String) : String := String.ofList (text.toList.map Char.toLower)

def strip (text : String) : String :=
  String.ofList ((text.toList.dropWhile Char.isWhitespace).reverse.dropWhile Char.isWhitespace).reverse

/-- `text.replace(old, new)` for single characters -/
def replaceChar (old new : Char) (text : String) : String :=
  String.ofList (text.toList.map fun c => if c = old then new else c)

/-- `text.split(".")` -/
def splitDots (text : String) : List String := (text.toList.splitOn '.').map String.ofList

/-- `text.split(":")` -/
def splitColons (text : String) : List String := (text.toList.splitOn ':').map String.ofList

/-- `":".join(parts)` -/
def joinColons (parts : List String) : String := ":".intercalate parts

def startsWith (start text : String) : Bool := start.toList.isPrefixOf text.toList

/-- `str.isdigit` -/
def isDigits (text : String) : Bool := text ≠ "" ∧ text.toList.all Char.isDigit

/-- `text.split(mark, 1)[0]` and whether the mark occurs -/
def cutAt (mark text : String) : Option String := go mark.toList [] text.toList
where
  go (mark seen : List Char) : List Char → Option String
    | [] => if mark.isEmpty then some (String.ofList seen.reverse) else none
    | c :: rest =>
      if mark.isPrefixOf (c :: rest) then some (String.ofList seen.reverse) else go mark (c :: seen) rest

theorem dropWhile_rdropWhile {α : Type} (p : α → Bool) {items : List α} (trimmed : items.dropWhile p = items) :
    (items.rdropWhile p).dropWhile p = items.rdropWhile p := by
  rw [dropWhile_eq_self_iff] at trimmed ⊢
  intro present
  have start := rdropWhile_prefix p (l := items)
  have longer : 0 < items.length := Nat.lt_of_lt_of_le present start.length_le
  have same : (items.rdropWhile p)[0] = items[0] := start.getElem present
  simpa [same] using trimmed longer

theorem strip_strip (text : String) : strip (strip text) = strip text := by
  have trimmed : (text.toList.dropWhile Char.isWhitespace).dropWhile Char.isWhitespace =
      text.toList.dropWhile Char.isWhitespace := dropWhile_idempotent _ _
  have started := dropWhile_rdropWhile Char.isWhitespace trimmed
  have ended := rdropWhile_idempotent Char.isWhitespace (text.toList.dropWhile Char.isWhitespace)
  unfold rdropWhile at started ended
  unfold strip
  rw [String.toList_ofList, started, ended]

theorem toLower_of_upper {c : Char} (upper : 'A' ≤ c ∧ c ≤ 'Z') : c.toLower.val.toNat = c.val.toNat + 32 := by
  have high : c.val.toNat ≤ 90 := upper.2
  have ranged : c.val ≥ 'A'.val ∧ c.val ≤ 'Z'.val := upper
  unfold Char.toLower
  rw [dif_pos ranged]
  show (c.val.toNat + 32) % 4294967296 = _
  omega

theorem toLower_of_not_upper {c : Char} (other : ¬ ('A' ≤ c ∧ c ≤ 'Z')) : c.toLower = c := dif_neg other

theorem toLower_toLower (c : Char) : c.toLower.toLower = c.toLower := by
  by_cases upper : 'A' ≤ c ∧ c ≤ 'Z'
  · have low : 65 ≤ c.val.toNat := upper.1
    have shifted := toLower_of_upper upper
    apply toLower_of_not_upper
    rintro ⟨_, high⟩
    have high : c.toLower.val.toNat ≤ 90 := high
    omega
  · have same := toLower_of_not_upper upper
    rw [same, same]

theorem isWhitespace_toLower (c : Char) : c.toLower.isWhitespace = c.isWhitespace := by
  by_cases upper : 'A' ≤ c ∧ c ≤ 'Z'
  · have low : 65 ≤ c.val.toNat := upper.1
    have shifted := toLower_of_upper upper
    have black {d : Char} (far : 64 < d.val.toNat) : d.isWhitespace = false := by
      simp only [Char.isWhitespace, Bool.or_eq_false_iff, decide_eq_false_iff_not]
      refine ⟨⟨⟨?_, ?_⟩, ?_⟩, ?_⟩
      all_goals
        rintro rfl
        revert far
        decide
    rw [black (by omega), black (by omega)]
  · rw [toLower_of_not_upper upper]

theorem lower_lower (text : String) : lower (lower text) = lower text := by
  unfold lower
  rw [String.toList_ofList, map_map]
  congr 2
  funext c
  exact toLower_toLower c

theorem lower_eq_empty {text : String} : lower text = "" ↔ text = "" := by
  unfold lower
  rw [← String.toList_inj, String.toList_ofList, ← String.toList_inj]
  exact map_eq_nil_iff

theorem strip_lower (text : String) : strip (lower text) = lower (strip text) := by
  have kept : Char.isWhitespace ∘ Char.toLower = Char.isWhitespace := funext isWhitespace_toLower
  unfold strip lower
  rw [String.toList_ofList, String.toList_ofList, dropWhile_map, kept, ← map_reverse, dropWhile_map, kept, map_reverse]

end Troop.Text
