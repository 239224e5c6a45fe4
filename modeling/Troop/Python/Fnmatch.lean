import Mathlib.Data.List.Infix

namespace Troop.Fnmatch

/-- An item of a pattern of Python's `fnmatch`. -/
inductive Token where
  | star
  | any
  | literal (c : Char)
  | set (negated : Bool) (ranges : List (Char × Char))
deriving DecidableEq, Repr

def ranges : List Char → List (Char × Char)
  | first :: '-' :: last :: rest => (first, last) :: ranges rest
  | c :: rest => (c, c) :: ranges rest
  | [] => []

def bracketed (chars : List Char) : Option (List Char × List Char) :=
  let negation := if chars.head? = some '!' then ['!'] else []
  let body := chars.drop negation.length
  let first := if body.head? = some ']' then [']'] else []
  match (body.drop first.length).span (· ≠ ']') with
  | (inside, _ :: rest) => some (negation ++ first ++ inside, rest)
  | (_, []) => none

def setOf : List Char → Token
  | '!' :: rest => .set true (ranges rest)
  | chars => .set false (ranges chars)

/-- `fnmatch.translate`, with at most so many steps -/
def tokens : Nat → List Char → List Token
  | 0, _ => []
  | _, [] => []
  | steps + 1, '*' :: rest => .star :: tokens steps rest
  | steps + 1, '?' :: rest => .any :: tokens steps rest
  | steps + 1, '[' :: rest =>
    match bracketed rest with
    | some (inside, after) => setOf inside :: tokens steps after
    | none => .literal '[' :: tokens steps rest
  | steps + 1, c :: rest => .literal c :: tokens steps rest

def accepts : List Token → List Char → Bool
  | [], text => text.isEmpty
  | .star :: rest, text => text.tails.any fun tail => accepts rest tail
  | .any :: rest, _ :: text => accepts rest text
  | .literal c :: rest, d :: text => c = d && accepts rest text
  | .set negated ranges :: rest, d :: text =>
    (ranges.any fun range => range.1 ≤ d ∧ d ≤ range.2) != negated && accepts rest text
  | _ :: _, [] => false

def translate (pattern : String) : List Token := tokens pattern.length pattern.toList

/-- `fnmatch.fnmatch(name, pattern)` on a system whose file names are case sensitive -/
def fnmatch (name pattern : String) : Bool := accepts (translate pattern) name.toList

theorem accepts_star {rest : List Token} {before text : List Char} (accepted : accepts rest text = true) :
    accepts (.star :: rest) (before ++ text) = true := by
  rw [accepts, List.any_eq_true]
  exact ⟨text, (List.mem_tails _ _).mpr (List.suffix_append before text), accepted⟩

theorem accepts_literals (chars : List Char) {rest : List Token} {text : List Char} (accepted : accepts rest text = true) :
    accepts (chars.map Token.literal ++ rest) (chars ++ text) = true := by
  induction chars with
  | nil => exact accepted
  | cons c others ih => simpa [accepts] using ih

end Troop.Fnmatch
