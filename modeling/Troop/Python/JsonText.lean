import Troop.Python.Dumps

namespace Troop.Json

open List

/-! The text of `json.dumps`, and that no two values share one. -/

/-- A code unit, as `\u` and four hexadecimal digits. -/
def unitText (n : Nat) : List Char :=
  ['\\', 'u', (n / 4096 % 16).digitChar, (n / 256 % 16).digitChar, (n / 16 % 16).digitChar, (n % 16).digitChar]

def shortEscapes : List (Char × Char) :=
  [('"', '"'), ('\\', '\\'), ('\n', 'n'), ('\r', 'r'), ('\t', 't'), ('\x08', 'b'), ('\x0c', 'f')]

def pairText (n : Nat) : List Char := unitText (0xd800 + (n - 0x10000) / 1024) ++ unitText (0xdc00 + (n - 0x10000) % 1024)

def escape (c : Char) : List Char :=
  match shortEscapes.find? fun short => short.1 = c with
  | some short => ['\\', short.2]
  | none =>
    if 32 ≤ c.toNat ∧ c.toNat ≤ 126 then [c]
    else if c.toNat < 0x10000 then unitText c.toNat
    else pairText c.toNat

def quoteText (text : String) : List Char := '"' :: (text.toList.flatMap escape ++ ['"'])

mutual
/-- The text of a value; `gap` stands behind each comma and each colon. -/
def render (gap : List Char) : Json → List Char
  | .null => ['n', 'u', 'l', 'l']
  | .bool true => ['t', 'r', 'u', 'e']
  | .bool false => ['f', 'a', 'l', 's', 'e']
  | .num (.ofNat n) => Nat.toDigits 10 n
  | .num (.negSucc n) => '-' :: Nat.toDigits 10 (n + 1)
  | .str text => quoteText text
  | .arr [] => ['[', ']']
  | .arr (item :: rest) => '[' :: (render gap item ++ renderItems gap rest)
  | .obj [] => ['\x7b', '\x7d']
  | .obj ((key, value) :: rest) =>
    '\x7b' :: (quoteText key ++ (':' :: gap ++ (render gap value ++ renderMembers gap rest)))

def renderItems (gap : List Char) : List Json → List Char
  | [] => [']']
  | item :: rest => ',' :: gap ++ (render gap item ++ renderItems gap rest)

def renderMembers (gap : List Char) : List (String × Json) → List Char
  | [] => ['\x7d']
  | (key, value) :: rest =>
    ',' :: gap ++ (quoteText key ++ (':' :: gap ++ (render gap value ++ renderMembers gap rest)))
end

/-- `json.dumps(value, sort_keys=True, separators=(",", ":"))` -/
def dumpsCompact (value : Json) : String := String.ofList (render [] value.sortKeys)

/-- `json.dumps(value, sort_keys=True)` -/
def dumps (value : Json) : String := String.ofList (render [' '] value.sortKeys)

example : dumps (.obj [("b", .arr [.num (-12), .null]), ("a", .str "é\n")]) =
    "\x7b\"a\": \"\\u00e9\\n\", \"b\": [-12, null]\x7d" := by decide

section Characters

variable {r s : List Char}

theorem digitChar_inj {m n : Nat} (small : m < 16) (small' : n < 16) (same : m.digitChar = n.digitChar) : m = n :=
  (by decide : ∀ m < 16, ∀ n < 16, m.digitChar = n.digitChar → m = n) m small n small' same

theorem unitText_inj {m n : Nat} (short : m < 65536) (short' : n < 65536)
    (same : unitText m ++ r = unitText n ++ s) : m = n ∧ r = s := by
  simp only [unitText, cons_append, nil_append, cons.injEq, true_and] at same
  obtain ⟨first, second, third, fourth, rest⟩ := same
  have one := digitChar_inj (by omega) (by omega) first
  have two := digitChar_inj (by omega) (by omega) second
  have three := digitChar_inj (by omega) (by omega) third
  have four := digitChar_inj (by omega) (by omega) fourth
  exact ⟨by omega, rest⟩

inductive Escaped (c : Char) : List Char → Prop
  | short (letter : Char) (listed : (c, letter) ∈ shortEscapes) : Escaped c ['\\', letter]
  | plain (other : c ≠ '\\') (other' : c ≠ '"') : Escaped c [c]
  | unit (basic : c.toNat < 0x10000) : Escaped c (unitText c.toNat)
  | pair (beyond : 0x10000 ≤ c.toNat) : Escaped c (pairText c.toNat)

theorem escape_escaped (c : Char) : Escaped c (escape c) := by
  unfold escape
  split
  · rename_i short found
    have named : short.1 = c := by simpa using find?_some found
    have listed := mem_of_find?_eq_some found
    exact .short short.2 (named ▸ listed)
  · have unlisted : ∀ short ∈ shortEscapes, short.1 ≠ c := by grind
    split
    · exact .plain (Ne.symm (unlisted ('\\', '\\') (by decide))) (Ne.symm (unlisted ('"', '"') (by decide)))
    split
    · rename_i basic
      exact .unit basic
    · rename_i beyond
      exact .pair (Nat.le_of_not_lt beyond)

theorem short_letter : ∀ short ∈ shortEscapes, short.2 ≠ 'u' := by decide

theorem short_inj : ∀ one ∈ shortEscapes, ∀ other ∈ shortEscapes, one.2 = other.2 → one = other := by decide

theorem toNat_bound (c : Char) : c.toNat < 0x110000 ∧ ¬ (0xd800 ≤ c.toNat ∧ c.toNat ≤ 0xdfff) := by
  have valid : c.toNat < 0xd800 ∨ 0xdfff < c.toNat ∧ c.toNat < 0x110000 := c.valid
  omega

theorem Escaped.inj {c d : Char} {a b : List Char} (left : Escaped c a) (right : Escaped d b) (same : a ++ r = b ++ s) :
    c = d ∧ r = s := by
  have bound := toNat_bound c
  have bound' := toNat_bound d
  cases left with
  | short letter listed =>
    have named := short_letter _ listed
    cases right with
    | short letter' listed' =>
      simp only [cons_append, nil_append, cons.injEq, true_and] at same
      have pair := short_inj _ listed _ listed' same.1
      exact ⟨congrArg Prod.fst pair, same.2⟩
    | plain other => grind
    | unit =>
      simp only [unitText, cons_append, cons.injEq] at same
      exact absurd same.2.1 named
    | pair =>
      simp only [pairText, unitText, cons_append, cons.injEq] at same
      exact absurd same.2.1 named
  | plain other =>
    cases right with
    | unit =>
      simp only [unitText, cons_append, cons.injEq] at same
      exact absurd same.1 other
    | pair =>
      simp only [pairText, unitText, cons_append, cons.injEq] at same
      exact absurd same.1 other
    | _ => simp_all
  | unit basic =>
    cases right with
    | short letter listed =>
      simp only [unitText, cons_append, cons.injEq] at same
      exact absurd same.2.1.symm (short_letter _ listed)
    | plain other =>
      simp only [unitText, cons_append, cons.injEq] at same
      exact absurd same.1.symm other
    | unit basic' =>
      obtain ⟨code, rest⟩ := unitText_inj basic basic' same
      exact ⟨Char.toNat_inj.mp code, rest⟩
    | pair beyond =>
      have code := (unitText_inj basic (by omega) same).1
      omega
  | pair beyond =>
    cases right with
    | short letter listed =>
      simp only [pairText, unitText, cons_append, cons.injEq] at same
      exact absurd same.2.1.symm (short_letter _ listed)
    | plain other =>
      simp only [pairText, unitText, cons_append, cons.injEq] at same
      exact absurd same.1.symm other
    | unit basic =>
      have code := (unitText_inj (by omega) basic same).1
      omega
    | pair beyond' =>
      obtain ⟨high, same⟩ := unitText_inj (by omega) (by omega) same
      obtain ⟨low, rest⟩ := unitText_inj (by omega) (by omega) same
      exact ⟨Char.toNat_inj.mp (by omega), rest⟩

theorem escape_inj {c d : Char} (same : escape c ++ r = escape d ++ s) : c = d ∧ r = s :=
  (escape_escaped c).inj (escape_escaped d) same

theorem escape_ne_quote (c : Char) : escape c ++ r ≠ '"' :: s := by
  intro same
  have written := escape_escaped c
  generalize escape c = text at same written
  cases written with
  | plain _ other' => simp_all
  | _ => simp [pairText, unitText] at same

theorem body_inj {a b : List Char} (same : a.flatMap escape ++ '"' :: r = b.flatMap escape ++ '"' :: s) :
    a = b ∧ r = s := by
  induction a generalizing b with
  | nil =>
    cases b with
    | nil => exact ⟨rfl, by simpa using same⟩
    | cons d rest =>
      rw [flatMap_cons, append_assoc] at same
      exact absurd same.symm (escape_ne_quote d)
  | cons c tail ih =>
    rw [flatMap_cons, append_assoc] at same
    cases b with
    | nil => exact absurd same (escape_ne_quote c)
    | cons d rest =>
      rw [flatMap_cons, append_assoc] at same
      obtain ⟨rfl, behind⟩ := escape_inj same
      obtain ⟨rfl, left⟩ := ih behind
      exact ⟨rfl, left⟩

theorem quoteText_inj {a b : String} (same : quoteText a ++ r = quoteText b ++ s) : a = b ∧ r = s := by
  simp only [quoteText, cons_append, append_assoc, nil_append, cons.injEq, true_and] at same
  obtain ⟨chars, rest⟩ := body_inj same
  exact ⟨String.toList_injective chars, rest⟩

end Characters

section Values

variable {r s : List Char}

def Ends (r : List Char) : Prop := ∀ c ∈ r.head?, c.isDigit = false

theorem toDigits_inj {m n : Nat} (left : Ends r) (right : Ends s)
    (same : Nat.toDigits 10 m ++ r = Nat.toDigits 10 n ++ s) : m = n ∧ r = s := by
  have digits (k : Nat) {t : List Char} (ends : Ends t) :
      (Nat.toDigits 10 k ++ t).takeWhile Char.isDigit = Nat.toDigits 10 k := by
    rw [takeWhile_append_of_pos fun c member => Nat.isDigit_of_mem_toDigits (by decide) (by decide) member]
    have none_ : t.takeWhile Char.isDigit = [] := by
      cases t with
      | nil => rfl
      | cons c rest => rw [takeWhile_cons, ends c rfl, if_neg (by decide)]
    rw [none_, append_nil]
  have number : Nat.toDigits 10 m = Nat.toDigits 10 n := by
    rw [← digits m left, same, digits n right]
  rw [number] at same
  have read := congrArg (fun text => Nat.ofDigitChars 10 text 0) number
  simp only [Nat.ofDigitChars_ten_toDigits] at read
  exact ⟨read, append_cancel_left same⟩

def kind : Json → Nat
  | .null => 0
  | .bool true => 1
  | .bool false => 2
  | .num (.ofNat _) => 3
  | .num (.negSucc _) => 4
  | .str _ => 5
  | .arr _ => 6
  | .obj _ => 7

def kindOf (c : Char) : Nat :=
  if c = 'n' then 0 else if c = 't' then 1 else if c = 'f' then 2 else if c.isDigit then 3 else if c = '-' then 4
  else if c = '"' then 5 else if c = '[' then 6 else if c = '\x7b' then 7 else 8

theorem kindOf_digit {c : Char} (digit : c.isDigit = true) : kindOf c = 3 := by
  have other : c ≠ 'n' ∧ c ≠ 't' ∧ c ≠ 'f' := by
    refine ⟨?_, ?_, ?_⟩
    all_goals
      rintro rfl
      exact absurd digit (by decide)
  simp [kindOf, other, digit]

variable (gap : List Char)

theorem render_begins (value : Json) : ∃ c rest, render gap value = c :: rest ∧ kindOf c = kind value := by
  cases value with
  | null => exact ⟨_, _, by rw [render], by decide⟩
  | bool flag => cases flag <;> exact ⟨_, _, by rw [render], by decide⟩
  | num number =>
    cases number with
    | ofNat n =>
      cases digits : Nat.toDigits 10 n with
      | nil => exact absurd digits Nat.toDigits_ne_nil
      | cons c rest =>
        have member : c ∈ Nat.toDigits 10 n := digits ▸ mem_cons_self
        exact ⟨c, rest, by rw [render, digits], kindOf_digit (Nat.isDigit_of_mem_toDigits (by decide) (by decide) member)⟩
    | negSucc n => exact ⟨_, _, by rw [render], by rfl⟩
  | str text => exact ⟨_, _, by rw [render, quoteText], by rfl⟩
  | arr items => cases items <;> exact ⟨_, _, by rw [render], by rfl⟩
  | obj members =>
    cases members with
    | nil => exact ⟨_, _, by rw [render], by rfl⟩
    | cons entry rest =>
      exact ⟨_, _, by rw [render], by rfl⟩

theorem kind_eq {gap : List Char} {a b : Json} (same : render gap a ++ r = render gap b ++ s) : kind a = kind b := by
  obtain ⟨c, rest, first, begun⟩ := render_begins gap a
  obtain ⟨d, rest', second, begun'⟩ := render_begins gap b
  simp_all

theorem render_ne_close {gap : List Char} (a : Json) : render gap a ++ r ≠ ']' :: s := by
  intro same
  obtain ⟨c, rest, first, begun⟩ := render_begins gap a
  rw [first] at same
  simp only [List.cons_append, List.cons.injEq] at same
  rw [same.1] at begun
  have beyond : kind a ≤ 7 := by
    unfold kind
    split <;> decide
  have close : kindOf ']' = 8 := by decide
  omega

theorem ends_items (items : List Json) (r : List Char) : Ends (renderItems gap items ++ r) := by
  cases items <;> simp [Ends, renderItems]

theorem ends_members (members : List (String × Json)) (r : List Char) :
    Ends (renderMembers gap members ++ r) := by
  rcases members with _ | ⟨⟨key, value⟩, rest⟩ <;> simp [Ends, renderMembers]

mutual
theorem render_inj (gap : List Char) : ∀ (a b : Json) (r s : List Char), Ends r → Ends s →
    render gap a ++ r = render gap b ++ s → a = b ∧ r = s
  | .null, b, r, s, _, _, same => by
    have kinds := kind_eq same
    cases b with
    | null => exact ⟨rfl, by simpa [render] using same⟩
    | bool flag => cases flag <;> cases kinds
    | num number => cases number <;> cases kinds
    | _ => cases kinds
  | .bool flag, b, r, s, _, _, same => by
    have kinds := kind_eq same
    cases b with
    | bool other =>
      cases flag <;> cases other
      · exact ⟨rfl, by simpa [render] using same⟩
      · cases kinds
      · cases kinds
      · exact ⟨rfl, by simpa [render] using same⟩
    | num number => cases flag <;> cases number <;> cases kinds
    | _ => cases flag <;> cases kinds
  | .num number, b, r, s, left, right, same => by
    have kinds := kind_eq same
    cases b with
    | num other =>
      cases number <;> cases other
      · obtain ⟨rfl, rest⟩ := toDigits_inj left right (by simpa [render] using same)
        exact ⟨rfl, rest⟩
      · cases kinds
      · cases kinds
      · obtain ⟨next, rest⟩ := toDigits_inj left right (by simpa [render] using same)
        obtain rfl := Nat.succ.inj next
        exact ⟨rfl, rest⟩
    | bool flag => cases number <;> cases flag <;> cases kinds
    | _ => cases number <;> cases kinds
  | .str text, b, r, s, _, _, same => by
    have kinds := kind_eq same
    cases b with
    | str other =>
      obtain ⟨rfl, rest⟩ := quoteText_inj (by simpa [render] using same)
      exact ⟨rfl, rest⟩
    | bool flag => cases flag <;> cases kinds
    | num number => cases number <;> cases kinds
    | _ => cases kinds
  | .arr [], b, r, s, _, _, same => by
    have kinds := kind_eq same
    cases b with
    | arr others =>
      cases others with
      | nil => exact ⟨rfl, by simpa [render] using same⟩
      | cons other others =>
        simp only [render, cons_append, nil_append, append_assoc, cons.injEq, true_and] at same
        exact absurd same.symm (render_ne_close other)
    | bool flag => cases flag <;> cases kinds
    | num number => cases number <;> cases kinds
    | _ => cases kinds
  | .arr (item :: rest), b, r, s, _, _, same => by
    have kinds := kind_eq same
    cases b with
    | arr others =>
      cases others with
      | nil =>
        simp only [render, cons_append, nil_append, append_assoc, cons.injEq, true_and] at same
        exact absurd same (render_ne_close item)
      | cons other others =>
        simp only [render, cons_append, append_assoc, cons.injEq, true_and] at same
        obtain ⟨rfl, behind⟩ := render_inj gap item other _ _ (ends_items _ _ _) (ends_items _ _ _) same
        obtain ⟨rfl, left⟩ := renderItems_inj gap rest others r s behind
        exact ⟨rfl, left⟩
    | bool flag => cases flag <;> cases kinds
    | num number => cases number <;> cases kinds
    | _ => cases kinds
  | .obj [], b, r, s, _, _, same => by
    have kinds := kind_eq same
    cases b with
    | obj others =>
      rcases others with _ | ⟨⟨key, value⟩, others⟩
      · exact ⟨rfl, by simpa [render] using same⟩
      · simp [render, quoteText] at same
    | bool flag => cases flag <;> cases kinds
    | num number => cases number <;> cases kinds
    | _ => cases kinds
  | .obj ((key, value) :: rest), b, r, s, _, _, same => by
    have kinds := kind_eq same
    cases b with
    | obj others =>
      rcases others with _ | ⟨⟨otherKey, otherValue⟩, others⟩
      · simp [render, quoteText] at same
      simp only [render, cons_append, append_assoc, cons.injEq, true_and] at same
      obtain ⟨rfl, behind⟩ := quoteText_inj same
      have valued := append_cancel_left (cons.inj behind).2
      obtain ⟨rfl, further⟩ := render_inj gap value otherValue _ _ (ends_members _ _ _) (ends_members _ _ _) valued
      obtain ⟨rfl, left⟩ := renderMembers_inj gap rest others r s further
      exact ⟨rfl, left⟩
    | bool flag => cases flag <;> cases kinds
    | num number => cases number <;> cases kinds
    | _ => cases kinds

theorem renderItems_inj (gap : List Char) : ∀ (a b : List Json) (r s : List Char),
    renderItems gap a ++ r = renderItems gap b ++ s → a = b ∧ r = s
  | [], b, r, s, same => by
    cases b with
    | nil => exact ⟨rfl, by simpa [renderItems] using same⟩
    | cons other others => simp [renderItems] at same
  | item :: rest, b, r, s, same => by
    cases b with
    | nil => simp [renderItems] at same
    | cons other others =>
      simp only [renderItems, cons_append, append_assoc, cons.injEq, true_and] at same
      have valued := append_cancel_left same
      obtain ⟨rfl, behind⟩ := render_inj gap item other _ _ (ends_items _ _ _) (ends_items _ _ _) valued
      obtain ⟨rfl, left⟩ := renderItems_inj gap rest others r s behind
      exact ⟨rfl, left⟩

theorem renderMembers_inj (gap : List Char) : ∀ (a b : List (String × Json)) (r s : List Char),
    renderMembers gap a ++ r = renderMembers gap b ++ s → a = b ∧ r = s
  | [], b, r, s, same => by
    rcases b with _ | ⟨⟨otherKey, otherValue⟩, others⟩
    · exact ⟨rfl, by simpa [renderMembers] using same⟩
    · simp [renderMembers] at same
  | (key, value) :: rest, b, r, s, same => by
    rcases b with _ | ⟨⟨otherKey, otherValue⟩, others⟩
    · simp [renderMembers] at same
    simp only [renderMembers, cons_append, append_assoc, cons.injEq, true_and] at same
    have keyed := append_cancel_left same
    obtain ⟨rfl, behind⟩ := quoteText_inj keyed
    have valued := append_cancel_left (cons.inj behind).2
    obtain ⟨rfl, further⟩ := render_inj gap value otherValue _ _ (ends_members _ _ _) (ends_members _ _ _) valued
    obtain ⟨rfl, left⟩ := renderMembers_inj gap rest others r s further
    exact ⟨rfl, left⟩
end

theorem ofList_render_eq_iff (a b : Json) :
    String.ofList (render gap a.sortKeys) = String.ofList (render gap b.sortKeys) ↔ a.sortKeys = b.sortKeys := by
  have closed : Ends [] := by simp [Ends]
  constructor
  · intro same
    have chars := congrArg String.toList same
    rw [String.toList_ofList, String.toList_ofList] at chars
    exact (render_inj gap _ _ [] [] closed closed (by rw [chars])).1
  · simp_all

theorem dumpsCompact_eq_iff (a b : Json) : dumpsCompact a = dumpsCompact b ↔ a.sortKeys = b.sortKeys :=
  ofList_render_eq_iff [] a b

theorem dumps_eq_iff (a b : Json) : dumps a = dumps b ↔ a.sortKeys = b.sortKeys := ofList_render_eq_iff [' '] a b

end Values

end Troop.Json
