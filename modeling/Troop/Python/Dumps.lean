import Troop.Python.Json

namespace Troop

open List

namespace Dict

variable {α : Type}

def insertSorted (d : Dict α) (key : String) (value : α) : Dict α :=
  match d with
  | [] => [(key, value)]
  | (k, v) :: rest =>
    if k.toList < key.toList then (k, v) :: insertSorted rest key value else (key, value) :: (k, v) :: rest

theorem get?_insertSorted (d : Dict α) (key other : String) (value : α) :
    (d.insertSorted key value).get? other = if key = other then some value else d.get? other := by
  induction d with
  | nil => rfl
  | cons entry rest ih =>
    obtain ⟨k, v⟩ := entry
    unfold insertSorted
    by_cases before : k.toList < key.toList
    · rw [if_pos before, get?_cons, ih, get?_cons]
      by_cases same : k = other
      · grind
      · simp [same]
    · rw [if_neg before, get?_cons]

def sortByKey (d : Dict α) : Dict α :=
  d.foldr (fun entry sorted => insertSorted sorted entry.1 entry.2) []

theorem get?_sortByKey (d : Dict α) (key : String) : (sortByKey d).get? key = d.get? key := by
  induction d with
  | nil => rfl
  | cons entry rest ih =>
    show ((sortByKey rest).insertSorted entry.1 entry.2).get? key = _
    rw [get?_insertSorted, ih, get?_cons]

variable {d : Dict α} {entry : String × α} {key : String}

theorem insertSorted_first (value : α)
    (first : ∀ entry ∈ d, ¬ entry.1.toList < key.toList) : d.insertSorted key value = (key, value) :: d := by
  cases d with
  | nil => rfl
  | cons entry rest => exact if_neg (first entry mem_cons_self)

theorem mem_insertSorted {value : α}
    (member : entry ∈ d.insertSorted key value) : entry = (key, value) ∨ entry ∈ d := by
  induction d with
  | nil => exact .inl (mem_singleton.mp member)
  | cons head rest ih =>
    unfold insertSorted at member
    split at member
    · rcases mem_cons.mp member with rfl | later
      · exact .inr mem_cons_self
      · rcases ih later with same | among
        · exact .inl same
        · exact .inr (mem_cons_of_mem _ among)
    · exact mem_cons.mp member

def Sorted (d : Dict α) : Prop := d.Pairwise fun a b => ¬ b.1.toList < a.1.toList

theorem Sorted.insert (sorted : d.Sorted) (key : String) (value : α) :
    (d.insertSorted key value).Sorted := by
  induction d with
  | nil => exact pairwise_singleton _ _
  | cons head rest ih =>
    obtain ⟨first, others⟩ := pairwise_cons.mp sorted
    unfold insertSorted
    split
    · rename_i before
      apply pairwise_cons.mpr ⟨_, ih others⟩
      intro entry member
      rcases mem_insertSorted member with rfl | among
      · exact List.lt_asymm before
      · exact first entry among
    · rename_i after
      apply pairwise_cons.mpr ⟨_, sorted⟩
      intro entry member
      rcases mem_cons.mp member with rfl | among
      · exact after
      · grind

theorem sortByKey_sorted (d : Dict α) : (sortByKey d).Sorted := by
  induction d with
  | nil => exact Pairwise.nil
  | cons entry rest ih => exact ih.insert entry.1 entry.2

theorem mem_sortByKey (member : entry ∈ sortByKey d) : entry ∈ d := by
  induction d with
  | nil => exact member
  | cons head rest ih =>
    have inserted : entry ∈ (sortByKey rest).insertSorted head.1 head.2 := member
    rcases mem_insertSorted inserted with rfl | later
    · exact mem_cons_self
    · exact mem_cons_of_mem _ (ih later)

theorem Sorted.sortByKey (sorted : d.Sorted) : Dict.sortByKey d = d := by
  induction d with
  | nil => rfl
  | cons entry rest ih =>
    obtain ⟨first, others⟩ := pairwise_cons.mp sorted
    show (Dict.sortByKey rest).insertSorted entry.1 entry.2 = _
    rw [ih others]
    exact insertSorted_first _ first

end Dict

namespace Json

mutual
/-- The value with the keys of every object in order, which is what `json.dumps(sort_keys=True)`
    renders. -/
def sortKeys : Json → Json
  | .arr items => .arr (sortItems items)
  | .obj members => .obj (sortMembers members)
  | .null => .null
  | .bool value => .bool value
  | .num value => .num value
  | .str value => .str value

def sortItems : List Json → List Json
  | [] => []
  | item :: rest => item.sortKeys :: sortItems rest

def sortMembers : List (String × Json) → List (String × Json)
  | [] => []
  | (key, value) :: rest => Dict.insertSorted (sortMembers rest) key value.sortKeys
end

theorem get?_sortMembers (d : Dict Json) (key : String) :
    Dict.get? (sortMembers d) key = (d.get? key).map sortKeys := by
  induction d with
  | nil => simp [sortMembers]
  | cons entry rest ih =>
    obtain ⟨k, v⟩ := entry
    rw [sortMembers, Dict.get?_insertSorted, Dict.get?_cons]
    by_cases same : k = key
    · simp [same]
    · simp [same, ih]

theorem sortItems_map_str (texts : List String) :
    sortItems (texts.map .str) = texts.map .str := by
  induction texts with
  | nil => simp [sortItems]
  | cons text rest ih => simp [sortItems, sortKeys, ih]

@[simp] theorem sortKeys_str (text : String) : (Json.str text).sortKeys = .str text := by
  simp [sortKeys]

theorem insertSorted_ne_nil (d : Dict Json) (key : String) (value : Json) : d.insertSorted key value ≠ [] := by
  cases d with
  | nil => simp [Dict.insertSorted]
  | cons entry rest => grind [Dict.insertSorted]

@[simp] theorem truthy_sortKeys (value : Json) : value.sortKeys.truthy = value.truthy := by
  cases value with
  | arr items => cases items <;> simp [sortKeys, sortItems, truthy]
  | obj members =>
    cases members with
    | nil => simp [sortKeys, sortMembers, truthy]
    | cons entry rest => simp [sortKeys, sortMembers, truthy, insertSorted_ne_nil]
  | _ => simp [sortKeys]

end Json

def Dict.SameContent (a b : Dict Json) : Prop := Json.sortMembers a = Json.sortMembers b

instance (a b : Dict Json) : Decidable (a.SameContent b) :=
  inferInstanceAs (Decidable (Json.sortMembers a = Json.sortMembers b))

namespace Dict.SameContent

open List

variable {a b : Dict Json}

theorem refl (a : Dict Json) : a.SameContent a := rfl

theorem get? (same : a.SameContent b) (key : String) :
    (a.get? key).map Json.sortKeys = (b.get? key).map Json.sortKeys := by
  have found : Dict.get? (Json.sortMembers a) key = Dict.get? (Json.sortMembers b) key := by rw [same]
  rwa [Json.get?_sortMembers, Json.get?_sortMembers] at found

theorem get (same : a.SameContent b) (key : String) :
    (a.get key).sortKeys = (b.get key).sortKeys := by
  have found := same.get? key
  unfold Dict.get
  cases left : a.get? key <;> cases right : b.get? key <;> simp_all

theorem isSome (same : a.SameContent b) (key : String) : (a.get? key).isSome = (b.get? key).isSome := by
  have found := congrArg Option.isSome (same.get? key)
  simpa using found

end Dict.SameContent

namespace Json

open List

def strokes (n : Nat) : List Char := List.replicate n '1' ++ ['.']

theorem strokes_inj {m n : Nat} {r s : List Char} (same : strokes m ++ r = strokes n ++ s) :
    m = n ∧ r = s := by
  induction m generalizing n with
  | zero =>
    cases n with
    | zero => exact ⟨rfl, by simpa [strokes] using same⟩
    | succ n => simp [strokes, replicate_succ] at same
  | succ m ih =>
    cases n with
    | zero => simp [strokes, replicate_succ] at same
    | succ n =>
      have shorter : strokes m ++ r = strokes n ++ s := by
        simpa [strokes, replicate_succ] using same
      obtain ⟨rfl, rest⟩ := ih shorter
      exact ⟨rfl, rest⟩

def textCode (text : String) : List Char := strokes text.toList.length ++ text.toList

theorem textCode_inj {a b : String} {r s : List Char} (same : textCode a ++ r = textCode b ++ s) :
    a = b ∧ r = s := by
  unfold textCode at same
  rw [append_assoc, append_assoc] at same
  obtain ⟨length, rest⟩ := strokes_inj same
  obtain ⟨chars, rest⟩ := append_inj rest length
  exact ⟨String.toList_injective chars, rest⟩

mutual
def code : Json → List Char
  | .null => ['n']
  | .bool true => ['t']
  | .bool false => ['f']
  | .num (.ofNat n) => '+' :: strokes n
  | .num (.negSucc n) => '-' :: strokes n
  | .str text => 's' :: textCode text
  | .arr items => 'a' :: itemsCode items
  | .obj members => 'o' :: membersCode members

def itemsCode : List Json → List Char
  | [] => [']']
  | item :: rest => ',' :: (item.code ++ itemsCode rest)

def membersCode : List (String × Json) → List Char
  | [] => [']']
  | (key, value) :: rest => ',' :: (textCode key ++ (value.code ++ membersCode rest))
end

mutual
theorem code_inj : ∀ (a b : Json) (r s : List Char), a.code ++ r = b.code ++ s → a = b ∧ r = s
  | .null, b, r, s, same => by
    cases b with
    | null => exact ⟨rfl, by simpa [code] using same⟩
    | bool value => cases value <;> simp [code] at same
    | num value => cases value <;> simp [code] at same
    | _ => simp [code] at same
  | .bool value, b, r, s, same => by
    cases b with
    | bool other => cases value <;> cases other <;> simp_all [code]
    | num other => cases value <;> cases other <;> simp [code] at same
    | _ => cases value <;> simp [code] at same
  | .num value, b, r, s, same => by
    cases b with
    | num other =>
      cases value <;> cases other <;> simp only [code, cons_append, cons.injEq] at same
      · obtain ⟨rfl, rest⟩ := strokes_inj same.2
        exact ⟨rfl, rest⟩
      · exact absurd same.1 (by decide)
      · exact absurd same.1 (by decide)
      · obtain ⟨rfl, rest⟩ := strokes_inj same.2
        exact ⟨rfl, rest⟩
    | bool other => cases value <;> cases other <;> simp [code] at same
    | _ => cases value <;> simp [code] at same
  | .str text, b, r, s, same => by
    cases b with
    | str other =>
      have rest : textCode text ++ r = textCode other ++ s := by simpa [code] using same
      obtain ⟨rfl, left⟩ := textCode_inj rest
      exact ⟨rfl, left⟩
    | bool value => cases value <;> simp [code] at same
    | num value => cases value <;> simp [code] at same
    | _ => simp [code] at same
  | .arr items, b, r, s, same => by
    cases b with
    | arr others =>
      have rest : itemsCode items ++ r = itemsCode others ++ s := by simpa [code] using same
      obtain ⟨rfl, left⟩ := itemsCode_inj items others r s rest
      exact ⟨rfl, left⟩
    | bool value => cases value <;> simp [code] at same
    | num value => cases value <;> simp [code] at same
    | _ => simp [code] at same
  | .obj members, b, r, s, same => by
    cases b with
    | obj others =>
      have rest : membersCode members ++ r = membersCode others ++ s := by simpa [code] using same
      obtain ⟨rfl, left⟩ := membersCode_inj members others r s rest
      exact ⟨rfl, left⟩
    | bool value => cases value <;> simp [code] at same
    | num value => cases value <;> simp [code] at same
    | _ => simp [code] at same

theorem itemsCode_inj : ∀ (a b : List Json) (r s : List Char),
    itemsCode a ++ r = itemsCode b ++ s → a = b ∧ r = s
  | [], b, r, s, same => by
    cases b with
    | nil => exact ⟨rfl, by simpa [itemsCode] using same⟩
    | cons other others => simp [itemsCode] at same
  | item :: rest, b, r, s, same => by
    cases b with
    | nil => simp [itemsCode] at same
    | cons other others =>
      have tail : item.code ++ (itemsCode rest ++ r) = other.code ++ (itemsCode others ++ s) := by
        simpa [itemsCode] using same
      obtain ⟨rfl, behind⟩ := code_inj item other _ _ tail
      obtain ⟨rfl, left⟩ := itemsCode_inj rest others r s behind
      exact ⟨rfl, left⟩

theorem membersCode_inj : ∀ (a b : List (String × Json)) (r s : List Char),
    membersCode a ++ r = membersCode b ++ s → a = b ∧ r = s
  | [], b, r, s, same => by
    cases b with
    | nil => exact ⟨rfl, by simpa [membersCode] using same⟩
    | cons other others => simp [membersCode] at same
  | (key, value) :: rest, b, r, s, same => by
    cases b with
    | nil => simp [membersCode] at same
    | cons other others =>
      obtain ⟨otherKey, otherValue⟩ := other
      have tail : textCode key ++ (value.code ++ (membersCode rest ++ r)) =
          textCode otherKey ++ (otherValue.code ++ (membersCode others ++ s)) := by
        simpa [membersCode] using same
      obtain ⟨rfl, valued⟩ := textCode_inj tail
      obtain ⟨rfl, behind⟩ := code_inj value otherValue _ _ valued
      obtain ⟨rfl, left⟩ := membersCode_inj rest others r s behind
      exact ⟨rfl, left⟩
end

/-- A digest of what `json.dumps(sort_keys=True)` renders, as free of collisions as a hash can be. -/
def digest (members : Dict Json) : String := String.ofList (membersCode (sortMembers members))

theorem digest_eq_iff (a b : Dict Json) : digest a = digest b ↔ a.SameContent b := by
  constructor
  · intro same
    have chars := congrArg String.toList same
    simp only [digest, String.toList_ofList] at chars
    exact (membersCode_inj (sortMembers a) (sortMembers b) [] [] (by simpa using chars)).1
  · intro same
    unfold digest
    rw [same]

theorem digest_nonempty (members : Dict Json) : digest members ≠ "" := by
  intro empty
  have chars := congrArg String.toList empty
  simp only [digest, String.toList_ofList] at chars
  cases rendered : sortMembers members with
  | _ => simp [rendered, membersCode] at chars

end Json

end Troop
