import Troop.Python.Dict

namespace Troop

/-- The values the runtime keeps in its JSON columns. Numbers are integers: nothing modelled here
    rounds. -/
inductive Json where
  | null
  | bool (value : Bool)
  | num (value : Int)
  | str (value : String)
  | arr (items : List Json)
  | obj (members : List (String × Json))
deriving Repr, Inhabited

inductive PyError where
  | valueError (message : String)
  | valueErrors (errors : List String)
  | typeError (message : String)
  | keyError (key : String)
  | recursionError
  | raised (message : String)
deriving Repr, DecidableEq, Inhabited

namespace Json

mutual
def decEq : (left right : Json) → Decidable (left = right)
  | .null, .null => isTrue rfl
  | .bool a, .bool b => if h : a = b then isTrue (h ▸ rfl) else isFalse (fun e => h (by cases e; rfl))
  | .num a, .num b => if h : a = b then isTrue (h ▸ rfl) else isFalse (fun e => h (by cases e; rfl))
  | .str a, .str b => if h : a = b then isTrue (h ▸ rfl) else isFalse (fun e => h (by cases e; rfl))
  | .arr a, .arr b =>
    match decEqItems a b with
    | isTrue h => isTrue (h ▸ rfl)
    | isFalse h => isFalse (fun e => h (by cases e; rfl))
  | .obj a, .obj b =>
    match decEqMembers a b with
    | isTrue h => isTrue (h ▸ rfl)
    | isFalse h => isFalse (fun e => h (by cases e; rfl))
  | .null, .bool _ | .null, .num _ | .null, .str _ | .null, .arr _ | .null, .obj _
  | .bool _, .null | .bool _, .num _ | .bool _, .str _ | .bool _, .arr _ | .bool _, .obj _
  | .num _, .null | .num _, .bool _ | .num _, .str _ | .num _, .arr _ | .num _, .obj _
  | .str _, .null | .str _, .bool _ | .str _, .num _ | .str _, .arr _ | .str _, .obj _
  | .arr _, .null | .arr _, .bool _ | .arr _, .num _ | .arr _, .str _ | .arr _, .obj _
  | .obj _, .null | .obj _, .bool _ | .obj _, .num _ | .obj _, .str _ | .obj _, .arr _ =>
    isFalse (fun e => by cases e)

def decEqItems : (left right : List Json) → Decidable (left = right)
  | [], [] => isTrue rfl
  | [], _ :: _ => isFalse (fun e => by cases e)
  | _ :: _, [] => isFalse (fun e => by cases e)
  | a :: as, b :: bs =>
    match decEq a b, decEqItems as bs with
    | isTrue h, isTrue t => isTrue (h ▸ t ▸ rfl)
    | isFalse h, _ => isFalse (fun e => h (by cases e; rfl))
    | _, isFalse t => isFalse (fun e => t (by cases e; rfl))

def decEqMembers : (left right : List (String × Json)) → Decidable (left = right)
  | [], [] => isTrue rfl
  | [], _ :: _ => isFalse (fun e => by cases e)
  | _ :: _, [] => isFalse (fun e => by cases e)
  | (k, a) :: as, (l, b) :: bs =>
    if same : k = l then
      match decEq a b, decEqMembers as bs with
      | isTrue h, isTrue t => isTrue (same ▸ h ▸ t ▸ rfl)
      | isFalse h, _ => isFalse (fun e => h (by cases e; rfl))
      | _, isFalse t => isFalse (fun e => t (by cases e; rfl))
    else isFalse (fun e => same (by cases e; rfl))
end

instance : DecidableEq Json := decEq

def truthy : Json → Bool
  | .null => false
  | .bool value => value
  | .num value => value ≠ 0
  | .str value => value ≠ ""
  | .arr items => ¬ items.isEmpty
  | .obj members => ¬ members.isEmpty

/-- Python's `left or right`. -/
def pyOr (left right : Json) : Json := if left.truthy then left else right

def asObj? : Json → Option (Dict Json)
  | .obj members => some members
  | _ => none

/-- `value.get(key)` of a value known to be a dict; a missing key reads as `None`. -/
def get (value : Json) (key : String) : Json :=
  match value with
  | .obj members => (Dict.get? members key).getD .null
  | _ => .null

def ofOption : Option String → Json
  | none => .null
  | some value => .str value

def quote (text : String) : String :=
  let chars := text.toList
  let mark := if '\'' ∈ chars ∧ '"' ∉ chars then '"' else '\''
  let escape : Char → List Char := fun c =>
    if c = '\\' then ['\\', '\\']
    else if c = mark then ['\\', c]
    else if c = '\n' then ['\\', 'n']
    else if c = '\t' then ['\\', 't']
    else if c = '\r' then ['\\', 'r']
    else [c]
  String.ofList (mark :: chars.flatMap escape ++ [mark])

mutual
def pyRepr : Json → String
  | .null => "None"
  | .bool true => "True"
  | .bool false => "False"
  | .num value => toString value
  | .str value => quote value
  | .arr items => "[" ++ ", ".intercalate (reprItems items) ++ "]"
  | .obj members => "\x7b" ++ ", ".intercalate (reprMembers members) ++ "\x7d"

def reprItems : List Json → List String
  | [] => []
  | item :: rest => pyRepr item :: reprItems rest

def reprMembers : List (String × Json) → List String
  | [] => []
  | (key, value) :: rest => (quote key ++ ": " ++ pyRepr value) :: reprMembers rest
end

/-- Python's `str(value)`. -/
def pyStr : Json → String
  | .str value => value
  | value => value.pyRepr

/-- `str(value or "")`. -/
def strOrEmpty (value : Json) : String := if value.truthy then value.pyStr else ""

/-- `dict(value or {})`: a mapping is copied, a list of pairs is accepted, anything else raises. -/
def toDict (value : Json) : Except PyError (Dict Json) :=
  match value with
  | .obj members => .ok members
  | .arr items => pairs items
  | other => if other.truthy then .error (.typeError "object is not iterable") else .ok []
where
  pairs : List Json → Except PyError (Dict Json)
    | [] => .ok []
    | .arr [.str key, item] :: rest => (pairs rest).map (fun tail => (key, item) :: tail)
    | _ :: _ => .error (.valueError "dictionary update sequence element has the wrong shape")

/-- `list(value or [])`. -/
def toList (value : Json) : Except PyError (List Json) :=
  match value with
  | .arr items => .ok items
  | .obj members => .ok (members.map (fun entry => .str entry.1))
  | .str text => .ok (text.toList.map (fun c => .str (String.ofList [c])))
  | other => if other.truthy then .error (.typeError "object is not iterable") else .ok []

/-- `int(value)`. -/
def toInt : Json → Except PyError Int
  | .num value => .ok value
  | .bool value => .ok (if value then 1 else 0)
  | .str text =>
    match text.toInt? with
    | some value => .ok value
    | none => .error (.valueError "invalid literal for int()")
  | _ => .error (.typeError "int() argument must be a string or a number")

def numeric? : Json → Option Int
  | .num value => some value
  | .bool value => some (if value then 1 else 0)
  | _ => none

mutual
/-- Python's `==` on JSON values: `True == 1`, dicts compare without order. -/
def pyEq : Json → Json → Bool
  | .null, .null => true
  | .str a, .str b => a = b
  | .arr a, .arr b => pyEqItems a b
  | .obj a, .obj b => a.length = b.length && pyEqMembers a b
  | a, b =>
    match a.numeric?, b.numeric? with
    | some m, some n => m = n
    | _, _ => false

def pyEqItems : List Json → List Json → Bool
  | [], [] => true
  | a :: as, b :: bs => pyEq a b && pyEqItems as bs
  | _, _ => false

def pyEqMembers : List (String × Json) → List (String × Json) → Bool
  | [], _ => true
  | (key, a) :: rest, other =>
    match Dict.get? other key with
    | some b => pyEq a b && pyEqMembers rest other
    | none => false
end

mutual
/-- Python's `<` on JSON values; operands of different kinds raise. -/
def pyLt : Json → Json → Except PyError Bool
  | .str a, .str b => .ok (decide (a.toList < b.toList))
  | .arr a, .arr b => pyLtItems a b
  | a, b =>
    match a.numeric?, b.numeric? with
    | some m, some n => .ok (decide (m < n))
    | _, _ => .error (.typeError "'<' not supported between these operands")

def pyLtItems : List Json → List Json → Except PyError Bool
  | [], b => .ok (¬ b.isEmpty)
  | _ :: _, [] => .ok false
  | a :: as, b :: bs => if pyEq a b then pyLtItems as bs else pyLt a b
end

end Json

/-- `d.get(key)` on a dict of JSON values. -/
def Dict.get (d : Dict Json) (key : String) : Json := (d.get? key).getD .null

namespace Dict

variable (d : Dict Json)

theorem get_eq (key : String) : d.get key = (d.get? key).getD .null := rfl

@[simp] theorem get_nil (key : String) : get ([] : Dict Json) key = .null := rfl

@[simp] theorem get_set_self (key : String) (value : Json) :
    (d.set key value).get key = value := by simp [get]

theorem get_set (key other : String) (value : Json) :
    (d.set key value).get other = if key = other then value else d.get other := by
  simp only [get, get?_set]
  split <;> rfl

theorem get_set_of_ne {key other : String} (value : Json) (different : key ≠ other) :
    (d.set key value).get other = d.get other := by simp [get_set, different]

@[simp] theorem get_pop_self (key : String) : (d.pop key).get key = .null := by
  simp [get]

theorem get_pop (key other : String) :
    (d.pop key).get other = if key = other then .null else d.get other := by
  simp only [get, get?_pop]
  split <;> rfl

theorem get_pop_of_ne {key other : String} (different : key ≠ other) :
    (d.pop key).get other = d.get other := by simp [get_pop, different]

theorem get_update (d other : Dict Json) (key : String) :
    (d.update other).get key = ((other.get? key).or (d.get? key)).getD .null := by
  simp only [get, get?_update]

theorem get_update_cases (d other : Dict Json) (key : String) :
    (d.update other).get key = other.get key ∨ (d.update other).get key = d.get key := by
  rw [get_update]
  cases found : other.get? key with
  | none => exact Or.inr (by simp [get])
  | some value => exact Or.inl (by simp [get, found])

end Dict

@[simp] theorem Json.get_obj (members : Dict Json) (key : String) :
    (Json.obj members).get key = members.get key := rfl

@[simp] theorem Json.truthy_null : Json.null.truthy = false := rfl

@[simp] theorem Json.strOrEmpty_str (text : String) : (Json.str text).strOrEmpty = text := by
  by_cases empty : text = "" <;> simp [strOrEmpty, truthy, pyStr, empty]

theorem Json.strOrEmpty_or_null (text : String) : ((Json.str text).pyOr .null).strOrEmpty = text := by
  by_cases empty : text = ""
  · simp [empty, pyOr, truthy, strOrEmpty]
  · simp [empty, pyOr, truthy, strOrEmpty, pyStr]

@[simp] theorem Json.truthy_bool (value : Bool) : (Json.bool value).truthy = value := rfl

theorem prefixed_ne {start rest key : String} (apart : ¬ start.toList <+: key.toList) :
    start ++ rest ≠ key := by
  intro same
  apply apart
  rw [← same, String.toList_append]
  exact List.prefix_append _ _

theorem pyRepr_ne_empty (value : Json) : value.pyRepr ≠ "" ∨ ∃ text, value = .str text := by
  cases value with
  | str text => exact .inr ⟨text, rfl⟩
  | bool value => cases value <;> exact .inl (by simp [Json.pyRepr])
  | num value =>
    left
    cases value with
    | ofNat n => exact Nat.repr_ne_empty
    | negSucc n =>
      show "-" ++ Nat.repr (n + 1) ≠ ""
      simp
  | _ => exact .inl (by simp [Json.pyRepr])

theorem pyStr_ne_empty {value : Json} (given : value.truthy = true) : value.pyStr ≠ "" := by
  cases value with
  | str text => simpa [Json.truthy, Json.pyStr] using given
  | null => cases given
  | bool value =>
    rcases pyRepr_ne_empty (.bool value) with text | ⟨_, other⟩
    · exact text
    · cases other
  | num value =>
    rcases pyRepr_ne_empty (.num value) with text | ⟨_, other⟩
    · exact text
    · cases other
  | arr items =>
    rcases pyRepr_ne_empty (.arr items) with text | ⟨_, other⟩
    · exact text
    · cases other
  | obj members =>
    rcases pyRepr_ne_empty (.obj members) with text | ⟨_, other⟩
    · exact text
    · cases other

end Troop
