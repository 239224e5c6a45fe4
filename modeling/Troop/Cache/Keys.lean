import Troop.Python.Text

namespace Troop.Cache

open List

structure Ident where
  text : String
  plain : ':' ∉ text.toList
deriving DecidableEq

inductive Space where
  | projectAcl (projectId : String)
  | ragRetrieval (projectId : String)
  | memoryContext (projectId : String)
  | portfolioSummary (ownerId : String)
deriving DecidableEq

namespace Space

def name : Space → String
  | projectAcl projectId => "acl-project:" ++ projectId
  | ragRetrieval projectId => "rag-retrieval:" ++ projectId
  | memoryContext projectId => "memory-context:" ++ projectId
  | portfolioSummary ownerId => "portfolio-summary:" ++ ownerId

variable (projectId : String)

theorem name_projectAcl : (projectAcl projectId).name = "acl-project:" ++ projectId := rfl

theorem name_ragRetrieval :
    (ragRetrieval projectId).name = "rag-retrieval:" ++ projectId := rfl

theorem name_memoryContext :
    (memoryContext projectId).name = "memory-context:" ++ projectId := rfl

theorem name_portfolioSummary (ownerId : String) :
    (portfolioSummary ownerId).name = "portfolio-summary:" ++ ownerId := rfl

def initial : Space → Char
  | projectAcl _ => 'a'
  | ragRetrieval _ => 'r'
  | memoryContext _ => 'm'
  | portfolioSummary _ => 'p'

theorem name_initial (space : Space) : space.name.toList.head? = some space.initial := by
  cases space with
  | projectAcl projectId => rw [name_projectAcl]; simp [initial]
  | ragRetrieval projectId => rw [name_ragRetrieval]; simp [initial]
  | memoryContext projectId => rw [name_memoryContext]; simp [initial]
  | portfolioSummary ownerId => rw [name_portfolioSummary]; simp [initial]

theorem same_rest {tag text text' : String} (same : tag ++ text = tag ++ text') : text = text' :=
  (String.append_right_inj tag).mp same

theorem name_inj {space space' : Space} (same : space.name = space'.name) : space = space' := by
  have initials := congrArg (fun text => text.toList.head?) same
  simp only [name_initial, Option.some.injEq] at initials
  cases space <;> cases space' <;> first
    | exact congrArg _ (same_rest (by assumption))
    | simp [initial] at initials

end Space

def cacheNamespaceGenerationKey (name : String) : String := "cache:generation:" ++ name

def versionedKey (name : String) (generation : Nat) (value : String) : String :=
  "cache:" ++ name ++ ":v" ++ toString generation ++ ":" ++ value

/-- What the getters and setters of the versioned caches are asked for. A retrieval is asked for by its cache
    key, a memory context by the digest of its fingerprint. -/
inductive Entry where
  | projectAcl (projectId : String) (userId : Ident)
  | ragRetrieval (key : String)
  | memoryContext (projectId : Ident) (digest : String)
  | portfolioSummary (ownerId : Ident)
deriving DecidableEq

/-- `parts[3] if len(parts) > 3 else "unknown"` -/
def keyProject (key : String) : String := ((Text.splitColons key)[3]?).getD "unknown"

def keyRest (key : String) : String := Text.joinColons ((Text.splitColons key).drop 4)

def memoryContextCacheKey (projectId digest : String) : String :=
  "cache:memory-context:" ++ projectId ++ ":" ++ digest

def portfolioSummaryCacheKey (ownerId : String) : String := "cache:portfolio:summary:" ++ ownerId

namespace Entry

def space : Entry → Space
  | projectAcl projectId _ => .projectAcl projectId
  | ragRetrieval key => .ragRetrieval (keyProject key)
  | memoryContext projectId _ => .memoryContext projectId.text
  | portfolioSummary ownerId => .portfolioSummary ownerId.text

def value : Entry → String
  | projectAcl _ userId => userId.text
  | ragRetrieval key => keyRest key
  | memoryContext projectId digest => memoryContextCacheKey projectId.text digest
  | portfolioSummary ownerId => portfolioSummaryCacheKey ownerId.text

/-- `_versioned_key` at a generation -/
def key (entry : Entry) (generation : Nat) : String :=
  versionedKey entry.space.name generation entry.value

end Entry

section Injective

variable {a a' b b' : List Char}

theorem split_first (plain : ':' ∉ a) (plain' : ':' ∉ a') (same : a ++ ':' :: b = a' ++ ':' :: b') :
    a = a' ∧ b = b' := by
  induction a generalizing a' with
  | nil =>
    cases a' with
    | nil => simpa using same
    | cons c rest => simp_all
  | cons c rest ih =>
    cases a' with
    | _ => grind

theorem split_last (plain : ':' ∉ b) (plain' : ':' ∉ b') (same : a ++ ':' :: b = a' ++ ':' :: b') :
    a = a' ∧ b = b' := by
  have reversed : b.reverse ++ ':' :: a.reverse = b'.reverse ++ ':' :: a'.reverse := by grind
  have texts := split_first (by simpa using plain) (by simpa using plain') reversed
  simpa [and_comm] using texts

theorem pieces_plain (text : List Char) : ∀ piece ∈ text.splitOn ':', ':' ∉ piece := by
  induction text with
  | nil => simp
  | cons c rest ih =>
    rw [splitOn_cons_eq_if_modifyHead]
    split
    · intro piece member
      rcases mem_cons.mp member with rfl | later
      · simp
      · exact ih piece later
    · rename_i other
      cases pieces : rest.splitOn ':' with
      | nil => simp
      | cons first more =>
        rw [pieces] at ih
        simp only [modifyHead_cons, forall_mem_cons] at ih ⊢
        refine ⟨?_, ih.2⟩
        simp only [mem_cons, not_or]
        exact ⟨fun equal => other (beq_iff_eq.mpr equal.symm), ih.1⟩

theorem toDigits_inj {m n : Nat} (same : Nat.toDigits 10 m = Nat.toDigits 10 n) : m = n := by
  have value := congrArg (fun digits => Nat.ofDigitChars 10 digits 0) same
  simpa only [Nat.ofDigitChars_ten_toDigits] using value

theorem digits_plain (n : Nat) : ':' ∉ 'v' :: Nat.toDigits 10 n := by
  intro member
  rcases mem_cons.mp member with equal | digit
  · exact absurd equal (by decide)
  · exact absurd (Nat.isDigit_of_mem_toDigits (by decide) (by decide) digit) (by decide)

end Injective

theorem versionedKey_toList (name value : String) (generation : Nat) :
    (versionedKey name generation value).toList =
      "cache:".toList ++ (name.toList ++ ':' :: ('v' :: Nat.toDigits 10 generation) ++
        ':' :: value.toList) := by
  simp [versionedKey]

theorem splitColons_plain {text piece : String} (member : piece ∈ Text.splitColons text) :
    ':' ∉ piece.toList := by
  obtain ⟨chars, inside, rfl⟩ := mem_map.mp member
  rw [String.toList_ofList]
  exact pieces_plain text.toList chars inside

theorem keyProject_plain (key : String) : ':' ∉ (keyProject key).toList := by
  unfold keyProject
  cases piece : (Text.splitColons key)[3]? with
  | none => decide
  | some text => exact splitColons_plain (mem_of_getElem? piece)

section Versioned

variable {tag name name' value value' : String} {generation generation' : Nat}

theorem versionedKey_inj_first {id id' : String} (plain : ':' ∉ id.toList) (plain' : ':' ∉ id'.toList)
    (same : versionedKey (tag ++ id) generation value = versionedKey (tag ++ id') generation' value') :
    id = id' ∧ generation = generation' ∧ value = value' := by
  have chars := congrArg String.toList same
  rw [versionedKey_toList, versionedKey_toList, append_cancel_left_eq, String.toList_append,
    String.toList_append] at chars
  simp only [append_assoc, append_cancel_left_eq, cons_append] at chars
  obtain ⟨ids, versions⟩ := split_first plain plain' chars
  obtain ⟨digits, values⟩ := split_first (digits_plain generation) (digits_plain generation') versions
  exact ⟨String.toList_injective ids, toDigits_inj (cons.inj digits).2, String.toList_injective values⟩

theorem versionedKey_inj_last (plain : ':' ∉ value.toList) (plain' : ':' ∉ value'.toList)
    (same : versionedKey name generation value = versionedKey name' generation' value') :
    name = name' ∧ generation = generation' ∧ value = value' := by
  have chars := congrArg String.toList same
  rw [versionedKey_toList, versionedKey_toList, append_cancel_left_eq] at chars
  obtain ⟨versions, values⟩ := split_last plain plain' chars
  obtain ⟨names, digits⟩ := split_last (digits_plain generation) (digits_plain generation') versions
  exact ⟨String.toList_injective names, toDigits_inj (cons.inj digits).2, String.toList_injective values⟩

end Versioned

theorem head_of_append {first rest more : List Char} {letter : Char} (head : first.head? = some letter) :
    (first ++ rest ++ more).head? = some letter := by
  rw [append_assoc, head?_append, head, Option.some_or]

theorem Entry.key_head (entry : Entry) (generation : Nat) :
    ((entry.key generation).toList.drop 6).head? = some entry.space.initial := by
  unfold Entry.key
  rw [versionedKey_toList, drop_left' (by rfl)]
  exact head_of_append entry.space.name_initial

theorem Entry.key_initial {entry entry' : Entry} {generation generation' : Nat}
    (same : entry.key generation = entry'.key generation') : entry.space.initial = entry'.space.initial := by
  have heads := congrArg (fun key => (key.toList.drop 6).head?) same
  simpa only [Entry.key_head, Option.some.injEq] using heads

theorem Entry.key_inj {entry entry' : Entry} {generation generation' : Nat}
    (same : entry.key generation = entry'.key generation') :
    entry.space = entry'.space ∧ entry.value = entry'.value ∧ generation = generation' := by
  have initials := Entry.key_initial same
  cases entry with
  | projectAcl projectId userId =>
    cases entry' with
    | projectAcl projectId' userId' =>
      obtain ⟨names, generations, values⟩ := versionedKey_inj_last userId.plain userId'.plain same
      exact ⟨Space.name_inj names, values, generations⟩
    | ragRetrieval | memoryContext | portfolioSummary => simp [space, Space.initial] at initials
  | ragRetrieval key =>
    cases entry' with
    | ragRetrieval key' =>
      obtain ⟨ids, generations, values⟩ :=
        versionedKey_inj_first (keyProject_plain key) (keyProject_plain key') same
      exact ⟨congrArg Space.ragRetrieval ids, values, generations⟩
    | projectAcl | memoryContext | portfolioSummary => simp [space, Space.initial] at initials
  | memoryContext projectId digest =>
    cases entry' with
    | memoryContext projectId' digest' =>
      obtain ⟨ids, generations, values⟩ := versionedKey_inj_first projectId.plain projectId'.plain same
      exact ⟨congrArg Space.memoryContext ids, values, generations⟩
    | projectAcl | ragRetrieval | portfolioSummary => simp [space, Space.initial] at initials
  | portfolioSummary ownerId =>
    cases entry' with
    | portfolioSummary ownerId' =>
      obtain ⟨ids, generations, values⟩ := versionedKey_inj_first ownerId.plain ownerId'.plain same
      exact ⟨congrArg Space.portfolioSummary ids, values, generations⟩
    | projectAcl | ragRetrieval | memoryContext => simp [space, Space.initial] at initials

theorem generationKey_ne (name : String) (entry : Entry) (generation : Nat) :
    cacheNamespaceGenerationKey name ≠ entry.key generation := by
  intro same
  have heads := congrArg (fun key => (key.toList.drop 6).head?) same
  have counter : ((cacheNamespaceGenerationKey name).toList.drop 6).head? = some 'g' := by
    unfold cacheNamespaceGenerationKey
    simp_all
  simp only [Entry.key_head, counter, Option.some.injEq] at heads
  cases entry <;> simp [Entry.space, Space.initial] at heads

theorem generationKey_inj {space space' : Space}
    (same : cacheNamespaceGenerationKey space.name = cacheNamespaceGenerationKey space'.name) :
    space = space' := by
  exact Space.name_inj (String.append_right_inj _ |>.mp same)

end Troop.Cache
