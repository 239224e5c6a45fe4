import Mathlib.Logic.Function.Basic
import Troop.Python.Json
import Troop.Cache.Keys

namespace Troop.Cache

open Function (update_of_ne update_self)

inductive Raw where
  | count (n : Nat)
  | text (body : Json) (mark : Nat)
deriving DecidableEq

abbrev Redis := String → Option Raw

namespace Redis

variable (redis : Redis)

def setex (key : String) (body : Json) (mark : Nat) : Redis :=
  Function.update redis key (some (.text body mark))

def delete (key : String) : Redis := Function.update redis key none

/-- `INCR`: an absent counter becomes 1, and a text is an error that the caller logs. -/
def incr (key : String) : Redis :=
  match redis key with
  | none => Function.update redis key (some (.count 1))
  | some (.count n) => Function.update redis key (some (.count (n + 1)))
  | some (.text _ _) => redis

def namespaceGeneration (space : Space) : Nat :=
  match redis (cacheNamespaceGenerationKey space.name) with
  | some (.count n) => max 1 n
  | _ => 1

/-- `_versioned_key` -/
def currentKey (entry : Entry) : String := entry.key (redis.namespaceGeneration entry.space)

/-- `_bump_namespace_generation`, with the cache enabled -/
def bumpNamespaceGeneration (space : Space) : Redis := redis.incr (cacheNamespaceGenerationKey space.name)

def Numbered (space : Space) : Prop := redis (cacheNamespaceGenerationKey space.name) ≠ none

end Redis

def negativeCacheMarker : Json := .obj [("__troop_cache_state__", .str "negative")]

/-- What the setter of an entry is given and its getter returns: whether access is allowed, matches,
    sections, or a summary, which is null for `None`. -/
def Entry.Payload : Entry → Type
  | projectAcl _ _ => Bool
  | ragRetrieval _ => List Json
  | memoryContext _ _ => Dict String
  | portfolioSummary _ => Json

def Entry.encode : (entry : Entry) → entry.Payload → Json
  | projectAcl _ _, (allowed : Bool) => .str (if allowed then "1" else "0")
  | ragRetrieval _, (items : List Json) => .arr items
  | memoryContext _ _, (sections : Dict String) => .obj (sections.map fun (name, text) => (name, .str text))
  | portfolioSummary _, (value : Json) => if value = .null then negativeCacheMarker else value

def Entry.decode : (entry : Entry) → Json → Option entry.Payload
  | projectAcl _ _, body => some (decide (body = .str "1") : Bool)
  | ragRetrieval _, body =>
    match body with
    | .arr items => some items
    | _ => none
  | memoryContext _ _, body =>
    if body = negativeCacheMarker then none
    else body.asObj?.map fun members => members.map fun (name, value) => (name, value.pyStr)
  | portfolioSummary _, body => some (if body = negativeCacheMarker then .null else body : Json)

def Redis.read (redis : Redis) (entry : Entry) (generation : Nat) : Option (entry.Payload × Nat) :=
  match redis (entry.key generation) with
  | some (.text body mark) => (entry.decode body).map (·, mark)
  | _ => none

def Redis.get (redis : Redis) (entry : Entry) : Option (entry.Payload × Nat) :=
  redis.read entry (redis.namespaceGeneration entry.space)

inductive Effect (Writes : Entry → Nat → Nat → Prop) (Bumps : Space → Prop) (redis : Redis) : Redis → Prop where
  | none : Effect Writes Bumps redis redis
  | write (entry : Entry) (generation : Nat) (body : Json) (mark : Nat)
      (written : Writes entry generation mark)
      (reached : generation ≤ redis.namespaceGeneration entry.space) :
      Effect Writes Bumps redis (redis.setex (entry.key generation) body mark)
  | delete (entry : Entry) (generation : Nat) :
      Effect Writes Bumps redis (redis.delete (entry.key generation))
  | bump (space : Space) (bumped : Bumps space) :
      Effect Writes Bumps redis (redis.bumpNamespaceGeneration space)

namespace Redis

variable {redis : Redis} {space : Space} {entry : Entry} {generation : Nat}

@[simp] theorem namespaceGeneration_setex {body : Json} {mark : Nat} :
    (redis.setex (entry.key generation) body mark).namespaceGeneration space =
      redis.namespaceGeneration space := by
  unfold namespaceGeneration setex
  rw [update_of_ne (generationKey_ne space.name entry generation)]

@[simp] theorem namespaceGeneration_delete :
    (redis.delete (entry.key generation)).namespaceGeneration space = redis.namespaceGeneration space := by
  unfold namespaceGeneration delete
  rw [update_of_ne (generationKey_ne space.name entry generation)]

theorem incr_of_ne {key other : String} (apart : other ≠ key) : (redis.incr key) other = redis other := by
  unfold incr
  cases found : redis key with
  | none => exact update_of_ne apart _ _
  | some raw =>
    cases raw with
    | count n => exact update_of_ne apart _ _
    | text body mark => rfl

theorem incr_ne_none (key : String) : (redis.incr key) key ≠ none := by
  unfold incr
  cases found : redis key with
  | none => simp
  | some raw =>
    cases raw with
    | count n => simp
    | text body mark => simp [found]

theorem bump_entry (space : Space) (entry : Entry) (generation : Nat) :
    (redis.bumpNamespaceGeneration space) (entry.key generation) = redis (entry.key generation) := by
  exact incr_of_ne (generationKey_ne space.name entry generation).symm

theorem namespaceGeneration_bump_of_ne {other : Space} (apart : other ≠ space) :
    (redis.bumpNamespaceGeneration space).namespaceGeneration other = redis.namespaceGeneration other := by
  have keys : cacheNamespaceGenerationKey other.name ≠ cacheNamespaceGenerationKey space.name :=
    fun same => apart (generationKey_inj same)
  have kept : (redis.bumpNamespaceGeneration space) (cacheNamespaceGenerationKey other.name) =
      redis (cacheNamespaceGenerationKey other.name) := incr_of_ne keys
  unfold namespaceGeneration
  rw [kept]

theorem namespaceGeneration_unnumbered (absent : ¬ redis.Numbered space) :
    redis.namespaceGeneration space = 1 := by
  unfold namespaceGeneration
  rw [not_not.mp absent]

theorem namespaceGeneration_first_bump (absent : ¬ redis.Numbered space) :
    (redis.bumpNamespaceGeneration space).namespaceGeneration space = 1 := by
  unfold Numbered at absent
  unfold namespaceGeneration bumpNamespaceGeneration incr
  simp_all

structure Sound (redis : Redis) : Prop where
  counts : ∀ space, redis.Numbered space →
    ∃ n, redis (cacheNamespaceGenerationKey space.name) = some (.count (n + 1))
  ahead : ∀ (entry : Entry) generation, redis.namespaceGeneration entry.space < generation →
    redis (entry.key generation) = none

theorem Sound.empty : Sound fun _ => none where
  counts _ numbered := absurd rfl numbered
  ahead _ _ _ := rfl

theorem namespaceGeneration_bump (sound : redis.Sound) (numbered : redis.Numbered space) :
    (redis.bumpNamespaceGeneration space).namespaceGeneration space =
      redis.namespaceGeneration space + 1 := by
  obtain ⟨n, held⟩ := sound.counts space numbered
  unfold namespaceGeneration bumpNamespaceGeneration incr
  simp_all

theorem namespaceGeneration_bump_le (sound : redis.Sound) (other : Space) :
    redis.namespaceGeneration other ≤ (redis.bumpNamespaceGeneration space).namespaceGeneration other := by
  by_cases same : other = space
  · subst same
    by_cases numbered : redis.Numbered other
    · rw [namespaceGeneration_bump sound numbered]
      omega
    · have before := namespaceGeneration_unnumbered numbered
      have after := namespaceGeneration_first_bump numbered
      omega
  · exact Nat.le_of_eq (namespaceGeneration_bump_of_ne same).symm

theorem Sound.bump (sound : redis.Sound) (space : Space) : (redis.bumpNamespaceGeneration space).Sound where
  counts other numbered := by
    by_cases same : other = space
    · subst same
      unfold bumpNamespaceGeneration incr
      by_cases had : redis.Numbered other
      · obtain ⟨n, held⟩ := sound.counts other had
        exact ⟨n + 1, by simp [held]⟩
      · exact ⟨0, by simp [not_not.mp had]⟩
    · have keys : cacheNamespaceGenerationKey other.name ≠ cacheNamespaceGenerationKey space.name :=
        fun equal => same (generationKey_inj equal)
      unfold Numbered bumpNamespaceGeneration at numbered
      unfold bumpNamespaceGeneration
      rw [incr_of_ne keys] at numbered ⊢
      exact sound.counts other numbered
  ahead entry generation behind := by
    have grown : redis.namespaceGeneration entry.space ≤
        (redis.bumpNamespaceGeneration space).namespaceGeneration entry.space :=
      namespaceGeneration_bump_le sound entry.space
    rw [bump_entry]
    exact sound.ahead entry generation (by omega)

theorem numbered_entry_update (entry : Entry) (generation : Nat) (raw : Option Raw) :
    (Function.update redis (entry.key generation) raw : Redis) (cacheNamespaceGenerationKey space.name) =
      redis (cacheNamespaceGenerationKey space.name) :=
  update_of_ne (generationKey_ne space.name entry generation) _ _

theorem Sound.setex (sound : redis.Sound) (entry : Entry) (generation : Nat) (body : Json) (mark : Nat)
    (reached : generation ≤ redis.namespaceGeneration entry.space) :
    (redis.setex (entry.key generation) body mark).Sound where
  counts space numbered := by
    unfold Numbered Redis.setex at numbered
    unfold Redis.setex
    rw [numbered_entry_update] at numbered ⊢
    exact sound.counts space numbered
  ahead other ahead behind := by
    rw [namespaceGeneration_setex] at behind
    have apart : other.key ahead ≠ entry.key generation := by grind [Entry.key_inj]
    exact (update_of_ne apart _ _).trans (sound.ahead other ahead behind)

theorem Sound.delete (sound : redis.Sound) (entry : Entry) (generation : Nat) :
    (redis.delete (entry.key generation)).Sound where
  counts space numbered := by
    unfold Numbered Redis.delete at numbered
    unfold Redis.delete
    rw [numbered_entry_update] at numbered ⊢
    exact sound.counts space numbered
  ahead other ahead behind := by
    rw [namespaceGeneration_delete] at behind
    by_cases same : other.key ahead = entry.key generation
    · unfold Redis.delete
      rw [same, update_self]
    · exact (update_of_ne same _ _).trans (sound.ahead other ahead behind)

end Redis

theorem Redis.read_of_text {redis : Redis} {entry : Entry} {generation : Nat} {body : Json} {mark : Nat}
    {found : entry.Payload × Nat} (held : redis (entry.key generation) = some (.text body mark))
    (got : redis.read entry generation = some found) : found.2 = mark := by
  unfold Redis.read at got
  simp only [held] at got
  obtain ⟨payload, -, rfl⟩ := Option.map_eq_some_iff.mp got
  rfl

theorem Redis.read_congr {redis redis' : Redis} {entry : Entry} {generation : Nat}
    (kept : redis' (entry.key generation) = redis (entry.key generation)) :
    redis'.read entry generation = redis.read entry generation := by
  unfold Redis.read
  rw [kept]

theorem Redis.read_none {redis : Redis} {entry : Entry} {generation : Nat}
    (empty : redis (entry.key generation) = none) : redis.read entry generation = none := by
  unfold Redis.read
  rw [empty]

theorem Redis.read_bump {redis : Redis} (space : Space) (entry : Entry) (generation : Nat) :
    (redis.bumpNamespaceGeneration space).read entry generation = redis.read entry generation :=
  read_congr (bump_entry space entry generation)

theorem Redis.read_setex_of_ne {redis : Redis} {entry : Entry} {generation : Nat} {key : String} {body : Json}
    {mark : Nat} (apart : entry.key generation ≠ key) :
    (redis.setex key body mark).read entry generation = redis.read entry generation :=
  read_congr (update_of_ne apart _ _)

theorem Redis.read_delete_of_ne {redis : Redis} {entry : Entry} {generation : Nat} {key : String}
    (apart : entry.key generation ≠ key) :
    (redis.delete key).read entry generation = redis.read entry generation :=
  read_congr (update_of_ne apart _ _)

/-- What can be read of a namespace now, or in a generation to come, has a mark of at least `bound`. -/
def Redis.Since (bound : Nat) (space : Space) (redis : Redis) : Prop :=
  ∀ (entry : Entry) generation found, entry.space = space → redis.namespaceGeneration space ≤ generation →
    redis.read entry generation = some found → bound ≤ found.2

theorem Redis.Sound.since_bump {redis : Redis} {space : Space} (sound : redis.Sound)
    (numbered : redis.Numbered space) (bound : Nat) :
    (redis.bumpNamespaceGeneration space).Since bound space := by
  intro entry generation found spaces reached got
  rw [namespaceGeneration_bump sound numbered] at reached
  have empty := sound.ahead entry generation (by rw [spaces]; omega)
  simp [read_bump, read_none empty] at got

theorem Redis.Since.get {redis : Redis} {bound : Nat} {entry : Entry} {found : entry.Payload × Nat}
    (since : redis.Since bound entry.space) (got : redis.get entry = some found) : bound ≤ found.2 :=
  since entry _ found rfl (Nat.le_refl _) got

namespace Effect

variable {redis redis' : Redis} {Writes : Entry → Nat → Nat → Prop} {Bumps : Space → Prop}

theorem sound (effect : Effect Writes Bumps redis redis') (sound : redis.Sound) : redis'.Sound := by
  cases effect with
  | none => exact sound
  | write entry generation body mark written reached =>
    exact sound.setex entry generation body mark reached
  | delete entry generation => exact sound.delete entry generation
  | bump space => exact sound.bump space

theorem generation_le (effect : Effect Writes Bumps redis redis') (sound : redis.Sound) (space : Space) :
    redis.namespaceGeneration space ≤ redis'.namespaceGeneration space := by
  cases effect with
  | none => exact Nat.le_refl _
  | write => exact Nat.le_of_eq Redis.namespaceGeneration_setex.symm
  | delete => exact Nat.le_of_eq Redis.namespaceGeneration_delete.symm
  | bump other => exact Redis.namespaceGeneration_bump_le sound space

theorem numbered (effect : Effect Writes Bumps redis redis') {space : Space}
    (numbered : redis'.Numbered space) : redis.Numbered space ∨ Bumps space := by
  cases effect with
  | none => exact .inl numbered
  | write entry generation =>
    unfold Redis.Numbered Redis.setex at numbered
    rw [Redis.numbered_entry_update] at numbered
    exact .inl numbered
  | delete entry generation =>
    unfold Redis.Numbered Redis.delete at numbered
    rw [Redis.numbered_entry_update] at numbered
    exact .inl numbered
  | bump other bumped =>
    by_cases same : space = other
    · simp_all
    · unfold Redis.Numbered Redis.bumpNamespaceGeneration at numbered
      rw [Redis.incr_of_ne fun equal => same (generationKey_inj equal)] at numbered
      exact .inl numbered

theorem still_numbered (effect : Effect Writes Bumps redis redis') {space : Space}
    (numbered : redis.Numbered space) : redis'.Numbered space := by
  cases effect with
  | none => exact numbered
  | write entry generation =>
    unfold Redis.Numbered Redis.setex
    rwa [Redis.numbered_entry_update]
  | delete entry generation =>
    unfold Redis.Numbered Redis.delete
    rwa [Redis.numbered_entry_update]
  | bump other =>
    by_cases same : space = other
    · subst same
      exact Redis.incr_ne_none _
    · unfold Redis.Numbered Redis.bumpNamespaceGeneration
      rwa [Redis.incr_of_ne fun equal => same (generationKey_inj equal)]

theorem read (effect : Effect Writes Bumps redis redis') {entry : Entry} {generation : Nat}
    {found : entry.Payload × Nat} (got : redis'.read entry generation = some found) :
    redis.read entry generation = some found ∨
      ∃ written : Entry, written.space = entry.space ∧ Writes written generation found.2 := by
  cases effect with
  | none => exact .inl got
  | write entry' generation' body' mark' wrote _ =>
    by_cases same : entry.key generation = entry'.key generation'
    · obtain ⟨spaces, _, rfl⟩ := Entry.key_inj same
      have held : (redis.setex (entry'.key generation) body' mark') (entry.key generation) =
          some (.text body' mark') := by
        rw [same]
        exact update_self _ _ _
      rw [Redis.read_of_text held got]
      exact .inr ⟨entry', spaces.symm, wrote⟩
    · rw [Redis.read_setex_of_ne same] at got
      exact .inl got
  | delete entry' generation' =>
    by_cases same : entry.key generation = entry'.key generation'
    · have empty : (redis.delete (entry'.key generation')) (entry.key generation) = Option.none := by
        rw [same]
        exact update_self _ _ _
      simp [Redis.read_none empty] at got
    · rw [Redis.read_delete_of_ne same] at got
      exact .inl got
  | bump other =>
    rw [Redis.read_bump] at got
    exact .inl got

theorem since (effect : Effect Writes Bumps redis redis') (sound : redis.Sound) {bound : Nat} {space : Space}
    (since : redis.Since bound space)
    (written : ∀ entry generation mark, Writes entry generation mark → entry.space = space →
      redis.namespaceGeneration space ≤ generation → bound ≤ mark) : redis'.Since bound space := by
  intro entry generation found spaces reached got
  have before := Nat.le_trans (effect.generation_le sound space) reached
  rcases effect.read got with had | ⟨entry', spaces', wrote⟩
  · exact since entry generation found spaces before had
  · exact written entry' generation found.2 wrote (spaces'.trans spaces) before

end Effect

end Troop.Cache
