import Mathlib.Data.List.Induction
import Troop.Cache.Store

namespace Troop.Cache

open List

/-- The calls of the generation-versioned caches. A portfolio summary comes with what its loader would
    return, and `invalidate_project_knowledge_caches` is two calls. -/
inductive Call where
  | get (entry : Entry)
  | setCachedProjectAcl (userId : Ident) (projectId : String) (allowed : Bool)
  | setCachedMemoryContext (projectId : Ident) (digest : String) (sections : Dict String)
  | setCachedRagRetrieval (key : String) (items : List Json)
  | getOrSetPortfolioSummary (ownerId : Ident) (loaded : Json)
  | invalidateProjectAclCache (userId : Ident) (projectId : String)
  | invalidate (space : Space)

section Running

variable (cacheEnabled : Bool)

def Redis.setCached (redis : Redis) (entry : Entry) (payload : entry.Payload) (mark : Nat) : Redis :=
  if cacheEnabled then redis.setex (redis.currentKey entry) (entry.encode payload) mark else redis

def Redis.getCached (redis : Redis) (entry : Entry) : Option (entry.Payload × Nat) :=
  if cacheEnabled then redis.get entry else none

/-- `cache_get_or_set_json`: what is found stays. -/
def Redis.getOrSet (redis : Redis) (entry : Entry) (loaded : entry.Payload) (mark : Nat) : Redis :=
  match redis.getCached cacheEnabled entry with
  | some _ => redis
  | none => redis.setCached cacheEnabled entry loaded mark

def Call.act (redis : Redis) (time : Nat) : Call → Redis
  | get _ => redis
  | setCachedProjectAcl userId projectId allowed =>
    redis.setCached cacheEnabled (.projectAcl projectId userId) allowed time
  | setCachedMemoryContext projectId digest sections =>
    redis.setCached cacheEnabled (.memoryContext projectId digest) sections time
  | setCachedRagRetrieval key items => redis.setCached cacheEnabled (.ragRetrieval key) items time
  | getOrSetPortfolioSummary ownerId loaded =>
    redis.getOrSet cacheEnabled (.portfolioSummary ownerId) loaded time
  | invalidateProjectAclCache userId projectId => redis.delete (redis.currentKey (.projectAcl projectId userId))
  | invalidate space => if cacheEnabled then redis.bumpNamespaceGeneration space else redis

def runFrom (redis : Redis) (time : Nat) : List Call → Redis
  | [] => redis
  | call :: rest => runFrom (call.act cacheEnabled redis time) (time + 1) rest

def run (calls : List Call) : Redis := runFrom cacheEnabled (fun _ => none) 0 calls

/-- After `before` and an invalidation of the namespace, whatever calls follow: what a getter of the namespace
    returns was set after the invalidation. -/
def Invalidated (before : List Call) (space : Space) : Prop :=
  ∀ (after : List Call) (entry : Entry) (found : entry.Payload × Nat), entry.space = space →
    (run cacheEnabled (before ++ .invalidate space :: after)).getCached cacheEnabled entry = some found →
      before.length < found.2

end Running

variable {cacheEnabled : Bool} {redis : Redis} {time : Nat}

theorem runFrom_append (before after : List Call) :
    runFrom cacheEnabled redis time (before ++ after) =
      runFrom cacheEnabled (runFrom cacheEnabled redis time before) (time + before.length) after := by
  induction before generalizing redis time with
  | nil => rfl
  | cons call rest ih =>
    have times : time + (call :: rest).length = time + 1 + rest.length := by grind
    rw [times]
    exact ih

theorem run_append (before after : List Call) :
    run cacheEnabled (before ++ after) = runFrom cacheEnabled (run cacheEnabled before) before.length after := by
  have shifted := @runFrom_append cacheEnabled (fun _ => none) 0 before after
  rwa [Nat.zero_add] at shifted

section Effects

variable {Bumps : Space → Prop}

theorem setCached_effect (entry : Entry) (payload : entry.Payload) :
    Effect (fun _ _ mark => mark = time) Bumps redis (redis.setCached cacheEnabled entry payload time) := by
  cases cacheEnabled with
  | false => exact .none
  | true => exact .write entry _ _ time rfl (Nat.le_refl _)

theorem getOrSet_effect (entry : Entry) (loaded : entry.Payload) :
    Effect (fun _ _ mark => mark = time) Bumps redis (redis.getOrSet cacheEnabled entry loaded time) := by
  unfold Redis.getOrSet
  cases redis.getCached cacheEnabled entry with
  | some found => exact .none
  | none => exact setCached_effect entry loaded

end Effects

theorem Call.act_effect (call : Call) :
    Effect (fun _ _ mark => mark = time) (fun space => call = .invalidate space) redis
      (call.act cacheEnabled redis time) := by
  cases call with
  | get entry => exact .none
  | setCachedProjectAcl | setCachedMemoryContext | setCachedRagRetrieval => exact setCached_effect _ _
  | getOrSetPortfolioSummary ownerId loaded => exact getOrSet_effect _ _
  | invalidateProjectAclCache userId projectId => exact .delete _ _
  | invalidate space =>
    cases cacheEnabled with
    | false => exact .none
    | true => exact .bump space rfl

structure Kept (calls : List Call) (redis : Redis) : Prop where
  sound : redis.Sound
  past : ∀ (entry : Entry) generation found, redis.read entry generation = some found → found.2 < calls.length
  numbered : ∀ space, redis.Numbered space → .invalidate space ∈ calls

variable {space : Space} {calls : List Call} {entry : Entry}

theorem Kept.get_past {found : entry.Payload × Nat} (kept : Kept calls redis)
    (got : redis.getCached true entry = some found) : found.2 < calls.length :=
  kept.past entry _ found got

theorem Kept.step (kept : Kept calls redis) (call : Call) :
    Kept (calls ++ [call]) (call.act cacheEnabled redis calls.length) where
  sound := (Call.act_effect call).sound kept.sound
  past entry generation found got := by
    rw [length_append, length_singleton]
    rcases (Call.act_effect call).read got with had | ⟨_, _, now⟩
    · have earlier := kept.past entry generation found had
      omega
    · omega
  numbered space numbered := by
    rcases (Call.act_effect call).numbered numbered with had | rfl
    · exact mem_append_left _ (kept.numbered space had)
    · simp

theorem Kept.run (calls : List Call) : Kept calls (run cacheEnabled calls) := by
  induction calls using reverseRecOn with
  | nil =>
    exact {
      sound := Redis.Sound.empty
      past := fun entry generation found got => by cases got
      numbered := fun space numbered => absurd rfl numbered }
  | append_singleton before call ih =>
    rw [run_append]
    exact ih.step call

theorem numbered_of_mem (member : .invalidate space ∈ calls) :
    (run true calls).Numbered space := by
  induction calls using reverseRecOn with
  | nil => cases member
  | append_singleton before call ih =>
    rw [run_append]
    rcases mem_append.mp member with earlier | last
    · exact (Call.act_effect call).still_numbered (ih earlier)
    · obtain rfl := mem_singleton.mp last
      exact Redis.incr_ne_none _

theorem runFrom_since (calls : List Call) {bound : Nat} (sound : redis.Sound)
    (since : redis.Since bound space) (later : bound ≤ time) :
    (runFrom cacheEnabled redis time calls).Since bound space := by
  induction calls generalizing redis time with
  | nil => exact since
  | cons call rest ih =>
    have effect := @Call.act_effect cacheEnabled redis time call
    apply ih (effect.sound sound)
    · apply effect.since sound since
      simp_all
    · omega

theorem get_first_bump (absent : ¬ redis.Numbered space)
    (spaces : entry.space = space) : (redis.bumpNamespaceGeneration space).get entry = redis.get entry := by
  subst spaces
  unfold Redis.get
  rw [Redis.namespaceGeneration_first_bump absent, Redis.namespaceGeneration_unnumbered absent, Redis.read_bump]

theorem since_first_bump (sound : redis.Sound) (absent : ¬ redis.Numbered space)
    (nothing : ∀ entry : Entry, entry.space = space → redis.get entry = none) (bound : Nat) :
    (redis.bumpNamespaceGeneration space).Since bound space := by
  intro entry generation found spaces reached got
  rw [Redis.read_bump] at got
  have one := Redis.namespaceGeneration_unnumbered absent
  by_cases current : generation = 1
  · simp_all [Redis.get]
  · rw [Redis.namespaceGeneration_first_bump absent] at reached
    have empty := sound.ahead entry generation (by rw [spaces, one]; omega)
    simp [Redis.read_none empty] at got

theorem invalidation_takes_effect_iff (before : List Call) (space : Space) :
    Invalidated cacheEnabled before space ↔
      .invalidate space ∈ before ∨
        ∀ entry : Entry, entry.space = space → (run cacheEnabled before).getCached cacheEnabled entry = none := by
  have kept := @Kept.run cacheEnabled before
  cases cacheEnabled with
  | false => exact iff_of_true (fun _ _ _ _ got => by cases got) (.inr fun _ _ => rfl)
  | true =>
    have split (after : List Call) : run true (before ++ .invalidate space :: after) =
        runFrom true ((run true before).bumpNamespaceGeneration space) (before.length + 1) after := by
      rw [run_append]
      rfl
    constructor
    · intro invalidated
      by_contra neither
      obtain ⟨never, something⟩ := not_or.mp neither
      obtain ⟨entry, reached⟩ := not_forall.mp something
      obtain ⟨spaces, there⟩ := Classical.not_imp.mp reached
      obtain ⟨found, got⟩ := Option.ne_none_iff_exists'.mp there
      have absent : ¬ (run true before).Numbered space := fun numbered => never (kept.numbered space numbered)
      have stale : (run true (before ++ [.invalidate space])).getCached true entry = some found := by
        rw [split []]
        exact (get_first_bump absent spaces).trans got
      have later := invalidated [] entry found spaces stale
      have earlier := kept.get_past got
      omega
    · intro condition after entry found spaces got
      rw [split after] at got
      subst spaces
      have cleared : ((run true before).bumpNamespaceGeneration entry.space).Since (before.length + 1)
          entry.space := by
        by_cases numbered : (run true before).Numbered entry.space
        · exact kept.sound.since_bump numbered _
        · rcases condition with member | nothing
          · exact absurd (numbered_of_mem member) numbered
          · exact since_first_bump kept.sound numbered nothing _
      exact (runFrom_since after (kept.sound.bump entry.space) cleared (Nat.le_refl _)).get got

theorem first_invalidation_leaves_access :
    ¬ Invalidated true [.setCachedProjectAcl ⟨"u1", by decide⟩ "p1" true] (.projectAcl "p1") := by
  intro invalidated
  have stale : ((run true [.setCachedProjectAcl ⟨"u1", by decide⟩ "p1" true, .invalidate (.projectAcl "p1")]).getCached
      true (.projectAcl "p1" ⟨"u1", by decide⟩)).isSome = true := by decide
  obtain ⟨found, got⟩ := Option.isSome_iff_exists.mp stale
  have later := invalidated [] _ found rfl got
  have earlier := (@Kept.run true _).get_past got
  simp only [length_cons, length_nil] at later earlier
  omega

/-- The call writes this text for this entry, at once or where its getter finds nothing. -/
inductive Stores : Call → Entry → Json → Prop
  | projectAcl (userId : Ident) (projectId : String) (allowed : Bool) : Stores (.setCachedProjectAcl userId projectId allowed)
      (.projectAcl projectId userId) ((Entry.projectAcl projectId userId).encode allowed)
  | memoryContext (projectId : Ident) (digest : String) (sections : Dict String) :
      Stores (.setCachedMemoryContext projectId digest sections) (.memoryContext projectId digest)
        ((Entry.memoryContext projectId digest).encode sections)
  | ragRetrieval (key : String) (items : List Json) : Stores (.setCachedRagRetrieval key items) (.ragRetrieval key)
      ((Entry.ragRetrieval key).encode items)
  | portfolioSummary (ownerId : Ident) (loaded : Json) : Stores (.getOrSetPortfolioSummary ownerId loaded)
      (.portfolioSummary ownerId) ((Entry.portfolioSummary ownerId).encode loaded)

section Stored

variable {generation mark : Nat} {body : Json} {other : Entry}

theorem setCached_text {payload : other.Payload}
    (held : (redis.setCached cacheEnabled other payload time) (entry.key generation) = some (.text body mark)) :
    redis (entry.key generation) = some (.text body mark) ∨
      mark = time ∧ body = other.encode payload ∧ other.space = entry.space ∧ other.value = entry.value := by
  unfold Redis.setCached at held
  split at held
  · by_cases same : entry.key generation = redis.currentKey other
    · obtain ⟨spaces, values, -⟩ := Entry.key_inj same
      rw [Redis.setex, same, Function.update_self] at held
      cases held
      exact .inr ⟨rfl, rfl, spaces.symm, values.symm⟩
    · exact .inl ((Function.update_of_ne same _ _).symm.trans held)
  · exact .inl held

theorem Call.act_text {call : Call}
    (held : (call.act cacheEnabled redis time) (entry.key generation) = some (.text body mark)) :
    redis (entry.key generation) = some (.text body mark) ∨
      mark = time ∧ ∃ other : Entry, Stores call other body ∧ other.space = entry.space ∧ other.value = entry.value := by
  cases call with
  | get => exact .inl held
  | setCachedProjectAcl userId projectId allowed =>
    refine (setCached_text held).imp_right ?_
    rintro ⟨now, rfl, slot⟩
    exact ⟨now, _, .projectAcl userId projectId allowed, slot⟩
  | setCachedMemoryContext projectId digest sections =>
    refine (setCached_text held).imp_right ?_
    rintro ⟨now, rfl, slot⟩
    exact ⟨now, _, .memoryContext projectId digest sections, slot⟩
  | setCachedRagRetrieval key items =>
    refine (setCached_text held).imp_right ?_
    rintro ⟨now, rfl, slot⟩
    exact ⟨now, _, .ragRetrieval key items, slot⟩
  | getOrSetPortfolioSummary ownerId loaded =>
    cases hit : redis.getCached cacheEnabled (.portfolioSummary ownerId) with
    | some _ =>
      simp only [Call.act, Redis.getOrSet, hit] at held
      exact .inl held
    | none =>
      simp only [Call.act, Redis.getOrSet, hit] at held
      refine (setCached_text held).imp_right ?_
      rintro ⟨now, rfl, slot⟩
      exact ⟨now, _, .portfolioSummary ownerId loaded, slot⟩
  | invalidateProjectAclCache userId projectId =>
    by_cases same : entry.key generation = redis.currentKey (.projectAcl projectId userId)
    · rw [Call.act, Redis.delete, same, Function.update_self] at held
      cases held
    · exact .inl ((Function.update_of_ne same _ _).symm.trans held)
  | invalidate space =>
    dsimp only [Call.act] at held
    split at held
    · rw [Redis.bump_entry] at held
      exact .inl held
    · exact .inl held

theorem run_text (calls : List Call) (held : (run cacheEnabled calls) (entry.key generation) = some (.text body mark)) :
    ∃ call other, calls[mark]? = some call ∧ Stores call other body ∧ other.space = entry.space ∧ other.value = entry.value := by
  induction calls using reverseRecOn with
  | nil => cases held
  | append_singleton before call ih =>
    rw [run_append] at held
    rcases call.act_text held with had | ⟨rfl, other, stored⟩
    · obtain ⟨earlier, other, there, stored⟩ := ih had
      refine ⟨earlier, other, ?_, stored⟩
      rw [getElem?_append_left (List.getElem?_eq_some_iff.mp there).1, there]
    · exact ⟨call, other, getElem?_concat_length, stored⟩

end Stored

/-- Whatever calls were made, a getter returns what the call at the mark stored for the very namespace and value it asks for, or nothing. -/
theorem getters_return_stored (calls : List Call) (entry : Entry) {found : entry.Payload × Nat}
    (got : (run cacheEnabled calls).getCached cacheEnabled entry = some found) :
    ∃ call other body, calls[found.2]? = some call ∧ Stores call other body ∧ other.space = entry.space ∧
      other.value = entry.value ∧ entry.decode body = some found.1 := by
  unfold Redis.getCached at got
  split at got
  · unfold Redis.get Redis.read at got
    split at got
    · rename_i body mark held
      obtain ⟨payload, decoded, rfl⟩ := Option.map_eq_some_iff.mp got
      obtain ⟨call, other, there, stored, spaces, values⟩ := run_text calls held
      exact ⟨call, other, body, there, stored, spaces, values, decoded⟩
    · cases got
  · cases got

theorem access_returned_stored : ∃ call other body,
    [Call.setCachedProjectAcl ⟨"u1", by decide⟩ "p1" true][0]? = some call ∧ Stores call other body ∧
      other.space = .projectAcl "p1" ∧ other.value = (Entry.projectAcl "p1" ⟨"u1", by decide⟩).value ∧
      (Entry.projectAcl "p1" ⟨"u1", by decide⟩).decode body = some true :=
  @getters_return_stored true [.setCachedProjectAcl ⟨"u1", by decide⟩ "p1" true]
    (.projectAcl "p1" ⟨"u1", by decide⟩) (true, 0) rfl

end Troop.Cache
