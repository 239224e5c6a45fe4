import Troop.Cache.Store
import Troop.Systems.Runs

namespace Troop.Cache

open List

inductive Fill where
  /-- The getter has looked up the generation. -/
  | asked (entry : Entry) (generation : Nat)
  | missed (entry : Entry) (generation : Nat)
  /-- The database has answered, and the setter is to be called. -/
  | loaded (entry : Entry) (payload : entry.Payload) (mark : Nat)
  /-- The key to write is made. -/
  | writing (entry : Entry) (generation : Nat) (payload : entry.Payload) (mark : Nat)

/-- The cache, the data, and the processes that fill the one and change the other. A version counts the commits,
    and what is loaded is marked with it. A writer owes the invalidation of its namespace from its commit on. -/
structure World where
  redis : Redis
  data : (entry : Entry) → entry.Payload
  version : Nat
  fills : Nat → Option Fill
  owed : List (Space × Nat)
  done : List (Space × Nat)

inductive Action where
  | ask (i : Nat) (entry : Entry)
  | look (i : Nat)
  | recheck (i : Nat)
  | load (i : Nat)
  | name (i : Nat)
  | write (i : Nat)
  | commit (space : Space) (data : (entry : Entry) → entry.Payload)
  | invalidate (space : Space) (version : Nat)

namespace World

variable (w : World)

def put (i : Nat) (fill : Option Fill) : World := { w with fills := Function.update w.fills i fill }

/-- What follows an answer of the database: `cache_get_or_set_json` has its key, the setters look up the
    generation once more. -/
def load (entry : Entry) (generation : Nat) : Fill :=
  match entry with
  | .portfolioSummary ownerId =>
    .writing (.portfolioSummary ownerId) generation (w.data (.portfolioSummary ownerId)) w.version
  | entry => .loaded entry (w.data entry) w.version

/-- The look again under the single-flight lock: `cache_get_or_set_json` looks under the key it has, `retrieve`
    looks up the generation, and the others do not look. -/
def recheck (entry : Entry) (generation : Nat) : Fill :=
  match entry with
  | .portfolioSummary ownerId => .asked (.portfolioSummary ownerId) generation
  | .ragRetrieval key => .asked (.ragRetrieval key) (w.redis.namespaceGeneration (Entry.ragRetrieval key).space)
  | entry => .missed entry generation

def step : Action → Option World
  | .ask i entry =>
    match w.fills i with
    | none => some (w.put i (some (.asked entry (w.redis.namespaceGeneration entry.space))))
    | some _ => none
  | .look i =>
    match w.fills i with
    | some (.asked entry generation) =>
      match w.redis.read entry generation with
      | some _ => some (w.put i none)
      | none => some (w.put i (some (.missed entry generation)))
    | _ => none
  | .recheck i =>
    match w.fills i with
    | some (.missed entry generation) => some (w.put i (some (w.recheck entry generation)))
    | _ => none
  | .load i =>
    match w.fills i with
    | some (.missed entry generation) => some (w.put i (some (w.load entry generation)))
    | _ => none
  | .name i =>
    match w.fills i with
    | some (.loaded entry payload mark) =>
      some (w.put i (some (.writing entry (w.redis.namespaceGeneration entry.space) payload mark)))
    | _ => none
  | .write i =>
    match w.fills i with
    | some (.writing entry generation payload mark) =>
      some { w.put i none with redis := w.redis.setex (entry.key generation) (entry.encode payload) mark }
    | _ => none
  | .commit space data =>
    some { w with data := data, version := w.version + 1, owed := (space, w.version + 1) :: w.owed }
  | .invalidate space version =>
    if (space, version) ∈ w.owed then
      some { w with
        redis := w.redis.bumpNamespaceGeneration space
        owed := w.owed.erase (space, version)
        done := (space, version) :: w.done }
    else none

def NoneStale : Prop :=
  ∀ space version (entry : Entry) found, (space, version) ∈ w.done → entry.space = space →
    w.redis.get entry = some found → version ≤ found.2

def Stale (space : Space) (version : Nat) : Prop :=
  (∃ (entry : Entry) (found : entry.Payload × Nat),
    entry.space = space ∧ w.redis.get entry = some found ∧ found.2 < version) ∨
  ∃ i entry generation payload mark,
    w.fills i = some (.writing entry generation payload mark) ∧ entry.space = space ∧ mark < version

/-- A setter looks up the generation while no commit made since its load has been followed by an invalidation,
    and a namespace is not invalidated for the first time over something stale. -/
def Careful : Action → Prop
  | .name i => ∀ entry payload mark version, w.fills i = some (.loaded entry payload mark) →
      (entry.space, version) ∈ w.done → version ≤ mark
  | .invalidate space version => w.redis.Numbered space ∨ ¬ w.Stale space version
  | _ => True

end World

def World.initial (data : (entry : Entry) → entry.Payload) : World where
  redis _ := none
  data := data
  version := 0
  fills _ := none
  owed := []
  done := []

/-- A fill is not ahead of the generation, and what it is to write where it can be read is not stale. -/
def Fill.Fits (redis : Redis) (done : List (Space × Nat)) : Fill → Prop
  | asked entry generation | missed entry generation => generation ≤ redis.namespaceGeneration entry.space
  | loaded _ _ _ => True
  | writing entry generation _ mark =>
    generation ≤ redis.namespaceGeneration entry.space ∧
      ∀ version, (entry.space, version) ∈ done → redis.namespaceGeneration entry.space ≤ generation →
        version ≤ mark

theorem Fill.Fits.congr {redis redis' : Redis} {done : List (Space × Nat)} {fill : Fill} (fits : fill.Fits redis done)
    (same : ∀ {space}, redis'.namespaceGeneration space = redis.namespaceGeneration space) :
    fill.Fits redis' done := by
  cases fill with
  | asked | missed => exact Nat.le_trans fits (Nat.le_of_eq same.symm)
  | loaded => trivial
  | writing entry generation payload mark =>
    refine ⟨Nat.le_trans fits.1 (Nat.le_of_eq same.symm), ?_⟩
    intro version invalidated current
    exact fits.2 version invalidated (Nat.le_trans (Nat.le_of_eq same.symm) current)

structure World.Orderly (w : World) : Prop where
  sound : w.redis.Sound
  committed : ∀ space version, (space, version) ∈ w.owed ++ w.done → version ≤ w.version
  since : ∀ space version, (space, version) ∈ w.done → w.redis.Since version space
  fits : ∀ i fill, w.fills i = some fill → fill.Fits w.redis w.done

namespace World.Orderly

variable {w : World}

theorem initial (data : (entry : Entry) → entry.Payload) : (World.initial data).Orderly where
  sound := Redis.Sound.empty
  committed _ _ member := by cases member
  since _ _ member := by cases member
  fits _ _ held := by cases held

theorem noneStale (orderly : w.Orderly) : w.NoneStale := by
  intro space version entry found invalidated spaces got
  subst spaces
  exact (orderly.since entry.space version invalidated).get got

theorem put (orderly : w.Orderly) (i : Nat) {fill : Option Fill}
    (fits : ∀ now, fill = some now → now.Fits w.redis w.done) : (w.put i fill).Orderly where
  sound := orderly.sound
  committed := orderly.committed
  since := orderly.since
  fits j now held := by
    dsimp only [World.put] at held
    by_cases same : j = i
    · subst same
      rw [Function.update_self] at held
      exact fits now held
    · rw [Function.update_of_ne same] at held
      exact orderly.fits j now held

variable {entry : Entry} {space : Space} {version : Nat} {generation : Nat} {i : Nat}

theorem load (orderly : w.Orderly) (fits : (Fill.missed entry generation).Fits w.redis w.done) :
    (w.load entry generation).Fits w.redis w.done := by
  cases entry with
  | portfolioSummary ownerId =>
    refine ⟨fits, ?_⟩
    intro version invalidated _
    exact orderly.committed _ version (mem_append_right _ invalidated)
  | projectAcl | ragRetrieval | memoryContext => trivial

theorem recheck (fits : (Fill.missed entry generation).Fits w.redis w.done) :
    (w.recheck entry generation).Fits w.redis w.done := by
  cases entry with
  | ragRetrieval key => exact Nat.le_refl _
  | projectAcl | memoryContext | portfolioSummary => exact fits

theorem write (orderly : w.Orderly) {generation mark : Nat} {payload : entry.Payload}
    (held : w.fills i = some (.writing entry generation payload mark)) :
    { w.put i none with redis := w.redis.setex (entry.key generation) (entry.encode payload) mark }.Orderly := by
  obtain ⟨reached, fresh⟩ := orderly.fits i _ held
  have rest : (w.put i none).Orderly := orderly.put i (by rintro now ⟨⟩)
  have effect : Effect (fun e g m => e = entry ∧ g = generation ∧ m = mark) (fun _ => False) w.redis
      (w.redis.setex (entry.key generation) (entry.encode payload) mark) :=
    .write entry generation _ mark ⟨rfl, rfl, rfl⟩ reached
  exact {
    sound := effect.sound orderly.sound
    committed := rest.committed
    since := by
      intro space version invalidated
      apply effect.since orderly.sound (orderly.since space version invalidated)
      rintro _ _ _ ⟨rfl, rfl, rfl⟩ rfl current
      exact fresh version invalidated current
    fits := fun j fill there => (rest.fits j fill there).congr Redis.namespaceGeneration_setex }

theorem fits_invalidate (orderly : w.Orderly) (careful : w.redis.Numbered space ∨ ¬ w.Stale space version) {fill : Fill}
    (held : w.fills i = some fill) :
    fill.Fits (w.redis.bumpNamespaceGeneration space) ((space, version) :: w.done) := by
  have fits := orderly.fits i fill held
  have grown : ∀ other, w.redis.namespaceGeneration other ≤
      (w.redis.bumpNamespaceGeneration space).namespaceGeneration other :=
    Redis.namespaceGeneration_bump_le orderly.sound
  cases fill with
  | asked entry generation => exact Nat.le_trans fits (grown entry.space)
  | missed entry generation => exact Nat.le_trans fits (grown entry.space)
  | loaded entry payload mark => trivial
  | writing entry generation payload mark =>
    obtain ⟨reached, fresh⟩ := fits
    refine ⟨Nat.le_trans reached (grown entry.space), ?_⟩
    intro version' invalidated current
    by_cases same : entry.space = space
    · by_cases numbered : w.redis.Numbered space
      · have next := Redis.namespaceGeneration_bump orderly.sound numbered
        rw [same] at reached current
        omega
      · rcases mem_cons.mp invalidated with new | old
        · have current' : version' = version := (Prod.mk.inj new).2
          by_contra older
          have stale : w.Stale space version :=
            .inr ⟨i, entry, generation, payload, mark, held, same, by omega⟩
          exact (careful.resolve_left numbered) stale
        · exact fresh version' old (Nat.le_trans (grown entry.space) current)
    · rcases mem_cons.mp invalidated with new | old
      · exact absurd (Prod.mk.inj new).1 same
      · exact fresh version' old (Nat.le_trans (grown entry.space) current)

theorem since_invalidate (orderly : w.Orderly) (careful : w.redis.Numbered space ∨ ¬ w.Stale space version) :
    (w.redis.bumpNamespaceGeneration space).Since version space := by
  by_cases numbered : w.redis.Numbered space
  · exact orderly.sound.since_bump numbered version
  have clean := careful.resolve_left numbered
  have one := Redis.namespaceGeneration_unnumbered numbered
  intro entry generation found spaces reached got
  rw [Redis.read_bump] at got
  by_contra older
  by_cases current : generation = 1
  · have readable : w.redis.get entry = some found := by
      unfold Redis.get
      rwa [spaces, one, ← current]
    exact clean (.inl ⟨entry, found, spaces, readable, by omega⟩)
  · rw [Redis.namespaceGeneration_first_bump numbered] at reached
    have empty := orderly.sound.ahead entry generation (by rw [spaces, one]; omega)
    simp [Redis.read_none empty] at got

theorem invalidate (orderly : w.Orderly) (owed : (space, version) ∈ w.owed)
    (careful : w.redis.Numbered space ∨ ¬ w.Stale space version) :
    { w with
      redis := w.redis.bumpNamespaceGeneration space
      owed := w.owed.erase (space, version)
      done := (space, version) :: w.done }.Orderly where
  sound := orderly.sound.bump space
  committed := by
    intro other version' member
    apply orderly.committed other version'
    rcases mem_append.mp member with still | finished
    · exact mem_append_left _ (mem_of_mem_erase still)
    · rcases mem_cons.mp finished with new | old
      · simp_all
      · exact mem_append_right _ old
  since := by
    intro other version' invalidated
    rcases mem_cons.mp invalidated with new | old
    · cases new
      exact orderly.since_invalidate careful
    · have effect : Effect (fun _ _ _ => False) (fun bumped => bumped = space) w.redis
          (w.redis.bumpNamespaceGeneration space) := .bump space rfl
      exact effect.since orderly.sound (orderly.since other version' old) (fun _ _ _ never => never.elim)
  fits := fun _ _ held => orderly.fits_invalidate careful held

theorem step (orderly : w.Orderly) {after : World} {action : Action} (careful : w.Careful action)
    (stepped : w.step action = some after) : after.Orderly := by
  cases action with
  | ask i entry =>
    simp only [World.step] at stepped
    split at stepped
    · cases stepped
      exact orderly.put i (by rintro now ⟨⟩; exact Nat.le_refl _)
    · cases stepped
  | look i =>
    simp only [World.step] at stepped
    split at stepped
    · rename_i held
      split at stepped
      · cases stepped
        exact orderly.put i (by rintro now ⟨⟩)
      · cases stepped
        have fits := orderly.fits i _ held
        exact orderly.put i (by rintro now ⟨⟩; exact fits)
    · cases stepped
  | recheck i =>
    simp only [World.step] at stepped
    split at stepped
    · rename_i held
      cases stepped
      exact orderly.put i (by rintro now ⟨⟩; exact recheck (orderly.fits i _ held))
    · cases stepped
  | load i =>
    simp only [World.step] at stepped
    split at stepped
    · rename_i held
      cases stepped
      exact orderly.put i (by rintro now ⟨⟩; exact orderly.load (orderly.fits i _ held))
    · cases stepped
  | name i =>
    simp only [World.step] at stepped
    split at stepped
    · rename_i entry payload mark held
      cases stepped
      apply orderly.put i
      rintro now ⟨⟩
      refine ⟨Nat.le_refl _, ?_⟩
      intro version invalidated _
      exact careful entry payload mark version held invalidated
    · cases stepped
  | write i =>
    simp only [World.step] at stepped
    split at stepped
    · rename_i held
      cases stepped
      exact orderly.write held
    · cases stepped
  | commit space data =>
    cases stepped
    exact {
      sound := orderly.sound
      committed := by
        intro other version member
        rcases mem_cons.mp member with new | old
        · simp_all
        · exact Nat.le_succ_of_le (orderly.committed other version old)
      since := orderly.since
      fits := orderly.fits }
  | invalidate space version =>
    simp only [World.step] at stepped
    split at stepped
    · rename_i owed
      cases stepped
      exact orderly.invalidate owed careful
    · cases stepped

end World.Orderly

/-- Whatever the fills and the writers do in whatever order. -/
theorem no_stale_fill {data : (entry : Entry) → entry.Payload} {w : World}
    (reached : Systems.Reaches World.step World.Careful (World.initial data) w) : w.NoneStale := by
  have orderly : w.Orderly :=
    reached.invariant (World.Orderly.initial data) fun orderly careful stepped => orderly.step careful stepped
  exact orderly.noneStale

section Runs

def answers (allowed : Bool) : (entry : Entry) → entry.Payload
  | .projectAcl _ _ => allowed
  | .ragRetrieval _ => []
  | .memoryContext _ _ => []
  | .portfolioSummary _ => Json.null

def access : Entry := .projectAcl "p1" ⟨"u1", by decide⟩

/-- `Careful`, where the namespace has a generation key. -/
def World.checks (w : World) : Action → Bool
  | .name i =>
    match w.fills i with
    | some (.loaded entry _ mark) => w.done.all fun (space, version) => space ≠ entry.space ∨ version ≤ mark
    | _ => true
  | .invalidate space _ => (w.redis (cacheNamespaceGenerationKey space.name)).isSome
  | _ => true

theorem World.careful_of_checks {w : World} {action : Action} (checked : w.checks action = true) :
    w.Careful action := by
  cases action with
  | name i =>
    intro entry payload mark version held invalidated
    unfold World.checks at checked
    simp only [held, all_eq_true, decide_eq_true_eq] at checked
    exact (checked _ invalidated).resolve_left (not_not.mpr rfl)
  | invalidate space version => exact .inl (Option.isSome_iff_ne_none.mp checked)
  | ask | look | recheck | load | write | commit => trivial

def changedOnce : World where
  redis := Redis.bumpNamespaceGeneration (fun _ => none) (.projectAcl "p1")
  data := answers true
  version := 1
  fills _ := none
  owed := []
  done := [(.projectAcl "p1", 1)]

theorem changedOnce_reached :
    Systems.Reaches World.step World.Careful (World.initial (answers false)) changedOnce := by
  have committed : Systems.Reaches World.step World.Careful (World.initial (answers false))
      { World.initial (answers true) with version := 1, owed := [(.projectAcl "p1", 1)] } :=
    @Systems.Reaches.step _ _ _ _ _ _ _ (.commit (.projectAcl "p1") (answers true)) .start trivial rfl
  have clean : World.Careful { World.initial (answers true) with version := 1, owed := [(.projectAcl "p1", 1)] }
      (.invalidate (.projectAcl "p1") 1) := by
    right
    rintro (⟨entry, found, _, got, _⟩ | ⟨i, entry, generation, payload, mark, held, _⟩)
    · cases got
    · cases held
  exact committed.step clean rfl

end Runs

theorem filled_then_changed : ∃ w : World, w.done = [(.projectAcl "p1", 2), (.projectAcl "p1", 1)] ∧ w.NoneStale := by
  have ran : (Systems.runWhere World.step World.checks changedOnce
      [.ask 0 access, .look 0, .load 0, .name 0, .write 0, .commit (.projectAcl "p1") (answers false),
        .invalidate (.projectAcl "p1") 2]).any
      (fun w => w.done = [(.projectAcl "p1", 2), (.projectAcl "p1", 1)]) = true := by decide
  obtain ⟨w, ran, done⟩ := (Option.any_eq_true _ _).mp ran
  have reached := changedOnce_reached.runs (fun _ _ => World.careful_of_checks) ran
  exact ⟨w, of_decide_eq_true done, no_stale_fill reached⟩

theorem loaded_before_named_after : ∃ w : World,
    Systems.Reaches World.step (fun _ _ => True) (World.initial (answers false)) w ∧ w.owed = [] ∧
      w.fills 0 = none ∧ ¬ w.NoneStale := by
  have ran : (Systems.runWhere World.step (fun _ _ => true) changedOnce
      [.ask 0 access, .look 0, .load 0, .commit (.projectAcl "p1") (answers false),
        .invalidate (.projectAcl "p1") 2, .name 0, .write 0]).any
      (fun w => w.owed = [] ∧ (w.fills 0).isNone ∧ (.projectAcl "p1", 2) ∈ w.done ∧
        (w.redis.get access).map Prod.snd = some 1) = true := by decide
  obtain ⟨w, ran, last⟩ := (Option.any_eq_true _ _).mp ran
  obtain ⟨owed, idle, invalidated, got⟩ := of_decide_eq_true last
  have before : Systems.Reaches World.step (fun _ _ => True) (World.initial (answers false)) changedOnce :=
    changedOnce_reached.mono fun _ _ _ => trivial
  have reached : Systems.Reaches World.step (fun _ _ => True) (World.initial (answers false)) w :=
    before.runs (fun _ _ _ => trivial) ran
  refine ⟨w, reached, owed, Option.isNone_iff_eq_none.mp idle, ?_⟩
  intro fresh
  obtain ⟨found, there, mark⟩ := Option.map_eq_some_iff.mp got
  have late := fresh _ 2 access found invalidated rfl there
  omega

end Troop.Cache
