import Mathlib.Data.List.Nodup
import Troop.Inbox.Effects

namespace Troop.Inbox

open List
open Option (any_eq_true bind_eq_some_iff map_eq_some_iff)
open Function (update update_of_ne update_self)

variable {sha256 : String → String} {w after : World} {s t : Nat} {worker next : Worker} {key : String}

def Worker.message (worker : Worker) : Option String :=
  match worker.phase with
  | .fetching _ message _ | .inserting message _ | .starting message _ | .started _ _ message _
  | .assigned _ message _ => some message
  | .claimed | .looking _ => none

def Worker.engaged (sha256 : String → String) (worker : Worker) : Option String :=
  worker.message.map (worker.childDedupe sha256)

def Worker.saved (worker : Worker) : Bool :=
  match worker.phase with
  | .started true .. | .assigned .. => true
  | _ => false

def Names (row : Option ExternalEvent) : Prop := ∃ event, row = some event ∧ event.workflowRunId.isSome = true

def World.Recorded (w : World) (key : String) : Prop := Names (w.events.committed key)

def World.Unsaved (w : World) (session : Nat) (key : String) : Prop :=
  (∃ event, w.events.pending key = some (session, event) ∧ event.workflowRunId.isSome = true) ∧ ¬ w.Recorded key

def World.Engaged (sha256 : String → String) (w : World) (session : Nat) (key : String) : Prop :=
  (∃ worker, w.workers session = some worker ∧ worker.engaged sha256 = some key) ∨ w.Unsaved session key

def World.Owes (sha256 : String → String) (w : World) (session : Nat) (key : String) : Prop :=
  (∃ worker, w.workers session = some worker ∧ worker.engaged sha256 = some key ∧ worker.saved = true) ∨
    w.Unsaved session key

theorem World.Owes.engaged (owes : w.Owes sha256 s key) : w.Engaged sha256 s key :=
  owes.imp_left fun ⟨worker, found, engaged, _⟩ => ⟨worker, found, engaged⟩

structure Sound (sha256 : String → String) (w : World) : Prop where
  alive : ∀ key session event, w.events.pending key = some (session, event) → (w.workers session).isSome = true
  kept : ∀ key session event, w.events.pending key = some (session, event) → w.Recorded key →
    event.workflowRunId.isSome = true
  recorded : ∀ run ∈ w.runs, w.Recorded run.externalEvent ∨ ∃ session, w.Owes sha256 session run.externalEvent
  once : (w.runs.map WorkflowRun.externalEvent).Nodup
  fresh : ∀ session worker key, w.workers session = some worker → worker.engaged sha256 = some key →
    worker.saved = false → ∀ run ∈ w.runs, run.externalEvent ≠ key
  exclusive : ∀ key one other, w.Engaged sha256 one key → w.Engaged sha256 other key → one = other

theorem sound_start : Sound sha256 .start := by
  constructor
  · intro key session event held
    cases held
  · intro key session event held
    cases held
  · intro run listed
    cases listed
  · exact nodup_nil
  · intro session worker key found
    cases found
  · rintro key one other (⟨worker, found, _⟩ | ⟨⟨event, held, _⟩, _⟩)
    · cases found
    · cases held

section Moves

theorem put_workers_self (w : World) (session : Nat) (next : Option Worker) :
    (w.put session next).workers session = next := by
  simp [World.put]

theorem put_workers_other (w : World) {session other : Nat} (next : Option Worker) (different : other ≠ session) :
    (w.put session next).workers other = w.workers other := by
  simp [World.put, different]

theorem engaged_put (engaged : (w.put s (some next)).Engaged sha256 t key) :
    (t = s ∧ next.engaged sha256 = some key) ∨ w.Engaged sha256 t key := by
  rcases engaged with ⟨worker, found, engaged⟩ | unsaved
  · by_cases same : t = s
    · subst same
      rw [put_workers_self] at found
      cases found
      exact .inl ⟨rfl, engaged⟩
    · rw [put_workers_other _ _ same] at found
      exact .inr (.inl ⟨worker, found, engaged⟩)
  · exact .inr (.inr unsaved)

theorem engaged_gone (engaged : (w.put s none).Engaged sha256 t key) : w.Engaged sha256 t key := by
  rcases engaged with ⟨worker, found, engaged⟩ | unsaved
  · by_cases same : t = s
    · subst same
      simp [put_workers_self] at found
    · rw [put_workers_other _ _ same] at found
      exact .inl ⟨worker, found, engaged⟩
  · exact .inr unsaved

theorem Sound.rephase (sound : Sound sha256 w) (found : w.workers s = some worker)
    (alone : ∀ key, next.engaged sha256 = some key → ∀ other, w.Engaged sha256 other key → other = s)
    (fresh : ∀ key, next.engaged sha256 = some key → next.saved = false → ∀ run ∈ w.runs, run.externalEvent ≠ key)
    (settled : ∀ key, worker.engaged sha256 = some key → worker.saved = true →
      (next.engaged sha256 = some key ∧ next.saved = true) ∨ w.Recorded key ∨ w.Unsaved s key) :
    Sound sha256 (w.put s (some next)) := by
  constructor
  · intro key session event held
    by_cases same : session = s
    · subst same
      rw [put_workers_self]
      rfl
    · rw [put_workers_other _ _ same]
      exact sound.alive key session event held
  · exact sound.kept
  · intro run listed
    rcases sound.recorded run listed with recorded | ⟨session, ⟨old, there, engaged, saved⟩ | unsaved⟩
    · exact .inl recorded
    · by_cases same : session = s
      · subst same
        rw [found] at there
        cases there
        rcases settled _ engaged saved with ⟨engaged, saved⟩ | recorded | unsaved
        · exact .inr ⟨session, .inl ⟨next, put_workers_self .., engaged, saved⟩⟩
        · exact .inl recorded
        · exact .inr ⟨session, .inr unsaved⟩
      · exact .inr ⟨session, .inl ⟨old, (put_workers_other _ _ same).trans there, engaged, saved⟩⟩
    · exact .inr ⟨session, .inr unsaved⟩
  · exact sound.once
  · intro session other key there engaged saved
    by_cases same : session = s
    · subst same
      rw [put_workers_self] at there
      cases there
      exact fresh key engaged saved
    · rw [put_workers_other _ _ same] at there
      exact sound.fresh session other key there engaged saved
  · intro key one other first second
    rcases engaged_put first with ⟨rfl, engaged⟩ | earlier
    · rcases engaged_put second with ⟨rfl, _⟩ | later
      · rfl
      · exact (alone key engaged other later).symm
    · rcases engaged_put second with ⟨rfl, engaged⟩ | later
      · exact alone key engaged one earlier
      · exact sound.exclusive key one other earlier later

theorem Sound.gone (sound : Sound sha256 w) (found : w.workers s = some worker) (unsaved : worker.saved = false)
    (unheld : ∀ key event, w.events.pending key ≠ some (s, event)) : Sound sha256 (w.put s none) := by
  constructor
  · intro key session event held
    have other : session ≠ s := by
      rintro rfl
      exact unheld key event held
    rw [put_workers_other _ _ other]
    exact sound.alive key session event held
  · exact sound.kept
  · intro run listed
    rcases sound.recorded run listed with recorded | ⟨session, ⟨old, there, engaged, saved⟩ | owed⟩
    · exact .inl recorded
    · have other : session ≠ s := by
        rintro rfl
        rw [found] at there
        cases there
        exact Bool.noConfusion (unsaved.symm.trans saved)
      exact .inr ⟨session, .inl ⟨old, (put_workers_other _ _ other).trans there, engaged, saved⟩⟩
    · exact .inr ⟨session, .inr owed⟩
  · exact sound.once
  · intro session other key there
    have different : session ≠ s := by
      rintro rfl
      simp [put_workers_self] at there
    rw [put_workers_other _ _ different] at there
    exact sound.fresh session other key there
  · intro key one other first second
    exact sound.exclusive key one other (engaged_gone first) (engaged_gone second)

theorem Sound.save (sound : Sound sha256 w) (found : w.workers s = some worker) {run : WorkflowRun}
    (engaged : worker.engaged sha256 = some run.externalEvent) (unsaved : worker.saved = false)
    (same : next.engaged sha256 = worker.engaged sha256) (saved : next.saved = true) :
    Sound sha256 { w.put s (some next) with runs := w.runs ++ [run] } := by
  have new : ∀ other ∈ w.runs, other.externalEvent ≠ run.externalEvent :=
    sound.fresh s worker run.externalEvent found engaged unsaved
  have moved : Sound sha256 (w.put s (some next)) := by
    apply sound.rephase found
    · intro key there other busy
      rw [same] at there
      exact sound.exclusive key other s busy (.inl ⟨worker, found, there⟩)
    · simp_all
    · simp_all
  constructor
  · exact moved.alive
  · exact moved.kept
  · intro other listed
    rcases mem_append.mp listed with listed | listed
    · exact moved.recorded other listed
    · obtain rfl := mem_singleton.mp listed
      exact .inr ⟨s, .inl ⟨next, put_workers_self .., same.trans engaged, saved⟩⟩
  · rw [map_append, nodup_append]
    refine ⟨moved.once, by simp, ?_⟩
    intro old listed last own equal
    obtain ⟨other, there, rfl⟩ := mem_map.mp listed
    simp only [map_cons, map_nil, mem_singleton] at own
    exact new other there (equal.trans own)
  · intro session other key there busy lost old listed
    rcases mem_append.mp listed with listed | listed
    · exact moved.fresh session other key there busy lost old listed
    obtain rfl := mem_singleton.mp listed
    rintro rfl
    have own : session = s := moved.exclusive _ session s (.inl ⟨other, there, busy⟩)
      (.inl ⟨next, put_workers_self .., same.trans engaged⟩)
    subst own
    rw [put_workers_self] at there
    cases there
    exact Bool.noConfusion (lost.symm.trans saved)
  · exact moved.exclusive

theorem names_read_pending {event : ExternalEvent} (held : w.events.pending key = some (s, event)) :
    Names (w.events.read s key) ↔ event.workflowRunId.isSome = true := by
  rw [Keyed.read_own held]
  constructor
  · rintro ⟨other, same, names⟩
    simp_all
  · intro names
    exact ⟨event, rfl, names⟩

theorem names_read_free (unheld : ∀ event, w.events.pending key ≠ some (s, event)) :
    Names (w.events.read s key) ↔ w.Recorded key := by
  rw [Keyed.read_committed unheld]
  rfl

theorem Sound.names_read (sound : Sound sha256 w) :
    Names (w.events.read s key) ↔ w.Recorded key ∨ w.Unsaved s key := by
  by_cases held : ∃ event, w.events.pending key = some (s, event)
  · obtain ⟨event, held⟩ := held
    rw [names_read_pending held]
    constructor
    · intro names
      by_cases recorded : w.Recorded key
      · exact .inl recorded
      · exact .inr ⟨⟨event, held, names⟩, recorded⟩
    · rintro (recorded | ⟨⟨other, there, names⟩, _⟩)
      · exact sound.kept key s event held recorded
      · simp_all
  · rw [names_read_free (not_exists.mp held)]
    constructor
    · exact .inl
    · rintro (recorded | ⟨⟨event, there, _⟩, _⟩)
      · exact recorded
      · exact absurd ⟨event, there⟩ held

theorem pending_write {event : ExternalEvent} {k : String} :
    (w.write s key event).events.pending k = if k = key then some (s, event) else w.events.pending k := by
  by_cases same : k = key
  · rw [if_pos same, same]
    exact Keyed.pending_write_self
  · rw [if_neg same]
    exact Keyed.pending_write_other same

theorem Sound.write (sound : Sound sha256 w) (alive : (w.workers s).isSome = true) {event : ExternalEvent}
    (free : w.events.free s key = true) (names : Names (w.events.read s key) → event.workflowRunId.isSome = true)
    (engaged : event.workflowRunId.isSome = true → Names (w.events.read s key) ∨ w.Engaged sha256 s key) :
    Sound sha256 (w.write s key event) := by
  have unsaved {session : Nat} {k : String} (old : w.Unsaved session k) : (w.write s key event).Unsaved session k := by
    obtain ⟨⟨row, held, named⟩, lost⟩ := old
    refine ⟨?_, lost⟩
    rw [pending_write]
    by_cases same : k = key
    · subst same
      rw [if_pos rfl]
      have own : session = s := by
        rcases Keyed.free_iff.mp free with none | ⟨other, held'⟩
        · simp [none] at held
        · simp_all
      subst own
      exact ⟨event, rfl, names ((names_read_pending held).mpr named)⟩
    · simp_all
  have busy {session : Nat} {k : String} (now : (w.write s key event).Engaged sha256 session k) :
      w.Engaged sha256 session k := by
    rcases now with phase | ⟨⟨row, held, named⟩, lost⟩
    · exact .inl phase
    rw [pending_write] at held
    by_cases same : k = key
    · subst same
      rw [if_pos rfl] at held
      cases held
      rcases engaged named with read | engaged
      · exact .inr ((sound.names_read.mp read).resolve_left lost)
      · exact engaged
    · rw [if_neg same] at held
      exact .inr ⟨⟨row, held, named⟩, lost⟩
  constructor
  · intro k session row held
    rw [pending_write] at held
    split at held
    · cases held
      exact alive
    · exact sound.alive k session row held
  · intro k session row held recorded
    rw [pending_write] at held
    split at held
    · rename_i same
      subst same
      cases held
      exact names (sound.names_read.mpr (.inl recorded))
    · exact sound.kept k session row held recorded
  · intro run listed
    rcases sound.recorded run listed with recorded | ⟨session, phase | owed⟩
    · exact .inl recorded
    · exact .inr ⟨session, .inl phase⟩
    · exact .inr ⟨session, .inr (unsaved owed)⟩
  · exact sound.once
  · exact sound.fresh
  · intro k one other first second
    exact sound.exclusive k one other (busy first) (busy second)

theorem Sound.commit (sound : Sound sha256 w) : Sound sha256 (w.commit s []) := by
  have recorded_iff {k : String} : (w.commit s []).Recorded k ↔ w.Recorded k ∨ w.Unsaved s k := sound.names_read
  have held {k : String} {session : Nat} {row : ExternalEvent}
      (there : (w.commit s []).events.pending k = some (session, row)) :
      w.events.pending k = some (session, row) ∧ session ≠ s := Keyed.released_some.mp there
  have foreign {k : String} {session : Nat} {row : ExternalEvent} (there : w.events.pending k = some (session, row))
      (other : session ≠ s) : ¬ w.Unsaved s k := by
    rintro ⟨⟨own, same, _⟩, _⟩
    rw [there] at same
    cases same
    exact other rfl
  constructor
  · intro k session row there
    exact sound.alive k session row (held there).1
  · intro k session row there recorded
    obtain ⟨there, other⟩ := held there
    exact sound.kept k session row there ((recorded_iff.mp recorded).resolve_right (foreign there other))
  · intro run listed
    have listed : run ∈ w.runs := by simpa [World.commit] using listed
    rcases sound.recorded run listed with recorded | ⟨session, phase | owed⟩
    · exact .inl (recorded_iff.mpr (.inl recorded))
    · exact .inr ⟨session, .inl phase⟩
    by_cases same : session = s
    · simp_all
    obtain ⟨⟨row, there, names⟩, lost⟩ := owed
    refine .inr ⟨session, .inr ⟨⟨row, Keyed.released_some.mpr ⟨there, same⟩, names⟩, ?_⟩⟩
    intro recorded
    rcases recorded_iff.mp recorded with recorded | unsaved
    · exact lost recorded
    · exact foreign there same unsaved
  · simpa [World.commit] using sound.once
  · intro session other k there engaged saved run listed
    exact sound.fresh session other k there engaged saved run (by simpa [World.commit] using listed)
  · have busy {session : Nat} {k : String} (now : (w.commit s []).Engaged sha256 session k) :
        w.Engaged sha256 session k := by
      rcases now with phase | ⟨⟨row, there, names⟩, lost⟩
      · exact .inl phase
      · exact .inr ⟨⟨row, (held there).1, names⟩, fun recorded => lost (recorded_iff.mpr (.inl recorded))⟩
    intro k one other first second
    exact sound.exclusive k one other (busy first) (busy second)

theorem Sound.rollback (sound : Sound sha256 w) (unsaved : ∀ key, ¬ w.Unsaved s key) : Sound sha256 (w.rollback s) := by
  have held {k : String} {session : Nat} {row : ExternalEvent}
      (there : (w.rollback s).events.pending k = some (session, row)) :
      w.events.pending k = some (session, row) ∧ session ≠ s := Keyed.released_some.mp there
  constructor
  · intro k session row there
    exact sound.alive k session row (held there).1
  · intro k session row there recorded
    exact sound.kept k session row (held there).1 recorded
  · intro run listed
    rcases sound.recorded run listed with recorded | ⟨session, phase | owed⟩
    · exact .inl recorded
    · exact .inr ⟨session, .inl phase⟩
    have other : session ≠ s := by
      rintro rfl
      exact unsaved _ owed
    obtain ⟨⟨row, there, names⟩, lost⟩ := owed
    exact .inr ⟨session, .inr ⟨⟨row, Keyed.released_some.mpr ⟨there, other⟩, names⟩, lost⟩⟩
  · exact sound.once
  · exact sound.fresh
  have busy {session : Nat} {k : String} (now : (w.rollback s).Engaged sha256 session k) :
      w.Engaged sha256 session k := by
    rcases now with phase | ⟨⟨row, there, names⟩, lost⟩
    · exact .inl phase
    · exact .inr ⟨⟨row, (held there).1, names⟩, lost⟩
  intro k one other first second
  exact sound.exclusive k one other (busy first) (busy second)

theorem Sound.begins (sound : Sound sha256 w) (idle : w.workers s = none) (free : next.engaged sha256 = none) :
    Sound sha256 (w.put s (some next)) := by
  have busy {session : Nat} {k : String} (now : (w.put s (some next)).Engaged sha256 session k) :
      w.Engaged sha256 session k := by
    rcases engaged_put now with ⟨_, engaged⟩ | earlier
    · simp [free] at engaged
    · exact earlier
  constructor
  · intro k session event held
    have other : session ≠ s := by
      rintro rfl
      have alive := sound.alive k session event held
      simp [idle] at alive
    rw [put_workers_other _ _ other]
    exact sound.alive k session event held
  · exact sound.kept
  · intro run listed
    rcases sound.recorded run listed with recorded | ⟨session, ⟨old, there, engaged, saved⟩ | owed⟩
    · exact .inl recorded
    · have other : session ≠ s := by grind
      exact .inr ⟨session, .inl ⟨old, (put_workers_other _ _ other).trans there, engaged, saved⟩⟩
    · exact .inr ⟨session, .inr owed⟩
  · exact sound.once
  · intro session other k there engaged
    by_cases same : session = s
    · subst same
      rw [put_workers_self] at there
      simp_all
    · rw [put_workers_other _ _ same] at there
      exact sound.fresh session other k there engaged
  · intro k one other first second
    exact sound.exclusive k one other (busy first) (busy second)

theorem Sound.ingested (sound : Sound sha256 w) {event : ExternalEvent} (absent : w.events.committed key = none)
    (nameless : event.workflowRunId = none) :
    Sound sha256 { w with events := { w.events with committed := Function.update w.events.committed key (some event) } } := by
  have same (k : String) : Names (update w.events.committed key (some event) k) ↔ w.Recorded k := by
    by_cases own : k = key
    · subst own
      rw [update_self, World.Recorded, absent]
      constructor
      · rintro ⟨other, found, names⟩
        simp_all
      · rintro ⟨other, found, _⟩
        cases found
    · rw [update_of_ne own]
      rfl
  constructor
  · exact sound.alive
  · intro k session row held recorded
    exact sound.kept k session row held ((same k).mp recorded)
  · intro run listed
    rcases sound.recorded run listed with recorded | ⟨session, phase | ⟨held, lost⟩⟩
    · exact .inl ((same _).mpr recorded)
    · exact .inr ⟨session, .inl phase⟩
    · exact .inr ⟨session, .inr ⟨held, fun recorded => lost ((same _).mp recorded)⟩⟩
  · exact sound.once
  · exact sound.fresh
  · intro k one other first second
    apply sound.exclusive k one other
    · exact first.imp_right fun unsaved => ⟨unsaved.1, fun recorded => unsaved.2 ((same k).mpr recorded)⟩
    · exact second.imp_right fun unsaved => ⟨unsaved.1, fun recorded => unsaved.2 ((same k).mpr recorded)⟩

end Moves

section Steps

/-- A worker looks at a message that nobody else is at, `start_run` does not raise once its row is there, and no
    session is lost that owes a run to an event. -/
def CarefulAct (sha256 : String → String) (w : World) (s : Nat) (worker : Worker) : Act → Prop
  | .look => ∀ message todo, worker.phase = .looking (message :: todo) →
      ∀ other, w.Engaged sha256 other (worker.childDedupe sha256 message) → other = s
  | .startFails => False
  | .insert => ∀ message todo, worker.phase = .inserting message todo →
      (w.events.read s (worker.childDedupe sha256 message)).isSome = true → ∀ key, ¬ w.Unsaved s key
  | .crash => worker.saved = false ∧ ∀ key, ¬ w.Unsaved s key
  | _ => True

def Careful (sha256 : String → String) (w : World) : Step → Prop
  | .work session act => ∀ worker, w.workers session = some worker → CarefulAct sha256 w session worker act
  | _ => True

theorem Sound.subscribed (sound : Sound sha256 w) (id : String) (subscription : TriggerSubscription) :
    Sound sha256 (w.subscribe id subscription) :=
  ⟨sound.alive, sound.kept, sound.recorded, sound.once, sound.fresh, sound.exclusive⟩

variable {change : ExternalEvent → ExternalEvent} {todo : List String}

theorem flush_some (flushed : w.flush s key change = some after) :
    w.events.free s key = true ∧ ∃ event, w.events.read s key = some event ∧ after = w.write s key (change event) := by
  unfold World.flush at flushed
  split at flushed
  · grind [map_eq_some_iff]
  · cases flushed

theorem Sound.flushed (sound : Sound sha256 w) (alive : (w.workers s).isSome = true) (flushed : w.flush s key change = some after)
    (keeps : ∀ event, (change event).workflowRunId = event.workflowRunId) : Sound sha256 after := by
  obtain ⟨free, event, read, rfl⟩ := flush_some flushed
  apply sound.write alive free
  · rintro ⟨other, same, names⟩
    simp_all
  · intro names
    rw [keeps] at names
    exact .inl ⟨event, read, names⟩

theorem flush_workers (flushed : w.flush s key change = some after) :
    after.workers = w.workers := by
  obtain ⟨_, event, _, rfl⟩ := flush_some flushed
  rfl

theorem Sound.closed (sound : Sound sha256 w) (found : w.workers s = some worker) (saved : worker.saved = false) :
    Sound sha256 ((w.commit s []).put s none) := by
  apply sound.commit.gone found saved
  intro key event held
  exact (Keyed.released_some.mp held).2 rfl

theorem Sound.fail (sound : Sound sha256 w) (found : w.workers s = some worker) (saved : worker.saved = false)
    (nothing : worker.unsaved sha256 = []) (failed : w.fail sha256 s worker = some after) : Sound sha256 after := by
  obtain ⟨flushed, ran, same⟩ := bind_eq_some_iff.mp failed
  rw [nothing] at same
  cases same
  have alive : (w.workers s).isSome = true := by rw [found]; rfl
  have written : Sound sha256 flushed := sound.flushed alive ran fun _ => rfl
  exact written.closed ((congrFun (flush_workers ran) s).trans found) saved

theorem Sound.finish (sound : Sound sha256 w) (found : w.workers s = some worker) (saved : worker.saved = false)
    (finished : w.finish s worker = some after) : Sound sha256 after := by
  obtain ⟨processed, ran, same⟩ := bind_eq_some_iff.mp finished
  cases same
  have alive : (w.workers s).isSome = true := by rw [found]; rfl
  have written : Sound sha256 processed := sound.flushed alive ran fun _ => rfl
  have there : processed.workers s = some worker := (congrFun (flush_workers ran) s).trans found
  split
  · exact (written.subscribed _ _).closed there saved
  · exact written.closed there saved

theorem Sound.claim (sound : Sound sha256 w) (claimed : w.claim s key = some after) : Sound sha256 after := by
  obtain ⟨event, read, same⟩ := bind_eq_some_iff.mp claimed
  split at same
  · rename_i given
    cases same
    have begun : Sound sha256 (w.put s (some { key, event := { event with status := .processing } })) :=
      sound.begins given.1 rfl
    apply begun.write (by rw [put_workers_self]; rfl) given.2.1
    · rintro ⟨other, there, names⟩
      have same : some event = some other := read.symm.trans there
      simp_all
    · intro names
      exact .inl ⟨event, read, names⟩
  · cases same

theorem Sound.history (sound : Sound sha256 w) (found : w.workers s = some worker) (phase : worker.phase = .claimed)
    {answer : HistoryAnswer} (answered : w.history sha256 s worker answer = some after) : Sound sha256 after := by
  have saved : worker.saved = false := by simp [Worker.saved, phase]
  have nothing : worker.unsaved sha256 = [] := by simp [Worker.unsaved, phase]
  unfold World.history at answered
  split at answered
  · exact sound.fail found saved nothing answered
  split at answered
  · exact sound.fail found saved nothing answered
  split at answered
  · exact sound.fail found saved nothing answered
  · split at answered
    · exact (sound.subscribed _ _).fail found saved nothing answered
    · exact sound.fail found saved nothing answered
  · cases answered
    apply sound.rephase found
    · intro key engaged
      cases engaged
    · intro key engaged
      cases engaged
    · simp_all

theorem Sound.look (sound : Sound sha256 w) (found : w.workers s = some worker) {message : String}
    (phase : worker.phase = .looking (message :: todo))
    (alone : ∀ other, w.Engaged sha256 other (worker.childDedupe sha256 message) → other = s) :
    Sound sha256 (w.look sha256 s worker message todo) := by
  have free : worker.engaged sha256 = none := by simp [Worker.engaged, Worker.message, phase]
  have goes {next : Worker} (saved : next.saved = false)
      (engaged : next.engaged sha256 = none ∨ (next.engaged sha256 = some (worker.childDedupe sha256 message) ∧
        ¬ Names (w.events.read s (worker.childDedupe sha256 message)))) : Sound sha256 (w.put s (some next)) := by
    apply sound.rephase found
    · intro key there
      rcases engaged with none | ⟨own, _⟩
      · simp [none] at there
      · grind
    · intro key there _ run listed same
      rcases engaged with none | ⟨own, nameless⟩
      · simp [none] at there
      rw [own] at there
      cases there
      rw [sound.names_read, not_or] at nameless
      rcases sound.recorded run listed with recorded | ⟨session, owes⟩
      · exact nameless.1 (same ▸ recorded)
      rw [same] at owes
      obtain rfl := alone session owes.engaged
      rcases owes with ⟨other, there, engaged, _⟩ | unsaved
      · simp_all
      · exact nameless.2 unsaved
    · simp [free]
  unfold World.look
  split
  · rename_i read
    split
    · exact goes rfl (.inl rfl)
    rename_i nameless
    refine goes rfl (.inr ⟨rfl, ?_⟩)
    rintro ⟨other, there, names⟩
    rw [read] at there
    cases there
    exact nameless names
  · rename_i read
    refine goes rfl (.inr ⟨rfl, ?_⟩)
    rintro ⟨other, there, _⟩
    simp [read] at there

theorem Sound.insert (sound : Sound sha256 w) (found : w.workers s = some worker) {message : String}
    (phase : worker.phase = .inserting message todo)
    (careful : (w.events.read s (worker.childDedupe sha256 message)).isSome = true → ∀ key, ¬ w.Unsaved s key)
    (inserted : w.insert sha256 s worker message todo = some after) : Sound sha256 after := by
  have saved : worker.saved = false := by simp [Worker.saved, phase]
  have engaged : worker.engaged sha256 = some (worker.childDedupe sha256 message) := by
    simp [Worker.engaged, Worker.message, phase]
  unfold World.insert at inserted
  dsimp only at inserted
  split at inserted
  · cases inserted
  rename_i free
  split at inserted <;> rename_i there
  · cases inserted
    apply (sound.rollback (careful there)).gone found saved
    intro key event held
    exact (Keyed.released_some.mp held).2 rfl
  · cases inserted
    have written : Sound sha256 (w.write s (worker.childDedupe sha256 message)
        { ownerId := worker.event.ownerId, connectorInstallationId := worker.event.connectorInstallationId,
          externalEventId := message, status := .processing }) := by
      apply sound.write (by rw [found]; rfl) (not_not.mp free)
      · rintro ⟨event, read, _⟩
        simp_all
      · intro settled
        cases settled
    apply written.rephase found
    · intro key there other busy
      exact written.exclusive key other s busy (.inl ⟨worker, found, engaged.trans there⟩)
    · intro key there _
      exact written.fresh s worker key found (engaged.trans there) saved
    · simp_all

theorem Sound.proceeds (sound : Sound sha256 w) (found : w.workers s = some worker)
    (same : next.engaged sha256 = worker.engaged sha256) (kept : next.saved = worker.saved) :
    Sound sha256 (w.put s (some next)) := by
  apply sound.rephase found
  · intro key there other busy
    rw [same] at there
    exact sound.exclusive key other s busy (.inl ⟨worker, found, there⟩)
  · intro key there lost
    rw [same] at there
    exact sound.fresh s worker key found there (kept.symm.trans lost)
  · simp_all

theorem Sound.saves (sound : Sound sha256 w) (found : w.workers s = some worker) {committed : Bool} {run : Nat}
    {message : String} (phase : worker.phase = .started committed run message todo)
    (same : next.engaged sha256 = some (worker.childDedupe sha256 message)) (saved : next.saved = true) :
    Sound sha256 ((w.commit s (worker.unsaved sha256)).put s (some next)) := by
  have engaged : worker.engaged sha256 = some (worker.childDedupe sha256 message) := by
    simp [Worker.engaged, Worker.message, phase]
  cases committed with
  | false =>
    have one : worker.unsaved sha256 = [worker.run sha256 run message] := by simp [Worker.unsaved, phase]
    rw [one]
    have kept : Sound sha256 { (w.commit s []).put s (some next) with
        runs := (w.commit s []).runs ++ [worker.run sha256 run message] } :=
      sound.commit.save found engaged (by simp [Worker.saved, phase]) (same.trans engaged.symm) saved
    simpa [World.commit, World.put] using kept
  | true =>
    have none : worker.unsaved sha256 = [] := by simp [Worker.unsaved, phase]
    rw [none]
    exact sound.commit.proceeds found (same.trans engaged.symm) (saved.trans (by simp [Worker.saved, phase]))

theorem Sound.assign (sound : Sound sha256 w) (found : w.workers s = some worker) {run : Nat} {message : String} (phase : worker.phase = .assigned run message todo)
    (named : w.flush s (worker.childDedupe sha256 message) (fun child =>
      { child with workflowRunId := some run, status := .processed }) = some after)
    (free : next.engaged sha256 = none) : Sound sha256 (after.put s (some next)) := by
  have engaged : worker.engaged sha256 = some (worker.childDedupe sha256 message) := by
    simp [Worker.engaged, Worker.message, phase]
  obtain ⟨open_, event, read, rfl⟩ := flush_some named
  have written : Sound sha256 (w.write s (worker.childDedupe sha256 message)
      { event with workflowRunId := some run, status := .processed }) := by
    apply sound.write (by rw [found]; rfl) open_
    · intro _
      rfl
    · intro _
      exact .inr (.inl ⟨worker, found, engaged⟩)
  apply written.rephase found
  · simp [free]
  · simp [free]
  intro key there _
  rw [engaged] at there
  cases there
  by_cases recorded : w.Recorded (worker.childDedupe sha256 message)
  · exact .inr (.inl recorded)
  · exact .inr (.inr ⟨⟨_, Keyed.pending_write_self, rfl⟩, recorded⟩)

theorem Sound.act (sound : Sound sha256 w) (found : w.workers s = some worker) {act : Act}
    (careful : CarefulAct sha256 w s worker act) (acted : w.act sha256 s worker act = some after) :
    Sound sha256 after := by
  unfold World.act at acted
  split at acted
  case h_1 phase => exact sound.history found phase acted
  case h_2 phase =>
    cases acted
    exact sound.look found phase (careful _ _ phase)
  case h_3 phase =>
    exact sound.fail found (by simp [Worker.saved, phase]) (by simp [Worker.unsaved, phase]) acted
  case h_4 phase | h_5 phase =>
    cases acted
    apply sound.proceeds found
    · simp [Worker.engaged, Worker.message, phase, Worker.childDedupe]
    · simp [Worker.saved, phase]
  case h_6 phase => exact sound.insert found phase (careful _ _ phase) acted
  case h_7 phase =>
    exact sound.fail found (by simp [Worker.saved, phase]) (by simp [Worker.unsaved, phase]) acted
  case h_8 phase =>
    cases acted
    apply sound.proceeds found
    · simp [Worker.engaged, Worker.message, phase, Worker.childDedupe]
    · simp [Worker.saved, phase]
  case h_9 phase =>
    cases acted
    exact sound.saves found phase rfl rfl
  case h_10 => cases careful
  case h_11 phase =>
    cases acted
    exact sound.saves found phase rfl rfl
  case h_12 phase =>
    obtain ⟨named, ran, rfl⟩ := map_eq_some_iff.mp acted
    exact sound.assign found phase ran rfl
  case h_13 phase => exact sound.finish found (by simp [Worker.saved, phase]) acted
  case h_14 =>
    cases acted
    apply (sound.rollback careful.2).gone found careful.1
    intro key event held
    exact (Keyed.released_some.mp held).2 rfl
  case h_15 => cases acted

theorem Sound.step (sound : Sound sha256 w) {step : Step} (careful : Careful sha256 w step)
    (stepped : w.step sha256 step = some after) : Sound sha256 after := by
  cases step with
  | register id subscription =>
    unfold World.step at stepped
    dsimp only at stepped
    split at stepped
    · cases stepped
    · cases stepped
      exact sound.subscribed _ _
  | renew id | restatus id status =>
    obtain ⟨subscription, _, rfl⟩ := map_eq_some_iff.mp stepped
    exact sound.subscribed _ _
  | arrive installationId message =>
    cases stepped
    exact ⟨sound.alive, sound.kept, sound.recorded, sound.once, sound.fresh, sound.exclusive⟩
  | ingest subscriptionId historyId messageId =>
    obtain ⟨subscription, _, same⟩ := bind_eq_some_iff.mp stepped
    dsimp only at same
    split at same
    · rename_i given
      cases same
      exact sound.ingested given.2.1 rfl
    · cases same
  | claim session key => exact sound.claim stepped
  | work session act =>
    obtain ⟨worker, found, acted⟩ := bind_eq_some_iff.mp stepped
    exact sound.act found (careful worker found) acted

theorem Sound.reached (reached : Reaches sha256 (Careful sha256) .start w) : Sound sha256 w := by
  induction reached with
  | start => exact sound_start
  | step _ careful stepped ih => exact ih.step careful stepped

structure Placed (sha256 : String → String) (w : World) : Prop where
  workers : ∀ session worker, w.workers session = some worker → worker.phase ≠ .claimed →
    ∃ subscription, w.subscriptions worker.event.subscriptionId = some subscription ∧
      subscription.connectorInstallationId = worker.event.connectorInstallationId
  runs : ∀ run ∈ w.runs, ∃ subscription, w.subscriptions run.subscriptionId = some subscription ∧
    run.externalEvent = eventDedupeKey sha256 "gmail"
      [subscription.connectorInstallationId, "message_added", run.messageId]

def Extends (w after : World) : Prop :=
  ∀ id subscription, w.subscriptions id = some subscription → ∃ later, after.subscriptions id = some later ∧
    later.connectorInstallationId = subscription.connectorInstallationId

theorem extends_subscribe {id : String} {old new : TriggerSubscription} (there : w.subscriptions id = some old)
    (same : new.connectorInstallationId = old.connectorInstallationId) : Extends w (w.subscribe id new) := by
  intro other subscription found
  by_cases own : other = id
  · subst own
    rw [there] at found
    cases found
    exact ⟨new, update_self .., same⟩
  · exact ⟨subscription, (update_of_ne own ..).trans found, rfl⟩

theorem Placed.kept (placed : Placed sha256 w) (kept : Extends w after) (workers : after.workers = w.workers)
    (runs : after.runs = w.runs) : Placed sha256 after := by
  constructor
  · intro session worker found listed
    rw [workers] at found
    obtain ⟨subscription, there, same⟩ := placed.workers session worker found listed
    obtain ⟨later, now, equal⟩ := kept _ _ there
    exact ⟨later, now, equal.trans same⟩
  · intro run listed
    rw [runs] at listed
    obtain ⟨subscription, there, same⟩ := placed.runs run listed
    obtain ⟨later, now, equal⟩ := kept _ _ there
    exact ⟨later, now, by rw [equal, same]⟩

theorem Effect.extends {act : Act} (effect : Effect sha256 w after s worker act) : Extends w after := by
  intro id subscription there
  rcases effect.subscriptions id with same | ⟨before, later, found, now, keeps⟩
  · exact ⟨subscription, same.trans there, rfl⟩
  · rw [there] at found
    cases found
    exact ⟨later, now, by rw [keeps.same]⟩

theorem mem_unsaved {run : WorkflowRun} (listed : run ∈ worker.unsaved sha256) :
    worker.phase ≠ .claimed ∧ run.subscriptionId = worker.event.subscriptionId ∧
      run.externalEvent = worker.childDedupe sha256 run.messageId := by
  unfold Worker.unsaved at listed
  split at listed
  · rename_i phase
    obtain rfl := mem_singleton.mp listed
    exact ⟨by simp [phase], rfl, rfl⟩
  · cases listed

theorem Placed.act (placed : Placed sha256 w) (found : w.workers s = some worker) {act : Act}
    (acted : w.act sha256 s worker act = some after) : Placed sha256 after := by
  have effect := act_effect acted
  have kept := effect.extends
  obtain ⟨next, workers, goes⟩ := effect.workers
  constructor
  · intro session other there listed
    rw [workers] at there
    by_cases own : session = s
    · subst own
      rw [update_self] at there
      rcases goes other there with ⟨subscription, page, _, _, known, same, rfl⟩ | proceeds
      · obtain ⟨later, now, equal⟩ := kept _ _ known
        exact ⟨later, now, equal.trans same⟩
      · obtain ⟨subscription, known, same⟩ := placed.workers session worker found proceeds.listed
        obtain ⟨later, now, equal⟩ := kept _ _ known
        rw [proceeds.same]
        exact ⟨later, now, equal.trans same⟩
    · rw [update_of_ne own] at there
      obtain ⟨subscription, known, same⟩ := placed.workers session other there listed
      obtain ⟨later, now, equal⟩ := kept _ _ known
      exact ⟨later, now, equal.trans same⟩
  · intro run listed
    have old : run ∈ w.runs ∨ run ∈ worker.unsaved sha256 := by
      rcases effect.runs with runs | runs
      · exact .inl (runs ▸ listed)
      · simp_all
    rcases old with old | new
    · obtain ⟨subscription, known, same⟩ := placed.runs run old
      obtain ⟨later, now, equal⟩ := kept _ _ known
      exact ⟨later, now, by rw [equal, same]⟩
    · obtain ⟨listed, named, placedAt⟩ := mem_unsaved new
      obtain ⟨subscription, known, same⟩ := placed.workers s worker found listed
      obtain ⟨later, now, equal⟩ := kept _ _ known
      refine ⟨later, named ▸ now, ?_⟩
      rw [placedAt, equal, same]
      rfl

theorem Placed.step (placed : Placed sha256 w) {step : Step} (stepped : w.step sha256 step = some after) :
    Placed sha256 after := by
  cases step with
  | register id subscription =>
    unfold World.step at stepped
    dsimp only at stepped
    split at stepped
    · cases stepped
    cases stepped
    refine placed.kept ?_ rfl rfl
    intro other row found
    have different : other ≠ id := by grind
    exact ⟨row, (update_of_ne different ..).trans found, rfl⟩
  | renew id | restatus id status =>
    obtain ⟨subscription, there, rfl⟩ := map_eq_some_iff.mp stepped
    exact placed.kept (extends_subscribe there rfl) rfl rfl
  | arrive installationId message =>
    cases stepped
    exact placed.kept (fun id row found => ⟨row, found, rfl⟩) rfl rfl
  | ingest subscriptionId historyId messageId =>
    obtain ⟨subscription, _, same⟩ := bind_eq_some_iff.mp stepped
    dsimp only at same
    split at same
    · cases same
      exact placed.kept (fun id row found => ⟨row, found, rfl⟩) rfl rfl
    · cases same
  | claim session key =>
    obtain ⟨event, _, same⟩ := bind_eq_some_iff.mp stepped
    split at same
    · cases same
      refine ⟨?_, placed.runs⟩
      intro other worker found listed
      by_cases own : other = session
      · subst own
        rw [put_workers_self] at found
        cases found
        exact absurd rfl listed
      · rw [put_workers_other _ _ own] at found
        exact placed.workers other worker found listed
    · cases same
  | work session act =>
    obtain ⟨worker, found, acted⟩ := bind_eq_some_iff.mp stepped
    exact placed.act found acted

theorem Placed.reached {allowed : World → Step → Prop} (reached : Reaches sha256 allowed .start w) :
    Placed sha256 w := by
  induction reached with
  | start =>
    constructor
    · intro session worker found
      cases found
    · intro run listed
      cases listed
  | step _ _ stepped ih => exact ih.step stepped

end Steps

def World.runsFor (w : World) (subscriptionId messageId : String) : List WorkflowRun :=
  w.runs.filter fun run => run.subscriptionId = subscriptionId ∧ run.messageId = messageId

theorem length_filter_le_one {α β : Type} (keyed : α → β) {rows : List α} (keep : α → Bool)
    (distinct : (rows.map keyed).Nodup)
    (same : ∀ one ∈ rows, ∀ other ∈ rows, keep one = true → keep other = true → keyed one = keyed other) :
    (rows.filter keep).length ≤ 1 := by
  have kept : ((rows.filter keep).map keyed).Nodup := distinct.sublist (filter_sublist.map keyed)
  have all (row : α) (listed : row ∈ rows.filter keep) : row ∈ rows ∧ keep row = true := mem_filter.mp listed
  cases rest : rows.filter keep with
  | nil => simp
  | cons one rest' =>
    cases rest' with
    | nil => simp
    | cons other more => grind

/-- Every message starts at most one run for a subscription, in every run of the inbox in which no two workers are
    at one message at once, and `start_run` does not fail and no worker is lost between the run's row and the event
    that names it. -/
theorem one_run_per_message (reached : Reaches sha256 (Careful sha256) .start w) (subscriptionId messageId : String) :
    (w.runsFor subscriptionId messageId).length ≤ 1 := by
  have sound := Sound.reached reached
  have placed := Placed.reached reached
  apply length_filter_le_one WorkflowRun.externalEvent _ sound.once
  intro one first other second same equal
  obtain ⟨subscription, there, placedAt⟩ := placed.runs one first
  obtain ⟨again, here, placedToo⟩ := placed.runs other second
  simp_all

def World.Solo (w : World) (session : Nat) : Prop := ∀ other, other ≠ session → w.workers other = none

def World.alone (sha256 : String → String) (w : World) (session : Nat) : Step → Bool
  | .claim other _ => other = session
  | .work other act =>
    other = session && match act with
      | .startFails | .crash => false
      | .insert =>
        match w.workers session with
        | some worker => worker.message.all fun message =>
            (w.events.read session (worker.childDedupe sha256 message)).isNone
        | none => true
      | _ => true
  | _ => true

theorem Sound.solo_engaged (sound : Sound sha256 w) (solo : w.Solo s) (engaged : w.Engaged sha256 t key) : t = s := by
  by_contra other
  rcases engaged with ⟨worker, found, _⟩ | ⟨⟨event, held, _⟩, _⟩
  · simp [solo t other] at found
  · have alive := sound.alive key t event held
    simp [solo t other] at alive

theorem World.Solo.step (solo : w.Solo s) {step : Step} (alone : w.alone sha256 s step = true)
    (stepped : w.step sha256 step = some after) : after.Solo s := by
  intro other different
  cases step with
  | register id subscription =>
    unfold World.step at stepped
    dsimp only at stepped
    split at stepped
    · cases stepped
    · cases stepped
      exact solo other different
  | renew id | restatus id status =>
    obtain ⟨subscription, _, rfl⟩ := map_eq_some_iff.mp stepped
    exact solo other different
  | arrive installationId message =>
    cases stepped
    exact solo other different
  | ingest subscriptionId historyId messageId =>
    obtain ⟨subscription, _, same⟩ := bind_eq_some_iff.mp stepped
    dsimp only at same
    split at same
    · cases same
      exact solo other different
    · cases same
  | claim session key =>
    obtain rfl : session = s := of_decide_eq_true alone
    obtain ⟨event, _, same⟩ := bind_eq_some_iff.mp stepped
    split at same
    · cases same
      exact (put_workers_other _ _ different).trans (solo other different)
    · cases same
  | work session act =>
    obtain rfl : session = s := of_decide_eq_true (Bool.and_eq_true_iff.mp alone).1
    obtain ⟨worker, found, acted⟩ := bind_eq_some_iff.mp stepped
    obtain ⟨next, workers, _⟩ := (act_effect acted).workers
    rw [workers, update_of_ne different]
    exact solo other different

theorem Sound.careful_alone (sound : Sound sha256 w) (solo : w.Solo s) {step : Step}
    (alone : w.alone sha256 s step = true) : Careful sha256 w step := by
  cases step with
  | work session act =>
    obtain rfl : session = s := of_decide_eq_true (Bool.and_eq_true_iff.mp alone).1
    have allowed := (Bool.and_eq_true_iff.mp alone).2
    intro worker found
    cases act with
    | look =>
      intro message todo _ other engaged
      exact sound.solo_engaged solo engaged
    | insert =>
      intro message todo phase there
      rw [found] at allowed
      simp [Worker.message, phase] at allowed
      simp [allowed] at there
    | startFails | crash => cases allowed
    | _ => trivial
  | _ => trivial

theorem Reaches.alone {last : World} {steps : List Step} (reached : Reaches sha256 (Careful sha256) .start w)
    (solo : w.Solo s) (ran : w.runWhere sha256 (fun w => w.alone sha256 s) steps = some last) :
    Reaches sha256 (Careful sha256) .start last := by
  induction steps generalizing w with
  | nil =>
    cases ran
    exact reached
  | cons step rest ih =>
    unfold World.runWhere at ran
    split at ran
    · rename_i alone
      obtain ⟨after, stepped, ran⟩ := bind_eq_some_iff.mp ran
      have sound := Sound.reached reached
      exact ih (reached.step (sound.careful_alone solo alone) stepped) (solo.step alone stepped) ran
    · cases ran

def mailTrigger : TriggerSubscription :=
  { ownerId := "owner-1", connectorInstallationId := "mailbox-1", workflowId := "workflow-1" }

def notified (session historyId : Nat) (delivery : String) : List Step :=
  [.ingest "trigger-1" historyId delivery,
    .claim session (eventDedupeKey id "gmail" ["mailbox-1", "trigger-1", toString historyId, delivery])]

def firstMessage : List Step :=
  [.register "trigger-1" mailTrigger, .arrive "mailbox-1" "message-1"] ++ notified 1 1 "delivery-1" ++
    [.history (.page ⟨[["message-1"]], some 1, none⟩), .look, .fetch true, .insert, .create (some 1), .startEnds].map
      (.work 1)

def secondMessage : List Step :=
  [.work 1 .crash, .arrive "mailbox-1" "message-2"] ++ notified 2 2 "delivery-2" ++
    [.history (.page ⟨[["message-1"], ["message-2"]], some 2, none⟩), .look, .fetch true, .create (some 2),
      .startEnds].map (.work 2)

theorem first_message_started_once : ∃ w, Reaches id (Careful id) .start w ∧
    (w.runsFor "trigger-1" "message-1").length = 1 ∧ (w.runsFor "trigger-1" "message-1").length ≤ 1 := by
  have ran : (World.start.runWhere id (fun w => w.alone id 1) (firstMessage ++ [.work 1 .assign, .work 1 .finish])).any
      (fun w => (w.runsFor "trigger-1" "message-1").length = 1) = true := by decide +kernel
  obtain ⟨w, run, once⟩ := (any_eq_true _ _).mp ran
  have reached : Reaches id (Careful id) .start w := Reaches.start.alone (fun _ _ => rfl) run
  exact ⟨w, reached, of_decide_eq_true once, one_run_per_message reached "trigger-1" "message-1"⟩

theorem lost_worker_starts_message_twice : ¬ ∀ w, Reaches id (fun _ _ => True) .start w →
    ∀ subscriptionId messageId, (w.runsFor subscriptionId messageId).length ≤ 1 := by
  intro once
  have ran : (World.start.runWhere id (fun _ _ => true) (firstMessage ++ secondMessage)).any
      (fun w => (w.runsFor "trigger-1" "message-1").length = 2) = true := by decide +kernel
  obtain ⟨w, run, twice⟩ := (any_eq_true _ _).mp ran
  have reached : Reaches id (fun _ _ => True) .start w := (Reaches.start.runs run).mono fun _ _ _ => True.intro
  have bound := once w reached "trigger-1" "message-1"
  simp [of_decide_eq_true twice] at bound

end Troop.Inbox
