import Troop.Identity.Sessions

namespace Troop.Identity

open Systems (Reaches)
open List
open Function (update update_of_ne update_self)

def Call.Clears (sid : String) : Call → Prop
  | cleared _ row => row.id = sid
  | sweeping _ _ rows _ => sid ∈ rows.map RefreshSession.id
  | _ => False

namespace World

variable (settings : Settings) (w : World)

/-- No request that began after its session was revoked, and the revoking call had returned, has been let
    through. -/
def RevocationFinal : Prop := ∀ late ∈ w.accepted, late = false

/-- A request stores the key of its session only while the session is not revoked, nor being cleared to be. -/
def StoresFresh : Action → Prop
  | .storeKey i => ∀ token late, w.calls i = some (.found token late) →
      w.isRevoked token.sid = false ∧ ∀ j call, w.calls j = some call → ¬ call.Clears token.sid
  | _ => True

end World

section Invariant

abbrev Table := String → Option RefreshSession

def RevokedIn (sessions : Table) (sid : String) : Prop :=
  ∃ row, sessions sid = some row ∧ row.isRevoked = true

def KnownIn (sessions : Table) (row : RefreshSession) : Prop :=
  ∃ now, sessions row.id = some now ∧ now.userId = row.userId

def Call.Fits (sessions : Table) (cache : List (String × String)) : Call → Prop
  | asked token late | missed token late => late = true → RevokedIn sessions token.sid
  | found token late => late = false ∧ ∃ row, sessions token.sid = some row ∧ row.userId = token.sub
  | loaded _ row | checked row | marked _ row => KnownIn sessions row
  | cleared _ row => KnownIn sessions row ∧ (row.userId, row.id) ∉ cache
  | listed _ userId rows | markedAll _ userId rows => ∀ row ∈ rows, KnownIn sessions row ∧ row.userId = userId
  | sweeping _ userId rows keys =>
    (∀ row ∈ rows, KnownIn sessions row ∧ row.userId = userId) ∧
      ∀ row ∈ rows, (userId, row.id) ∈ cache → (userId, row.id) ∈ keys
  | changed _ rows => ∀ row ∈ rows, RevokedIn sessions row.id
  | denied _ | granted _ _ | rehashed _ _ => True

structure World.Sound (settings : Settings) (w : World) : Prop where
  named : ∀ id row, w.sessions id = some row → row.id = id ∧ ∃ n < w.drawn, id = settings.session n
  keyed : ∀ key ∈ w.cache, ∃ row, w.sessions key.2 = some row ∧ row.userId = key.1 ∧ row.isRevoked = false
  ended : ∀ sid ∈ w.ended, RevokedIn w.sessions sid
  calls : ∀ i call, w.calls i = some call → call.Fits w.sessions w.cache
  accepted : w.RevocationFinal

def Keeps (before after : Table) : Prop :=
  ∀ id row, before id = some row →
    ∃ now, after id = some now ∧ now.userId = row.userId ∧ (row.isRevoked = true → now.isRevoked = true)

variable {before after : Table} {cache fewer : List (String × String)}

theorem Keeps.refl (sessions : Table) : Keeps sessions sessions := fun _ row found => ⟨row, found, rfl, id⟩

variable {row : RefreshSession} {owed : List String} {ids : List String} {sid : String} {i : Nat}

theorem Keeps.revoked (keeps : Keeps before after) (revoked : RevokedIn before sid) :
    RevokedIn after sid := by
  obtain ⟨row, found, isRevoked⟩ := revoked
  obtain ⟨now, there, _, stays⟩ := keeps sid row found
  exact ⟨now, there, stays isRevoked⟩

theorem Keeps.known (keeps : Keeps before after) (known : KnownIn before row) : KnownIn after row := by
  obtain ⟨now, found, user⟩ := known
  obtain ⟨later, there, same, _⟩ := keeps row.id now found
  exact ⟨later, there, same.trans user⟩

theorem Call.Fits.mono {call : Call} (fits : call.Fits before cache) (keeps : Keeps before after)
    (fewerKeys : ∀ key ∈ fewer, key ∈ cache) : call.Fits after fewer := by
  cases call with
  | asked token late => exact fun isLate => keeps.revoked (fits isLate)
  | missed token late => exact fun isLate => keeps.revoked (fits isLate)
  | found token late =>
    obtain ⟨early, row, found, user⟩ := fits
    obtain ⟨now, there, same, _⟩ := keeps _ row found
    exact ⟨early, now, there, same.trans user⟩
  | denied token => trivial
  | loaded revoking row => exact keeps.known fits
  | checked row => exact keeps.known fits
  | marked revoking row => exact keeps.known fits
  | cleared revoking row => exact ⟨keeps.known fits.1, fun member => fits.2 (fewerKeys _ member)⟩
  | granted token userId => trivial
  | rehashed token userId => trivial
  | sweeping token userId rows keys =>
    exact ⟨fun row member => ⟨keeps.known (fits.1 row member).1, (fits.1 row member).2⟩,
      fun row member cached => fits.2 row member (fewerKeys _ cached)⟩
  | changed token rows => exact fun row member => keeps.revoked (fits row member)
  | _ => exact fun row member => ⟨keeps.known (fits row member).1, (fits row member).2⟩

variable {settings : Settings} {w : World}

theorem World.Sound.move (sound : w.Sound settings) {call : Option Call}
    (fits : ∀ next, call = some next → next.Fits w.sessions fewer) (fewerKeys : ∀ key ∈ fewer, key ∈ w.cache)
    {users : String → Option User} {resetTokens : String → Option String} {rowLocks userLocks : String → Option Nat} :
    World.Sound settings { w.put i call with cache := fewer, users, resetTokens, rowLocks, userLocks, owed } where
  named := sound.named
  keyed key member := sound.keyed key (fewerKeys key member)
  ended := sound.ended
  calls j other found := by
    by_cases same : j = i
    · subst same
      rw [show (w.put j call).calls j = call from update_self _ _ _] at found
      exact fits other found
    · rw [show (w.put i call).calls j = w.calls j from update_of_ne same _ _] at found
      exact (sound.calls j other found).mono (Keeps.refl _) fewerKeys
  accepted := sound.accepted

theorem World.Sound.table (sound : w.Sound settings) {sessions : Table} {byHash : String → Option String} {drawn : Nat}
    (keeps : Keeps w.sessions sessions)
    (named : ∀ id row, sessions id = some row → row.id = id ∧ ∃ n < drawn, id = settings.session n)
    (keyed : ∀ key ∈ w.cache, ∃ row, sessions key.2 = some row ∧ row.userId = key.1 ∧ row.isRevoked = false) :
    World.Sound settings { w with sessions, byHash, drawn } where
  named := named
  keyed := keyed
  ended sid member := keeps.revoked (sound.ended sid member)
  calls i call found := (sound.calls i call found).mono keeps fun _ member => member
  accepted := sound.accepted

theorem World.Sound.old (sound : w.Sound settings) {userId id : String}
    (found : w.sessions id = some row) : (w.addSession settings userId).sessions id = some row := by
  have fresh : id ≠ settings.session w.drawn := by
    intro same
    obtain ⟨_, n, below, drawn⟩ := sound.named id row found
    have equal := settings.session_injective (drawn.symm.trans same)
    omega
  exact (update_of_ne fresh _ _).trans found

theorem World.Sound.addSession_keeps (sound : w.Sound settings) (userId : String) :
    Keeps w.sessions (w.addSession settings userId).sessions :=
  fun _ row found => ⟨row, sound.old found, rfl, fun revoked => revoked⟩

theorem World.Sound.addSession (sound : w.Sound settings) (userId : String) :
    (w.addSession settings userId).Sound settings := by
  apply sound.table (sound.addSession_keeps userId)
  · intro id row found
    dsimp only [World.addSession] at found
    by_cases same : id = settings.session w.drawn
    · grind
    · rw [update_of_ne same] at found
      obtain ⟨named, n, below, drawn⟩ := sound.named id row found
      exact ⟨named, n, Nat.lt_succ_of_lt below, drawn⟩
  · intro key member
    obtain ⟨row, found, user, active⟩ := sound.keyed key member
    exact ⟨row, sound.old found, user, active⟩

theorem World.Sound.expire (sound : w.Sound settings) (id : String) :
    World.Sound settings { w with
      sessions := Function.update w.sessions id ((w.sessions id).map fun row => { row with expired := true }) } := by
  have after : ∀ other row, w.sessions other = some row → ∃ now,
      update w.sessions id ((w.sessions id).map fun row => { row with expired := true }) other = some now ∧
        now.id = row.id ∧ now.userId = row.userId ∧ now.isRevoked = row.isRevoked := by
    intro other row found
    by_cases same : other = id
    · simp_all
    · exact ⟨row, by rw [update_of_ne same, found], rfl, rfl, rfl⟩
  apply sound.table
  · intro other row found
    obtain ⟨now, there, _, user, revoked⟩ := after other row found
    exact ⟨now, there, user, fun isRevoked => revoked.trans isRevoked⟩
  · intro other now there
    have known : ∃ row, w.sessions other = some row := by
      by_cases same : other = id
      · grind [update_self, Option.map_eq_some_iff]
      · exact ⟨now, by rwa [update_of_ne same] at there⟩
    obtain ⟨row, found⟩ := known
    obtain ⟨later, again, named, _⟩ := after other row found
    cases there.symm.trans again
    obtain ⟨own, drawn⟩ := sound.named other row found
    exact ⟨named.trans own, drawn⟩
  · intro key member
    obtain ⟨row, found, user, active⟩ := sound.keyed key member
    obtain ⟨now, there, _, same, revoked⟩ := after _ row found
    exact ⟨now, there, same.trans user, revoked.trans active⟩

theorem revoke_keeps (ids : List String) : Keeps w.sessions (w.revoke ids).sessions := by
  intro id row found
  by_cases member : id ∈ ids
  · exact ⟨{ row with isRevoked := true }, by simp [World.revoke, member, found], rfl, fun _ => rfl⟩
  · exact ⟨row, by simp [World.revoke, member, found], rfl, fun revoked => revoked⟩

theorem revoke_revokes (member : row.id ∈ ids)
    (known : KnownIn w.sessions row) : RevokedIn (w.revoke ids).sessions row.id := by
  obtain ⟨now, found, _⟩ := known
  exact ⟨{ now with isRevoked := true }, by simp [World.revoke, member, found], rfl⟩

theorem World.Sound.revoke (sound : w.Sound settings) (apart : ∀ key ∈ w.cache, key.2 ∉ ids) :
    (w.revoke ids).Sound settings := by
  apply sound.table (revoke_keeps ids)
  · intro id row found
    by_cases member : id ∈ ids
    · simp only [World.revoke, member, if_true, Option.map_eq_some_iff] at found
      obtain ⟨old, there, rfl⟩ := found
      exact sound.named id old there
    · simp only [World.revoke, member, if_false] at found
      exact sound.named id row found
  · intro key member
    obtain ⟨row, found, user, active⟩ := sound.keyed key member
    exact ⟨row, by simp [World.revoke, apart key member, found], user, active⟩

theorem World.Sound.finish (sound : w.Sound settings) (i : Nat) : (w.finish i).Sound settings :=
  sound.move (fun _ none => by cases none) fun _ member => member

theorem World.Sound.end (sound : w.Sound settings) (ids : List String) (revoked : ∀ sid ∈ ids, RevokedIn w.sessions sid) {log : List Use} : World.Sound settings { w with ended := ids ++ w.ended, owed, log } where
  named := sound.named
  keyed := sound.keyed
  ended sid member := (mem_append.mp member).elim (revoked sid) (sound.ended sid)
  calls := sound.calls
  accepted := sound.accepted

theorem World.Sound.accept (sound : w.Sound settings) (i : Nat) : (w.accept i false).Sound settings where
  named := sound.named
  keyed := sound.keyed
  ended := sound.ended
  calls := (sound.move (fun _ none => by cases none) fun _ member => member :
    World.Sound settings { w.put i none with cache := w.cache }).calls
  accepted late member := by
    rcases mem_cons.mp member with same | member
    · exact same
    · exact sound.accepted late member

theorem World.Sound.store (sound : w.Sound settings) {key : String × String}
    (active : ∃ row, w.sessions key.2 = some row ∧ row.userId = key.1 ∧ row.isRevoked = false)
    (apart : ∀ j call, w.calls j = some call → ¬ call.Clears key.2) :
    World.Sound settings { w with cache := key :: w.cache } where
  named := sound.named
  keyed other member := by
    rcases mem_cons.mp member with same | member
    · exact same ▸ active
    · exact sound.keyed other member
  ended := sound.ended
  calls j call found := by
    have fits := sound.calls j call found
    have apart := apart j call found
    cases call with
    | cleared revoking row =>
      refine ⟨fits.1, fun member => ?_⟩
      rcases mem_cons.mp member with same | member
      · exact apart (congrArg Prod.snd same)
      · exact fits.2 member
    | sweeping token userId rows keys =>
      refine ⟨fits.1, fun row inside member => ?_⟩
      rcases mem_cons.mp member with same | member
      · exact absurd (mem_map.mpr ⟨row, inside, congrArg Prod.snd same⟩) apart
      · exact fits.2 row inside member
    | _ => exact fits
  accepted := sound.accepted

theorem activeSession?_some (found : w.activeSession? sid = some row) :
    w.sessions sid = some row ∧ row.isRevoked = false := by
  obtain ⟨there, active⟩ := Option.filter_eq_some_iff.mp found
  simp only [decide_eq_true_eq, Bool.not_eq_true] at active
  exact ⟨there, active.1⟩

theorem World.Sound.revokeCleared (sound : w.Sound settings) {rows : List RefreshSession}
    (known : ∀ row ∈ rows, KnownIn w.sessions row) (cleared : ∀ row ∈ rows, (row.userId, row.id) ∉ w.cache) :
    (w.revoke (rows.map RefreshSession.id)).Sound settings ∧
      ∀ row ∈ rows, RevokedIn (w.revoke (rows.map RefreshSession.id)).sessions row.id := by
  refine ⟨sound.revoke fun key member inside => ?_, fun row inside =>
    revoke_revokes (mem_map_of_mem inside) (known row inside)⟩
  obtain ⟨row, inside, same⟩ := mem_map.mp inside
  obtain ⟨now, there, user, _⟩ := sound.keyed key member
  obtain ⟨later, again, owner⟩ := known row inside
  rw [← same] at there
  cases there.symm.trans again
  have equal : (row.userId, row.id) = key := Prod.ext (owner.symm.trans user) same
  exact cleared row inside (equal ▸ member)

theorem World.Sound.commit (sound : w.Sound settings) {after : World}
    (stepped : w.commit settings i = some after) : after.Sound settings := by
  unfold World.commit at stepped
  split at stepped
  · rename_i row found
    cases stepped
    have fits := sound.calls i _ found
    obtain ⟨revoked, own⟩ := sound.revokeCleared (forall_mem_singleton.mpr fits.1)
      (forall_mem_singleton.mpr fits.2)
    apply (revoked.finish i).end [row.id]
    intro sid member
    rw [mem_singleton.mp member]
    exact own row (mem_singleton_self _)
  · rename_i row found
    cases stepped
    have fits := sound.calls i _ found
    obtain ⟨revoked, own⟩ := sound.revokeCleared (forall_mem_singleton.mpr fits.1)
      (forall_mem_singleton.mpr fits.2)
    apply ((revoked.addSession row.userId).finish i).end [row.id]
    intro sid member
    rw [mem_singleton.mp member]
    exact (revoked.addSession_keeps row.userId).revoked (own row (mem_singleton_self _))
  · rename_i token userId rows found
    cases stepped
    obtain ⟨known, swept⟩ := sound.calls i _ found
    obtain ⟨revoked, own⟩ := sound.revokeCleared (fun row inside => (known row inside).1) fun row inside member => by
      rw [(known row inside).2] at member
      exact not_mem_nil (swept row inside member)
    have moved : ((w.revoke (rows.map RefreshSession.id)).finish i |>.put i (some (.changed token rows))).Sound settings :=
      (revoked.finish i).move (fun next same => by cases same; exact own) fun _ member => member
    exact moved.end [] (fun _ none => absurd none not_mem_nil)
  · cases stepped

theorem World.Sound.step (sound : w.Sound settings) {action : Action} {after : World} (real : w.Real action)
    (careful : w.StoresFresh action) (stepped : w.step settings action = some after) : after.Sound settings := by
  have same : ∀ key ∈ w.cache, key ∈ w.cache := fun _ member => member
  have filtered : ∀ gone, ∀ key ∈ w.cache.filter (· ≠ gone), key ∈ w.cache := fun _ _ member => mem_of_mem_filter member
  cases action with
  | signIn userId =>
    cases stepped
    exact sound.addSession userId
  | forgotPassword userId =>
    cases stepped
    exact ⟨fun id row found => by
      obtain ⟨named, n, below, drawn⟩ := sound.named id row found
      exact ⟨named, n, Nat.lt_succ_of_lt below, drawn⟩, sound.keyed, sound.ended, sound.calls, sound.accepted⟩
  | expireSession id =>
    cases stepped
    exact sound.expire id
  | expireKey key =>
    cases stepped
    exact ⟨sound.named, fun other member => sound.keyed other (filtered key other member), sound.ended,
      fun j call found => (sound.calls j call found).mono (Keeps.refl _) (filtered key), sound.accepted⟩
  | request i token =>
    simp only [World.step] at stepped
    split at stepped
    · split at stepped
      · cases stepped
        refine sound.move (fun next equal => ?_) same
        cases equal
        exact fun late => sound.ended _ (of_decide_eq_true late)
      · cases stepped
    · cases stepped
  | lookUp i =>
    simp only [World.step] at stepped
    split at stepped
    · rename_i late found
      split at stepped
      · rename_i cached
        cases stepped
        obtain ⟨row, there, _, active⟩ := sound.keyed _ cached
        have early : late = false := by
          refine Bool.eq_false_iff.mpr fun isLate => ?_
          obtain ⟨other, again, revoked⟩ := sound.calls i _ found isLate
          simp_all
        rw [early]
        exact sound.accept i
      · cases stepped
        have fits := sound.calls i _ found
        exact sound.move (fun next equal => by cases equal; exact fits) same
    · cases stepped
  | readRow i =>
    simp only [World.step] at stepped
    split at stepped
    · rename_i found
      split at stepped
      · rename_i row active
        obtain ⟨there, unrevoked⟩ := activeSession?_some active
        split at stepped
        · rename_i owner
          cases stepped
          refine sound.move (fun next equal => ?_) same
          cases equal
          refine ⟨Bool.eq_false_iff.mpr fun isLate => ?_, row, there, owner⟩
          obtain ⟨other, again, revoked⟩ := sound.calls i _ found isLate
          simp_all
        · cases stepped
          exact sound.move (fun next equal => by cases equal; trivial) same
      · cases stepped
        exact sound.move (fun next equal => by cases equal; trivial) same
    · cases stepped
  | storeKey i =>
    simp only [World.step] at stepped
    split at stepped
    · rename_i token late found
      cases stepped
      obtain ⟨early, row, there, owner⟩ := sound.calls i _ found
      obtain ⟨unrevoked, apart⟩ := careful token late found
      have active : row.isRevoked = false := by simp_all [World.isRevoked]
      rw [early]
      refine (sound.accept i).store ⟨row, there, owner, active⟩ fun j call there => ?_
      by_cases own : j = i
      · simp [own, show (w.accept i false).calls i = none from update_self _ _ _] at there
      · exact apart j call ((update_of_ne own _ _).symm.trans there)
    · cases stepped
  | dropKey i =>
    simp only [World.step] at stepped
    split at stepped
    · cases stepped
      exact sound.move (fun next none => by cases none) (filtered _)
    · cases stepped
  | load i revoking tokenHash =>
    simp only [World.step] at stepped
    split at stepped
    · rename_i row _ read
      obtain ⟨id, _, found⟩ := Option.bind_eq_some_iff.mp read
      have own := (sound.named id row found).1
      split at stepped
      · cases stepped
      · cases stepped
        refine sound.move (fun next equal => ?_) same
        cases equal
        exact ⟨row, by rw [own]; exact found, rfl⟩
    · cases stepped
  | checkUser i =>
    simp only [World.step] at stepped
    split at stepped
    · rename_i found
      have fits := sound.calls i _ found
      split at stepped
      · split at stepped
        · cases stepped
          exact sound.move (fun next equal => by cases equal; exact fits) same
        · cases stepped
          exact sound.move (fun next none => by cases none) same
      · cases stepped
        exact sound.move (fun next none => by cases none) same
    · cases stepped
  | mark i =>
    simp only [World.step] at stepped
    split at stepped
    · rename_i found
      have fits := sound.calls i _ found
      split at stepped
      · cases stepped
        exact sound.move (fun next equal => by cases equal; exact fits) same
      · split at stepped
        · cases stepped
          exact sound.move (fun next equal => by cases equal; exact fits) same
        · cases stepped
    · rename_i found
      have fits := sound.calls i _ found
      split at stepped
      · cases stepped
        exact sound.move (fun next equal => by cases equal; exact fits) same
      · cases stepped
    · cases stepped
  | clear i =>
    simp only [World.step] at stepped
    split at stepped
    · rename_i found
      cases stepped
      refine sound.move (fun next equal => ?_) (filtered _)
      cases equal
      exact ⟨sound.calls i _ found, fun member => by simpa using (mem_filter.mp member).2⟩
    · cases stepped
  | resetPassword i token =>
    simp only [World.step] at stepped
    split at stepped
    · cases stepped
      exact sound.move (fun next equal => by cases equal; trivial) same
    · cases stepped
  | rehash i =>
    simp only [World.step] at stepped
    split at stepped
    · split at stepped
      · cases stepped
        exact sound.move (fun next equal => by cases equal; trivial) same
      · cases stepped
        exact sound.move (fun next none => by cases none) same
    · cases stepped
  | list i rows =>
    simp only [World.step] at stepped
    split at stepped
    · rename_i token userId found
      have lists := real token userId found
      split at stepped
      · cases stepped
        refine sound.move (fun next equal => ?_) same
        cases equal
        intro row inside
        obtain ⟨active, owner⟩ := (lists row).mp inside
        exact ⟨⟨row, (activeSession?_some active).1, rfl⟩, owner⟩
      · cases stepped
    · cases stepped
  | markAll i =>
    simp only [World.step] at stepped
    split at stepped
    · rename_i found
      have fits := sound.calls i _ found
      split at stepped
      · cases stepped
        exact sound.move (fun next equal => by cases equal; exact fits) same
      · cases stepped
    · cases stepped
  | scan i extra =>
    simp only [World.step] at stepped
    split at stepped
    · rename_i found
      have fits := sound.calls i _ found
      cases stepped
      refine sound.move (fun next equal => ?_) same
      cases equal
      refine ⟨fits, fun row inside cached => mem_append_left _ (mem_filter.mpr ⟨cached, ?_⟩)⟩
      simp
    · cases stepped
  | sweep i =>
    simp only [World.step] at stepped
    split at stepped
    · rename_i found
      obtain ⟨known, left⟩ := sound.calls i _ found
      cases stepped
      refine sound.move (fun next equal => ?_) (filtered _)
      cases equal
      refine ⟨known, fun row inside cached => ?_⟩
      obtain ⟨there, other⟩ := mem_filter.mp cached
      rcases mem_cons.mp (left row inside there) with gone | kept
      · exact absurd gone (by simpa using other)
      · exact kept
    · cases stepped
  | commit i => exact sound.commit stepped
  | deleteToken i =>
    simp only [World.step] at stepped
    split at stepped
    · rename_i token rows found
      cases stepped
      have fits := sound.calls i _ found
      have moved : World.Sound settings { w.put i none with
          resetTokens := update w.resetTokens token none, owed := w.owed.filter (· ≠ token) } :=
        sound.move (fun next none => by cases none) same
      refine moved.end (rows.map RefreshSession.id) fun sid inside => ?_
      obtain ⟨row, member, equal⟩ := mem_map.mp inside
      exact equal ▸ fits row member
    · cases stepped
  | crash i =>
    cases stepped
    exact sound.finish i
  | _ =>
    cases stepped
    exact ⟨sound.named, sound.keyed, sound.ended, sound.calls, sound.accepted⟩

theorem World.initial_sound (users : String → Option User) : (World.initial users).Sound settings :=
  { named := fun _ _ found => by cases found
    keyed := fun _ member => absurd member not_mem_nil
    ended := fun _ member => absurd member not_mem_nil
    calls := fun _ _ found => by cases found
    accepted := fun _ member => absurd member not_mem_nil }

/-- Where every key is stored fresh, revocation is final in every state reached. -/
theorem revocation_is_final {settings : Settings} {users : String → Option User} {w : World}
    (reached : Reaches (World.step settings) (fun w action => w.Real action ∧ w.StoresFresh action)
      (World.initial users) w) : w.RevocationFinal := by
  have sound : w.Sound settings := reached.invariant (World.initial_sound users) fun sound careful stepped =>
    sound.step careful.1 careful.2 stepped
  exact sound.accepted

end Invariant

section Runs

def letters (c : Char) (n : Nat) : String := String.ofList (List.replicate (n + 1) c)

theorem letters_injective (c : Char) : Function.Injective (letters c) := by
  intro m n same
  simpa [letters] using congrArg (fun text => text.toList.length) same

def plainSettings : Settings where
  requireEmailVerification := false
  session := letters 's'
  session_injective := letters_injective 's'
  tokenHash := letters 'h'
  tokenHash_injective := letters_injective 'h'
  resetToken := letters 't'
  resetToken_injective := letters_injective 't'

def everybody (_ : String) : Option User := some ⟨true, true⟩

def plain : Action → Bool
  | .storeKey _ | .list _ _ => false
  | _ => true

def loggingOut : List Action := [.load 1 .logout "h", .mark 1, .clear 1, .commit 1]

theorem ended_session_refused : ∃ w, Reaches (World.step plainSettings)
    (fun w action => w.Real action ∧ w.StoresFresh action) (World.initial everybody) w ∧
      w.accepted = [false] ∧ w.ended = ["s"] ∧ w.calls 0 = some (.denied ⟨"u", "s"⟩) ∧ w.RevocationFinal := by
  have sound : ∀ (w : World) (action : Action), plain action = true → w.Real action ∧ w.StoresFresh action := by
    intro w action fits
    cases action with
    | storeKey i => cases fits
    | list i rows => cases fits
    | _ => exact ⟨trivial, trivial⟩
  let token : AccessToken := ⟨"u", "s"⟩
  let read : World := ((((World.initial everybody).addSession plainSettings "u").put 0 (some (.asked token false))).put 0
    (some (.missed token false))).put 0 (some (.found token false))
  have started : Systems.runWhere (World.step plainSettings) (fun _ action => plain action) (World.initial everybody)
      [.signIn "u", .request 0 token, .lookUp 0, .readRow 0] = some read := rfl
  have fresh : read.Real (.storeKey 0) ∧ read.StoresFresh (.storeKey 0) := by
    refine ⟨trivial, ?_⟩
    intro other late found
    cases found
    refine ⟨by decide, fun j call there => ?_⟩
    by_cases own : j = 0
    · subst own
      cases there
      exact id
    · have none : read.calls j = none := by
        simp [read, World.put, World.addSession, World.initial, own]
      cases none.symm.trans there
  obtain ⟨stored, storing, known⟩ : ∃ stored, read.step plainSettings (.storeKey 0) = some stored ∧
      ((Systems.runWhere (World.step plainSettings) (fun _ action => plain action) stored
        (loggingOut ++ [.request 0 token, .lookUp 0, .readRow 0])).map fun w =>
          (w.accepted, w.ended, w.calls 0)) = some ([false], ["s"], some (.denied token)) :=
    ⟨_, rfl, by decide⟩
  obtain ⟨w, ran, shown⟩ := Option.map_eq_some_iff.mp known
  obtain ⟨accepted, rest⟩ := Prod.mk.inj shown
  obtain ⟨ended, denied⟩ := Prod.mk.inj rest
  have reached := ((Reaches.start.runs sound started).step fresh storing).runs sound ran
  exact ⟨w, reached, accepted, ended, denied, revocation_is_final reached⟩

theorem stored_key_outlives_logout : ∃ w, Reaches (World.step plainSettings) World.Real (World.initial everybody) w ∧
    ¬ w.RevocationFinal := by
  have ran : (Systems.runWhere (World.step plainSettings) (fun _ action => action.listless) (World.initial everybody) ([.signIn "u", .request 0 ⟨"u", "s"⟩, .lookUp 0, .readRow 0] ++ loggingOut ++
        [.storeKey 0, .request 2 ⟨"u", "s"⟩, .lookUp 2])).map World.accepted = some [true, false] := by
    decide
  obtain ⟨w, ended, accepted⟩ := Option.map_eq_some_iff.mp ran
  refine ⟨w, Reaches.start.runs real_of_listless ended, fun final => ?_⟩
  have late := final true (by rw [accepted]; exact mem_cons_self)
  cases late

end Runs

end Troop.Identity
