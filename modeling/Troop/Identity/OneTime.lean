import Troop.Identity.Revocation

namespace Troop.Identity

open Systems (Reaches)
open List
open Function (update_self)

def Use.Again : Use → Use → Prop
  | created hash, created other | created hash, loggedOut other => hash = other
  | reset token, reset other => token = other
  | _, _ => False

namespace World

variable (w : World)

def UsedOnce : Prop := w.log.Pairwise fun later earlier => ¬ later.Again earlier

/-- A refresh commits only while its session is not revoked, and a reset while its token is stored and no other
    reset that has committed is still to delete it. -/
def CommitsUnused : Action → Prop
  | .commit i =>
    (∀ row, w.calls i = some (.cleared .refresh row) → w.isRevoked row.id = false) ∧
      ∀ token userId rows, w.calls i = some (.sweeping token userId rows []) →
        w.resetTokens token ≠ none ∧ token ∉ w.owed
  | _ => True

end World

section Invariant

variable {settings : Settings} {w : World}

def Settings.Issued (settings : Settings) (drawn : Nat) (token : String) : Prop :=
  ∃ n < drawn, token = settings.resetToken n

def Call.Holds (settings : Settings) (byHash : String → Option String) (drawn : Nat) : Call → Prop
  | loaded _ row | checked row | marked _ row | cleared _ row => byHash row.tokenHash = some row.id
  | granted token _ | rehashed token _ | listed token _ _ | markedAll token _ _ | sweeping token _ _ _ =>
    settings.Issued drawn token
  | asked _ _ | missed _ _ | found _ _ | denied _ | changed _ _ => True

def World.Spent (w : World) : Use → Prop
  | .created hash | .loggedOut hash => ∃ id, w.byHash hash = some id ∧ RevokedIn w.sessions id
  | .reset token => (token ∈ w.owed ∨ w.resetTokens token = none)

structure World.Frugal (settings : Settings) (w : World) : Prop where
  stored : ∀ id row, w.sessions id = some row → ∃ n < w.drawn, id = settings.session n
  hashed : ∀ hash id, w.byHash hash = some id → (∃ n < w.drawn, hash = settings.tokenHash n) ∧
    ∃ row, w.sessions id = some row ∧ row.id = id ∧ row.tokenHash = hash
  issued : ∀ token, w.resetTokens token ≠ none → settings.Issued w.drawn token
  logged : ∀ token, .reset token ∈ w.log → settings.Issued w.drawn token
  calls : ∀ i call, w.calls i = some call → call.Holds settings w.byHash w.drawn
  spent : ∀ use ∈ w.log, w.Spent use
  once : w.UsedOnce

def Endures (before after : Table) : Prop :=
  ∀ id row, before id = some row → ∃ now, after id = some now ∧ now.id = row.id ∧ now.tokenHash = row.tokenHash ∧
    (row.isRevoked = true → now.isRevoked = true)

variable {before after : Table}

theorem Endures.revoked (endures : Endures before after) {sid : String} (revoked : RevokedIn before sid) :
    RevokedIn after sid := by
  obtain ⟨row, found, isRevoked⟩ := revoked
  obtain ⟨now, there, _, _, stays⟩ := endures sid row found
  exact ⟨now, there, stays isRevoked⟩

theorem Call.Holds.mono {byHash longer : String → Option String} {drawn later : Nat} {call : Call}
    (holds : call.Holds settings byHash drawn) (grows : ∀ hash id, byHash hash = some id → longer hash = some id)
    (more : drawn ≤ later) : call.Holds settings longer later := by
  have sent : ∀ {token}, settings.Issued drawn token → settings.Issued later token := by
    intro token issued
    obtain ⟨n, below, same⟩ := issued
    exact ⟨n, Nat.lt_of_lt_of_le below more, same⟩
  cases call with
  | loaded revoking row => exact grows _ _ holds
  | checked row => exact grows _ _ holds
  | marked revoking row => exact grows _ _ holds
  | cleared revoking row => exact grows _ _ holds
  | granted token userId => exact sent holds
  | rehashed token userId => exact sent holds
  | listed token userId rows => exact sent holds
  | markedAll token userId rows => exact sent holds
  | sweeping token userId rows keys => exact sent holds
  | _ => trivial

variable {row : RefreshSession} {i : Nat}

theorem World.Frugal.move (frugal : w.Frugal settings) {call : Option Call}
    (holds : ∀ next, call = some next → next.Holds settings w.byHash w.drawn)
    {cache : List (String × String)} {users : String → Option User} {rowLocks userLocks : String → Option Nat}
    {accepted : List Bool} {ended : List String} :
    World.Frugal settings { w.put i call with cache, users, rowLocks, userLocks, accepted, ended } where
  stored := frugal.stored
  hashed := frugal.hashed
  issued := frugal.issued
  logged := frugal.logged
  calls j other found := by
    by_cases same : j = i
    · subst same
      rw [show (w.put j call).calls j = call from update_self _ _ _] at found
      exact holds other found
    · rw [show (w.put i call).calls j = w.calls j from Function.update_of_ne same _ _] at found
      exact frugal.calls j other found
  spent := frugal.spent
  once := frugal.once

theorem World.Frugal.dropToken (frugal : w.Frugal settings) (token : String) {owed : List String}
    (kept : ∀ other ∈ w.owed, other ≠ token → other ∈ owed) :
    World.Frugal settings { w with resetTokens := Function.update w.resetTokens token none, owed } where
  stored := frugal.stored
  hashed := frugal.hashed
  issued other there := by
    by_cases same : other = token
    · exact absurd (same ▸ update_self _ _ _) there
    · dsimp only at there
      rw [Function.update_of_ne same] at there
      exact frugal.issued other there
  logged := frugal.logged
  calls := frugal.calls
  spent use member := by
    have spent := frugal.spent use member
    cases use with
    | reset other =>
      by_cases same : other = token
      · subst same
        exact .inr (update_self _ _ _)
      · apply spent.imp <;> simp_all
    | _ => exact spent
  once := frugal.once

theorem World.Frugal.sendToken (frugal : w.Frugal settings) (userId : String) :
    World.Frugal settings { w with
      resetTokens := Function.update w.resetTokens (settings.resetToken w.drawn) (some userId), drawn := w.drawn + 1 } where
  stored id row found := by
    obtain ⟨n, below, drawn⟩ := frugal.stored id row found
    exact ⟨n, Nat.lt_succ_of_lt below, drawn⟩
  hashed hash id found := by
    obtain ⟨⟨n, below, drawn⟩, row⟩ := frugal.hashed hash id found
    exact ⟨⟨n, Nat.lt_succ_of_lt below, drawn⟩, row⟩
  issued token there := by
    by_cases same : token = settings.resetToken w.drawn
    · exact ⟨w.drawn, Nat.lt_succ_self _, same⟩
    · dsimp only at there
      rw [Function.update_of_ne same] at there
      obtain ⟨n, below, drawn⟩ := frugal.issued token there
      exact ⟨n, Nat.lt_succ_of_lt below, drawn⟩
  logged token member := by
    obtain ⟨n, below, drawn⟩ := frugal.logged token member
    exact ⟨n, Nat.lt_succ_of_lt below, drawn⟩
  calls i call found := (frugal.calls i call found).mono (fun _ _ there => there) (Nat.le_succ _)
  spent use member := by
    have spent := frugal.spent use member
    cases use with
    | reset token =>
      apply spent.imp id
      intro none
      have fresh : token ≠ settings.resetToken w.drawn := by
        intro same
        obtain ⟨n, below, drawn⟩ := frugal.logged token member
        have equal := settings.resetToken_injective (drawn.symm.trans same)
        omega
      exact (Function.update_of_ne fresh _ _).trans none
    | _ => exact spent
  once := frugal.once

theorem World.Frugal.table (frugal : w.Frugal settings) {sessions : Table} (endures : Endures w.sessions sessions)
    (stored : ∀ id row, sessions id = some row → ∃ n < w.drawn, id = settings.session n) :
    World.Frugal settings { w with sessions } where
  stored := stored
  hashed hash id found := by
    obtain ⟨drawn, row, there, own, same⟩ := frugal.hashed hash id found
    obtain ⟨now, after, ownNow, sameNow, _⟩ := endures id row there
    exact ⟨drawn, now, after, ownNow.trans own, sameNow.trans same⟩
  issued := frugal.issued
  logged := frugal.logged
  calls := frugal.calls
  spent use member := by
    have spent := frugal.spent use member
    cases use with
    | reset token => exact spent
    | _ =>
      obtain ⟨id, found, revoked⟩ := spent
      exact ⟨id, found, endures.revoked revoked⟩
  once := frugal.once

theorem expire_endures (id : String) : Endures w.sessions
    (Function.update w.sessions id ((w.sessions id).map fun row => { row with expired := true })) := by
  intro other row found
  by_cases same : other = id
  · simp_all
  · exact ⟨row, by rw [Function.update_of_ne same, found], rfl, rfl, fun h => h⟩

theorem revoke_endures (ids : List String) : Endures w.sessions (w.revoke ids).sessions := by
  intro id row found
  by_cases member : id ∈ ids
  · exact ⟨{ row with isRevoked := true }, by simp [World.revoke, member, found], rfl, rfl, fun _ => rfl⟩
  · exact ⟨row, by simp [World.revoke, member, found], rfl, rfl, fun h => h⟩

theorem World.Frugal.expire (frugal : w.Frugal settings) (id : String) : World.Frugal settings { w with
    sessions := Function.update w.sessions id ((w.sessions id).map fun row => { row with expired := true }) } := by
  apply frugal.table (expire_endures id)
  intro other row found
  by_cases same : other = id
  · subst same
    rw [update_self] at found
    obtain ⟨old, there, _⟩ := Option.map_eq_some_iff.mp found
    exact frugal.stored other old there
  · rw [Function.update_of_ne same] at found
    exact frugal.stored other row found

theorem World.Frugal.revoke (frugal : w.Frugal settings) (ids : List String) : (w.revoke ids).Frugal settings := by
  apply frugal.table (revoke_endures ids)
  intro id row found
  by_cases member : id ∈ ids
  · simp only [World.revoke, member, if_true, Option.map_eq_some_iff] at found
    obtain ⟨old, there, _⟩ := found
    exact frugal.stored id old there
  · simp only [World.revoke, member, if_false] at found
    exact frugal.stored id row found

theorem World.Frugal.oldRow (frugal : w.Frugal settings) {userId id : String}
    (found : w.sessions id = some row) : (w.addSession settings userId).sessions id = some row := by
  have fresh : id ≠ settings.session w.drawn := by
    intro same
    obtain ⟨n, below, drawn⟩ := frugal.stored id row found
    have equal := settings.session_injective (drawn.symm.trans same)
    omega
  exact (Function.update_of_ne fresh _ _).trans found

theorem World.Frugal.oldHash (frugal : w.Frugal settings) {userId hash id : String} (found : w.byHash hash = some id) :
    (w.addSession settings userId).byHash hash = some id := by
  have fresh : hash ≠ settings.tokenHash w.drawn := by
    intro same
    obtain ⟨⟨n, below, drawn⟩, _⟩ := frugal.hashed hash id found
    have equal := settings.tokenHash_injective (drawn.symm.trans same)
    omega
  exact (Function.update_of_ne fresh _ _).trans found

theorem World.Frugal.addSession (frugal : w.Frugal settings) (userId : String) :
    (w.addSession settings userId).Frugal settings := by
  have issued : ∀ {token}, settings.Issued w.drawn token → settings.Issued (w.drawn + 1) token :=
    fun ⟨n, below, drawn⟩ => ⟨n, Nat.lt_succ_of_lt below, drawn⟩
  constructor
  case stored =>
    intro id row found
    by_cases same : id = settings.session w.drawn
    · exact ⟨w.drawn, Nat.lt_succ_self _, same⟩
    · dsimp only [World.addSession] at found
      rw [Function.update_of_ne same] at found
      obtain ⟨n, below, drawn⟩ := frugal.stored id row found
      exact ⟨n, Nat.lt_succ_of_lt below, drawn⟩
  case hashed =>
    intro hash id found
    dsimp only [World.addSession] at found
    by_cases same : hash = settings.tokenHash w.drawn
    · rw [same, update_self] at found
      cases found
      exact ⟨⟨w.drawn, Nat.lt_succ_self _, same⟩, _, update_self _ _ _, rfl, same.symm⟩
    · rw [Function.update_of_ne same] at found
      obtain ⟨⟨n, below, drawn⟩, row, there, own⟩ := frugal.hashed hash id found
      exact ⟨⟨n, Nat.lt_succ_of_lt below, drawn⟩, row, frugal.oldRow there, own⟩
  case issued => exact fun token there => issued (frugal.issued token there)
  case logged => exact fun token member => issued (frugal.logged token member)
  case calls => exact fun i call found => (frugal.calls i call found).mono (fun _ _ there => frugal.oldHash there) (Nat.le_succ _)
  case spent =>
    intro use member
    have spent := frugal.spent use member
    have stays : ∀ {hash}, (∃ id, w.byHash hash = some id ∧ RevokedIn w.sessions id) →
        ∃ id, (w.addSession settings userId).byHash hash = some id ∧
          RevokedIn (w.addSession settings userId).sessions id :=
      fun ⟨id, found, row, there, revoked⟩ => ⟨id, frugal.oldHash found, row, frugal.oldRow there, revoked⟩
    cases use with
    | reset token => exact spent
    | _ => exact stays spent
  case once => exact frugal.once

theorem World.Frugal.use (frugal : w.Frugal settings) {use : Use} {ended owed : List String}
    (fresh : ∀ earlier ∈ w.log, ¬ use.Again earlier)
    (sent : ∀ token, use = .reset token → settings.Issued w.drawn token) (owing : ∀ token ∈ w.owed, token ∈ owed)
    (spent : ({ w with owed } : World).Spent use) :
    World.Frugal settings { w with ended, owed, log := use :: w.log } where
  stored := frugal.stored
  hashed := frugal.hashed
  issued := frugal.issued
  logged token member := by
    rcases mem_cons.mp member with same | member
    · exact sent token same.symm
    · exact frugal.logged token member
  calls := frugal.calls
  spent other member := by
    rcases mem_cons.mp member with same | member
    · subst same
      cases other <;> exact spent
    · have before := frugal.spent other member
      cases other with
      | reset token => exact before.imp (owing token) id
      | _ => exact before
  once := pairwise_cons.mpr ⟨fresh, frugal.once⟩

theorem World.Frugal.finish (frugal : w.Frugal settings) (i : Nat) : (w.finish i).Frugal settings :=
  frugal.move fun _ none => by cases none

theorem World.Frugal.revokes (frugal : w.Frugal settings)
    (found : w.byHash row.tokenHash = some row.id) : RevokedIn (w.revoke [row.id]).sessions row.id := by
  obtain ⟨_, now, there, _, _⟩ := frugal.hashed _ _ found
  refine ⟨{ now with isRevoked := true }, ?_, rfl⟩
  simp [World.revoke, there]

theorem World.Frugal.unused (frugal : w.Frugal settings)
    (found : w.byHash row.tokenHash = some row.id) (unrevoked : w.isRevoked row.id = false) :
    ∀ earlier ∈ w.log, ¬ (Use.created row.tokenHash).Again earlier := by
  have fresh : ¬ ∃ id, w.byHash row.tokenHash = some id ∧ RevokedIn w.sessions id := by
    intro ⟨id, there, now, stored, revoked⟩
    unfold World.isRevoked at unrevoked
    simp_all
  intro earlier member again
  have spent := frugal.spent earlier member
  cases earlier with
  | reset token => exact again
  | _ =>
    cases again
    exact fresh spent

theorem World.Frugal.commit (frugal : w.Frugal settings) {after : World}
    (careful : w.CommitsUnused (.commit i)) (stepped : w.commit settings i = some after) : after.Frugal settings := by
  obtain ⟨unrevoked, unused⟩ := careful
  unfold World.commit at stepped
  split at stepped
  · rename_i row found
    cases stepped
    have reads : w.byHash row.tokenHash = some row.id := frugal.calls i _ found
    have moved := (frugal.revoke [row.id]).finish i
    apply moved.use
    · exact fun _ _ again => again
    · exact fun _ same => by cases same
    · exact fun _ owing => owing
    · exact ⟨row.id, reads, frugal.revokes reads⟩
  · rename_i row found
    cases stepped
    have reads : w.byHash row.tokenHash = some row.id := frugal.calls i _ found
    have revoked := frugal.revoke [row.id]
    have moved := (revoked.addSession row.userId).finish i
    apply moved.use
    · exact frugal.unused reads (unrevoked row found)
    · exact fun _ same => by cases same
    · exact fun _ owing => owing
    · obtain ⟨now, there, isRevoked⟩ := frugal.revokes reads
      exact ⟨row.id, revoked.oldHash reads, now, revoked.oldRow there, isRevoked⟩
  · rename_i token userId rows found
    cases stepped
    obtain ⟨stored, unowed⟩ := unused token userId rows found
    have issued : settings.Issued w.drawn token := frugal.calls i _ found
    have moved : ((w.revoke (rows.map RefreshSession.id)).finish i |>.put i (some (.changed token rows))).Frugal settings :=
      ((frugal.revoke _).finish i).move fun next same => by cases same; trivial
    apply moved.use
    · intro earlier member again
      have spent := frugal.spent earlier member
      cases earlier with
      | reset other =>
        cases again
        exact spent.elim unowed stored
      | _ => exact again
    · intro other same
      cases same
      exact issued
    · exact fun _ owing => mem_cons_of_mem _ owing
    · exact .inl mem_cons_self
  · cases stepped

theorem World.Frugal.step (frugal : w.Frugal settings) {action : Action} {after : World}
    (careful : w.CommitsUnused action) (stepped : w.step settings action = some after) : after.Frugal settings := by
  have gone : ∀ i, (w.put i none).Frugal settings := fun i => frugal.move fun _ none => by cases none
  cases action with
  | signIn userId =>
    cases stepped
    exact frugal.addSession userId
  | forgotPassword userId =>
    cases stepped
    exact frugal.sendToken userId
  | editUser userId user =>
    cases stepped
    exact ⟨frugal.stored, frugal.hashed, frugal.issued, frugal.logged, frugal.calls, frugal.spent, frugal.once⟩
  | expireSession id =>
    cases stepped
    exact frugal.expire id
  | expireKey key =>
    cases stepped
    exact ⟨frugal.stored, frugal.hashed, frugal.issued, frugal.logged, frugal.calls, frugal.spent, frugal.once⟩
  | expireToken token =>
    cases stepped
    exact frugal.dropToken token fun _ owing _ => owing
  | request i token =>
    simp only [World.step] at stepped
    split at stepped
    · split at stepped
      · cases stepped
        exact frugal.move fun next same => by cases same; trivial
      · cases stepped
    · cases stepped
  | lookUp i =>
    simp only [World.step] at stepped
    split at stepped
    · split at stepped
      · cases stepped
        exact frugal.move fun next none => by cases none
      · cases stepped
        exact frugal.move fun next same => by cases same; trivial
    · cases stepped
  | readRow i =>
    simp only [World.step] at stepped
    split at stepped
    · split at stepped
      · split at stepped
        · cases stepped
          exact frugal.move fun next same => by cases same; trivial
        · cases stepped
          exact frugal.move fun next same => by cases same; trivial
      · cases stepped
        exact frugal.move fun next same => by cases same; trivial
    · cases stepped
  | storeKey i =>
    simp only [World.step] at stepped
    split at stepped
    · cases stepped
      exact frugal.move fun next none => by cases none
    · cases stepped
  | dropKey i =>
    simp only [World.step] at stepped
    split at stepped
    · cases stepped
      exact frugal.move fun next none => by cases none
    · cases stepped
  | load i revoking tokenHash =>
    simp only [World.step] at stepped
    split at stepped
    · rename_i row _ read
      obtain ⟨id, found, there⟩ := Option.bind_eq_some_iff.mp read
      obtain ⟨_, stored, again, own, hash⟩ := frugal.hashed tokenHash id found
      cases there.symm.trans again
      split at stepped
      · cases stepped
      cases stepped
      refine frugal.move fun next same => ?_
      cases same
      have reads : w.byHash row.tokenHash = some row.id := by rw [hash, own, found]
      exact reads
    · cases stepped
  | checkUser i =>
    simp only [World.step] at stepped
    split at stepped
    · rename_i found
      have holds := frugal.calls i _ found
      split at stepped
      · split at stepped
        · cases stepped
          exact frugal.move fun next same => by cases same; exact holds
        · grind
      · grind
    · cases stepped
  | mark i =>
    simp only [World.step] at stepped
    split at stepped
    · rename_i found
      have holds := frugal.calls i _ found
      split at stepped
      · cases stepped
        exact frugal.move fun next same => by cases same; exact holds
      · split at stepped
        · cases stepped
          exact frugal.move fun next same => by cases same; exact holds
        · cases stepped
    · rename_i found
      have holds := frugal.calls i _ found
      split at stepped
      · cases stepped
        exact frugal.move fun next same => by cases same; exact holds
      · cases stepped
    · cases stepped
  | resetPassword i token =>
    simp only [World.step] at stepped
    split at stepped
    · rename_i stored
      have issued : settings.Issued w.drawn token := frugal.issued token (by rw [stored]; exact Option.some_ne_none _)
      cases stepped
      exact frugal.move fun next same => by cases same; exact issued
    · cases stepped
  | rehash i =>
    simp only [World.step] at stepped
    split at stepped
    · rename_i found
      have holds := frugal.calls i _ found
      split at stepped
      · cases stepped
        exact frugal.move fun next same => by cases same; exact holds
      · grind
    · cases stepped
  | list i rows =>
    simp only [World.step] at stepped
    split at stepped
    · rename_i found
      have holds := frugal.calls i _ found
      split at stepped
      · cases stepped
        exact frugal.move fun next same => by cases same; exact holds
      · cases stepped
    · cases stepped
  | markAll i =>
    simp only [World.step] at stepped
    split at stepped
    · rename_i found
      have holds := frugal.calls i _ found
      split at stepped
      · cases stepped
        exact frugal.move fun next same => by cases same; exact holds
      · cases stepped
    · cases stepped
  | commit i => exact frugal.commit careful stepped
  | deleteToken i =>
    simp only [World.step] at stepped
    split at stepped
    · rename_i token rows found
      cases stepped
      have ended : World.Frugal settings { w.put i none with ended := rows.map RefreshSession.id ++ w.ended } :=
        frugal.move fun _ none => by cases none
      apply ended.dropToken token
      intro other owing different
      exact mem_filter.mpr ⟨owing, decide_eq_true different⟩
    · cases stepped
  | crash i =>
    cases stepped
    exact frugal.finish i
  | _ =>
    simp only [World.step] at stepped
    split at stepped
    · rename_i found
      have holds := frugal.calls _ _ found
      cases stepped
      exact frugal.move fun next same => by cases same; exact holds
    · cases stepped

theorem World.initial_frugal (users : String → Option User) : (World.initial users).Frugal settings :=
  { stored := fun _ _ found => by cases found
    hashed := fun _ _ found => by cases found
    issued := fun _ there => absurd rfl there
    logged := fun _ member => absurd member not_mem_nil
    calls := fun _ _ found => by cases found
    spent := fun _ member => absurd member not_mem_nil
    once := Pairwise.nil }

/-- Where refreshes and resets commit only what is still unused, every token is used once in every state reached. -/
theorem tokens_are_used_once {settings : Settings} {users : String → Option User} {w : World}
    (reached : Reaches (World.step settings) (fun w action => w.Real action ∧ w.CommitsUnused action)
      (World.initial users) w) : w.UsedOnce := by
  have frugal : w.Frugal settings := reached.invariant (World.initial_frugal users) fun frugal careful stepped =>
    frugal.step careful.2 stepped
  exact frugal.once

end Invariant

section Runs

def unconditional : Action → Bool
  | .list _ _ | .commit _ => false
  | _ => true

def refreshing (i : Nat) (tokenHash : String) : List Action := [.load i .refresh tokenHash, .checkUser i]

theorem refreshed_tokens_once : ∃ w, Reaches (World.step plainSettings)
    (fun w action => w.Real action ∧ w.CommitsUnused action) (World.initial everybody) w ∧
      w.log = [.created "h"] ∧ w.UsedOnce := by
  have sound : ∀ (w : World) (action : Action), unconditional action = true → w.Real action ∧ w.CommitsUnused action := by
    intro w action fits
    cases action with
    | list i rows => cases fits
    | commit i => cases fits
    | _ => exact ⟨trivial, trivial⟩
  obtain ⟨cleared, ran, unrevoked, committed⟩ : ∃ cleared,
      Systems.runWhere (World.step plainSettings) (fun _ action => unconditional action) (World.initial everybody)
        ([.signIn "u"] ++ refreshing 0 "h" ++ [.mark 0, .clear 0]) = some cleared ∧
      (cleared.calls 0 = some (.cleared .refresh ⟨"s", "u", "h", false, false⟩) ∧ cleared.isRevoked "s" = false) ∧
      (cleared.step plainSettings (.commit 0)).map World.log = some [.created "h"] :=
    ⟨_, rfl, ⟨by decide, by decide⟩, by decide⟩
  obtain ⟨w, stepped, log⟩ := Option.map_eq_some_iff.mp committed
  have careful : cleared.Real (.commit 0) ∧ cleared.CommitsUnused (.commit 0) := by
    refine ⟨trivial, fun row found => ?_, fun token userId rows found => ?_⟩
    · simp_all
    · cases unrevoked.1.symm.trans found
  have reached := (Reaches.start.runs sound ran).step careful stepped
  exact ⟨w, reached, log, tokens_are_used_once reached⟩

theorem refreshes_share_a_token : ∃ w, Reaches (World.step plainSettings) World.Real (World.initial everybody) w ∧
    ¬ w.UsedOnce := by
  have ran : (Systems.runWhere (World.step plainSettings) (fun _ action => action.listless) (World.initial everybody) ([.signIn "u"] ++ refreshing 0 "h" ++ refreshing 1 "h" ++
        [.mark 0, .clear 0, .commit 0, .mark 1, .clear 1, .commit 1])).map World.log =
      some [.created "h", .created "h"] := by
    decide
  obtain ⟨w, ended, log⟩ := Option.map_eq_some_iff.mp ran
  refine ⟨w, Reaches.start.runs real_of_listless ended, fun once => ?_⟩
  unfold World.UsedOnce at once
  rw [log] at once
  have apart := (pairwise_cons.mp once).1 (.created "h") (mem_singleton_self _)
  exact apart rfl

end Runs

end Troop.Identity
