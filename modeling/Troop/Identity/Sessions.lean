import Mathlib.Logic.Function.Basic
import Troop.Systems.Runs

namespace Troop.Identity

structure User where
  isActive : Bool
  isVerified : Bool

/-- A row of `refresh_sessions`; `expired` says that its `expires_at` has passed. -/
structure RefreshSession where
  id : String
  userId : String
  tokenHash : String
  isRevoked : Bool
  expired : Bool
deriving DecidableEq

structure AccessToken where
  sub : String
  sid : String
deriving DecidableEq

inductive Revoking where
  | refresh | logout
deriving DecidableEq

/-- A call between two of its awaits. A request is late if a call that revoked its session had returned before
    it began. -/
inductive Call where
  /-- `_get_authenticated_user` has read the user. -/
  | asked (token : AccessToken) (late : Bool)
  | missed (token : AccessToken) (late : Bool)
  | found (token : AccessToken) (late : Bool)
  | denied (token : AccessToken)
  /-- `refresh` and `logout`: the row is read, the user is checked, the row is marked and locked, the cache is
      cleared. -/
  | loaded (revoking : Revoking) (row : RefreshSession)
  | checked (row : RefreshSession)
  | marked (revoking : Revoking) (row : RefreshSession)
  | cleared (revoking : Revoking) (row : RefreshSession)
  /-- `reset_password`: the token and the user are read, the sessions are listed, marked, and their cache keys
      are deleted one by one; the commit is made and the token is still to be deleted. -/
  | granted (token userId : String)
  | rehashed (token userId : String)
  | listed (token userId : String) (rows : List RefreshSession)
  | markedAll (token userId : String) (rows : List RefreshSession)
  | sweeping (token userId : String) (rows : List RefreshSession) (keys : List (String × String))
  | changed (token : String) (rows : List RefreshSession)
deriving DecidableEq

inductive Use where
  | created (tokenHash : String)
  | loggedOut (tokenHash : String)
  | reset (token : String)
deriving DecidableEq

/-- The tables as committed, the cache and the reset tokens in Redis, and the calls at work. `accepted` has the
    lateness of every request let through, `ended` the sessions whose revoking call has returned, `owed` the
    reset tokens that a committed reset has not deleted; the log has the newest use first. -/
structure World where
  users : String → Option User
  sessions : String → Option RefreshSession
  byHash : String → Option String
  cache : List (String × String)
  resetTokens : String → Option String
  calls : Nat → Option Call
  rowLocks : String → Option Nat
  userLocks : String → Option Nat
  drawn : Nat
  accepted : List Bool
  ended : List String
  owed : List String
  log : List Use

inductive Action where
  | signIn (userId : String)
  | forgotPassword (userId : String)
  | editUser (userId : String) (user : Option User)
  | expireSession (id : String)
  | expireKey (key : String × String)
  | expireToken (token : String)
  | request (i : Nat) (token : AccessToken)
  | lookUp (i : Nat)
  | readRow (i : Nat)
  | storeKey (i : Nat)
  | dropKey (i : Nat)
  | load (i : Nat) (revoking : Revoking) (tokenHash : String)
  | checkUser (i : Nat)
  | mark (i : Nat)
  | clear (i : Nat)
  | resetPassword (i : Nat) (token : String)
  | rehash (i : Nat)
  | list (i : Nat) (rows : List RefreshSession)
  | markAll (i : Nat)
  | scan (i : Nat) (extra : List (String × String))
  | sweep (i : Nat)
  | commit (i : Nat)
  | deleteToken (i : Nat)
  /-- The call is lost, and its transaction with it. -/
  | crash (i : Nat)

/-- The ids and hashes that are drawn, each its own, and `REQUIRE_EMAIL_VERIFICATION`. -/
structure Settings where
  requireEmailVerification : Bool
  session : Nat → String
  session_injective : Function.Injective session
  tokenHash : Nat → String
  tokenHash_injective : Function.Injective tokenHash
  resetToken : Nat → String
  resetToken_injective : Function.Injective resetToken

namespace World

variable (settings : Settings) (w : World)

def put (i : Nat) (call : Option Call) : World := { w with calls := Function.update w.calls i call }

def finish (i : Nat) : World :=
  { w.put i none with
    rowLocks := fun id => if w.rowLocks id = some i then none else w.rowLocks id
    userLocks := fun id => if w.userLocks id = some i then none else w.userLocks id }

def isRevoked (id : String) : Bool :=
  match w.sessions id with
  | some row => row.isRevoked
  | none => false

/-- `get_active_session_by_id` -/
def activeSession? (id : String) : Option RefreshSession :=
  (w.sessions id).filter fun row => ¬ row.isRevoked ∧ ¬ row.expired

def revoke (ids : List String) : World :=
  { w with sessions := fun id =>
      if id ∈ ids then (w.sessions id).map fun row => { row with isRevoked := true } else w.sessions id }

/-- `create_refresh_session`, as committed -/
def addSession (userId : String) : World :=
  let row : RefreshSession := ⟨settings.session w.drawn, userId, settings.tokenHash w.drawn, false, false⟩
  { w with
    sessions := Function.update w.sessions row.id (some row)
    byHash := Function.update w.byHash row.tokenHash (some row.id)
    drawn := w.drawn + 1 }

/-- `list_active_sessions`: the active sessions of a user, in whatever order. -/
def Lists (userId : String) (rows : List RefreshSession) : Prop :=
  ∀ row, row ∈ rows ↔ w.activeSession? row.id = some row ∧ row.userId = userId

def accept (i : Nat) (late : Bool) : World := { w.put i none with accepted := late :: w.accepted }

def commit (i : Nat) : Option World :=
  match w.calls i with
  | some (.cleared .logout row) =>
    let after := (w.revoke [row.id]).finish i
    some { after with ended := row.id :: w.ended, log := .loggedOut row.tokenHash :: w.log }
  | some (.cleared .refresh row) =>
    let after := ((w.revoke [row.id]).addSession settings row.userId).finish i
    some { after with ended := row.id :: w.ended, log := .created row.tokenHash :: w.log }
  | some (.sweeping token _ rows []) =>
    let after := ((w.revoke (rows.map RefreshSession.id)).finish i).put i (some (.changed token rows))
    some { after with owed := token :: w.owed, log := .reset token :: w.log }
  | _ => none

def step : Action → Option World
  | .signIn userId => some (w.addSession settings userId)
  | .forgotPassword userId =>
    some { w with
      resetTokens := Function.update w.resetTokens (settings.resetToken w.drawn) (some userId), drawn := w.drawn + 1 }
  | .editUser userId user => some { w with users := Function.update w.users userId user }
  | .expireSession id =>
    some { w with sessions := Function.update w.sessions id ((w.sessions id).map fun row => { row with expired := true }) }
  | .expireKey key => some { w with cache := w.cache.filter (· ≠ key) }
  | .expireToken token => some { w with resetTokens := Function.update w.resetTokens token none }
  | .request i token =>
    match w.calls i, w.users token.sub with
    | none, some user => if user.isActive then some (w.put i (some (.asked token (token.sid ∈ w.ended)))) else none
    | _, _ => none
  | .lookUp i =>
    match w.calls i with
    | some (.asked token late) =>
      if (token.sub, token.sid) ∈ w.cache then some (w.accept i late) else some (w.put i (some (.missed token late)))
    | _ => none
  | .readRow i =>
    match w.calls i with
    | some (.missed token late) =>
      match w.activeSession? token.sid with
      | some row =>
        if row.userId = token.sub then some (w.put i (some (.found token late))) else some (w.put i (some (.denied token)))
      | none => some (w.put i (some (.denied token)))
    | _ => none
  | .storeKey i =>
    match w.calls i with
    | some (.found token late) => some { w.accept i late with cache := (token.sub, token.sid) :: w.cache }
    | _ => none
  | .dropKey i =>
    match w.calls i with
    | some (.denied token) => some { w.put i none with cache := w.cache.filter (· ≠ (token.sub, token.sid)) }
    | _ => none
  | .load i revoking tokenHash =>
    match w.calls i, (w.byHash tokenHash).bind w.sessions with
    | none, some row =>
      if revoking = .refresh ∧ (row.isRevoked ∨ row.expired) then none else some (w.put i (some (.loaded revoking row)))
    | _, _ => none
  | .checkUser i =>
    match w.calls i with
    | some (.loaded .refresh row) =>
      match w.users row.userId with
      | some user => if user.isActive ∧ (settings.requireEmailVerification → user.isVerified) then some (w.put i (some (.checked row))) else some (w.put i none)
      | none => some (w.put i none)
    | _ => none
  | .mark i =>
    match w.calls i with
    | some (.loaded .logout row) =>
      -- a row that is revoked already is not written, and so not locked
      if row.isRevoked then some (w.put i (some (.marked .logout row)))
      else if w.rowLocks row.id = none then
        some { w.put i (some (.marked .logout row)) with rowLocks := Function.update w.rowLocks row.id (some i) }
      else none
    | some (.checked row) =>
      if w.rowLocks row.id = none then
        some { w.put i (some (.marked .refresh row)) with rowLocks := Function.update w.rowLocks row.id (some i) }
      else none
    | _ => none
  | .clear i =>
    match w.calls i with
    | some (.marked revoking row) =>
      some { w.put i (some (.cleared revoking row)) with cache := w.cache.filter (· ≠ (row.userId, row.id)) }
    | _ => none
  | .resetPassword i token =>
    match w.calls i, w.resetTokens token with
    | none, some userId => some (w.put i (some (.granted token userId)))
    | _, _ => none
  | .rehash i =>
    match w.calls i with
    | some (.granted token userId) =>
      if (w.users userId).isSome then some (w.put i (some (.rehashed token userId))) else some (w.put i none)
    | _ => none
  | .list i rows =>
    match w.calls i with
    | some (.rehashed token userId) =>
      -- the new password is flushed before the query
      if w.userLocks userId = none then
        some { w.put i (some (.listed token userId rows)) with userLocks := Function.update w.userLocks userId (some i) }
      else none
    | _ => none
  | .markAll i =>
    match w.calls i with
    | some (.listed token userId rows) =>
      if rows.all fun row => w.rowLocks row.id = none then
        some { w.put i (some (.markedAll token userId rows)) with
          rowLocks := fun id => if id ∈ rows.map RefreshSession.id then some i else w.rowLocks id }
      else none
    | _ => none
  | .scan i extra =>
    match w.calls i with
    | some (.markedAll token userId rows) =>
      some (w.put i (some (.sweeping token userId rows ((w.cache.filter fun key => key.1 = userId) ++ extra))))
    | _ => none
  | .sweep i =>
    match w.calls i with
    | some (.sweeping token userId rows (key :: keys)) =>
      some { w.put i (some (.sweeping token userId rows keys)) with cache := w.cache.filter (· ≠ key) }
    | _ => none
  | .commit i => w.commit settings i
  | .deleteToken i =>
    match w.calls i with
    | some (.changed token rows) =>
      some { w.put i none with
        resetTokens := Function.update w.resetTokens token none
        owed := w.owed.filter (· ≠ token)
        ended := rows.map RefreshSession.id ++ w.ended }
    | _ => none
  | .crash i => some (w.finish i)

def Real : Action → Prop
  | .list i rows => ∀ token userId, w.calls i = some (.rehashed token userId) → w.Lists userId rows
  | _ => True

end World

def Action.listless : Action → Bool
  | .list _ _ => false
  | _ => true

theorem real_of_listless (w : World) (action : Action) (fits : action.listless = true) : w.Real action := by
  cases action with
  | list i rows => cases fits
  | _ => trivial

def World.initial (users : String → Option User) : World where
  users := users
  sessions _ := none
  byHash _ := none
  cache := []
  resetTokens _ := none
  calls _ := none
  rowLocks _ := none
  userLocks _ := none
  drawn := 0
  accepted := []
  ended := []
  owed := []
  log := []

end Troop.Identity
