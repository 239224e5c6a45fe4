import Troop.Connectors.Committed
import Troop.Connectors.Ledger

namespace Troop.Connectors

open Approvals
open Workflow (Env)
open List

variable {env : Env} {sha256 : String → String} {w after : World} {s : Nat} {e : Execution}
  {row existing : ExternalActionExecution}

section Conditions

def World.Undisturbed (sha256 : String → String) (w : World) (session : Nat) (key : String) : Prop :=
  w.table.pending key = none ∧ ∀ other execution, other ≠ session → w.executions other = some execution →
    execution.call.key sha256 = key → execution.phase.engaged = false

def World.CarefulMove (env : Env) (sha256 : String → String) (w : World) (session : Nat) (execution : Execution) :
    Move → Prop
  | .authorize now => ∀ content row, execution.call.adapter.hashed execution.call.arguments = .ok content →
    w.claim env sha256 session execution.call (env.argumentsHash content) now = .ok (.existing row) →
      (row.status = .claimed ∧ w.Undisturbed sha256 session (execution.call.key sha256)) ∨
        (execution.call.adapter.draft ≠ none ∧ row.status ≠ .claimed)
  | .reconcile found => ∀ existing, execution.phase = .reconcile existing → existing.status = .retryableFailure →
    found ≠ none
  | .request answer => answer.accepted = true →
    execution.call.adapter.successError = none ∧ ∃ result, execution.call.tried answer = .ok result
  | .rollback => execution.issued = false
  | _ => True

def World.Careful (env : Env) (sha256 : String → String) (w : World) : Step → Prop
  | .move session move => ∀ execution, w.executions session = some execution →
    w.CarefulMove env sha256 session execution move
  | _ => True

/-- The worlds that steps lead to, each of them one that `allowed` lets pass. -/
inductive Reaches (env : Env) (sha256 : String → String) (allowed : World → Step → Prop) (start : World) : World → Prop
  | start : Reaches env sha256 allowed start start
  | next {w after : World} (step : Step) : Reaches env sha256 allowed start w → allowed w step →
      w.step env sha256 step = some after → Reaches env sha256 allowed start after

end Conditions

section Claims

variable {approvals : Dict BoundApproval} {approvalId hash : String} {request : CommitRequest}

theorem authorizeAndClaim_existing {found : Option ExternalActionExecution}
    (claimed : authorizeAndClaim env approvals approvalId request hash found = .ok (.existing row)) :
    found = some row ∧ row.argumentsHash = hash ∧
      (row.status = .claimed ∨ row.status = .sending ∨ row.status = .retryableFailure) := by
  unfold authorizeAndClaim at claimed
  split at claimed
  · cases claimed
  split at claimed
  · cases claimed
  split at claimed
  · cases claimed
  split at claimed
  · cases claimed
  rename_i other
  split at claimed
  · cases claimed
  rename_i same
  rw [not_not] at same
  cases status : other.status <;> rw [status] at claimed <;> cases claimed
  · exact ⟨rfl, same, .inl status⟩
  · exact ⟨rfl, same, .inr (.inl status)⟩
  · exact ⟨rfl, same, .inr (.inr status)⟩

theorem authorizeAndClaim_recorded {claim : Claim} (status : row.status = .succeeded) (same : row.argumentsHash = hash)
    (claimed : authorizeAndClaim env approvals approvalId request hash (some row) = .ok claim) :
    claim = .replayed row := by
  unfold authorizeAndClaim at claimed
  split at claimed
  · cases claimed
  split at claimed
  · cases claimed
  · split at claimed
    · cases claimed
    · simp_all

theorem claim_existing {hash : String} {now : Int}
    (claimed : w.claim env sha256 s e.call hash now = .ok (.existing row)) :
    w.table.read s (e.call.key sha256) = some row ∧ row.argumentsHash = hash ∧
      (row.status = .claimed ∨ row.status = .sending ∨ row.status = .retryableFailure) := by
  unfold World.claim at claimed
  split at claimed
  · cases claimed
  · exact authorizeAndClaim_existing claimed

theorem commits_unrecorded (provider : Provider) (commits : (adapterOf provider).commits = true) :
    (adapterOf provider).successError ≠ none := by
  cases provider <;> first | decide | cases commits

theorem successError_none (provider : Provider) :
    (adapterOf provider).successError = none ↔ (adapterOf provider).draft ≠ none := by
  cases provider <;> decide

end Claims

section Moves

variable {change : ExternalActionExecution → ExternalActionExecution} {next : Execution}

theorem flush_some {key : String}
    {hash : String} (active : Active w.table s key hash) (flushed : w.flush s key change = some after) :
    w.table.free s key = true ∧ ∃ row, w.table.read s key = some row ∧ row.argumentsHash = hash ∧
      after = { w with table := w.table.write s key (change row) } := by
  unfold World.flush at flushed
  obtain ⟨row, read, same⟩ := active.there
  split at flushed
  · simp_all
  · cases flushed

theorem Sound.alone (sound : Sound sha256 w) (found : w.executions s = some e) (active : e.phase.active = true) :
    ∀ t f, t ≠ s → w.executions t = some f → f.call.key sha256 = e.call.key sha256 →
      f.phase.active = false ∧ ∀ existing, f.phase ≠ .reconcile existing := by
  intro t f different there same
  constructor
  · cases busy : f.phase.active with
    | false => rfl
    | true => exact absurd (sound.unique t s f e there found busy active same) different
  · intro existing phase
    have works := sound.work t f there
    rw [phase] at works
    obtain ⟨_, _, ⟨row, committed, doubt⟩, _⟩ := works
    rw [same] at committed
    have claimed := ((sound.work s e found).active active).unsettled row committed
    simp [InDoubt, claimed] at doubt

theorem Sound.writable (sound : Sound sha256 w) (found : w.executions s = some e) (active : e.phase.active = true)
    (free : w.table.free s (e.call.key sha256) = true) (issued : e.issued = true → row.status ≠ .claimed)
    (records : ∀ request ∈ w.requests, request.call.key sha256 = e.call.key sha256 → request.answer.accepted = true →
      e.issued = true ∧ Records request row) : Writable sha256 w s e row := by
  refine ⟨free, .inl ((sound.work s e found).active active).unsettled, issued, ?_, records⟩
  intro t f different there same
  obtain ⟨inactive, idle⟩ := sound.alone found active t f different there same
  exact ⟨inactive, fun existing phase => absurd phase (idle existing)⟩

theorem Sound.accepted_own (sound : Sound sha256 w) (found : w.executions s = some e) (active : e.phase.active = true)
    {request : Request} (listed : request ∈ w.requests) (same : request.call.key sha256 = e.call.key sha256)
    (accepted : request.answer.accepted = true) :
    e.call = request.call ∧ e.hash = request.hash ∧ e.phase = .answered request.answer := by
  have held := (sound.work s e found).active active
  rcases sound.recorded request listed accepted with
    ⟨t, f, there, call, hash, phase⟩ | ⟨t, _, row, -, -, pending, records⟩ | ⟨-, row, committed, records⟩
  · have busy : f.phase.active = true := by
      rw [phase]
      rfl
    obtain rfl := sound.unique t s f e there found busy active (by rw [call, same])
    simp_all
  · rw [same] at pending
    have status := (held.holder t row pending).2
    simp [records.1] at status
  · rw [same] at committed
    have status := held.unsettled row committed
    simp [records.1] at status

theorem Sound.ended (sound : Sound sha256 w) (found : w.executions s = some e) (active : e.phase.active = true)
    (refused : ∀ answer, e.phase = .answered answer → answer.accepted = false)
    (flushed : (w.flush s (e.call.key sha256) change).map (fun w => w.put s (some next)) = some after)
    (call : next.call = e.call) (issued : next.issued = e.issued) (finished : next.phase.ended = true)
    (unclaimed : ∀ row, (change row).status ≠ .claimed) : Sound sha256 after := by
  obtain ⟨middle, wrote, rfl⟩ := Option.map_eq_some_iff.mp flushed
  obtain ⟨free, row, _, _, rfl⟩ := flush_some ((sound.work s e found).active active) wrote
  have writable : Writable sha256 w s e (change row) := by
    refine sound.writable found active free (fun _ => unclaimed row) ?_
    intro request listed same accepted
    obtain ⟨_, _, phase⟩ := sound.accepted_own found active listed same accepted
    simp [refused _ phase] at accepted
  cases phase : next.phase with
  | returned result | raised message =>
    refine sound.written found call issued writable ?_ ?_ ?_
    · rw [phase]
      trivial
    · rw [phase]
      rfl
    · simp_all
  | _ =>
    rw [phase] at finished
    cases finished

theorem Sound.raised (sound : Sound sha256 w) (found : w.executions s = some e)
    (refused : ∀ answer, e.phase = .answered answer → answer.accepted = false)
    (call : next.call = e.call) (issued : next.issued = e.issued) (finished : next.phase.ended = true) :
    Sound sha256 (w.put s (some next)) := by
  cases phase : next.phase with
  | returned result | raised message =>
    refine sound.moved found call issued ?_ ?_ ?_ refused
    · rw [phase]
      trivial
    · rw [phase]
      nofun
    · rw [phase]
      nofun
  | _ =>
    rw [phase] at finished
    cases finished

end Moves

section Steps

variable {now : Int} {answer : Answer} {found? : Option ApiError}

theorem Sound.early_unheld (sound : Sound sha256 w) (found : w.executions s = some e) (early : e.phase.early = true)
    (key : String) (row : ExternalActionExecution) : w.table.pending key ≠ some (s, row) := by
  intro pending
  obtain ⟨_, f, there, _, late⟩ := sound.owner key s row pending
  simp_all

theorem Sound.authorized (sound : Sound sha256 w) (found : w.executions s = some e) (phase : e.phase = .authorize)
    (careful : w.CarefulMove env sha256 s e (.authorize now)) :
    Sound sha256 (w.authorize env sha256 s e now) := by
  have early : e.phase.early = true := by
    rw [phase]
    rfl
  have unissued : e.issued = false := by
    have works := sound.work s e found
    rwa [phase] at works
  have refused : ∀ answer, e.phase = .answered answer → answer.accepted = false := by simp [phase]
  unfold World.authorize
  cases read : e.call.adapter.hashed e.call.arguments with
  | error error => exact sound.raised found refused rfl rfl rfl
  | ok content =>
    dsimp only
    cases claimed : w.claim env sha256 s e.call (env.argumentsHash content) now with
    | error message => exact sound.raised found refused rfl rfl rfl
    | ok claim =>
      cases claim with
      | fresh =>
        refine sound.moved found rfl rfl unissued (fun _ => early) ?_ refused
        nofun
      | replayed row => exact sound.raised found refused rfl rfl rfl
      | existing row =>
        obtain ⟨there, same, status⟩ := claim_existing claimed
        rw [Keyed.read_committed (sound.early_unheld found early _)] at there
        have taken (takes : row.status = .claimed ∧ w.Undisturbed sha256 s (e.call.key sha256)) :
            Claimed w.table s (e.call.key sha256) (env.argumentsHash content) ∧
              ∀ t f, t ≠ s → w.executions t = some f → f.call.key sha256 = e.call.key sha256 →
                f.phase.active = false := by
          obtain ⟨claimed, free, idle⟩ := takes
          refine ⟨.inr ⟨free, row, there, claimed, same⟩, ?_⟩
          intro t f different at_ key
          cases busy : f.phase with
          | answered answer =>
            have works := sound.work t f at_
            rw [busy] at works
            obtain ⟨_, other, pending, _⟩ := works.2.1
            simp [key, free] at pending
          | check existing | send existing | request =>
            have engaged := idle t f different at_ key
            rw [busy] at engaged
            cases engaged
          | _ => rfl
        unfold claimedPhase
        dsimp only
        split
        · rename_i plain
          rcases careful content row read claimed with takes | ⟨mail, _⟩
          · obtain ⟨claim, alone⟩ := taken takes
            exact sound.moved found rfl rfl ⟨unissued, takes.1, claim⟩ (fun early => by cases early)
              (fun _ _ => alone) refused
          · exact absurd plain mail
        · split
          · rename_i doubtful
            refine sound.moved found rfl rfl ⟨unissued, doubtful, ⟨row, there, ?_⟩, ?_⟩ (fun early => by cases early)
              (fun active => by cases active) refused
            · rcases doubtful with sending | failed
              · exact .inl sending
              · exact .inr (.inl failed)
            · intro writer other pending
              rcases (sound.owner _ writer other pending).1 with unsettled | unknown
              · have claimed := unsettled row there
                simp [claimed] at doubtful
              · exact unknown
          · rename_i settled
            have takes : row.status = .claimed ∧ w.Undisturbed sha256 s (e.call.key sha256) := by
              rcases careful content row read claimed with takes | ⟨_, taken⟩
              · exact takes
              · rcases status with claimed | doubtful
                · exact absurd claimed taken
                · exact absurd doubtful settled
            obtain ⟨claim, alone⟩ := taken takes
            exact sound.moved found rfl rfl ⟨unissued, takes.1, claim⟩ (fun early => by cases early)
              (fun _ _ => alone) refused

theorem rollback_idle {table : Keyed String Nat ExternalActionExecution}
    (idle : ∀ key row, table.pending key ≠ some (s, row)) : table.rollback s = table := by
  have same : table.released s = table.pending := by
    funext key
    cases pending : table.pending key with
    | none => exact Keyed.released_none pending
    | some entry => grind [Keyed.released_some]
  unfold Keyed.rollback
  rw [same]

theorem Sound.inserted (sound : Sound sha256 w) (found : w.executions s = some e) (phase : e.phase = .insert)
    (stepped : w.insert sha256 s e = some after) : Sound sha256 after := by
  have early : e.phase.early = true := by
    rw [phase]
    rfl
  have unissued : e.issued = false := by
    have works := sound.work s e found
    rwa [phase] at works
  have refused : ∀ answer, e.phase = .answered answer → answer.accepted = false := by simp [phase]
  have unheld := sound.early_unheld found early
  unfold World.insert at stepped
  dsimp only at stepped
  split at stepped
  · cases stepped
  rename_i free
  rw [not_not] at free
  have vacant : w.table.pending (e.call.key sha256) = none := by
    rcases Keyed.free_iff.mp free with vacant | ⟨row, own⟩
    · exact vacant
    · exact absurd own (unheld _ row)
  split at stepped
  · rw [rollback_idle unheld] at stepped
    cases stepped
    exact sound.raised found refused rfl rfl rfl
  · rename_i absent
    rw [Option.not_isSome_iff_eq_none] at absent
    cases stepped
    have idle : ∀ t f, w.executions t = some f → f.call.key sha256 = e.call.key sha256 → f.phase.active = false := by
      intro t f there same
      cases busy : f.phase.active with
      | false => rfl
      | true =>
        obtain ⟨row, read, _⟩ := ((sound.work t f there).active busy).there
        rw [same, Keyed.read_committed (by simp [vacant]), absent] at read
        cases read
    have writable : Writable sha256 w s e (claimedRow e.call e.hash) := by
      refine ⟨free, .inl ?_, ?_, ?_, ?_⟩
      · intro row committed
        simp [absent] at committed
      · simp [unissued]
      · intro t f _ there same
        refine ⟨idle t f there same, ?_⟩
        intro existing reconciling
        have works := sound.work t f there
        rw [reconciling] at works
        obtain ⟨_, _, ⟨row, committed, _⟩, _⟩ := works
        simp [same, absent] at committed
      · intro request listed same accepted
        have none_left := sound.unaccepted (e.call.key sha256) ?_ ?_ ?_ request listed same
        · simp [accepted] at none_left
        · intro t f there key answer answered
          have inactive := idle t f there key
          rw [answered] at inactive
          cases inactive
        · simp [vacant]
        · simp [absent]
    have held : Held (w.table.write s (e.call.key sha256) (claimedRow e.call e.hash)) s (e.call.key sha256) e.hash
        .claimed := by
      refine ⟨?_, claimedRow e.call e.hash, Keyed.pending_write_self, rfl, rfl⟩
      intro row committed
      simp [Keyed.committed_write, absent] at committed
    have alone : ∀ t f, t ≠ s → w.executions t = some f → f.call.key sha256 = e.call.key sha256 →
        f.phase.active = false := fun t f _ there same => idle t f there same
    split <;> exact sound.written found rfl rfl writable ⟨unissued, rfl, .inl held⟩ rfl fun _ _ => alone

theorem Sound.reconciled (sound : Sound sha256 w) (found : w.executions s = some e)
    (phase : e.phase = .reconcile existing) {answered : Option ApiError}
    (careful : w.CarefulMove env sha256 s e (.reconcile answered))
    (stepped : w.reconcile sha256 s e existing answered = some after) : Sound sha256 after := by
  have refused : ∀ answer, e.phase = .answered answer → answer.accepted = false := by simp [phase]
  have works := sound.work s e found
  rw [phase] at works
  obtain ⟨unissued, status, ⟨row, committed, doubt⟩, doubtful⟩ := works
  unfold World.reconcile at stepped
  cases answered with
  | none =>
    dsimp only at stepped
    split at stepped
    · cases stepped
      exact sound.raised found refused rfl rfl rfl
    · rename_i other
      rcases status with sending | failed
      · exact absurd sending other
      · exact absurd rfl (careful existing phase failed)
  | some error =>
    dsimp only at stepped
    split at stepped
    · obtain ⟨middle, wrote, rfl⟩ := Option.map_eq_some_iff.mp stepped
      have idle : ∀ t f, w.executions t = some f → f.call.key sha256 = e.call.key sha256 → f.phase.active = false := by
        intro t f there same
        cases busy : f.phase.active with
        | false => rfl
        | true =>
          have claimed := ((sound.work t f there).active busy).unsettled row (by rw [same, committed])
          simp [InDoubt, claimed] at doubt
      have writable {change : ExternalActionExecution} (free : w.table.free s (e.call.key sha256) = true)
          (unknown : change.status = .outcomeUnknown) : Writable sha256 w s e change := by
        refine ⟨free, .inr unknown, ?_, ?_, ?_⟩
        · simp [unissued]
        · grind
        intro request listed same accepted
        have none_left := sound.unaccepted (e.call.key sha256) ?_ ?_ ?_ request listed same
        · simp [accepted] at none_left
        · intro t f there key answer answered
          have inactive := idle t f there key
          rw [answered] at inactive
          cases inactive
        · simp_all
        · intro other there
          rw [committed] at there
          cases there
          rcases doubt with status | status | status <;> rw [status] <;> decide
      unfold World.flush at wrote
      split at wrote
      · rename_i free
        split at wrote
        · cases wrote
          exact sound.written found rfl rfl (writable free rfl) trivial rfl fun active => by cases active
        · cases wrote
          exact sound.raised found refused rfl rfl rfl
      · cases wrote
    · cases stepped
      exact sound.raised found refused rfl rfl rfl

theorem Sound.checked (sound : Sound sha256 w) (found : w.executions s = some e)
    (phase : e.phase = .check existing) {metadata : Option DraftMetadata} {thread : Except ApiError String}
    (stepped : w.check sha256 s e existing metadata thread = some after) : Sound sha256 after := by
  have refused : ∀ answer, e.phase = .answered answer → answer.accepted = false := by simp [phase]
  have active : e.phase.active = true := by
    rw [phase]
    rfl
  have works := sound.work s e found
  rw [phase] at works
  have goes : Sound sha256 (w.move s e (.send existing)) := by
    refine sound.moved found rfl rfl works (fun early => by cases early) ?_ refused
    simp [active]
  unfold World.check at stepped
  split at stepped
  · exact sound.ended found active refused stepped rfl rfl rfl fun _ => by simp
  split at stepped
  · exact sound.ended found active refused stepped rfl rfl rfl fun _ => by simp
  split at stepped
  · simp_all
  split at stepped
  · cases stepped
    exact sound.raised found refused rfl rfl rfl
  · split at stepped
    · exact sound.ended found active refused stepped rfl rfl rfl fun _ => by simp
    · simp_all

theorem Sound.sending (sound : Sound sha256 w) (found : w.executions s = some e) (phase : e.phase = .send existing)
    (stepped : w.markSending sha256 s e existing = some after) : Sound sha256 after := by
  have active : e.phase.active = true := by
    rw [phase]
    rfl
  have works := sound.work s e found
  have held := works.active active
  rw [phase] at works
  obtain ⟨unissued, claimed, _⟩ := works
  unfold World.markSending at stepped
  rw [if_neg (by rw [claimed]; decide)] at stepped
  obtain ⟨middle, wrote, rfl⟩ := Option.map_eq_some_iff.mp stepped
  obtain ⟨free, row, _, same, rfl⟩ := flush_some held wrote
  refine sound.written found rfl rfl ?_ ?_ rfl ?_
  · refine sound.writable found active free ?_ ?_
    · simp_all
    · intro request listed key accepted
      obtain ⟨_, _, answered⟩ := sound.accepted_own found active listed key accepted
      simp [phase] at answered
  · refine ⟨unissued, ?_, _, Keyed.pending_write_self, rfl, same⟩
    exact held.unsettled
  · simp [active]

theorem Sound.issued (sound : Sound sha256 w) (found : w.executions s = some e) (phase : e.phase = .request)
    (careful : w.CarefulMove env sha256 s e (.request answer)) : Sound sha256 (w.issue s e answer) := by
  have works := sound.work s e found
  rw [phase] at works
  obtain ⟨unissued, held⟩ := works
  have active : e.phase.active = true := by
    rw [phase]
    rfl
  have refused : ∀ answer, e.phase = .answered answer → answer.accepted = false := by simp [phase]
  cases sent : answer.issued with
  | false =>
    have unchanged : w.issue s e answer = w.put s (some { e with phase := .answered answer }) := by
      simp [World.issue, World.move, sent, unissued]
    rw [unchanged]
    refine sound.moved found rfl rfl ⟨?_, held, careful⟩ (fun early => by cases early) ?_ refused
    · rwa [sent]
    · simp [active]
  | true =>
    have unrequested := sound.unrequested found (by rw [phase]; rfl)
    let next : Execution := { e with issued := true, phase := .answered answer }
    have changed : w.issue s e answer =
        { w with requests := w.requests ++ [Request.mk e.call e.hash answer] }.put s (some next) := by
      simp [World.issue, World.move, sent, unissued, next]
    rw [changed]
    have others {t : Nat} {f : Execution} (there : (w.put s (some next)).executions t = some f) :
        (t = s ∧ f = next) ∨ (t ≠ s ∧ w.executions t = some f) := by
      by_cases same : t = s
      · subst same
        simp only [World.put, Function.update_self, Option.some.injEq] at there
        exact .inl ⟨rfl, there.symm⟩
      · simp only [World.put, Function.update_of_ne same] at there
        exact .inr ⟨same, there⟩
    have own : (w.put s (some next)).executions s = some next := Function.update_self ..
    have kept {t : Nat} {f : Execution} (different : t ≠ s) (there : w.executions t = some f) :
        (w.put s (some next)).executions t = some f := (Function.update_of_ne different ..).trans there
    have before {request : Request} (listed : request ∈ w.requests ++ [⟨e.call, e.hash, answer⟩]) :
        request ∈ w.requests ∨ request = ⟨e.call, e.hash, answer⟩ := by
      simpa using listed
    constructor
    · intro key t row pending
      obtain ⟨unsettled, f, there, same, late⟩ := sound.owner key t row pending
      by_cases mine : t = s
      · subst mine
        rw [found] at there
        cases there
        exact ⟨unsettled, next, own, same, rfl⟩
      · exact ⟨unsettled, f, kept mine there, same, late⟩
    · intro t f there
      rcases others there with ⟨rfl, rfl⟩ | ⟨_, there⟩
      · exact ⟨sent.symm, held, careful⟩
      · exact sound.work t f there
    · intro one other first second left right busy working same
      rcases others left with ⟨rfl, rfl⟩ | ⟨_, there⟩
      · rcases others right with ⟨rfl, rfl⟩ | ⟨_, too⟩
        · rfl
        · exact sound.unique _ other e second found too active working same
      · rcases others right with ⟨rfl, rfl⟩ | ⟨_, too⟩
        · exact sound.unique one _ first e there found busy active same
        · exact sound.unique one other first second there too busy working same
    · intro request listed
      rcases before listed with listed | rfl
      · rcases sound.requested request listed with ⟨t, f, row, there, issued, pending, status⟩ | settled
        · have different : t ≠ s := by grind
          exact .inl ⟨t, f, row, kept different there, issued, pending, status⟩
        · exact .inr settled
      · obtain ⟨row, pending, status, _⟩ := held.2
        exact .inl ⟨s, next, row, own, rfl, pending, by rw [status]; decide⟩
    · show (map _ (w.requests ++ [⟨e.call, e.hash, answer⟩])).Nodup
      rw [map_append, nodup_append]
      refine ⟨sound.once, nodup_singleton _, ?_⟩
      intro key listed other last
      obtain ⟨request, there, rfl⟩ := mem_map.mp listed
      rw [map_singleton, mem_singleton] at last
      rw [last]
      exact unrequested request there
    · intro request listed accepted
      rcases before listed with listed | rfl
      · rcases sound.recorded request listed accepted with
          ⟨t, f, there, same, hash, answered⟩ | ⟨t, f, row, there, issued, pending, records⟩ | settled
        · have different : t ≠ s := by grind
          exact .inl ⟨t, f, kept different there, same, hash, answered⟩
        · have different : t ≠ s := by grind
          exact .inr (.inl ⟨t, f, row, kept different there, issued, pending, records⟩)
        · exact .inr (.inr settled)
      · exact .inl ⟨s, next, own, rfl, rfl, rfl⟩

theorem Sound.concluded (sound : Sound sha256 w) (found : w.executions s = some e) (phase : e.phase = .answered answer)
    (stepped : w.conclude sha256 s e answer = some after) : Sound sha256 after := by
  have active : e.phase.active = true := by
    rw [phase]
    rfl
  have works := sound.work s e found
  rw [phase] at works
  obtain ⟨issued, held, recordable⟩ := works
  have refused_by (fails : answer.accepted = true → False) :
      ∀ other, e.phase = .answered other → other.accepted = false := by
    intro other answered
    rw [phase] at answered
    cases answered
    exact Bool.eq_false_iff.mpr fails
  unfold World.conclude at stepped
  split at stepped
  · unfold World.markSucceeded at stepped
    split at stepped
    · cases stepped
      refine sound.raised found (refused_by ?_) rfl rfl rfl
      simp_all
    · rename_i recorded
      dsimp only at stepped
      obtain ⟨middle, wrote, rfl⟩ := Option.map_eq_some_iff.mp stepped
      obtain ⟨free, row, _, same, rfl⟩ := flush_some (held.active (.inr rfl)) wrote
      split
      · rename_i commits
        exact absurd recorded (commits_unrecorded e.call.provider commits)
      · refine sound.written found rfl rfl ?_ trivial rfl fun active => by cases active
        refine sound.writable found active free (fun _ => by simp) ?_
        intro request listed key accepted
        obtain ⟨call, hash, answered⟩ := sound.accepted_own found active listed key accepted
        rw [phase] at answered
        cases answered
        refine ⟨?_, rfl, same.trans hash, ?_⟩
        · rw [issued]
          exact accepted_issued accepted
        · rwa [← call]
  · refine sound.ended found active (refused_by ?_) stepped rfl rfl rfl ?_
    · simp_all
    · grind
  · have fails : answer.accepted = true → False := by simp_all
    split at stepped
    · refine sound.ended found active (refused_by fails) stepped rfl rfl rfl ?_
      split <;> simp
    · cases stepped
      exact sound.raised found (refused_by fails) rfl rfl rfl

theorem Sound.step (sound : Sound sha256 w) {step : Step} (careful : w.Careful env sha256 step)
    (stepped : w.step env sha256 step = some after) : Sound sha256 after := by
  cases step with
  | begin session call =>
    simp only [World.step] at stepped
    split at stepped
    · rename_i absent
      cases stepped
      exact sound.begun absent call
    · cases stepped
  | elsewhere approvals =>
    cases stepped
    exact sound.elsewhere approvals
  | move session move =>
    simp only [World.step] at stepped
    split at stepped
    · cases stepped
    rename_i execution found
    have watched := careful execution found
    cases move with
    | authorize now =>
      simp only [World.advance] at stepped
      split at stepped
      · cases stepped
        exact sound.authorized found ‹_› watched
      · cases stepped
    | insert =>
      simp only [World.advance] at stepped
      split at stepped
      · exact sound.inserted found ‹_› stepped
      · cases stepped
    | reconcile answered =>
      simp only [World.advance] at stepped
      split at stepped
      · exact sound.reconciled found ‹_› watched stepped
      · cases stepped
    | check metadata thread =>
      simp only [World.advance] at stepped
      split at stepped
      · exact sound.checked found ‹_› stepped
      · cases stepped
    | send =>
      simp only [World.advance] at stepped
      split at stepped
      · exact sound.sending found ‹_› stepped
      · cases stepped
    | request answer =>
      simp only [World.advance] at stepped
      split at stepped
      · cases stepped
        exact sound.issued found ‹_› watched
      · cases stepped
    | conclude =>
      simp only [World.advance] at stepped
      split at stepped
      · exact sound.concluded found ‹_› stepped
      · cases stepped
    | commit =>
      simp only [World.advance] at stepped
      split at stepped
      · cases stepped
        exact sound.committed found ‹_› _
      · cases stepped
    | rollback =>
      cases stepped
      exact sound.rolledBack found watched

theorem Sound.reached {start : World} (sound : Sound sha256 start)
    (reached : Reaches env sha256 (World.Careful env sha256) start w) : Sound sha256 w := by
  induction reached with
  | start => exact sound
  | next step _ careful stepped ih => exact ih.step careful stepped

end Steps

section Records

structure Keeps (w after : World) : Prop where
  committed : after.table.committed = w.table.committed ∨ ∃ session, after.table.committed = w.table.read session
  requests : w.requests <+: after.requests

theorem keeps_put (next : Option Execution) : Keeps w (w.put s next) := ⟨.inl rfl, prefix_rfl⟩

theorem flush_keeps {key : String} {change : ExternalActionExecution → ExternalActionExecution} {next : Option Execution}
    (flushed : (w.flush s key change).map (fun w => w.put s next) = some after) : Keeps w after := by
  obtain ⟨middle, wrote, rfl⟩ := Option.map_eq_some_iff.mp flushed
  unfold World.flush at wrote
  split at wrote
  · split at wrote <;> cases wrote <;> exact ⟨.inl rfl, prefix_rfl⟩
  · cases wrote

theorem insert_keeps (stepped : w.insert sha256 s e = some after) : Keeps w after := by
  unfold World.insert at stepped
  dsimp only at stepped
  split at stepped
  · cases stepped
  · split at stepped <;> cases stepped <;> exact ⟨.inl rfl, prefix_rfl⟩

theorem reconcile_keeps {found : Option ApiError} (stepped : w.reconcile sha256 s e existing found = some after) :
    Keeps w after := by
  unfold World.reconcile at stepped
  split at stepped
  · split at stepped
    · exact flush_keeps stepped
    · cases stepped
      exact keeps_put _
  · split at stepped <;> cases stepped <;> exact keeps_put _

theorem check_keeps {metadata : Option DraftMetadata} {thread : Except ApiError String}
    (stepped : w.check sha256 s e existing metadata thread = some after) : Keeps w after := by
  unfold World.check at stepped
  split at stepped
  · exact flush_keeps stepped
  split at stepped
  · exact flush_keeps stepped
  split at stepped
  · cases stepped
    exact keeps_put _
  · split at stepped
    · cases stepped
      exact keeps_put _
    · split at stepped
      · exact flush_keeps stepped
      · cases stepped
        exact keeps_put _

theorem markSending_keeps (stepped : w.markSending sha256 s e existing = some after) : Keeps w after := by
  unfold World.markSending at stepped
  split at stepped
  · cases stepped
    exact keeps_put _
  · exact flush_keeps stepped

theorem conclude_keeps {answer : Answer} (stepped : w.conclude sha256 s e answer = some after) : Keeps w after := by
  unfold World.conclude at stepped
  split at stepped
  · unfold World.markSucceeded at stepped
    split at stepped
    · cases stepped
      exact keeps_put _
    · rename_i recorded
      have kept : e.call.adapter.commits = false := by
        cases commits : e.call.adapter.commits with
        | false => rfl
        | true => exact absurd recorded (commits_unrecorded e.call.provider commits)
      simp only [kept, Bool.false_eq_true, if_false] at stepped
      exact flush_keeps stepped
  · exact flush_keeps stepped
  · split at stepped
    · exact flush_keeps stepped
    · cases stepped
      exact keeps_put _

variable {request : Request} {step : Step}

theorem step_keeps (stepped : w.step env sha256 step = some after) : Keeps w after := by
  cases step with
  | begin session call =>
    simp only [World.step] at stepped
    split at stepped <;> cases stepped
    exact keeps_put _
  | elsewhere approvals =>
    cases stepped
    exact ⟨.inl rfl, prefix_rfl⟩
  | move session move =>
    simp only [World.step] at stepped
    split at stepped
    · cases stepped
    cases move with
    | authorize now =>
      simp only [World.advance] at stepped
      split at stepped <;> cases stepped
      unfold World.authorize
      split
      · exact keeps_put _
      · dsimp only
        split <;> exact keeps_put _
    | insert =>
      simp only [World.advance] at stepped
      split at stepped
      · exact insert_keeps stepped
      · cases stepped
    | reconcile answered =>
      simp only [World.advance] at stepped
      split at stepped
      · exact reconcile_keeps stepped
      · cases stepped
    | check metadata thread =>
      simp only [World.advance] at stepped
      split at stepped
      · exact check_keeps stepped
      · cases stepped
    | send =>
      simp only [World.advance] at stepped
      split at stepped
      · exact markSending_keeps stepped
      · cases stepped
    | request answer =>
      simp only [World.advance] at stepped
      split at stepped <;> cases stepped
      refine ⟨.inl rfl, ?_⟩
      show w.requests <+: if answer.issued then _ else _
      split
      · exact prefix_append ..
      · exact prefix_rfl
    | conclude =>
      simp only [World.advance] at stepped
      split at stepped
      · exact conclude_keeps stepped
      · cases stepped
    | commit =>
      simp only [World.advance] at stepped
      split at stepped <;> cases stepped
      exact ⟨.inr ⟨session, rfl⟩, prefix_rfl⟩
    | rollback =>
      cases stepped
      exact ⟨.inl rfl, prefix_rfl⟩

def World.Settled (sha256 : String → String) (w : World) (request : Request) : Prop :=
  request ∈ w.requests ∧ request.answer.accepted = true ∧
    ∃ row, w.table.committed (request.call.key sha256) = some row ∧ Records request row

def World.Underway (sha256 : String → String) (w : World) (request : Request) : Prop :=
  ∃ session execution, w.executions session = some execution ∧
    execution.call.key sha256 = request.call.key sha256 ∧
    (execution.phase = .answered request.answer ∨
      ∃ row, w.table.pending (request.call.key sha256) = some (session, row) ∧ Records request row)

theorem Sound.settled_free (sound : Sound sha256 w) (settled : w.Settled sha256 request) :
    w.table.pending (request.call.key sha256) = none := by
  obtain ⟨listed, accepted, row, committed, records⟩ := settled
  rcases sound.recorded request listed accepted with
    ⟨t, f, there, call, hash, phase⟩ | ⟨t, f, other, there, _, pending, written⟩ | ⟨free, _⟩
  · have busy : f.phase.active = true := by
      rw [phase]
      rfl
    have claimed := ((sound.work t f there).active busy).unsettled row (by rw [call, committed])
    simp [records.1] at claimed
  · rcases (sound.owner _ t other pending).1 with unsettled | unknown
    · have claimed := unsettled row committed
      simp [records.1] at claimed
    · simp [written.1] at unknown
  · exact free

theorem Sound.settled_step (sound : Sound sha256 w) (settled : w.Settled sha256 request)
    (stepped : w.step env sha256 step = some after) : after.Settled sha256 request := by
  have free := sound.settled_free settled
  obtain ⟨listed, accepted, row, committed, records⟩ := settled
  obtain ⟨table, requests⟩ := step_keeps stepped
  refine ⟨requests.subset listed, accepted, row, ?_, records⟩
  rcases table with same | ⟨session, read⟩
  · rw [same, committed]
  · rw [read, Keyed.read_committed (by simp [free]), committed]

theorem Sound.settled_reached (sound : Sound sha256 w) (settled : w.Settled sha256 request)
    {later : World} (reached : Reaches env sha256 (World.Careful env sha256) w later) :
    later.Settled sha256 request := by
  induction reached with
  | start => exact settled
  | next step before _ stepped ih => exact (sound.reached before).settled_step ih stepped

/-- In a run in which nothing of `CarefulMove` goes wrong no key is requested twice; what the provider
    accepted is recorded, or will be by an open session; and once it is committed it stays, and every claim
    that is granted for it is a replay. -/
theorem external_mutations_happen_once {approvals : Dict BoundApproval}
    (reached : Reaches env sha256 (World.Careful env sha256) (.start approvals) w) :
    (w.requests.map fun request => request.call.key sha256).Nodup ∧
      (∀ request ∈ w.requests, request.answer.accepted = true →
        w.Underway sha256 request ∨ w.Settled sha256 request) ∧
      ∀ request, w.Settled sha256 request → ∀ later, Reaches env sha256 (World.Careful env sha256) w later →
        later.Settled sha256 request ∧ ∀ session call now claim, call.key sha256 = request.call.key sha256 →
          later.claim env sha256 session call request.hash now = .ok claim → ∃ row, claim = .replayed row ∧
            claimedPhase call claim = .returned row.resultJson ∧
              request.call.tried request.answer = .ok row.resultJson := by
  have sound := (sound_start approvals).reached reached
  refine ⟨sound.once, ?_, ?_⟩
  · intro request listed accepted
    rcases sound.recorded request listed accepted with
      ⟨t, f, there, call, hash, phase⟩ | ⟨t, f, row, there, _, pending, records⟩ | ⟨_, row, committed, records⟩
    · exact .inl ⟨t, f, there, by rw [call], .inl phase⟩
    · obtain ⟨_, owner, open_, key, _⟩ := sound.owner _ t row pending
      exact .inl ⟨t, owner, open_, key, .inr ⟨row, pending, records⟩⟩
    · exact .inr ⟨listed, accepted, row, committed, records⟩
  · intro request settled later continued
    have kept := sound.settled_reached settled continued
    refine ⟨kept, ?_⟩
    intro session call now claim key granted
    have free := (sound.reached continued).settled_free kept
    obtain ⟨_, _, row, committed, records⟩ := kept
    unfold World.claim at granted
    split at granted
    · cases granted
    · rw [key, Keyed.read_committed (by simp [free]), committed] at granted
      obtain rfl := authorizeAndClaim_recorded records.1 records.2.1 granted
      exact ⟨row, rfl, rfl, records.2.2⟩

end Records

section Examples

def World.runSteps (env : Env) (sha256 : String → String) (w : World) : List Step → Option World
  | [] => some w
  | step :: rest => (w.step env sha256 step).bind fun after => after.runSteps env sha256 rest

def World.CarefulSteps (env : Env) (sha256 : String → String) (w : World) : List Step → Prop
  | [] => True
  | step :: rest => w.Careful env sha256 step ∧
      ∀ after, w.step env sha256 step = some after → after.CarefulSteps env sha256 rest

variable {start last : World} {steps : List Step}

theorem Reaches.careful_steps
    (reached : Reaches env sha256 (World.Careful env sha256) start w) (careful : w.CarefulSteps env sha256 steps)
    (ran : w.runSteps env sha256 steps = some last) : Reaches env sha256 (World.Careful env sha256) start last := by
  induction steps generalizing w with
  | nil =>
    cases ran
    exact reached
  | cons step rest ih =>
    obtain ⟨middle, stepped, ran⟩ := Option.bind_eq_some_iff.mp ran
    exact ih (.next step reached careful.1 stepped) (careful.2 middle stepped) ran

theorem Reaches.any_steps (reached : Reaches env sha256 (fun _ _ => True) start w)
    (ran : w.runSteps env sha256 steps = some last) : Reaches env sha256 (fun _ _ => True) start last := by
  induction steps generalizing w with
  | nil =>
    cases ran
    exact reached
  | cons step rest ih =>
    obtain ⟨middle, stepped, ran⟩ := Option.bind_eq_some_iff.mp ran
    exact ih (.next step reached trivial stepped) ran

def attempt (session : Nat) (call : Call) (answer : Answer) : List Step :=
  [.begin session call, .move session (.authorize 0), .move session .insert, .move session .send,
    .move session (.request answer), .move session .conclude]

def mailAttempt (session : Nat) (call : Call) (hash : String) (result : Dict Json) : List Step :=
  [.begin session call, .move session (.authorize 0), .move session .insert,
    .move session (.check (some ⟨hash, "", ""⟩) (.ok "")), .move session .send,
    .move session (.request (.sent result)), .move session .conclude, .move session .commit]

section Attempts

variable {call : Call} {content result : Dict Json}

theorem claim_begun {hash : String} {now : Int} {execution : Execution} (claimed : w.claim env sha256 s call hash now = .ok .fresh) :
    World.claim env sha256 { w with executions := Function.update w.executions s (some execution) } s call hash now =
      .ok .fresh := claimed

theorem attempt_unrecorded {answer : Answer} {message : String} (idle : w.executions s = none)
    (hashed : call.adapter.hashed call.arguments = .ok content)
    (claimed : w.claim env sha256 s call (env.argumentsHash content) 0 = .ok .fresh)
    (plain : call.adapter.draft = none) (free : w.table.pending (call.key sha256) = none)
    (absent : w.table.committed (call.key sha256) = none) (done : call.tried answer = .ok result)
    (fails : call.adapter.successError = some message) (issued : answer.issued = true) :
    ∃ after, w.runSteps env sha256 (attempt s call answer) = some after ∧
      after.requests = w.requests ++ [⟨call, env.argumentsHash content, answer⟩] ∧ after.approvals = w.approvals ∧
      after.table = w.table.write s (call.key sha256)
        { claimedRow call (env.argumentsHash content) with status := .sending } ∧
      after.executions = Function.update w.executions s
        (some { call, hash := env.argumentsHash content, phase := .raised message, issued := true }) := by
  have vacant : w.table.free s (call.key sha256) = true := Keyed.free_iff.mpr (.inl free)
  simp only [attempt, World.runSteps, World.step, idle, Option.bind_some, World.put, World.advance,
    Function.update_self, if_true, World.authorize, hashed, claim_begun claimed, World.move, claimedPhase,
    Function.update_idem, World.insert, vacant, plain, absent, not_true, if_false, Option.isSome_none,
    Bool.false_eq_true, World.markSending, World.flush, claimedRow, reduceCtorEq, Keyed.free_write_self,
    Keyed.read_write_self, Keyed.write_write, Option.map_some, World.issue, World.conclude, done, World.markSucceeded,
    fails, issued, Bool.or_true]
  exact ⟨_, rfl, rfl, rfl, rfl, rfl⟩

theorem mailAttempt_settles {field : String} (idle : w.executions s = none)
    (hashed : call.adapter.hashed call.arguments = .ok content)
    (claimed : w.claim env sha256 s call (env.argumentsHash content) 0 = .ok .fresh)
    (mail : call.adapter.draft = some field) (kept : call.adapter.commits = false)
    (free : w.table.pending (call.key sha256) = none) (absent : w.table.committed (call.key sha256) = none)
    (records : call.adapter.successError = none) :
    w.CarefulSteps env sha256 (mailAttempt s call (env.argumentsHash content) result) ∧
      ∃ after, w.runSteps env sha256 (mailAttempt s call (env.argumentsHash content) result) = some after ∧
        after.requests = w.requests ++ [⟨call, env.argumentsHash content, .sent result⟩] ∧
        after.Settled sha256 ⟨call, env.argumentsHash content, .sent result⟩ := by
  have vacant : w.table.free s (call.key sha256) = true := Keyed.free_iff.mpr (.inl free)
  have done : call.tried (.sent result) = .ok result := rfl
  have accepted : (Answer.sent result).accepted = true := rfl
  have issued : (Answer.sent result).issued = true := rfl
  simp only [mailAttempt, World.CarefulSteps, World.Careful, World.CarefulMove, World.runSteps, World.step, idle,
    Option.bind_some, World.put, World.advance, Function.update_self, if_true, World.authorize, hashed,
    claim_begun claimed, World.move, claimedPhase, Function.update_idem, World.insert, vacant, mail, absent, not_true,
    if_false, Option.isSome_none, Bool.false_eq_true, World.markSending, World.flush, claimedRow, reduceCtorEq,
    Keyed.free_write_self, Keyed.read_write_self, Keyed.write_write, Option.map_some, World.issue, World.conclude, done,
    World.markSucceeded, records, issued, Bool.or_true, World.check, ne_eq, kept, Phase.ended, Option.some.injEq,
    Except.ok.injEq, forall_eq', forall_const, true_and, and_true, accepted, exists_eq', implies_true]
  refine ⟨?_, _, rfl, rfl, ?_⟩
  · rintro other row rfl existing
    simp [claim_begun claimed] at existing
  · exact ⟨mem_append_right _ mem_cons_self, rfl, _, Keyed.read_write_self, rfl, rfl, rfl⟩

end Attempts

def issueCall : Dict Json :=
  [("connector_installation_id", .str "j"), ("cloud_id", .str "cloud"), ("project_key", .str "OPS"),
    ("summary", .str "Outage")]

def granted (toolSlug : String) (params : Dict Json) : Dict BoundApproval :=
  match toolApproval deskEnv "approval" toolRun "node" toolSlug params .null 0 with
  | .ok row => [("approval", spentOf row)]
  | .error _ => []

def createIssue : Call :=
  { provider := .jira, toolSlug := "jira.create_issue", installationId := "j", ownerId := "owner"
    arguments := handedTo issueCall }

def sendDraft : Call :=
  { provider := .gmail, toolSlug := "gmail.send_draft", installationId := "m", ownerId := "owner"
    arguments := handedTo sendCall }

theorem granted_fresh {toolSlug hash : String} {params : Dict Json} {installation : ConnectorInstallation}
    (listed : toolSlug ∈ committingTools)
    (created : (toolApproval deskEnv "approval" toolRun "node" toolSlug params .null 0).toOption.isSome = true)
    (owned : installation.ownerId = "owner")
    (commit : commitOf toolSlug "owner" (adapterArguments toolSlug installation (handedTo params)) 0 =
      some ("approval", commitRequest toolSlug params))
    (committable : Committable toolSlug params "approval" "run" installation.cloudId) :
    authorizeAndClaim deskEnv (granted toolSlug params) "approval" (commitRequest toolSlug params) hash none =
      .ok .fresh := by
  have hashes : HashesContent deskEnv := ⟨Json.digest_eq_iff, Json.digest_nonempty⟩
  obtain ⟨row, paused⟩ := ok_of_isSome created
  have approved : decided row "owner" .approved none unopposed =
      .ok { row with status := .approved, approvedByUserId := some "owner", reason := none } := rfl
  have stamped : deskEnv.isoformat 0 ≠ "" := by decide
  rw [← owned] at commit
  obtain ⟨_, bound, accepted⟩ := (handed_call_accepted hashes stamped listed (by decide) paused approved owned
    commit (by decide)).mpr committable
  have spent : validateCommittedEffect deskEnv (spentOf row) (commitRequest toolSlug params) = .ok bound := accepted
  have there : (granted toolSlug params).get? "approval" = some (spentOf row) := by
    unfold granted
    rw [paused]
    rfl
  unfold authorizeAndClaim
  rw [there]
  dsimp only
  rw [if_neg (by simp [spentOf, spentRow]), spent]

theorem createIssue_fresh (hash : String) : authorizeAndClaim deskEnv (granted "jira.create_issue" issueCall) "approval"
    (commitRequest "jira.create_issue" issueCall) hash none = .ok .fresh := by
  have shape : effectShape "jira.create_issue" issueCall = .jira := rfl
  refine granted_fresh (by decide) (by decide) (by rfl : mailbox.ownerId = "owner") rfl ?_
  constructor
  · nofun
  · nofun
  · simp [shape]
  · intro _ _
    exact .inl rfl

theorem sendDraft_fresh (hash : String) : authorizeAndClaim deskEnv (granted "gmail.send_draft" sendCall) "approval"
    (commitRequest "gmail.send_draft" sendCall) hash none = .ok .fresh := by
  have shape : effectShape "gmail.send_draft" sendCall = .gmail := rfl
  refine granted_fresh (by decide) (by decide) (by rfl : mailbox.ownerId = "owner") rfl ?_
  constructor
  · nofun
  · nofun
  · simp [shape]
  · simp [shape]

theorem draft_sent_once : ∃ w, Reaches deskEnv id (World.Careful deskEnv id) (.start (granted "gmail.send_draft" sendCall)) w ∧
    w.requests.length = 1 ∧ ∃ request ∈ w.requests, w.Settled id request ∧
      ∀ session now claim, w.claim deskEnv id session sendDraft request.hash now = .ok claim →
        ∃ row, claim = .replayed row ∧ request.call.tried request.answer = .ok row.resultJson := by
  obtain ⟨content, hashed⟩ : ∃ content, sendDraft.adapter.hashed sendDraft.arguments = .ok content :=
    ok_of_isSome (by decide)
  have claimed : (World.start (granted "gmail.send_draft" sendCall)).claim deskEnv id 0 sendDraft
      (deskEnv.argumentsHash content) 0 = .ok .fresh := by
    unfold World.claim
    exact sendDraft_fresh _
  have recorded : sendDraft.adapter.successError = none :=
    (successError_none .gmail).mpr (by simp [adapterOf, gmailAdapter])
  obtain ⟨careful, w, ran, requests, settled⟩ := @mailAttempt_settles deskEnv id
    (.start (granted "gmail.send_draft" sendCall)) 0 sendDraft content [("id", .str "sent-message")] "gmail_draft_id" rfl
    hashed claimed rfl rfl rfl rfl recorded
  have reached := Reaches.start.careful_steps careful ran
  obtain ⟨_, _, kept⟩ := external_mutations_happen_once reached
  refine ⟨w, reached, by rw [requests]; rfl, _, settled.1, settled, ?_⟩
  intro session now claim granted
  obtain ⟨row, replayed, _, result⟩ := (kept _ settled w .start).2 session sendDraft now claim rfl granted
  exact ⟨row, replayed, result⟩

theorem issue_created_twice :
    ¬ ∀ w, Reaches deskEnv id (fun _ _ => True) (.start (granted "jira.create_issue" issueCall)) w →
      (w.requests.map fun request => request.call.key id).Nodup ∧
        ∀ request ∈ w.requests, request.answer.accepted = true → w.Underway id request ∨ w.Settled id request := by
  intro once
  obtain ⟨message, fails⟩ : ∃ message, createIssue.adapter.successError = some message :=
    Option.isSome_iff_exists.mp (by decide)
  have claimed (w : World) (s : Nat) (approvals : w.approvals = granted "jira.create_issue" issueCall)
      (read : w.table.read s (createIssue.key id) = none) : w.claim deskEnv id s createIssue
      (deskEnv.argumentsHash (canonicalJiraIssueArguments createIssue.arguments)) 0 = .ok .fresh := by
    have fresh := createIssue_fresh (deskEnv.argumentsHash (canonicalJiraIssueArguments createIssue.arguments))
    rwa [← approvals, ← read] at fresh
  obtain ⟨first, ran, requests, approvals, table, executions⟩ := @attempt_unrecorded deskEnv id
    (.start (granted "jira.create_issue" issueCall)) 0 createIssue _ [("key", .str "OPS-1")]
    (.sent [("key", .str "OPS-1")]) message rfl rfl (claimed _ _ rfl rfl) rfl rfl rfl rfl fails rfl
  let retried : World := { first with table := first.table.rollback 0 }.put 0 none
  have free : retried.table.pending (createIssue.key id) = none := by
    show first.table.released 0 (createIssue.key id) = none
    rw [table]
    exact Keyed.released_own Keyed.pending_write_self
  have absent : retried.table.committed (createIssue.key id) = none := by
    show first.table.committed (createIssue.key id) = none
    rw [table]
    rfl
  have idle : retried.executions 1 = none := by
    show Function.update first.executions 0 none 1 = none
    rw [executions]
    rfl
  have failed : ∃ execution, first.executions 0 = some execution := by simp_all
  have rolled : first.step deskEnv id (.move 0 .rollback) = some retried := by
    obtain ⟨execution, there⟩ := failed
    simp only [World.step, there, World.advance]
    rfl
  obtain ⟨second, again, twice, -⟩ := @attempt_unrecorded deskEnv id retried 1 createIssue _ [("key", .str "OPS-1")]
    (.sent [("key", .str "OPS-1")]) message idle rfl
    (claimed _ _ approvals (by rw [Keyed.read_committed (by simp [free]), absent])) rfl free absent rfl fails rfl
  have reached := (Reaches.next (.move 0 .rollback) (Reaches.start.any_steps ran) trivial rolled).any_steps again
  have distinct := (once second reached).1
  rw [twice, show retried.requests = first.requests from rfl, requests] at distinct
  simp [World.start] at distinct

end Examples

end Troop.Connectors
