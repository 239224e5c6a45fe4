import Troop.Connectors.Executions

namespace Troop.Connectors

open Approvals
open Workflow (Env)
open Function (update_of_ne update_self)
open World (put)

variable {env : Env} {sha256 : String → String} {w : World} {s t : Nat} {e f next : Execution}
  {table : Keyed String Nat ExternalActionExecution} {row : ExternalActionExecution} {request : Request}

def Phase.engaged : Phase → Bool
  | .check _ | .send _ | .request => true
  | _ => false

def Phase.active : Phase → Bool
  | .check _ | .send _ | .request | .answered _ => true
  | _ => false

def Phase.early : Phase → Bool
  | .authorize | .insert => true
  | _ => false

def Records (request : Request) (row : ExternalActionExecution) : Prop :=
  row.status = .succeeded ∧ row.argumentsHash = request.hash ∧
    request.call.tried request.answer = .ok row.resultJson

def InDoubt (row : ExternalActionExecution) : Prop :=
  row.status = .sending ∨ row.status = .retryableFailure ∨ row.status = .outcomeUnknown

def Unsettled (table : Keyed String Nat ExternalActionExecution) (key : String) : Prop :=
  ∀ row, table.committed key = some row → row.status = .claimed

def Held (table : Keyed String Nat ExternalActionExecution) (session : Nat) (key hash : String)
    (status : ExecutionStatus) : Prop :=
  Unsettled table key ∧
    ∃ row, table.pending key = some (session, row) ∧ row.status = status ∧ row.argumentsHash = hash

def Claimed (table : Keyed String Nat ExternalActionExecution) (session : Nat) (key hash : String) : Prop :=
  Held table session key hash .claimed ∨
    (table.pending key = none ∧
      ∃ row, table.committed key = some row ∧ row.status = .claimed ∧ row.argumentsHash = hash)

def Work (sha256 : String → String) (table : Keyed String Nat ExternalActionExecution) (session : Nat)
    (execution : Execution) : Phase → Prop
  | .authorize | .insert => execution.issued = false
  | .reconcile existing =>
    execution.issued = false ∧ (existing.status = .sending ∨ existing.status = .retryableFailure) ∧
      (∃ row, table.committed (execution.call.key sha256) = some row ∧ InDoubt row) ∧
      ∀ writer row, table.pending (execution.call.key sha256) = some (writer, row) → row.status = .outcomeUnknown
  | .check existing | .send existing =>
    execution.issued = false ∧ existing.status = .claimed ∧
      Claimed table session (execution.call.key sha256) execution.hash
  | .request => execution.issued = false ∧ Held table session (execution.call.key sha256) execution.hash .sending
  | .answered answer =>
    execution.issued = answer.issued ∧ Held table session (execution.call.key sha256) execution.hash .sending ∧
      (answer.accepted = true → execution.call.adapter.successError = none ∧
        ∃ result, execution.call.tried answer = .ok result)
  | .returned _ | .raised _ => True

structure Sound (sha256 : String → String) (w : World) : Prop where
  owner : ∀ key session row, w.table.pending key = some (session, row) →
    (Unsettled w.table key ∨ row.status = .outcomeUnknown) ∧
      ∃ execution, w.executions session = some execution ∧ execution.call.key sha256 = key ∧
        execution.phase.early = false
  work : ∀ session execution, w.executions session = some execution →
    Work sha256 w.table session execution execution.phase
  unique : ∀ one other first second, w.executions one = some first → w.executions other = some second →
    first.phase.active = true → second.phase.active = true →
    first.call.key sha256 = second.call.key sha256 → one = other
  requested : ∀ request ∈ w.requests,
    (∃ session execution row, w.executions session = some execution ∧ execution.issued = true ∧
      w.table.pending (request.call.key sha256) = some (session, row) ∧ row.status ≠ .claimed) ∨
    ∃ row, w.table.committed (request.call.key sha256) = some row ∧ row.status ≠ .claimed
  once : (w.requests.map fun request => request.call.key sha256).Nodup
  recorded : ∀ request ∈ w.requests, request.answer.accepted = true →
    (∃ session execution, w.executions session = some execution ∧ execution.call = request.call ∧
      execution.hash = request.hash ∧ execution.phase = .answered request.answer) ∨
    (∃ session execution row, w.executions session = some execution ∧ execution.issued = true ∧
      w.table.pending (request.call.key sha256) = some (session, row) ∧ Records request row) ∨
    (w.table.pending (request.call.key sha256) = none ∧
      ∃ row, w.table.committed (request.call.key sha256) = some row ∧ Records request row)

theorem sound_start (approvals : Dict BoundApproval) : Sound sha256 (World.start approvals) := by
  constructor
  · intro key session row held
    cases held
  · intro session execution found
    cases found
  · intro one other first second found
    cases found
  · intro request issued
    cases issued
  · exact List.nodup_nil
  · intro request issued
    cases issued

section Facts

variable {key hash : String} {status : ExecutionStatus} {phase : Phase}

theorem Held.holder (held : Held table s key hash status)
    (pending : table.pending key = some (t, row)) : t = s ∧ row.status = status := by
  obtain ⟨_, own, there, same, _⟩ := held
  simp_all

theorem accepted_issued {answer : Answer} (accepted : answer.accepted = true) : answer.issued = true := by
  cases answer <;> first | rfl | cases accepted

structure Active (table : Keyed String Nat ExternalActionExecution) (session : Nat) (key hash : String) : Prop where
  unsettled : Unsettled table key
  holder : ∀ writer row, table.pending key = some (writer, row) →
    writer = session ∧ (row.status = .claimed ∨ row.status = .sending)
  there : ∃ row, table.read session key = some row ∧ row.argumentsHash = hash

theorem Held.active (held : Held table s key hash status)
    (working : status = .claimed ∨ status = .sending) : Active table s key hash := by
  refine ⟨held.1, ?_, ?_⟩
  · intro writer row pending
    obtain ⟨rfl, rfl⟩ := held.holder pending
    exact ⟨rfl, working⟩
  · obtain ⟨_, row, there, _, same⟩ := held
    exact ⟨row, Keyed.read_own there, same⟩

theorem Claimed.active (claimed : Claimed table s key hash) : Active table s key hash := by
  rcases claimed with held | ⟨free, row, there, status, same⟩
  · exact held.active (.inl rfl)
  refine ⟨?_, ?_, row, ?_, same⟩
  · intro other found
    simp_all
  · simp [free]
  · simp_all [Keyed.read_committed]

theorem Work.active (works : Work sha256 table s e e.phase) (active : e.phase.active = true) :
    Active table s (e.call.key sha256) e.hash := by
  cases phase : e.phase with
  | check existing | send existing =>
    rw [phase] at works
    exact works.2.2.active
  | request =>
    rw [phase] at works
    exact works.2.active (.inr rfl)
  | answered answer =>
    rw [phase] at works
    exact works.2.1.active (.inr rfl)
  | _ =>
    rw [phase] at active
    cases active

theorem engaged_active (engaged : phase.engaged = true) : phase.active = true := by
  cases phase <;> first | rfl | cases engaged

theorem Work.unissued (works : Work sha256 table s e e.phase) (engaged : e.phase.engaged = true) :
    e.issued = false := by
  cases phase : e.phase with
  | check existing | send existing | request =>
    rw [phase] at works
    exact works.1
  | _ =>
    rw [phase] at engaged
    cases engaged

theorem Work.congr {other : Keyed String Nat ExternalActionExecution} (works : Work sha256 table s e phase)
    (committed : other.committed (e.call.key sha256) = table.committed (e.call.key sha256))
    (pending : other.pending (e.call.key sha256) = table.pending (e.call.key sha256)) :
    Work sha256 other s e phase := by
  cases phase with
  | returned result | raised message => trivial
  | _ => simpa only [Work, Claimed, Held, Unsettled, committed, pending] using works

theorem Sound.unrequested (sound : Sound sha256 w) (found : w.executions s = some e)
    (engaged : e.phase.engaged = true) : ∀ request ∈ w.requests, request.call.key sha256 ≠ e.call.key sha256 := by
  intro request listed same
  have works := sound.work s e found
  have active := works.active (engaged_active engaged)
  rcases sound.requested request listed with ⟨t, f, row, there, issued, pending, -⟩ | ⟨row, committed, status⟩
  · rw [same] at pending
    obtain rfl := (active.holder t row pending).1
    rw [found] at there
    cases there
    simp [works.unissued engaged] at issued
  · rw [same] at committed
    exact status (active.unsettled row committed)

theorem Sound.unaccepted (sound : Sound sha256 w) (key : String)
    (idle : ∀ t f, w.executions t = some f → f.call.key sha256 = key → ∀ answer, f.phase = .answered answer →
      answer.accepted = false)
    (pending : ∀ t row, w.table.pending key = some (t, row) → row.status ≠ .succeeded)
    (committed : ∀ row, w.table.committed key = some row → row.status ≠ .succeeded) :
    ∀ request ∈ w.requests, request.call.key sha256 = key → request.answer.accepted = false := by
  intro request listed same
  by_contra accepted
  rw [Bool.not_eq_false] at accepted
  rcases sound.recorded request listed accepted with
    ⟨t, f, there, call, -, phase⟩ | ⟨t, _, row, -, -, held, records⟩ | ⟨-, row, there, records⟩
  · grind
  · rw [same] at held
    exact pending t row held records.1
  · rw [same] at there
    exact committed row there records.1

end Facts

section Frames

structure Writable (sha256 : String → String) (w : World) (session : Nat) (execution : Execution)
    (row : ExternalActionExecution) : Prop where
  free : w.table.free session (execution.call.key sha256) = true
  unsettled : Unsettled w.table (execution.call.key sha256) ∨ row.status = .outcomeUnknown
  issued : execution.issued = true → row.status ≠ .claimed
  others : ∀ other working, other ≠ session → w.executions other = some working →
    working.call.key sha256 = execution.call.key sha256 → working.phase.active = false ∧
      ∀ existing, working.phase = .reconcile existing → row.status = .outcomeUnknown
  records : ∀ request ∈ w.requests, request.call.key sha256 = execution.call.key sha256 →
    request.answer.accepted = true → execution.issued = true ∧ Records request row

theorem Sound.stepped (sound : Sound sha256 w) (found : w.executions s = some e) (call : next.call = e.call)
    (issued : next.issued = e.issued) (committed : table.committed = w.table.committed)
    (elsewhere : ∀ key, key ≠ e.call.key sha256 → table.pending key = w.table.pending key)
    (here : (table.pending (e.call.key sha256) = w.table.pending (e.call.key sha256) ∧
        ∀ answer, e.phase = .answered answer → answer.accepted = false) ∨
      ∃ row, table.pending (e.call.key sha256) = some (s, row) ∧ Writable sha256 w s e row)
    (works : Work sha256 table s next next.phase)
    (late : next.phase.early = false ∨ (e.phase.early = true ∧ table.pending (e.call.key sha256) = w.table.pending (e.call.key sha256)))
    (alone : next.phase.active = true → e.phase.active = false → ∀ t f, t ≠ s → w.executions t = some f →
      f.call.key sha256 = e.call.key sha256 → f.phase.active = false) :
    Sound sha256 ({ w with table }.put s (some next)) := by
  have others {t : Nat} {f : Execution} (there : ({ w with table }.put s (some next)).executions t = some f) :
      (t = s ∧ f = next) ∨ (t ≠ s ∧ w.executions t = some f) := by
    by_cases same : t = s
    · subst same
      simp only [put, update_self, Option.some.injEq] at there
      exact .inl ⟨rfl, there.symm⟩
    · simp only [put, update_of_ne same] at there
      exact .inr ⟨same, there⟩
  have kept {t : Nat} (different : t ≠ s) : ({ w with table }.put s (some next)).executions t = w.executions t :=
    update_of_ne different ..
  have own : ({ w with table }.put s (some next)).executions s = some next := update_self ..
  have written {key : String} {t : Nat} {row : ExternalActionExecution} (pending : table.pending key = some (t, row)) :
      w.table.pending key = some (t, row) ∨ (key = e.call.key sha256 ∧ t = s ∧ Writable sha256 w s e row) := by
    by_cases same : key = e.call.key sha256
    · subst same
      rcases here with ⟨unchanged, _⟩ | ⟨new, wrote, writable⟩
      · exact .inl (by rw [← unchanged, pending])
      · simp_all
    · exact .inl (by rw [← elsewhere key same, pending])
  have left {key : String} {t : Nat} {row : ExternalActionExecution} (pending : w.table.pending key = some (t, row)) :
      table.pending key = some (t, row) ∨
        (key = e.call.key sha256 ∧ t = s ∧ ∃ row, table.pending key = some (s, row) ∧ Writable sha256 w s e row) := by
    by_cases same : key = e.call.key sha256
    · subst same
      rcases here with ⟨unchanged, _⟩ | ⟨new, wrote, writable⟩
      · exact .inl (by rw [unchanged, pending])
      · rcases Keyed.free_iff.mp writable.free with free | ⟨_, mine⟩
        · simp [pending] at free
        · simp_all
    · exact .inl (by rw [elsewhere key same, pending])
  constructor
  · intro key t row pending
    rcases written pending with before | ⟨rfl, rfl, writable⟩
    · obtain ⟨unsettled, f, there, same, past⟩ := sound.owner key t row before
      refine ⟨by simpa only [Unsettled, put, committed] using unsettled, ?_⟩
      by_cases mine : t = s
      · subst mine
        rw [found] at there
        cases there
        refine ⟨next, own, by rw [call, same], ?_⟩
        rcases late with late | ⟨early, _⟩
        · exact late
        · simp [past] at early
      · exact ⟨f, by rw [kept mine, there], same, past⟩
    · refine ⟨by simpa only [Unsettled, put, committed] using writable.unsettled, next, own, by rw [call], ?_⟩
      rcases late with late | ⟨early, unchanged⟩
      · exact late
      · obtain ⟨_, f, there, _, past⟩ := sound.owner _ _ _ (unchanged.symm.trans pending)
        simp_all
  · intro t f there
    rcases others there with ⟨rfl, rfl⟩ | ⟨different, there⟩
    · exact works
    have before := sound.work t f there
    by_cases same : f.call.key sha256 = e.call.key sha256
    · rcases here with ⟨unchanged, _⟩ | ⟨row, wrote, writable⟩
      · exact before.congr (by simp only [put, committed]) (by simp only [put, same, unchanged])
      -- whoever else works under the key is only reconciling it
      obtain ⟨inactive, doubtful⟩ := writable.others t f different there same
      cases phase : f.phase with
      | authorize | insert => rwa [phase] at before
      | returned result | raised message => trivial
      | reconcile existing =>
        rw [phase] at before
        obtain ⟨fresh, status, doubt, _⟩ := before
        refine ⟨fresh, status, by simpa only [put, committed] using doubt, ?_⟩
        intro writer other pending
        simp only [put, same, wrote, Option.some.injEq, Prod.mk.injEq] at pending
        rw [← pending.2]
        exact doubtful existing phase
      | _ =>
        rw [phase] at inactive
        cases inactive
    · exact before.congr (by simp only [put, committed]) (elsewhere _ same)
  · -- only an execution that becomes active is new here
    have fresh {t : Nat} {f : Execution} (different : t ≠ s) (there : w.executions t = some f)
        (active : next.phase.active = true) (busy : f.phase.active = true)
        (same : f.call.key sha256 = e.call.key sha256) : t = s := by
      cases was : e.phase.active with
      | true => exact sound.unique t s f e there found busy was same
      | false => simp [alone active was t f different there same] at busy
    intro one other first second first_there second_there active busy same
    rcases others first_there with ⟨rfl, rfl⟩ | ⟨different, before⟩
    · rcases others second_there with ⟨rfl, rfl⟩ | ⟨different, before⟩
      · rfl
      · exact (fresh different before active busy (by rw [← same, call])).symm
    · rcases others second_there with ⟨rfl, rfl⟩ | ⟨_, too⟩
      · exact fresh different before busy active (by rw [same, call])
      · exact sound.unique one other first second before too active busy same
  · intro request listed
    rcases sound.requested request listed with ⟨t, f, row, there, sent, pending, status⟩ | settled
    · by_cases mine : t = s
      · subst mine
        rw [found] at there
        cases there
        rcases left pending with pending | ⟨_, _, row, pending, writable⟩
        · exact .inl ⟨t, next, row, own, by rw [issued, sent], pending, status⟩
        · exact .inl ⟨t, next, row, own, by rw [issued, sent], pending, writable.issued sent⟩
      · rcases left pending with pending | ⟨_, rfl, _⟩
        · exact .inl ⟨t, f, row, by rw [kept mine, there], sent, pending, status⟩
        · exact absurd rfl mine
    · exact .inr (by simpa only [put, committed] using settled)
  · exact sound.once
  intro request listed accepted
  rcases sound.recorded request listed accepted with
    ⟨t, f, there, same, hash, phase⟩ | ⟨t, f, row, there, sent, pending, records⟩ | ⟨free, settled⟩
  · by_cases mine : t = s
    · subst mine
      rw [found] at there
      cases there
      rcases here with ⟨_, refused⟩ | ⟨row, wrote, writable⟩
      · simp [refused _ phase] at accepted
      · obtain ⟨sent, records⟩ := writable.records request listed (by rw [same]) accepted
        exact .inr (.inl ⟨t, next, row, own, by rw [issued, sent], by rw [← same]; exact wrote, records⟩)
    · exact .inl ⟨t, f, by rw [kept mine, there], same, hash, phase⟩
  · rcases left pending with pending | ⟨same, rfl, row, pending, writable⟩
    · by_cases mine : t = s
      · subst mine
        rw [found] at there
        cases there
        exact .inr (.inl ⟨t, next, row, own, by rw [issued, sent], pending, records⟩)
      · exact .inr (.inl ⟨t, f, row, by rw [kept mine, there], sent, pending, records⟩)
    · obtain ⟨sent, records⟩ := writable.records request listed same accepted
      exact .inr (.inl ⟨t, next, row, own, by rw [issued, sent], pending, records⟩)
  · by_cases same : request.call.key sha256 = e.call.key sha256
    · rcases here with ⟨unchanged, _⟩ | ⟨row, wrote, writable⟩
      · exact .inr (.inr ⟨by rw [← free]; simp only [put, same, unchanged],
          by simpa only [put, committed] using settled⟩)
      · obtain ⟨sent, records⟩ := writable.records request listed same accepted
        exact .inr (.inl ⟨s, next, row, own, by rw [issued, sent], by rw [same]; exact wrote, records⟩)
    · exact .inr (.inr ⟨by rw [← free]; exact elsewhere _ same,
        by simpa only [put, committed] using settled⟩)

theorem Sound.moved (sound : Sound sha256 w) (found : w.executions s = some e) (call : next.call = e.call)
    (issued : next.issued = e.issued) (works : Work sha256 w.table s next next.phase)
    (early : next.phase.early = true → e.phase.early = true)
    (alone : next.phase.active = true → e.phase.active = false → ∀ t f, t ≠ s → w.executions t = some f →
      f.call.key sha256 = e.call.key sha256 → f.phase.active = false)
    (answered : ∀ answer, e.phase = .answered answer → answer.accepted = false) :
    Sound sha256 (w.put s (some next)) := by
  refine sound.stepped found call issued rfl (fun _ _ => rfl) (.inl ⟨rfl, answered⟩) works ?_ alone
  cases begun : next.phase.early with
  | false => exact .inl rfl
  | true => exact .inr ⟨early begun, rfl⟩

theorem Sound.written (sound : Sound sha256 w) (found : w.executions s = some e) (call : next.call = e.call)
    (issued : next.issued = e.issued) (writable : Writable sha256 w s e row)
    (works : Work sha256 (w.table.write s (e.call.key sha256) row) s next next.phase)
    (late : next.phase.early = false)
    (alone : next.phase.active = true → e.phase.active = false → ∀ t f, t ≠ s → w.executions t = some f →
      f.call.key sha256 = e.call.key sha256 → f.phase.active = false) :
    Sound sha256 ({ w with table := w.table.write s (e.call.key sha256) row }.put s (some next)) :=
  sound.stepped found call issued rfl (fun _ different => Keyed.pending_write_other different)
    (.inr ⟨row, Keyed.pending_write_self, writable⟩) works (.inl late) alone

theorem put_none_executions {t : Nat} : (w.put s none).executions t = some f ↔ t ≠ s ∧ w.executions t = some f := by
  by_cases same : t = s
  · subst same
    simp [put]
  · simp [put, same]

theorem Sound.elsewhere (sound : Sound sha256 w) (approvals : Dict BoundApproval) : Sound sha256 { w with approvals } :=
  ⟨sound.owner, sound.work, sound.unique, sound.requested, sound.once, sound.recorded⟩

theorem Sound.begun (sound : Sound sha256 w) (absent : w.executions s = none) (call : Call) :
    Sound sha256 (w.put s (some { call, hash := "", phase := .authorize })) := by
  have others {t : Nat} {f : Execution}
      (there : (w.put s (some { call, hash := "", phase := .authorize })).executions t = some f) :
      (t ≠ s ∧ w.executions t = some f) ∨ (f.phase = .authorize ∧ f.issued = false) := by
    by_cases same : t = s
    · subst same
      simp only [put, update_self, Option.some.injEq] at there
      rw [← there]
      exact .inr ⟨rfl, rfl⟩
    · simp only [put, update_of_ne same] at there
      exact .inl ⟨same, there⟩
  have kept {t : Nat} {f : Execution} (there : w.executions t = some f) :
      (w.put s (some { call, hash := "", phase := .authorize })).executions t = some f := by
    have different : t ≠ s := by grind
    simp only [put, update_of_ne different, there]
  constructor
  · intro key t row pending
    obtain ⟨unsettled, f, there, same, late⟩ := sound.owner key t row pending
    exact ⟨unsettled, f, kept there, same, late⟩
  · intro t f there
    rcases others there with ⟨_, before⟩ | ⟨phase, unissued⟩
    · exact sound.work t f before
    · rwa [phase]
  · intro one other first second left right active busy same
    rcases others left with ⟨_, before⟩ | ⟨phase, _⟩
    · rcases others right with ⟨_, too⟩ | ⟨phase, _⟩
      · exact sound.unique one other first second before too active busy same
      · rw [phase] at busy
        cases busy
    · rw [phase] at active
      cases active
  · intro request listed
    rcases sound.requested request listed with ⟨t, f, row, there, rest⟩ | settled
    · exact .inl ⟨t, f, row, kept there, rest⟩
    · exact .inr settled
  · exact sound.once
  intro request listed accepted
  rcases sound.recorded request listed accepted with ⟨t, f, there, rest⟩ | ⟨t, f, row, there, rest⟩ | settled
  · exact .inl ⟨t, f, kept there, rest⟩
  · exact .inr (.inl ⟨t, f, row, kept there, rest⟩)
  · exact .inr (.inr settled)

theorem Sound.committed (sound : Sound sha256 w) (found : w.executions s = some e) (finished : e.phase.ended = true)
    (approvals : Dict BoundApproval) :
    Sound sha256 ({ w with approvals, table := w.table.commit s }.put s none) := by
  have foreign {key : String} (unheld : ∀ row, w.table.pending key ≠ some (s, row)) :
      w.table.read s key = w.table.committed key ∧ w.table.released s key = w.table.pending key := by
    refine ⟨Keyed.read_committed unheld, ?_⟩
    cases pending : w.table.pending key with
    | none => exact Keyed.released_none pending
    | some entry => grind [Keyed.released_some]
  constructor
  · intro key t row pending
    obtain ⟨pending, different⟩ := Keyed.released_some.mp pending
    obtain ⟨unsettled, f, there, same, late⟩ := sound.owner key t row pending
    refine ⟨unsettled.imp_left ?_, f, put_none_executions.mpr ⟨different, there⟩, same, late⟩
    intro claimed other committed
    have unheld : ∀ row, w.table.pending key ≠ some (s, row) := by simp_all
    exact claimed other ((foreign unheld).1.symm.trans committed)
  · intro t f there
    obtain ⟨different, there⟩ := put_none_executions.mp there
    have before := sound.work t f there
    by_cases held : ∃ row, w.table.pending (f.call.key sha256) = some (s, row)
    · -- the row another execution works on is published: that one was reconciling it
      obtain ⟨row, pending⟩ := held
      cases active : f.phase.active with
      | true => exact absurd ((before.active active).holder s row pending).1.symm different
      | false =>
        cases phase : f.phase with
        | authorize | insert => rwa [phase] at before
        | returned result | raised message => trivial
        | reconcile existing =>
          rw [phase] at before
          obtain ⟨fresh, status, _, doubtful⟩ := before
          refine ⟨fresh, status, ⟨row, Keyed.read_own pending, .inr (.inr (doubtful s row pending))⟩, ?_⟩
          intro writer other left
          have gone : w.table.released s (f.call.key sha256) = some (writer, other) := left
          simp [Keyed.released_own pending] at gone
        | _ =>
          rw [phase] at active
          cases active
    · rw [not_exists] at held
      exact before.congr (foreign held).1 (foreign held).2
  · intro one other first second left right
    exact sound.unique one other first second (put_none_executions.mp left).2 (put_none_executions.mp right).2
  · intro request listed
    have owned := sound.requested request listed
    by_cases held : ∃ row, w.table.pending (request.call.key sha256) = some (s, row)
    · obtain ⟨row, pending⟩ := held
      refine .inr ⟨row, Keyed.read_own pending, ?_⟩
      rcases owned with ⟨t, f, other, _, _, same, status⟩ | ⟨other, committed, status⟩
      · simp_all
      · rcases (sound.owner _ s row pending).1 with unsettled | unknown
        · exact absurd (unsettled other committed) status
        · simp [unknown]
    · rw [not_exists] at held
      rcases owned with ⟨t, f, row, there, sent, pending, status⟩ | ⟨row, committed, status⟩
      · have different : t ≠ s := by
          rintro rfl
          exact held row pending
        exact .inl ⟨t, f, row, put_none_executions.mpr ⟨different, there⟩, sent, (foreign held).2.trans pending, status⟩
      · exact .inr ⟨row, (foreign held).1.trans committed, status⟩
  · exact sound.once
  intro request listed accepted
  rcases sound.recorded request listed accepted with
    ⟨t, f, there, same, hash, phase⟩ | ⟨t, f, row, there, sent, pending, records⟩ | ⟨free, row, there, records⟩
  · have different : t ≠ s := by
      rintro rfl
      rw [found] at there
      cases there
      rw [phase] at finished
      cases finished
    exact .inl ⟨t, f, put_none_executions.mpr ⟨different, there⟩, same, hash, phase⟩
  · by_cases mine : t = s
    · subst mine
      exact .inr (.inr ⟨Keyed.released_own pending, row, Keyed.read_own pending, records⟩)
    · exact .inr (.inl ⟨t, f, row, put_none_executions.mpr ⟨mine, there⟩, sent, Keyed.released_other pending mine, records⟩)
  · have unheld : ∀ row, w.table.pending (request.call.key sha256) ≠ some (s, row) := by
      simp [free]
    exact .inr (.inr ⟨(foreign unheld).2.trans free, row, (foreign unheld).1.trans there, records⟩)

theorem Sound.rolledBack (sound : Sound sha256 w) (found : w.executions s = some e) (unissued : e.issued = false) :
    Sound sha256 ({ w with table := w.table.rollback s }.put s none) := by
  have issuer {t : Nat} {f : Execution} (there : w.executions t = some f) (sent : f.issued = true) : t ≠ s := by
    grind
  constructor
  · intro key t row pending
    obtain ⟨pending, different⟩ := Keyed.released_some.mp pending
    obtain ⟨unsettled, f, there, same, late⟩ := sound.owner key t row pending
    exact ⟨unsettled, f, put_none_executions.mpr ⟨different, there⟩, same, late⟩
  · intro t f there
    obtain ⟨different, there⟩ := put_none_executions.mp there
    have before := sound.work t f there
    cases active : f.phase.active with
    | true =>
      refine before.congr rfl ?_
      cases pending : w.table.pending (f.call.key sha256) with
      | none => exact Keyed.released_none pending
      | some entry =>
        refine Keyed.released_some.mpr ⟨pending, ?_⟩
        rwa [((before.active active).holder entry.1 entry.2 pending).1]
    | false =>
      cases phase : f.phase with
      | authorize | insert => rwa [phase] at before
      | returned result | raised message => trivial
      | reconcile existing =>
        rw [phase] at before
        obtain ⟨fresh, status, doubt, doubtful⟩ := before
        exact ⟨fresh, status, doubt, fun writer row pending => doubtful writer row (Keyed.released_some.mp pending).1⟩
      | _ =>
        rw [phase] at active
        cases active
  · intro one other first second left right
    exact sound.unique one other first second (put_none_executions.mp left).2 (put_none_executions.mp right).2
  · intro request listed
    rcases sound.requested request listed with ⟨t, f, row, there, sent, pending, status⟩ | settled
    · have different := issuer there sent
      exact .inl ⟨t, f, row, put_none_executions.mpr ⟨different, there⟩, sent, Keyed.released_other pending different, status⟩
    · exact .inr settled
  · exact sound.once
  intro request listed accepted
  rcases sound.recorded request listed accepted with
    ⟨t, f, there, same, hash, phase⟩ | ⟨t, f, row, there, sent, pending, records⟩ | ⟨free, settled⟩
  · have works := sound.work t f there
    rw [phase] at works
    have sent : f.issued = true := by
      rw [works.1]
      exact accepted_issued accepted
    exact .inl ⟨t, f, put_none_executions.mpr ⟨issuer there sent, there⟩, same, hash, phase⟩
  · have different := issuer there sent
    exact .inr (.inl ⟨t, f, row, put_none_executions.mpr ⟨different, there⟩, sent,
      Keyed.released_other pending different, records⟩)
  · exact .inr (.inr ⟨Keyed.released_none free, settled⟩)

end Frames

end Troop.Connectors
