import Troop.Inbox.Effects

namespace Troop.Inbox

open List
open Option (any_eq_true bind_eq_some_iff map_eq_some_iff)
open Function (update update_of_ne update_self)

variable {sha256 : String → String} {w after : World} {s t : Nat} {worker next : Worker} {key : String}

def World.Started (w : World) (subscriptionId messageId : String) : Prop :=
  ∃ run ∈ w.runs, run.subscriptionId = subscriptionId ∧ run.messageId = messageId

instance (w : World) (subscriptionId messageId : String) : Decidable (w.Started subscriptionId messageId) :=
  inferInstanceAs (Decidable (∃ run ∈ w.runs, _))

def World.Covered (w : World) (id : String) (subscription : TriggerSubscription) (historyId : Nat) : Prop :=
  ∀ mail ∈ (w.mailboxes subscription.connectorInstallationId).added,
    subscription.createdAt < mail.1 → mail.1 ≤ historyId → w.Started id mail.2

instance (w : World) (id : String) (subscription : TriggerSubscription) (historyId : Nat) :
    Decidable (w.Covered id subscription historyId) :=
  inferInstanceAs (Decidable (∀ mail ∈ _, _))

/-- No cursor has passed a message without a run, and no notification is left in processing. -/
structure NothingLost (w : World) : Prop where
  covered : ∀ id subscription historyId, w.subscriptions id = some subscription →
    subscription.externalCursor = some historyId → w.Covered id subscription historyId
  attended : ∀ key event, w.events.committed key = some event → event.historyId.isSome = true →
    event.status = .processing → ∃ session worker, w.workers session = some worker ∧ worker.key = key

def Mailbox.since (mailbox : Mailbox) (historyId : Nat) : List String :=
  (mailbox.added.filter fun mail => historyId < mail.1).map Prod.snd

/-- The provider lists the mailbox in order, says where it is, and marks the pages that are not the last. -/
def HistoryPage.honest (page : HistoryPage) (mailbox : Mailbox) (start : Nat) : Bool :=
  page.historyId = some mailbox.current ∧ page.history.flatten <+: mailbox.since start ∧
    (page.nextPageToken = none → page.history.flatten = mailbox.since start)

def World.honest (w : World) : Step → Bool
  | .arrive _ message => message ≠ ""
  | .work session (.history (.page page)) =>
    (w.workers session).all fun worker => (w.subscriptions worker.event.subscriptionId).all fun subscription =>
      (subscription.externalCursor.or worker.event.historyId).all fun start =>
        page.honest (w.mailboxes subscription.connectorInstallationId) start
  | _ => true

/-- The page is the last, a message is skipped only where the subscription itself has started it, a watch is
    renewed only where no message waits, and no worker is lost whose claim is committed. -/
def World.careful (sha256 : String → String) (w : World) : Step → Bool
  | .renew id => (w.subscriptions id).all fun subscription =>
      w.Covered id subscription (w.mailboxes subscription.connectorInstallationId).current
  | .work session act => (w.workers session).all fun worker =>
    match act, worker.phase with
    | .history (.page page), _ => page.nextPageToken = none
    | .look, .looking (message :: _) =>
      (w.events.read session (worker.childDedupe sha256 message)).all fun child =>
        child.workflowRunId = none ∨ w.Started worker.event.subscriptionId message
    | .insert, .inserting message _ =>
      (w.events.read session (worker.childDedupe sha256 message)).isNone ∨
        (w.events.committed worker.key).all fun event => event.status ≠ .processing
    | .crash, _ => (w.events.committed worker.key).all fun event => event.status ≠ .processing
    | _, _ => true
  | _ => true

structure Covering (w : World) : Prop where
  mail : ∀ installationId, ∀ mail ∈ (w.mailboxes installationId).added,
    mail.1 ≤ (w.mailboxes installationId).current ∧ mail.2 ≠ ""
  cursor : ∀ id subscription, w.subscriptions id = some subscription →
    ∃ historyId, subscription.externalCursor = some historyId ∧
      historyId ≤ (w.mailboxes subscription.connectorInstallationId).current ∧ w.Covered id subscription historyId
  page : ∀ session worker, w.workers session = some worker → worker.phase ≠ .claimed →
    ∃ subscription newest, w.subscriptions worker.event.subscriptionId = some subscription ∧
      worker.newest = some newest ∧ newest ≤ (w.mailboxes subscription.connectorInstallationId).current ∧
      ∀ mail ∈ (w.mailboxes subscription.connectorInstallationId).added,
        subscription.createdAt < mail.1 → mail.1 ≤ newest →
          w.Started worker.event.subscriptionId mail.2 ∨ mail.2 ∈ worker.left

theorem covering_start : Covering .start := by
  constructor
  · intro installationId mail listed
    cases listed
  · intro id subscription there
    cases there
  · intro session worker found
    cases found

section Coverage

structure Grows (w after : World) : Prop where
  mailboxes : after.mailboxes = w.mailboxes
  started : ∀ id message, w.Started id message → after.Started id message

theorem Grows.covered (grows : Grows w after) {id : String} {before later : TriggerSubscription} {historyId : Nat}
    (mailbox : later.connectorInstallationId = before.connectorInstallationId) (created : later.createdAt = before.createdAt)
    (covered : w.Covered id before historyId) : after.Covered id later historyId := by
  intro mail listed new old
  rw [grows.mailboxes, mailbox] at listed
  rw [created] at new
  exact grows.started _ _ (covered mail listed new old)

theorem Effect.grows {act : Act} (effect : Effect sha256 w after s worker act) : Grows w after := by
  refine ⟨effect.mailboxes, ?_⟩
  rintro id message ⟨run, listed, named⟩
  rcases effect.runs with same | more
  · exact ⟨run, same ▸ listed, named⟩
  · exact ⟨run, more ▸ mem_append_left _ listed, named⟩

theorem Effect.row {act : Act} (effect : Effect sha256 w after s worker act) {id : String}
    {subscription : TriggerSubscription} (there : w.subscriptions id = some subscription) :
    ∃ later, after.subscriptions id = some later ∧
      later.connectorInstallationId = subscription.connectorInstallationId ∧
      later.createdAt = subscription.createdAt := by
  rcases effect.subscriptions id with same | ⟨before, later, known, now, keeps⟩
  · exact ⟨subscription, same.trans there, rfl, rfl⟩
  · rw [there] at known
    cases known
    refine ⟨later, now, ?_, ?_⟩ <;> rw [keeps.same]

theorem Effect.page {act : Act} (effect : Effect sha256 w after s worker act) {id : String}
    {subscription : TriggerSubscription} {newest : Nat} {left rest : List String}
    (known : w.subscriptions id = some subscription)
    (reached : newest ≤ (w.mailboxes subscription.connectorInstallationId).current)
    (passed : ∀ mail ∈ (w.mailboxes subscription.connectorInstallationId).added,
      subscription.createdAt < mail.1 → mail.1 ≤ newest → w.Started id mail.2 ∨ mail.2 ∈ left)
    (handled : ∀ message ∈ left, message ∈ rest ∨ after.Started id message) :
    ∃ later, after.subscriptions id = some later ∧
      newest ≤ (after.mailboxes later.connectorInstallationId).current ∧
      ∀ mail ∈ (after.mailboxes later.connectorInstallationId).added,
        later.createdAt < mail.1 → mail.1 ≤ newest → after.Started id mail.2 ∨ mail.2 ∈ rest := by
  obtain ⟨later, now, mailbox, created⟩ := effect.row known
  refine ⟨later, now, ?_⟩
  rw [effect.mailboxes, mailbox, created]
  refine ⟨reached, ?_⟩
  intro mail listed new old
  rcases passed mail listed new old with started | waiting
  · exact .inl (effect.grows.started _ _ started)
  · exact (handled _ waiting).symm

theorem Covering.listed (covering : Covering w) {subscription : TriggerSubscription} {id : String} {page : HistoryPage}
    {start : Nat} (there : w.subscriptions id = some subscription) (cursor : subscription.externalCursor = some start)
    (honest : page.honest (w.mailboxes subscription.connectorInstallationId) start = true)
    (last : page.nextPageToken = none) :
    ∀ mail ∈ (w.mailboxes subscription.connectorInstallationId).added, subscription.createdAt < mail.1 →
      w.Started id mail.2 ∨ mail.2 ∈ unseen [] page.history.flatten := by
  intro mail listed new
  obtain ⟨historyId, same, _, covered⟩ := covering.cursor id subscription there
  rw [cursor] at same
  cases same
  by_cases old : mail.1 ≤ start
  · exact .inl (covered mail listed new old)
  right
  have complete := (of_decide_eq_true honest).2.2 last
  rw [complete, mem_unseen]
  refine ⟨?_, (covering.mail _ mail listed).2, not_mem_nil⟩
  exact mem_map_of_mem (mem_filter.mpr ⟨listed, by simpa using old⟩)

theorem honest_page {page : HistoryPage} {subscription : TriggerSubscription} {start : Nat}
    (found : w.workers s = some worker) (known : w.subscriptions worker.event.subscriptionId = some subscription)
    (cursor : subscription.externalCursor = some start) (honest : w.honest (.work s (.history (.page page))) = true) :
    page.honest (w.mailboxes subscription.connectorInstallationId) start = true := by
  unfold World.honest at honest
  simpa [found, known, cursor] using honest

theorem careful_page {page : HistoryPage} (found : w.workers s = some worker)
    (careful : w.careful sha256 (.work s (.history (.page page))) = true) : page.nextPageToken = none := by
  unfold World.careful at careful
  simpa [found] using careful

theorem careful_look {message : String} {todo : List String} {child : ExternalEvent}
    (found : w.workers s = some worker) (phase : worker.phase = .looking (message :: todo))
    (read : w.events.read s (worker.childDedupe sha256 message) = some child)
    (named : child.workflowRunId.isSome = true) (careful : w.careful sha256 (.work s .look) = true) :
    w.Started worker.event.subscriptionId message := by
  unfold World.careful at careful
  have allowed : child.workflowRunId = none ∨ w.Started worker.event.subscriptionId message := by
    simpa [found, phase, read] using careful
  rcases allowed with none | started
  · simp [none] at named
  · exact started

theorem Covering.act (covering : Covering w) (found : w.workers s = some worker) {act : Act}
    (honest : w.honest (.work s act) = true) (careful : w.careful sha256 (.work s act) = true)
    (acted : w.act sha256 s worker act = some after) : Covering after := by
  have effect := act_effect acted
  have grows := effect.grows
  obtain ⟨next, workers, goes⟩ := effect.workers
  constructor
  · intro installationId mail listed
    rw [effect.mailboxes] at listed ⊢
    exact covering.mail installationId mail listed
  · intro id later now
    rcases effect.subscriptions id with same | ⟨before, row, there, here, keeps⟩
    · rw [same] at now
      obtain ⟨historyId, cursor, reached, covered⟩ := covering.cursor id later now
      rw [effect.mailboxes]
      exact ⟨historyId, cursor, reached, grows.covered rfl rfl covered⟩
    · rw [here] at now
      cases now
      have mailbox : later.connectorInstallationId = before.connectorInstallationId := by rw [keeps.same]
      have created : later.createdAt = before.createdAt := by rw [keeps.same]
      rw [effect.mailboxes, mailbox]
      rcases keeps.cursor with same | ⟨_, own, done, newest, newer, moved⟩
      · obtain ⟨historyId, cursor, reached, covered⟩ := covering.cursor id before there
        exact ⟨historyId, same.trans cursor, reached, grows.covered mailbox created covered⟩
      · obtain ⟨subscription, last, known, latest, reached, passed⟩ := covering.page s worker found (by simp [done])
        rw [← own, there] at known
        cases known
        rw [newer] at latest
        cases latest
        refine ⟨newest, moved, reached, grows.covered mailbox created ?_⟩
        intro mail listed new old
        rcases passed mail listed new old with started | left
        · exact own ▸ started
        · simp [Worker.left, done] at left
  · intro session other there listed
    rw [workers] at there
    by_cases own : session = s
    · subst own
      rw [update_self] at there
      rcases goes other there with ⟨subscription, page, rfl, claimed, known, mailbox, rfl⟩ | proceeds
      · obtain ⟨start, cursor, _, _⟩ := covering.cursor _ _ known
        have truthful := honest_page found known cursor honest
        have current : page.historyId = some (w.mailboxes subscription.connectorInstallationId).current :=
          (of_decide_eq_true truthful).1
        have passed := covering.listed known cursor truthful (careful_page found careful)
        obtain ⟨later, now, reached, passed⟩ := effect.page known (Nat.le_refl _) (fun mail listed new _ => passed mail listed new)
          fun _ waiting => .inl waiting
        refine ⟨later, _, now, ?_, reached, passed⟩
        simp [current]
      · obtain ⟨subscription, newest, known, latest, reached, passed⟩ :=
          covering.page session worker found proceeds.listed
        have handled : ∀ message ∈ worker.left, message ∈ other.left ∨
            after.Started worker.event.subscriptionId message := by
          intro message waiting
          rcases proceeds.handled message waiting with rest | ⟨rfl, ⟨todo, phase⟩, child, read, named⟩ | started
          · exact .inl rest
          · exact .inr (grows.started _ _ (careful_look found phase read named careful))
          · exact .inr started
        obtain ⟨later, now, reached, passed⟩ := effect.page known reached passed handled
        rw [proceeds.same]
        exact ⟨later, newest, now, latest, reached, passed⟩
    · rw [update_of_ne own] at there
      obtain ⟨subscription, newest, known, latest, reached, passed⟩ := covering.page session other there listed
      obtain ⟨later, now, reached, passed⟩ := effect.page known reached passed fun _ waiting => .inl waiting
      exact ⟨later, newest, now, latest, reached, passed⟩

theorem Covering.moved (covering : Covering w) {id : String} {old new : TriggerSubscription} {historyId : Nat}
    (there : w.subscriptions id = some old) (mailbox : new.connectorInstallationId = old.connectorInstallationId)
    (created : new.createdAt = old.createdAt) (cursor : new.externalCursor = some historyId)
    (reached : historyId ≤ (w.mailboxes old.connectorInstallationId).current) (covered : w.Covered id old historyId) :
    Covering (w.subscribe id new) := by
  have same (other : String) (different : other ≠ id) :
      (w.subscribe id new).subscriptions other = w.subscriptions other := update_of_ne different ..
  have own : (w.subscribe id new).subscriptions id = some new := update_self ..
  have keeps (h : Nat) (before : w.Covered id old h) : (w.subscribe id new).Covered id new h := by
    intro mail listed fresh past
    rw [mailbox] at listed
    rw [created] at fresh
    exact before mail listed fresh past
  constructor
  · exact covering.mail
  · intro other subscription found
    by_cases different : other = id
    · subst different
      rw [own] at found
      cases found
      rw [mailbox]
      exact ⟨historyId, cursor, reached, keeps historyId covered⟩
    · rw [same other different] at found
      exact covering.cursor other subscription found
  · intro session worker found listed
    obtain ⟨subscription, newest, known, latest, past, passed⟩ := covering.page session worker found listed
    by_cases different : worker.event.subscriptionId = id
    · rw [different, there] at known
      cases known
      refine ⟨new, newest, different ▸ own, latest, mailbox ▸ past, ?_⟩
      intro mail listed fresh
      rw [mailbox] at listed
      rw [created] at fresh
      exact passed mail listed fresh
    · exact ⟨subscription, newest, (same _ different).trans known, latest, past, passed⟩

theorem Covering.registered (covering : Covering w) {id : String} (subscription : TriggerSubscription)
    (absent : w.subscriptions id = none) {current : Nat}
    (latest : (w.mailboxes subscription.connectorInstallationId).current = current) (status : String) :
    Covering (w.subscribe id { subscription with externalCursor := some current, status, createdAt := current }) := by
  constructor
  · exact covering.mail
  · intro other row found
    by_cases different : other = id
    · subst different
      cases (update_self ..).symm.trans found
      refine ⟨current, rfl, latest ▸ Nat.le_refl _, ?_⟩
      intro mail _ new old
      exact absurd (Nat.lt_of_lt_of_le new old) (Nat.lt_irrefl _)
    · exact covering.cursor other row ((update_of_ne different ..).symm.trans found)
  · intro session worker found listed
    obtain ⟨row, newest, known, rest⟩ := covering.page session worker found listed
    have different : worker.event.subscriptionId ≠ id := by grind
    exact ⟨row, newest, (update_of_ne different ..).trans known, rest⟩

theorem Covering.arrived (covering : Covering w) {installationId message : String} (filled : message ≠ "") {next : Mailbox}
    (grown : next = ⟨(w.mailboxes installationId).current + 1,
      (w.mailboxes installationId).added ++ [((w.mailboxes installationId).current + 1, message)]⟩) :
    Covering { w with mailboxes := Function.update w.mailboxes installationId next } := by
  have current (other : String) : (w.mailboxes other).current ≤ (update w.mailboxes installationId next other).current := by
    by_cases same : other = installationId <;> simp_all
  have added (other : String) : ∀ mail ∈ (update w.mailboxes installationId next other).added,
      mail ∈ (w.mailboxes other).added ∨ (w.mailboxes other).current < mail.1 := by
    intro mail listed
    by_cases same : other = installationId
    · subst same
      rw [update_self, grown] at listed
      rcases mem_append.mp listed with listed | listed
      · exact .inl listed
      · simp_all
    · simp_all
  constructor
  · intro other mail listed
    dsimp only at listed ⊢
    by_cases same : other = installationId
    · subst same
      rw [update_self, grown] at listed ⊢
      rcases mem_append.mp listed with listed | listed
      · exact ⟨Nat.le_succ_of_le (covering.mail _ mail listed).1, (covering.mail _ mail listed).2⟩
      · simp_all
    · rw [update_of_ne same] at listed ⊢
      exact covering.mail other mail listed
  · intro id subscription there
    obtain ⟨historyId, cursor, reached, covered⟩ := covering.cursor id subscription there
    refine ⟨historyId, cursor, Nat.le_trans reached (current _), ?_⟩
    intro mail listed new old
    rcases added _ mail listed with listed | newer
    · exact covered mail listed new old
    · exact absurd (Nat.lt_of_lt_of_le newer (Nat.le_trans old reached)) (Nat.lt_irrefl _)
  · intro session worker found listed
    obtain ⟨subscription, newest, known, latest, reached, passed⟩ := covering.page session worker found listed
    refine ⟨subscription, newest, known, latest, Nat.le_trans reached (current _), ?_⟩
    intro mail listed new old
    rcases added _ mail listed with listed | newer
    · exact passed mail listed new old
    · exact absurd (Nat.lt_of_lt_of_le newer (Nat.le_trans old reached)) (Nat.lt_irrefl _)

theorem Covering.step (covering : Covering w) {step : Step} (honest : w.honest step = true)
    (careful : w.careful sha256 step = true) (stepped : w.step sha256 step = some after) : Covering after := by
  cases step with
  | register id subscription =>
    unfold World.step at stepped
    dsimp only at stepped
    split at stepped
    · cases stepped
    · rename_i absent
      cases stepped
      exact covering.registered subscription absent rfl "active"
  | renew id =>
    obtain ⟨subscription, there, rfl⟩ := map_eq_some_iff.mp stepped
    have covered : w.Covered id subscription (w.mailboxes subscription.connectorInstallationId).current := by
      unfold World.careful at careful
      simpa [there] using careful
    exact covering.moved there rfl rfl rfl (Nat.le_refl _) covered
  | restatus id status =>
    obtain ⟨subscription, there, rfl⟩ := map_eq_some_iff.mp stepped
    obtain ⟨historyId, cursor, reached, covered⟩ := covering.cursor id subscription there
    exact covering.moved there rfl rfl cursor reached covered
  | arrive installationId message =>
    cases stepped
    exact covering.arrived (by simpa [World.honest] using honest) rfl
  | ingest subscriptionId historyId messageId =>
    obtain ⟨subscription, _, same⟩ := bind_eq_some_iff.mp stepped
    dsimp only at same
    split at same
    · cases same
      exact ⟨covering.mail, covering.cursor, covering.page⟩
    · cases same
  | claim session key =>
    obtain ⟨event, _, same⟩ := bind_eq_some_iff.mp stepped
    split at same
    · cases same
      refine ⟨covering.mail, covering.cursor, ?_⟩
      intro other worker found listed
      by_cases own : other = session
      · subst own
        cases (update_self ..).symm.trans found
        exact absurd rfl listed
      · exact covering.page other worker ((update_of_ne own ..).symm.trans found) listed
    · cases same
  | work session act =>
    obtain ⟨worker, found, acted⟩ := bind_eq_some_iff.mp stepped
    exact covering.act found honest careful acted

end Coverage

structure Attended (w : World) : Prop where
  committed : ∀ key event, w.events.committed key = some event → event.historyId.isSome = true →
    event.status = .processing → ∃ session worker, w.workers session = some worker ∧ worker.key = key
  pending : ∀ key session event, w.events.pending key = some (session, event) → event.historyId.isSome = true →
    event.status = .processing → ∃ worker, w.workers session = some worker ∧ worker.key = key

theorem attended_start : Attended .start := by
  constructor
  · intro key event there
    cases there
  · intro key session event there
    cases there

section Attendance

def Underway (event : ExternalEvent) : Prop := event.historyId.isSome = true ∧ event.status = .processing

theorem Attended.put (attended : Attended w) (found : ∀ worker, w.workers s = some worker → worker.key = next.key) :
    Attended (w.put s (some next)) := by
  have holds {session : Nat} {worker : Worker} (there : w.workers session = some worker) :
      ∃ later, (w.put s (some next)).workers session = some later ∧ later.key = worker.key := by
    by_cases own : session = s
    · subst own
      exact ⟨next, update_self .., (found worker there).symm⟩
    · exact ⟨worker, (update_of_ne own ..).trans there, rfl⟩
  constructor
  · intro key event there notified processing
    obtain ⟨session, worker, working, same⟩ := attended.committed key event there notified processing
    obtain ⟨later, still, equal⟩ := holds working
    exact ⟨session, later, still, equal.trans same⟩
  · intro key session event there notified processing
    obtain ⟨worker, working, same⟩ := attended.pending key session event there notified processing
    obtain ⟨later, still, equal⟩ := holds working
    exact ⟨later, still, equal.trans same⟩

theorem Attended.write (attended : Attended w) {event : ExternalEvent}
    (owned : Underway event → ∃ worker, w.workers s = some worker ∧ worker.key = key) :
    Attended (w.write s key event) := by
  constructor
  · exact attended.committed
  intro k session row held notified processing
  by_cases own : k = key
  · subst own
    cases Keyed.pending_write_self.symm.trans held
    exact owned ⟨notified, processing⟩
  · exact attended.pending k session row ((Keyed.pending_write_other own).symm.trans held) notified processing

theorem Attended.commit (attended : Attended w) (runs : List WorkflowRun) : Attended (w.commit s runs) := by
  constructor
  · intro k row there notified processing
    by_cases held : ∃ event, w.events.pending k = some (s, event)
    · obtain ⟨event, held⟩ := held
      cases (Keyed.read_own held).symm.trans there
      obtain ⟨worker, found, same⟩ := attended.pending k s row held notified processing
      exact ⟨s, worker, found, same⟩
    · have old : w.events.committed k = some row := (Keyed.read_committed (not_exists.mp held)).symm.trans there
      exact attended.committed k row old notified processing
  · intro k session row held
    exact attended.pending k session row (Keyed.released_some.mp held).1

theorem Attended.rollback (attended : Attended w) : Attended (w.rollback s) := by
  refine ⟨attended.committed, ?_⟩
  intro k session row held
  exact attended.pending k session row (Keyed.released_some.mp held).1

theorem Attended.gone (attended : Attended w) (found : w.workers s = some worker)
    (unheld : ∀ k row, w.events.pending k ≠ some (s, row))
    (settled : ∀ event, w.events.committed worker.key = some event → ¬ Underway event) : Attended (w.put s none) := by
  constructor
  · intro k event there notified processing
    obtain ⟨session, other, working, same⟩ := attended.committed k event there notified processing
    have different : session ≠ s := by
      rintro rfl
      rw [found] at working
      cases working
      exact settled event (same ▸ there) ⟨notified, processing⟩
    exact ⟨session, other, (update_of_ne different ..).trans working, same⟩
  · intro k session event held notified processing
    obtain ⟨other, working, same⟩ := attended.pending k session event held notified processing
    have different : session ≠ s := by
      rintro rfl
      exact unheld k event held
    exact ⟨other, (update_of_ne different ..).trans working, same⟩

theorem flushed_row {change : ExternalEvent → ExternalEvent} (flushed : w.flush s key change = some after) :
    ∃ event, after = w.write s key (change event) := by
  unfold World.flush at flushed
  split at flushed
  · grind [map_eq_some_iff]
  · cases flushed

theorem Attended.closed (attended : Attended w) (found : w.workers s = some worker) {event : ExternalEvent}
    (settled : ¬ Underway event) (runs : List WorkflowRun) :
    Attended (((w.write s worker.key event).commit s runs).put s none) := by
  have written : Attended (w.write s worker.key event) := attended.write fun underway => absurd underway settled
  apply (written.commit runs).gone found
  · intro k row held
    exact (Keyed.released_some.mp held).2 rfl
  · intro row there
    cases Keyed.read_write_self.symm.trans there
    exact settled

theorem Attended.fail (attended : Attended w) (found : w.workers s = some worker)
    (failed : w.fail sha256 s worker = some after) : Attended after := by
  obtain ⟨flushed, ran, same⟩ := bind_eq_some_iff.mp failed
  obtain ⟨event, rfl⟩ := flushed_row ran
  cases same
  apply attended.closed found
  rintro ⟨_, processing⟩
  cases processing

theorem Attended.subscribed (attended : Attended w) (id : String) (subscription : TriggerSubscription) :
    Attended (w.subscribe id subscription) := ⟨attended.committed, attended.pending⟩

theorem Attended.finish (attended : Attended w) (found : w.workers s = some worker)
    (finished : w.finish s worker = some after) : Attended after := by
  obtain ⟨processed, ran, same⟩ := bind_eq_some_iff.mp finished
  obtain ⟨event, rfl⟩ := flushed_row ran
  cases same
  have settled : ¬ Underway { event with status := .processed } := by
    rintro ⟨_, processing⟩
    cases processing
  have closed := attended.closed found settled []
  split
  · exact closed.subscribed _ _
  · exact closed

theorem Attended.claim (attended : Attended w) (claimed : w.claim s key = some after) : Attended after := by
  obtain ⟨event, _, same⟩ := bind_eq_some_iff.mp claimed
  split at same
  · rename_i given
    cases same
    have begun : Attended (w.put s (some { key, event := { event with status := .processing } })) := by
      apply attended.put
      simp [given.1]
    exact begun.write fun _ => ⟨_, update_self .., rfl⟩
  · cases same

theorem Attended.history (attended : Attended w) (found : w.workers s = some worker) {answer : HistoryAnswer}
    (answered : w.history sha256 s worker answer = some after) : Attended after := by
  unfold World.history at answered
  split at answered
  · exact attended.fail found answered
  split at answered
  · exact attended.fail found answered
  split at answered
  · exact attended.fail found answered
  · split at answered
    · exact (attended.subscribed _ _).fail found answered
    · exact attended.fail found answered
  · cases answered
    apply attended.put
    simp_all

theorem Attended.lost (attended : Attended w) (found : w.workers s = some worker)
    (settled : ∀ event, w.events.committed worker.key = some event → ¬ Underway event) :
    Attended ((w.rollback s).put s none) := by
  apply attended.rollback.gone found _ settled
  intro k row held
  exact (Keyed.released_some.mp held).2 rfl

theorem settled_of_careful (allowed : (w.events.committed key).all (fun event => event.status ≠ .processing) = true) :
    ∀ event, w.events.committed key = some event → ¬ Underway event := by
  rintro event there ⟨_, processing⟩
  simp_all

theorem careful_insert {message : String} {todo : List String} (found : w.workers s = some worker)
    (phase : worker.phase = .inserting message todo)
    (there : (w.events.read s (worker.childDedupe sha256 message)).isSome = true)
    (careful : w.careful sha256 (.work s .insert) = true) :
    (w.events.committed worker.key).all (fun event => event.status ≠ .processing) = true := by
  unfold World.careful at careful
  obtain ⟨child, read⟩ := Option.isSome_iff_exists.mp there
  simpa [found, phase, read] using careful

theorem Attended.act (attended : Attended w) (found : w.workers s = some worker) {act : Act}
    (careful : w.careful sha256 (.work s act) = true) (acted : w.act sha256 s worker act = some after) :
    Attended after := by
  have goes (phase : Phase) {w : World} (attended : Attended w) (found : w.workers s = some worker) :
      Attended (w.put s (some { worker with phase })) := by
    apply attended.put
    simp_all
  unfold World.act at acted
  split at acted
  case h_1 => exact attended.history found acted
  case h_2 =>
    cases acted
    unfold World.look
    split
    · split <;> exact goes _ attended found
    · exact goes _ attended found
  case h_3 | h_7 | h_10 => exact attended.fail found acted
  case h_4 | h_5 | h_8 => grind
  case h_6 message todo phase =>
    unfold World.insert at acted
    dsimp only at acted
    split at acted
    · cases acted
    split at acted <;> rename_i there
    · cases acted
      exact attended.lost found (settled_of_careful (careful_insert found phase there careful))
    · cases acted
      have written : Attended (w.write s (worker.childDedupe sha256 message)
          { ownerId := worker.event.ownerId, connectorInstallationId := worker.event.connectorInstallationId,
            externalEventId := message, status := .processing }) := by
        apply attended.write
        rintro ⟨notified, _⟩
        cases notified
      exact goes _ written found
  case h_9 | h_11 =>
    cases acted
    exact goes _ (attended.commit _) found
  case h_12 =>
    obtain ⟨named, ran, same⟩ := map_eq_some_iff.mp acted
    obtain ⟨event, rfl⟩ := flushed_row ran
    cases same
    refine goes _ (attended.write ?_) found
    rintro ⟨_, processing⟩
    cases processing
  case h_13 => exact attended.finish found acted
  case h_14 =>
    cases acted
    have allowed : (w.events.committed worker.key).all (fun event => event.status ≠ .processing) = true := by
      unfold World.careful at careful
      simpa [found] using careful
    exact attended.lost found (settled_of_careful allowed)
  case h_15 => cases acted

theorem Attended.step (attended : Attended w) {step : Step} (careful : w.careful sha256 step = true)
    (stepped : w.step sha256 step = some after) : Attended after := by
  cases step with
  | register id subscription =>
    unfold World.step at stepped
    dsimp only at stepped
    split at stepped
    · cases stepped
    · cases stepped
      exact attended.subscribed _ _
  | renew id | restatus id status =>
    obtain ⟨subscription, _, rfl⟩ := map_eq_some_iff.mp stepped
    exact attended.subscribed _ _
  | arrive installationId message =>
    cases stepped
    exact ⟨attended.committed, attended.pending⟩
  | ingest subscriptionId historyId messageId =>
    obtain ⟨subscription, _, same⟩ := bind_eq_some_iff.mp stepped
    dsimp only at same
    split at same
    · cases same
      refine ⟨?_, attended.pending⟩
      intro key event there notified processing
      dsimp only at there
      by_cases own : key = eventDedupeKey sha256 "gmail"
          [subscription.connectorInstallationId, subscriptionId, toString historyId, messageId]
      · grind
      · rw [update_of_ne own] at there
        exact attended.committed key event there notified processing
    · cases same
  | claim session key => exact attended.claim stepped
  | work session act =>
    obtain ⟨worker, found, acted⟩ := bind_eq_some_iff.mp stepped
    exact attended.act found careful acted

end Attendance

def World.covering (sha256 : String → String) (w : World) (step : Step) : Bool :=
  w.honest step && w.careful sha256 step

/-- No message is lost, in every run over an honest provider in which no page is cut short, no message is taken by
    another subscription of the mailbox, no renewed watch passes a message and no worker is lost with its claim
    committed. -/
theorem no_message_is_lost (reached : Reaches sha256 (fun w step => w.covering sha256 step = true) .start w) :
    NothingLost w := by
  have kept : Covering w ∧ Attended w := by
    induction reached with
    | start => exact ⟨covering_start, attended_start⟩
    | step _ allowed stepped ih =>
      obtain ⟨honest, careful⟩ := Bool.and_eq_true_iff.mp allowed
      exact ⟨ih.1.step honest careful stepped, ih.2.step careful stepped⟩
  refine ⟨?_, kept.2.committed⟩
  intro id subscription historyId there cursor
  obtain ⟨other, same, _, covered⟩ := kept.1.cursor id subscription there
  simp_all

def inboxTrigger : TriggerSubscription :=
  { ownerId := "owner-1", connectorInstallationId := "mailbox-1", workflowId := "workflow-1" }

def processed (historyId : Nat) (nextPageToken : Option String) : List Step :=
  [.ingest "trigger-1" historyId "delivery-1",
    .claim 1 (eventDedupeKey id "gmail" ["mailbox-1", "trigger-1", toString historyId, "delivery-1"])] ++
    [.history (.page ⟨[["message-1"]], some historyId, nextPageToken⟩), .look, .fetch true, .insert, .create (some 1),
      .startEnds, .assign, .finish].map (.work 1)

theorem message_is_covered : ∃ w, Reaches id (fun w step => w.covering id step = true) .start w ∧
    (w.subscriptions "trigger-1").bind TriggerSubscription.externalCursor = some 1 ∧
    w.Started "trigger-1" "message-1" ∧ NothingLost w := by
  have ran : (World.start.runWhere id (fun w => w.covering id)
      ([.register "trigger-1" inboxTrigger, .arrive "mailbox-1" "message-1"] ++ processed 1 none)).any
      (fun w => (w.subscriptions "trigger-1").bind TriggerSubscription.externalCursor = some 1 ∧
        w.Started "trigger-1" "message-1") = true := by decide +kernel
  obtain ⟨w, run, moved⟩ := (any_eq_true _ _).mp ran
  have reached := Reaches.start.runs run
  obtain ⟨cursor, started⟩ := of_decide_eq_true moved
  exact ⟨w, reached, cursor, started, no_message_is_lost reached⟩

theorem second_page_is_lost : ¬ ∀ w, Reaches id (fun w step => w.honest step = true) .start w → NothingLost w := by
  intro lossless
  have ran : (World.start.runWhere id World.honest
      ([.register "trigger-1" inboxTrigger, .arrive "mailbox-1" "message-1", .arrive "mailbox-1" "message-2"] ++
        processed 2 (some "page-2"))).any
      (fun w => (w.subscriptions "trigger-1").any fun subscription =>
        subscription.externalCursor = some 2 ∧ ¬ w.Covered "trigger-1" subscription 2) = true := by decide +kernel
  obtain ⟨w, run, passed⟩ := (any_eq_true _ _).mp ran
  obtain ⟨subscription, there, missed⟩ := (any_eq_true _ _).mp passed
  obtain ⟨cursor, uncovered⟩ := of_decide_eq_true missed
  exact uncovered ((lossless w (Reaches.start.runs run)).covered "trigger-1" subscription 2 there cursor)

end Troop.Inbox
