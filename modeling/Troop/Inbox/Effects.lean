import Troop.Inbox.Events

namespace Troop.Inbox

variable {sha256 : String → String} {w after : World} {s : Nat} {worker next : Worker} {act : Act}

def Worker.left (worker : Worker) : List String :=
  match worker.phase with
  | .claimed => []
  | .looking todo | .started true _ _ todo | .assigned _ _ todo => todo
  | .fetching _ message todo | .inserting message todo | .starting message todo
  | .started false _ message todo => message :: todo

structure Proceeds (sha256 : String → String) (w after : World) (s : Nat) (worker : Worker) (act : Act)
    (next : Worker) : Prop where
  listed : worker.phase ≠ .claimed
  lists : next.phase ≠ .claimed
  same : next = { worker with phase := next.phase }
  handled : ∀ message ∈ worker.left, message ∈ next.left ∨
    (act = .look ∧ (∃ todo, worker.phase = .looking (message :: todo)) ∧
      ∃ child, w.events.read s (worker.childDedupe sha256 message) = some child ∧ child.workflowRunId.isSome = true) ∨
    ∃ run ∈ after.runs, run.subscriptionId = worker.event.subscriptionId ∧ run.messageId = message

def Lists (w : World) (worker : Worker) (act : Act) (next : Worker) : Prop :=
  ∃ subscription page, act = .history (.page page) ∧ worker.phase = .claimed ∧
    w.subscriptions worker.event.subscriptionId = some subscription ∧
    subscription.connectorInstallationId = worker.event.connectorInstallationId ∧
    next = { worker with
      workflowId := subscription.workflowId
      start := subscription.externalCursor.or worker.event.historyId
      newest := page.historyId.or worker.event.historyId
      messages := unseen [] page.history.flatten
      phase := .looking (unseen [] page.history.flatten) }

structure Keeps (worker : Worker) (act : Act) (id : String) (before after : TriggerSubscription) : Prop where
  same : after = { before with status := after.status, externalCursor := after.externalCursor }
  cursor : after.externalCursor = before.externalCursor ∨
    (act = .finish ∧ id = worker.event.subscriptionId ∧ worker.phase = .looking [] ∧
      ∃ newest, worker.newest = some newest ∧ after.externalCursor = some newest)

structure Effect (sha256 : String → String) (w after : World) (s : Nat) (worker : Worker) (act : Act) : Prop where
  mailboxes : after.mailboxes = w.mailboxes
  runs : after.runs = w.runs ∨ after.runs = w.runs ++ worker.unsaved sha256
  subscriptions : ∀ id, after.subscriptions id = w.subscriptions id ∨
    ∃ before later, w.subscriptions id = some before ∧ after.subscriptions id = some later ∧
      Keeps worker act id before later
  workers : ∃ next, after.workers = Function.update w.workers s next ∧
    ∀ goes, next = some goes → Lists w worker act goes ∨ Proceeds sha256 w after s worker act goes

section Parts

theorem flush_parts {key : String} {change : ExternalEvent → ExternalEvent}
    (flushed : w.flush s key change = some after) :
    after.mailboxes = w.mailboxes ∧ after.runs = w.runs ∧ after.subscriptions = w.subscriptions ∧
      after.workers = w.workers := by
  unfold World.flush at flushed
  split at flushed
  · obtain ⟨event, _, rfl⟩ := Option.map_eq_some_iff.mp flushed
    exact ⟨rfl, rfl, rfl, rfl⟩
  · cases flushed

theorem fail_parts (failed : w.fail sha256 s worker = some after) :
    after.mailboxes = w.mailboxes ∧ after.runs = w.runs ++ worker.unsaved sha256 ∧
      after.subscriptions = w.subscriptions ∧ after.workers = Function.update w.workers s none := by
  obtain ⟨flushed, ran, same⟩ := Option.bind_eq_some_iff.mp failed
  cases same
  obtain ⟨mailboxes, runs, subscriptions, workers⟩ := flush_parts ran
  refine ⟨mailboxes, ?_, subscriptions, ?_⟩
  · rw [← runs]
    rfl
  · rw [← workers]
    rfl

theorem Effect.failed (failed : w.fail sha256 s worker = some after) : Effect sha256 w after s worker act := by
  obtain ⟨mailboxes, runs, subscriptions, workers⟩ := fail_parts failed
  refine ⟨mailboxes, .inr runs, ?_, none, workers, ?_⟩ <;> simp_all

variable {rows : Keyed String Nat ExternalEvent}

theorem Effect.proceeded {runs : List WorkflowRun} (same : after = { w.put s (some next) with events := rows, runs })
    (kept : runs = w.runs ∨ runs = w.runs ++ worker.unsaved sha256)
    (proceeds : Proceeds sha256 w after s worker act next) : Effect sha256 w after s worker act := by
  subst same
  refine ⟨rfl, kept, fun _ => .inl rfl, some next, rfl, ?_⟩
  simp_all

theorem Effect.gone (same : after = { w.put s none with events := rows }) :
    Effect sha256 w after s worker act := by
  subst same
  refine ⟨rfl, .inl rfl, fun _ => .inl rfl, none, rfl, ?_⟩
  simp_all

end Parts

theorem history_effect {answer : HistoryAnswer} (phase : worker.phase = .claimed)
    (answered : w.history sha256 s worker answer = some after) : Effect sha256 w after s worker (.history answer) := by
  unfold World.history at answered
  split at answered
  · exact .failed answered
  rename_i subscription there
  split at answered
  · exact .failed answered
  rename_i owned
  split at answered
  · exact .failed answered
  · split at answered
    · obtain ⟨mailboxes, runs, subscriptions, workers⟩ := fail_parts answered
      refine ⟨mailboxes, .inr runs, ?_, none, workers, ?_⟩
      · intro id
        rw [subscriptions]
        by_cases same : id = worker.event.subscriptionId
        · subst same
          exact .inr ⟨subscription, _, there, Function.update_self .., rfl, .inl rfl⟩
        · exact .inl (Function.update_of_ne same ..)
      · simp_all
    · exact .failed answered
  · rename_i page
    cases answered
    refine ⟨rfl, .inl rfl, fun _ => .inl rfl, _, rfl, ?_⟩
    intro goes same
    cases same
    rw [not_or, not_not, not_not] at owned
    exact .inl ⟨subscription, page, rfl, phase, there, owned.2, rfl⟩

theorem finish_effect (phase : worker.phase = .looking []) (finished : w.finish s worker = some after) :
    Effect sha256 w after s worker .finish := by
  obtain ⟨processed, ran, same⟩ := Option.bind_eq_some_iff.mp finished
  obtain ⟨mailboxes, runs, subscriptions, workers⟩ := flush_parts ran
  cases same
  split
  · rename_i newest subscription newer there
    refine ⟨mailboxes, .inl ?_, ?_, none, ?_, ?_⟩
    · rw [← runs]
      exact List.append_nil _
    · intro id
      by_cases same : id = worker.event.subscriptionId
      · subst same
        rw [subscriptions] at there
        exact .inr ⟨subscription, _, there, Function.update_self .., rfl, .inr ⟨rfl, rfl, phase, newest, newer, rfl⟩⟩
      · exact .inl ((Function.update_of_ne same ..).trans (congrFun subscriptions id))
    · rw [← workers]
      rfl
    · simp_all
  · refine ⟨mailboxes, .inl ?_, fun id => .inl (congrFun subscriptions id), none, ?_, ?_⟩
    · rw [← runs]
      exact List.append_nil _
    · rw [← workers]
      rfl
    · simp_all

theorem Proceeds.holds (listed : worker.phase ≠ .claimed) (lists : next.phase ≠ .claimed)
    (same : next = { worker with phase := next.phase }) (left : ∀ message ∈ worker.left, message ∈ next.left) :
    Proceeds sha256 w after s worker act next :=
  ⟨listed, lists, same, fun message there => .inl (left message there)⟩

variable {todo : List String} {message : String} {run : Nat}

theorem look_effect (phase : worker.phase = .looking (message :: todo)) :
    Effect sha256 w (w.look sha256 s worker message todo) s worker .look := by
  have listed : worker.phase ≠ .claimed := by simp [phase]
  have left : worker.left = message :: todo := by simp [Worker.left, phase]
  unfold World.look
  split
  · rename_i child read
    split
    · rename_i named
      refine .proceeded rfl (.inl rfl) ⟨listed, by simp, rfl, ?_⟩
      intro other there
      rw [left] at there
      rcases List.mem_cons.mp there with rfl | there
      · exact .inr (.inl ⟨rfl, ⟨todo, phase⟩, child, read, named⟩)
      · exact .inl there
    · refine .proceeded rfl (.inl rfl) (.holds listed (by simp) rfl ?_)
      intro other there
      rwa [left] at there
  · refine .proceeded rfl (.inl rfl) (.holds listed (by simp) rfl ?_)
    intro other there
    rwa [left] at there

theorem insert_effect (phase : worker.phase = .inserting message todo)
    (inserted : w.insert sha256 s worker message todo = some after) : Effect sha256 w after s worker .insert := by
  unfold World.insert at inserted
  dsimp only at inserted
  split at inserted
  · cases inserted
  split at inserted
  · cases inserted
    exact .gone rfl
  · cases inserted
    refine .proceeded rfl (.inl rfl) (.holds (by simp [phase]) (by simp) rfl ?_)
    intro other there
    simpa [Worker.left, phase] using there

theorem save_effect {committed : Bool} (phase : worker.phase = .started committed run message todo)
    (lists : next.phase ≠ .claimed) (same : next = { worker with phase := next.phase }) (left : next.left = todo) :
    Effect sha256 w ((w.commit s (worker.unsaved sha256)).put s (some next)) s worker act := by
  refine .proceeded rfl (.inr rfl) ⟨by simp [phase], lists, same, ?_⟩
  intro other there
  cases committed with
  | true =>
    have rest : other ∈ todo := by simpa [Worker.left, phase] using there
    exact .inl (left ▸ rest)
  | false =>
    have split : other = message ∨ other ∈ todo := by simpa [Worker.left, phase] using there
    rcases split with rfl | there
    · refine .inr (.inr ⟨worker.run sha256 run other, ?_, rfl, rfl⟩)
      simp [World.put, World.commit, Worker.unsaved, phase]
    · exact .inl (left ▸ there)

theorem assign_effect (phase : worker.phase = .assigned run message todo)
    {key : String} {change : ExternalEvent → ExternalEvent} {named : World} (flushed : w.flush s key change = some named) :
    Effect sha256 w (named.put s (some { worker with phase := .looking todo })) s worker act := by
  unfold World.flush at flushed
  split at flushed
  · obtain ⟨event, _, rfl⟩ := Option.map_eq_some_iff.mp flushed
    refine .proceeded rfl (.inl rfl) (.holds (by simp [phase]) (by simp) rfl ?_)
    intro other there
    simpa [Worker.left, phase] using there
  · cases flushed

theorem act_effect (acted : w.act sha256 s worker act = some after) : Effect sha256 w after s worker act := by
  unfold World.act at acted
  split at acted
  case h_1 phase => exact history_effect phase acted
  case h_2 phase =>
    cases acted
    exact look_effect phase
  case h_3 phase | h_7 phase | h_10 phase => exact .failed acted
  case h_4 phase | h_5 phase | h_8 phase =>
    cases acted
    refine .proceeded rfl (.inl rfl) (.holds (by simp [phase]) (by simp) rfl ?_)
    intro other there
    simpa [Worker.left, phase] using there
  case h_6 phase => exact insert_effect phase acted
  case h_9 phase | h_11 phase =>
    cases acted
    exact save_effect phase (by simp) rfl rfl
  case h_12 phase =>
    obtain ⟨named, ran, rfl⟩ := Option.map_eq_some_iff.mp acted
    exact assign_effect phase ran
  case h_13 phase => exact finish_effect phase acted
  case h_14 =>
    cases acted
    exact .gone rfl
  case h_15 => cases acted

end Troop.Inbox
