import Troop.Session.Keyed

namespace Troop.Inbox

inductive EventStatus where
  | pending | processing | processed | failed
deriving DecidableEq, Repr

/-- A Gmail row of `trigger_subscriptions`; history ids are numbers. Its creation is dated by the history id
    its mailbox had. -/
structure TriggerSubscription where
  ownerId : String
  connectorInstallationId : String
  workflowId : String
  externalCursor : Option Nat := none
  status : String := "provisioning"
  createdAt : Nat := 0
deriving DecidableEq

/-- A Gmail row of `external_events`, which are unique in their `dedupe_key`. A notification has a subscription and
    a history id in its payload. -/
structure ExternalEvent where
  ownerId : String
  connectorInstallationId : String
  externalEventId : String
  subscriptionId : String := ""
  historyId : Option Nat := none
  status : EventStatus
  workflowRunId : Option Nat := none
  retryCount : Nat := 0
deriving DecidableEq

/-- A run that was started for a message: its input names the message's event. -/
structure WorkflowRun where
  id : Nat
  workflowId : String
  subscriptionId : String
  messageId : String
  externalEvent : String
deriving DecidableEq

def eventDedupeKey (sha256 : String → String) (provider : String) (parts : List String) : String :=
  sha256 ("\x1f".intercalate (provider :: parts))

structure HistoryPage where
  history : List (List String)
  historyId : Option Nat
  nextPageToken : Option String

inductive HistoryAnswer where
  /-- the adapter finds no authorized installation -/
  | unauthorized
  | failed (statusCode : Nat)
  | page (page : HistoryPage)

def unseen (seen : List String) : List String → List String
  | [] => []
  | message :: rest =>
    if message = "" ∨ message ∈ seen then unseen seen rest else message :: unseen (message :: seen) rest

theorem mem_unseen {message : String} {seen ids : List String} :
    message ∈ unseen seen ids ↔ message ∈ ids ∧ message ≠ "" ∧ message ∉ seen := by
  induction ids generalizing seen with
  | nil => simp [unseen]
  | cons first rest ih =>
    unfold unseen
    split <;> rename_i skipped
    · rw [ih]
      constructor
      · simp_all
      · rintro ⟨listed, filled, new⟩
        rcases List.mem_cons.mp listed with rfl | listed
        · exact absurd skipped (by simp [filled, new])
        · exact ⟨listed, filled, new⟩
    · rw [not_or] at skipped
      rw [List.mem_cons, ih]
      constructor
      · rintro (rfl | ⟨listed, filled, new⟩)
        · exact ⟨by simp, skipped⟩
        · exact ⟨List.mem_cons_of_mem _ listed, filled, fun old => new (List.mem_cons_of_mem _ old)⟩
      · rintro ⟨listed, filled, new⟩
        by_cases same : message = first
        · exact .inl same
        · exact .inr ⟨(List.mem_cons.mp listed).resolve_left same, filled, by simp [same, new]⟩

/-- Where `_process_gmail` is, with the messages of its page that are left. -/
inductive Phase where
  | claimed
  | looking (todo : List String)
  /-- the message's event has no run; it may not be there -/
  | fetching (found : Bool) (message : String) (todo : List String)
  | inserting (message : String) (todo : List String)
  | starting (message : String) (todo : List String)
  /-- `start_run` has written its row, and perhaps committed it -/
  | started (committed : Bool) (run : Nat) (message : String) (todo : List String)
  /-- `start_run` has returned, and the event of the message is about to name the run -/
  | assigned (run : Nat) (message : String) (todo : List String)
deriving DecidableEq

/-- A call of `ExternalEventService.process`, in a session of its own. -/
structure Worker where
  key : String
  event : ExternalEvent
  workflowId : String := ""
  start : Option Nat := none
  newest : Option Nat := none
  messages : List String := []
  phase : Phase := .claimed
deriving DecidableEq

structure Mailbox where
  current : Nat := 0
  added : List (Nat × String) := []

structure World where
  subscriptions : String → Option TriggerSubscription
  events : Keyed String Nat ExternalEvent
  runs : List WorkflowRun
  workers : Nat → Option Worker
  mailboxes : String → Mailbox

def World.start : World := ⟨fun _ => none, .empty, [], fun _ => none, fun _ => {}⟩

def World.put (w : World) (session : Nat) (next : Option Worker) : World :=
  { w with workers := Function.update w.workers session next }

def World.write (w : World) (session : Nat) (key : String) (event : ExternalEvent) : World :=
  { w with events := w.events.write session key event }

def World.commit (w : World) (session : Nat) (runs : List WorkflowRun) : World :=
  { w with events := w.events.commit session, runs := w.runs ++ runs }

def World.rollback (w : World) (session : Nat) : World := { w with events := w.events.rollback session }

def World.subscribe (w : World) (id : String) (subscription : TriggerSubscription) : World :=
  { w with subscriptions := Function.update w.subscriptions id (some subscription) }

def World.flush (w : World) (session : Nat) (key : String) (change : ExternalEvent → ExternalEvent) : Option World :=
  if w.events.free session key then (w.events.read session key).map fun row => w.write session key (change row)
  else none

section Process

variable (sha256 : String → String)

def Worker.childDedupe (worker : Worker) (message : String) : String :=
  eventDedupeKey sha256 "gmail" [worker.event.connectorInstallationId, "message_added", message]

def Worker.run (worker : Worker) (id : Nat) (message : String) : WorkflowRun :=
  { id, workflowId := worker.workflowId, subscriptionId := worker.event.subscriptionId, messageId := message,
    externalEvent := worker.childDedupe sha256 message }

def Worker.unsaved (worker : Worker) : List WorkflowRun :=
  match worker.phase with
  | .started false run message _ => [worker.run sha256 run message]
  | _ => []

/-- The `except` branch: the event fails, and what was flushed is committed with it. -/
def World.fail (w : World) (session : Nat) (worker : Worker) : Option World := do
  let failed ← w.flush session worker.key fun event =>
    { event with retryCount := event.retryCount + 1, status := .failed }
  return (failed.commit session (worker.unsaved sha256)).put session none

def World.claim (w : World) (session : Nat) (key : String) : Option World := do
  let event ← w.events.read session key
  if w.workers session = none ∧ w.events.free session key ∧ (event.status = .pending ∨ event.status = .failed) then
    let claimed := { event with status := .processing }
    return (w.write session key claimed).put session (some { key, event := claimed })
  else none

/-- The subscription, the adapter and the history, from the cursor or else from the notification's own id. -/
def World.history (w : World) (session : Nat) (worker : Worker) (answer : HistoryAnswer) : Option World :=
  match w.subscriptions worker.event.subscriptionId with
  | none => w.fail sha256 session worker
  | some subscription =>
    if subscription.ownerId ≠ worker.event.ownerId ∨
        subscription.connectorInstallationId ≠ worker.event.connectorInstallationId then w.fail sha256 session worker
    else match answer with
      | .unauthorized => w.fail sha256 session worker
      | .failed statusCode =>
        if statusCode = 404 then
          (w.subscribe worker.event.subscriptionId { subscription with status := "cursor_expired" }).fail sha256 session
            worker
        else w.fail sha256 session worker
      | .page page =>
        let messages := unseen [] page.history.flatten
        some (w.put session (some { worker with
          workflowId := subscription.workflowId
          start := subscription.externalCursor.or worker.event.historyId
          newest := page.historyId.or worker.event.historyId
          messages
          phase := .looking messages }))

def World.look (w : World) (session : Nat) (worker : Worker) (message : String) (todo : List String) : World :=
  match w.events.read session (worker.childDedupe sha256 message) with
  | some child =>
    if child.workflowRunId.isSome then w.put session (some { worker with phase := .looking todo })
    else w.put session (some { worker with phase := .fetching true message todo })
  | none => w.put session (some { worker with phase := .fetching false message todo })

def World.insert (w : World) (session : Nat) (worker : Worker) (message : String) (todo : List String) :
    Option World :=
  let key := worker.childDedupe sha256 message
  if ¬ w.events.free session key then none
  else if (w.events.read session key).isSome then some ((w.rollback session).put session none)
  else
    some ((w.write session key
      { ownerId := worker.event.ownerId
        connectorInstallationId := worker.event.connectorInstallationId
        externalEventId := message
        status := .processing }).put session (some { worker with phase := .starting message todo }))

def World.finish (w : World) (session : Nat) (worker : Worker) : Option World := do
  let processed ← w.flush session worker.key fun event => { event with status := .processed }
  let moved := match worker.newest, processed.subscriptions worker.event.subscriptionId with
    | some newest, some subscription =>
      processed.subscribe worker.event.subscriptionId { subscription with externalCursor := some newest }
    | _, _ => processed
  return (moved.commit session []).put session none

/-- One row of `ingest_gmail_push`; a redelivery finds its row and changes nothing. -/
def World.ingest (w : World) (subscriptionId : String) (historyId : Nat) (messageId : String) : Option World := do
  let subscription ← w.subscriptions subscriptionId
  let key := eventDedupeKey sha256 "gmail"
    [subscription.connectorInstallationId, subscriptionId, toString historyId, messageId]
  if subscription.status = "active" ∧ w.events.committed key = none ∧ w.events.pending key = none then
    let event : ExternalEvent :=
      { ownerId := subscription.ownerId
        connectorInstallationId := subscription.connectorInstallationId
        externalEventId := messageId
        subscriptionId
        historyId := some historyId
        status := .pending }
    return { w with events := { w.events with committed := Function.update w.events.committed key (some event) } }
  else none

inductive Act where
  | history (answer : HistoryAnswer)
  | look
  | fetch (fetched : Bool)
  | insert
  /-- `start_run` writes its row, or raises before -/
  | create (run : Option Nat)
  /-- a commit inside `start_run` -/
  | save
  | startFails
  | startEnds
  | assign
  | finish
  | crash

inductive Step where
  /-- a trigger is published, and its mailbox watched -/
  | register (id : String) (subscription : TriggerSubscription)
  /-- the watch of a subscription is renewed -/
  | renew (id : String)
  | restatus (id status : String)
  | arrive (installationId message : String)
  | ingest (subscriptionId : String) (historyId : Nat) (messageId : String)
  | claim (session : Nat) (key : String)
  | work (session : Nat) (act : Act)

def World.act (w : World) (session : Nat) (worker : Worker) (act : Act) : Option World :=
  match act, worker.phase with
  | .history answer, .claimed => w.history sha256 session worker answer
  | .look, .looking (message :: todo) => some (w.look sha256 session worker message todo)
  | .fetch false, .fetching .. => w.fail sha256 session worker
  | .fetch true, .fetching true message todo =>
    some (w.put session (some { worker with phase := .starting message todo }))
  | .fetch true, .fetching false message todo =>
    some (w.put session (some { worker with phase := .inserting message todo }))
  | .insert, .inserting message todo => w.insert sha256 session worker message todo
  | .create none, .starting .. => w.fail sha256 session worker
  | .create (some run), .starting message todo =>
    some (w.put session (some { worker with phase := .started false run message todo }))
  | .save, .started _ run message todo =>
    some ((w.commit session (worker.unsaved sha256)).put session
      (some { worker with phase := .started true run message todo }))
  | .startFails, .started .. => w.fail sha256 session worker
  | .startEnds, .started _ run message todo =>
    some ((w.commit session (worker.unsaved sha256)).put session
      (some { worker with phase := .assigned run message todo }))
  | .assign, .assigned run message todo =>
    (w.flush session (worker.childDedupe sha256 message) fun child =>
      { child with workflowRunId := some run, status := .processed }).map fun named =>
        named.put session (some { worker with phase := .looking todo })
  | .finish, .looking [] => w.finish session worker
  | .crash, _ => some ((w.rollback session).put session none)
  | _, _ => none

def World.step (w : World) : Step → Option World
  | .register id subscription =>
    match w.subscriptions id with
    | some _ => none
    | none =>
      let mailbox := w.mailboxes subscription.connectorInstallationId
      some (w.subscribe id { subscription with
        externalCursor := some mailbox.current, status := "active", createdAt := mailbox.current })
  | .renew id => (w.subscriptions id).map fun subscription =>
      let mailbox := w.mailboxes subscription.connectorInstallationId
      w.subscribe id { subscription with externalCursor := some mailbox.current, status := "active" }
  | .restatus id status => (w.subscriptions id).map fun subscription => w.subscribe id { subscription with status }
  | .arrive installationId message =>
    let mailbox := w.mailboxes installationId
    let next : Mailbox := ⟨mailbox.current + 1, mailbox.added ++ [(mailbox.current + 1, message)]⟩
    some { w with mailboxes := Function.update w.mailboxes installationId next }
  | .ingest subscriptionId historyId messageId => w.ingest sha256 subscriptionId historyId messageId
  | .claim session key => w.claim session key
  | .work session act => (w.workers session).bind fun worker => w.act sha256 session worker act

end Process

inductive Reaches (sha256 : String → String) (allowed : World → Step → Prop) (origin : World) : World → Prop
  | start : Reaches sha256 allowed origin origin
  | step {w after : World} {step : Step} (before : Reaches sha256 allowed origin w) (careful : allowed w step)
      (stepped : w.step sha256 step = some after) : Reaches sha256 allowed origin after

theorem Reaches.mono {sha256 : String → String} {allowed more : World → Step → Prop} {origin w : World}
    (entails : ∀ w step, allowed w step → more w step) (reached : Reaches sha256 allowed origin w) :
    Reaches sha256 more origin w := by
  induction reached with
  | start => exact .start
  | step _ careful stepped ih => exact ih.step (entails _ _ careful) stepped

def World.runWhere (sha256 : String → String) (allowed : World → Step → Bool) (w : World) : List Step → Option World
  | [] => some w
  | step :: rest =>
    if allowed w step then (w.step sha256 step).bind fun after => after.runWhere sha256 allowed rest else none

theorem Reaches.runs {sha256 : String → String} {allowed : World → Step → Bool} {origin w last : World}
    {steps : List Step} (reached : Reaches sha256 (fun w step => allowed w step = true) origin w)
    (ran : w.runWhere sha256 allowed steps = some last) :
    Reaches sha256 (fun w step => allowed w step = true) origin last := by
  induction steps generalizing w with
  | nil =>
    cases ran
    exact reached
  | cons step rest ih =>
    unfold World.runWhere at ran
    split at ran
    · rename_i careful
      obtain ⟨after, stepped, ran⟩ := Option.bind_eq_some_iff.mp ran
      exact ih (reached.step careful stepped) ran
    · cases ran

end Troop.Inbox
