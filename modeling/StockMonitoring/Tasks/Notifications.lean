import StockMonitoring.Application.CheckHistory
import StockMonitoring.Application.NotificationRun
import StockMonitoring.Infrastructure.Db.Session

set_option autoImplicit false

/-!
# Tasks: one run of the notification service in its own session

`app/tasks/notifications.py`.  A worker opens a session for every event id it takes,
runs `process_event` on it and commits when that has returned.
-/

namespace StockMonitoring.Tasks

open StockMonitoring.Foundation StockMonitoring.Domain StockMonitoring.Application
  StockMonitoring.Infrastructure.Db

/-- The service as `_process_detection_event_async` builds it. -/
def workerConfig : NotificationConfig where
  senders
    | .telegram => some TelegramSender.send
    | .discord => some DiscordSender.send
    | .email => some EmailSender.send
    | .push => none
  cooldownSeconds := 900

section Task

variable (config : NotificationConfig) (turns : NotifyOp → NotifyTurn) (db : Database)
  (eventId : Nat)

/-- The run of the service in a task that found `db` committed. -/
def taskOutcome : Outcome notifyPort Raised Database Unit :=
  (processEvent config eventId).exec (notifyHandler config turns) db

/-- `_process_detection_event_async`: the committed database after the task. -/
def processDetectionEvent : Database :=
  afterSession id db (taskOutcome config turns db eventId)

end Task

section Task

variable {config : NotificationConfig} {turns : NotifyOp → NotifyTurn} {db : Database}
  {eventId : Nat} {event : DetectionEvent} {context : NotificationContext}

theorem taskOutcome_notified (hfound : contextOf db eventId = some (event, context)) :
    Notified config turns event context (dueChannels config turns event db)
      (LookupsFine config turns event db) db (taskOutcome config turns db eventId) :=
  processEvent_notified hfound

/-- A task that completes has committed the log of its sends. -/
theorem logged_of_completes (hfound : contextOf db eventId = some (event, context))
    (hfine : LookupsFine config turns event db)
    (hreturns : ∀ channel ∈ dueChannels config turns event db,
      SendReturns config turns event context channel) :
    Logged config turns event context (dueChannels config turns event db) db
      (processDetectionEvent config turns db eventId) := by
  obtain ⟨hresult, _, hlogged⟩ := (taskOutcome_notified hfound).completes hfine hreturns
  unfold processDetectionEvent
  rw [afterSession_of_ok hresult]
  exact hlogged

/-- A task that raises has committed nothing. -/
theorem unchanged_of_raises (hfound : contextOf db eventId = some (event, context))
    (hbad : ¬ (LookupsFine config turns event db ∧
      ∀ channel ∈ dueChannels config turns event db,
        SendReturns config turns event context channel)) :
    processDetectionEvent config turns db eventId = db := by
  obtain ⟨error, hresult⟩ := (taskOutcome_notified hfound).fails hbad
  exact afterSession_of_error hresult

theorem unchanged_of_hidden (hhidden : contextOf db eventId = none) :
    processDetectionEvent config turns db eventId = db := by
  obtain ⟨hresult, _, hstate⟩ := @processEvent_of_hidden config turns db eventId hhidden
  exact (afterSession_of_ok hresult).trans hstate

/-- A call is among the sends of a run when the run has made it. -/
theorem mem_sendsOf_iff {trace : List (Event notifyPort Raised)} {op : NotifyOp} :
    op ∈ sendsOf trace ↔ op.isSend = true ∧ ∃ call ∈ trace, call.op = op := by
  unfold sendsOf
  rw [List.mem_filter, List.mem_map, and_comm]

/-- What a send answers is what the run's turn makes of it. -/
theorem answer_of_mem_trace {channel : NotificationChannel} {reply : Except Raised Bool}
    (hcall : ⟨.send channel event context, reply⟩ ∈ (taskOutcome config turns db eventId).trace) :
    reply = sendAnswer config turns event context channel := by
  obtain ⟨reached, hreply⟩ := Co.reply_of_mem_trace hcall
  injection hreply

end Task

/-! ## An event with two channels -/

/-- A user with a watch, a Telegram and a Discord channel, and two events of the target. -/
def milkAlerts : Database :=
  { milkStore.db with
    watches := Table.empty.insert fun id => ⟨id, 10, 1, 1, 60, true⟩
    snapshots := Table.empty.insert fun id =>
      ⟨id, 1, 0, .available, none, none, none, none, none, none, none, [], none⟩
    detectionEvents := (Table.empty.insert fun id => ⟨id, 1, 1, none, .stockAvailable, 0⟩).insert
      fun id => ⟨id, 1, 1, none, .stockAvailable, 0⟩
    notificationChannels := (Table.empty.insert fun id =>
      ⟨id, 10, .telegram, [("chat_id", "77")], true⟩).insert
        fun id => ⟨id, 10, .discord, [("webhook_url", "https://discord.test/hook")], true⟩ }

/-- The first event of `milkAlerts`. -/
def milkEvent : DetectionEvent := ⟨some 1, 1, 1, none, .stockAvailable, 0⟩

/-- What a message about it says. -/
def milkContext : NotificationContext :=
  ⟨"milk", "blinkit", .stockAvailable,
    ⟨some 1, 1, 0, .available, none, none, none, none, none, none, none, [], none⟩⟩

/-- Every post is answered with 200 and every mail is delivered. -/
def reachableTurns (now : Datetime) : NotifyOp → NotifyTurn := fun _ => ⟨now, .ok 200, .delivered⟩

end StockMonitoring.Tasks
