import StockMonitoring.Tasks.Notifications
import StockMonitoring.Foundation.Run

set_option autoImplicit false

/-!
# Tasks: a task in progress beside others

A worker's task seen from the database, call by call.  Each statement of its session
sees what is committed when it runs and what the session itself has flushed; the rows
it flushes are committed when `process_event` has returned.

A flushed row gets its key when it is committed; nothing reads the key before.
-/

namespace StockMonitoring.Tasks

open StockMonitoring.Foundation StockMonitoring.Domain StockMonitoring.Application
  StockMonitoring.Infrastructure.Db

/-- A task that a worker has taken and that has not ended. -/
structure Worker where
  eventId : Nat
  /-- what remains of `process_event` -/
  program : Notify Unit
  /-- the log rows the session has flushed -/
  flushed : List NotificationLogModel

/-- The database with more log rows. -/
def withFlushed (committed : Database) (flushed : List NotificationLogModel) : Database :=
  { committed with
    notificationLogs := flushed.foldl
      (fun logs row => logs.insert fun id => { row with id := id }) committed.notificationLogs }

/-- The row that a call flushes. -/
def flushedBy (now : Datetime) : NotifyOp → List NotificationLogModel
  | .createLog userId detectionEventId channelId status key =>
      [⟨0, userId, detectionEventId, channelId, status, now, key⟩]
  | _ => []

namespace Worker

/-- A worker takes an event id from the queue. -/
def take (config : NotificationConfig) (eventId : Nat) : Worker :=
  ⟨eventId, processEvent config eventId, []⟩

/-- The database as the worker's session sees it. -/
def view (committed : Database) (worker : Worker) : Database :=
  withFlushed committed worker.flushed

/-- The next call of the task. -/
def call (config : NotificationConfig) (committed : Database) (turns : NotifyOp → NotifyTurn)
    (worker : Worker) : Option Worker :=
  match worker.program with
  | .call op resume => some
      { worker with
        program := resume (notifyRespond config (turns op) op (worker.view committed)).1
        flushed := worker.flushed ++ flushedBy (turns op).now op }
  | .ret _ | .raise _ => none

/-- The committed database after the end of the task. -/
def finish (committed : Database) (worker : Worker) : Option Database :=
  match worker.program with
  | .ret _ => some (worker.view committed)
  | .raise _ => some committed
  | .call _ _ => none

end Worker

/-- A task whose event is not committed returns from its first call. -/
theorem call_of_absent {config : NotificationConfig} {committed : Database} {eventId : Nat}
    (habsent : committed.detectionEvents.find? eventId = none) (turns : NotifyOp → NotifyTurn) :
    (Worker.take config eventId).call config committed turns = some ⟨eventId, .ret (), []⟩ := by
  obtain ⟨resume, hprogram, hresume⟩ : ∃ resume, processEvent config eventId =
      .call (.getEvent eventId) resume ∧ resume (.ok none) = .ret () := ⟨_, rfl, rfl⟩
  have hreply : notifyRespond config (turns (.getEvent eventId)) (.getEvent eventId) committed =
      (.ok none, committed) := by
    rw [respond_getEvent, habsent]
    rfl
  simp only [Worker.call, Worker.take, Worker.view, hprogram]
  change some (Worker.mk eventId (resume (notifyRespond config (turns (.getEvent eventId))
    (.getEvent eventId) committed).1) []) = _
  rw [hreply, hresume]

/-! ## A worker alone -/

section Alone

variable {config : NotificationConfig} {committed : Database} {turns : NotifyOp → NotifyTurn}
  {worker next : Worker}

/-- The session of a worker sees the row it has just flushed, as the service's own
database does. -/
theorem withFlushed_append (flushed : List NotificationLogModel) (op : NotifyOp)
    (turn : NotifyTurn) :
    withFlushed committed (flushed ++ flushedBy turn.now op) =
      (notifyRespond config turn op (withFlushed committed flushed)).2 := by
  cases op with
  | createLog userId detectionEventId channelId status key =>
      unfold withFlushed
      rw [List.foldl_append]
      rfl
  | _ => exact congrArg (withFlushed committed) (List.append_nil flushed)

/-- A call leaves the end of the task as it was, if nobody else commits. -/
theorem ending_call (hcall : worker.call config committed turns = some next) :
    (next.program.exec (notifyHandler config turns) (next.view committed)).ending =
      (worker.program.exec (notifyHandler config turns) (worker.view committed)).ending := by
  obtain ⟨eventId, program, flushed⟩ := worker
  cases program with
  | ret value => cases hcall
  | raise error => cases hcall
  | call op resume =>
      cases hcall
      rw [Co.exec_call, Outcome.after_ending]
      unfold Worker.view
      rw [withFlushed_append]
      rfl

/-- A task that runs beside nobody commits what `processDetectionEvent` commits. -/
theorem finish_alone {eventId : Nat} {calls : List Unit} {last : Worker}
    (hrun : runFrom (fun worker _ => worker.call config committed turns)
      (Worker.take config eventId) calls = some last)
    {after : Database} (hfinish : last.finish committed = some after) :
    after = processDetectionEvent config turns committed eventId := by
  have hending : (last.program.exec (notifyHandler config turns) (last.view committed)).ending =
      (taskOutcome config turns committed eventId).ending := by
    refine runFrom_invariant (fun worker =>
      (worker.program.exec (notifyHandler config turns) (worker.view committed)).ending =
        (taskOutcome config turns committed eventId).ending) ?_ hrun rfl
    intro worker _ next hworker hcall
    exact (ending_call hcall).trans hworker
  unfold processDetectionEvent
  obtain ⟨hresult, hstate⟩ := Prod.ext_iff.mp hending
  obtain ⟨_, program, flushed⟩ := last
  cases program with
  | ret value =>
      cases hfinish
      rw [afterSession_of_ok hresult.symm]
      exact hstate
  | raise error =>
      cases hfinish
      exact (afterSession_of_error hresult.symm).symm
  | call op resume => cases hfinish

end Alone

end StockMonitoring.Tasks
