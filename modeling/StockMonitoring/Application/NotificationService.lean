import StockMonitoring.Foundation.Coroutine
import StockMonitoring.Foundation.Lists
import StockMonitoring.Foundation.Pool
import StockMonitoring.Infrastructure.Db.Repositories
import Std.Data.String.ToNat

set_option autoImplicit false

/-!
# Application: processing a detection event

`app/application/notification_service.py` and the senders of
`app/infrastructure/notifications/`.  `processEvent` is written over the awaited calls
of the service; what the calls do is `notifyRespond`, built from the repositories and
the configured senders.

A sender raises what building its message raises, and comes to what the outside answers
otherwise; the texts of the messages are in `Application.Messages`.
-/

namespace StockMonitoring.Application

open StockMonitoring.Foundation StockMonitoring.Domain StockMonitoring.Infrastructure.Db

/-! ## The ports -/

/-- The calls of the service on its ports; all are awaited. -/
inductive NotifyOp where
  /-- `DetectionEventRepository.get_by_id` -/
  | getEvent (eventId : Nat)
  /-- `WatchTargetRepository.get_by_id` -/
  | getWatchTarget (watchTargetId : Nat)
  /-- `SnapshotRepository.get_by_id` -/
  | getSnapshot (snapshotId : Nat)
  /-- `WatchRepository.list_by_watch_target` -/
  | listByWatchTarget (watchTargetId : Nat)
  /-- `NotificationLogRepository.exists_recent` -/
  | existsRecent (dedupKey : String) (cooldownSeconds : Int)
  /-- `NotificationChannelRepository.list_for_user` -/
  | listForUser (userId : Nat)
  /-- `NotificationSender.send` of the sender for the channel's type -/
  | send (channel : NotificationChannel) (event : DetectionEvent) (context : NotificationContext)
  /-- `NotificationLogRepository.create` -/
  | createLog (userId detectionEventId channelId : Nat) (status dedupKey : String)
  deriving DecidableEq

/-- What each call answers with. -/
abbrev NotifyOp.Answer : NotifyOp → Type
  | .getEvent _ => Option DetectionEvent
  | .getWatchTarget _ => Option WatchTarget
  | .getSnapshot _ => Option Snapshot
  | .listByWatchTarget _ => List Watch
  | .existsRecent _ _ => Bool
  | .listForUser _ => List NotificationChannel
  | .send _ _ _ => Bool
  | .createLog _ _ _ _ _ => NotificationLog

/-- Whether the call is a send. -/
def NotifyOp.isSend : NotifyOp → Bool
  | .send _ _ _ => true
  | _ => false

/-- The port signature of the service. -/
abbrev notifyPort : Signature := ⟨NotifyOp, NotifyOp.Answer⟩

/-- A part of the service. -/
abbrev Notify (α : Type) : Type := Co notifyPort Raised α

/-- One call of the service. -/
abbrev askNotify (op : NotifyOp) : Notify op.Answer := @Co.perform notifyPort Raised op

/-! ## The senders -/

/-- How an SMTP dialogue ends. -/
inductive SmtpOutcome where
  | delivered
  /-- with an `OSError` or an `smtplib.SMTPException` -/
  | refused
  /-- with any other exception -/
  | raises (error : Raised)
  deriving DecidableEq

/-- What the outside chooses at a call. -/
structure NotifyTurn where
  /-- what the clock says -/
  now : Datetime
  /-- the status code an HTTP post is answered with, or what the client raises -/
  http : Except Raised Nat
  smtp : SmtpOutcome

/-- A sender: whether a send to the channel succeeded. -/
abbrev Sender : Type :=
  NotifyTurn → NotificationChannel → DetectionEvent → NotificationContext → Except Raised Bool

/-- The guard of the senders: `config.get(key)`, and false if that is missing or empty. -/
def withAddress (key : String) (channel : NotificationChannel)
    (deliver : String → Except Raised Bool) : Except Raised Bool :=
  match channel.config.lookup key with
  | none => .ok false
  | some address => if address = "" then .ok false else deliver address

/-- `TelegramSender.send`. -/
def TelegramSender.send : Sender := fun turn channel _ _ =>
  withAddress "chat_id" channel fun _ => do
    let statusCode ← turn.http
    pure (statusCode == 200)

/-- `DiscordSender.send`. -/
def DiscordSender.send : Sender := fun turn channel _ _ =>
  withAddress "webhook_url" channel fun _ => do
    let statusCode ← turn.http
    pure (statusCode == 200 || statusCode == 204)

/-- Where `str.splitlines` ends a line. -/
def isLineBoundary (char : Char) : Bool :=
  [0xa, 0xb, 0xc, 0xd, 0x1c, 0x1d, 0x1e, 0x85, 0x2028, 0x2029].contains char.toNat

/-- `str.splitlines`. -/
def splitLines : List Char → List (List Char)
  | [] => []
  | '\r' :: '\n' :: rest => [] :: splitLines rest
  | char :: rest =>
      if isLineBoundary char then [] :: splitLines rest
      else match splitLines rest with
        | [] => [[char]]
        | line :: lines => (char :: line) :: lines

/-- `message[name] = value` of an `EmailMessage`, which refuses a value of several lines. -/
def setHeader (value : String) : Except Raised Unit :=
  if 1 < (splitLines value.toList).length then
    .error (.valueError "Header values may not contain linefeed or carriage return characters")
  else .ok ()

/-- The `Subject` of an email. -/
def subjectOf (context : NotificationContext) : String :=
  s!"{context.keyword} update"

/-- `EmailSender._send_sync`; the headers are set before its `try`. -/
def EmailSender.sendSync (toAddress : String) (context : NotificationContext)
    (outcome : SmtpOutcome) : Except Raised Bool := do
  setHeader (subjectOf context)
  setHeader toAddress
  match outcome with
  | .delivered => pure true
  | .refused => pure false
  | .raises error => .error error

/-- `EmailSender.send`. -/
def EmailSender.send : Sender := fun turn channel _ context =>
  withAddress "email" channel fun toAddress => EmailSender.sendSync toAddress context turn.smtp

/-- What a service is built with. -/
structure NotificationConfig where
  senders : NotificationChannelType → Option Sender
  cooldownSeconds : Int

/-! ## The service -/

/-- The dedup key of a user, a target and an event type. -/
def dedupKey (userId watchTargetId : Nat) (eventType : EventType) : String :=
  s!"{userId}:{watchTargetId}:{eventType.value}"

theorem colon_not_mem_repr (n : Nat) : ':' ∉ n.repr.toList := by
  intro hmem
  rw [Nat.toList_repr] at hmem
  have hdigit := Nat.isDigit_of_mem_toDigits (by decide) (by decide) hmem
  exact absurd hdigit (by decide)

theorem toList_dedupKey (userId watchTargetId : Nat) (eventType : EventType) :
    (dedupKey userId watchTargetId eventType).toList =
      userId.repr.toList ++ ':' ::
        (watchTargetId.repr.toList ++ ':' :: eventType.value.toList) := by
  simp [dedupKey, toString, String.toList_append]

/-- No two triples share a dedup key. -/
theorem dedupKey_injective {userId other watchTargetId otherTargetId : Nat}
    {eventType otherType : EventType}
    (heq : dedupKey userId watchTargetId eventType = dedupKey other otherTargetId otherType) :
    userId = other ∧ watchTargetId = otherTargetId ∧ eventType = otherType := by
  have hlists := congrArg String.toList heq
  rw [toList_dedupKey, toList_dedupKey] at hlists
  obtain ⟨huser, hrest⟩ := append_mark_inj (colon_not_mem_repr _) (colon_not_mem_repr _) hlists
  obtain ⟨htarget, htype⟩ := append_mark_inj (colon_not_mem_repr _) (colon_not_mem_repr _) hrest
  exact ⟨Nat.repr_injective (String.toList_inj.mp huser),
    Nat.repr_injective (String.toList_inj.mp htarget),
    EventType.value_injective (String.toList_inj.mp htype)⟩

/-- The loop of `process_event` over the channels of one user. -/
def notifyChannels (config : NotificationConfig) (event : DetectionEvent)
    (context : NotificationContext) (userId : Nat) (key : String) :
    List NotificationChannel → Notify Unit
  | [] => pure ()
  | channel :: rest =>
      match config.senders channel.type with
      | none => notifyChannels config event context userId key rest
      | some _ => do
          let success ← askNotify (.send channel event context)
          match event.id, channel.id with
          | some eventId, some channelId => do
              let _ ← askNotify (.createLog userId eventId channelId
                (if success then "sent" else "failed") key)
              notifyChannels config event context userId key rest
          | _, _ => .raise .assertionError

/-- What `process_event` does for one subscribed user. -/
def notifyUser (config : NotificationConfig) (event : DetectionEvent)
    (context : NotificationContext) (userId : Nat) : Notify Unit := do
  let key := dedupKey userId event.watchTargetId event.eventType
  let isRecent ← askNotify (.existsRecent key config.cooldownSeconds)
  if isRecent then
    pure ()
  else
    let channels ← askNotify (.listForUser userId)
    notifyChannels config event context userId key channels

/-- The loop of `process_event` over the watches. -/
def notifyWatches (config : NotificationConfig) (event : DetectionEvent)
    (context : NotificationContext) : List Watch → List Nat → Notify Unit
  | [], _ => pure ()
  | watch :: rest, seenUsers =>
      if watch.userId ∈ seenUsers then
        notifyWatches config event context rest seenUsers
      else do
        notifyUser config event context watch.userId
        notifyWatches config event context rest (watch.userId :: seenUsers)

/-- What `process_event` does once it has looked for the target and the snapshot. -/
def notifyOfEvent (config : NotificationConfig) (event : DetectionEvent) :
    Option WatchTarget → Option Snapshot → Notify Unit
  | some watchTarget, some snapshot => do
      let watches ← askNotify (.listByWatchTarget event.watchTargetId)
      notifyWatches config event
        ⟨watchTarget.keyword, watchTarget.retailerSlug, event.eventType, snapshot⟩ watches []
  | _, _ => pure ()

/-- `process_event`. -/
def processEvent (config : NotificationConfig) (eventId : Nat) : Notify Unit := do
  match ← askNotify (.getEvent eventId) with
  | none => pure ()
  | some event =>
      let watchTarget ← askNotify (.getWatchTarget event.watchTargetId)
      let snapshot ← askNotify (.getSnapshot event.snapshotId)
      notifyOfEvent config event watchTarget snapshot

/-! ## What the calls do -/

/-- What a send answers; the service sends on channels that have a sender only. -/
def sendReply (config : NotificationConfig) (turn : NotifyTurn) (channel : NotificationChannel)
    (event : DetectionEvent) (context : NotificationContext) : Except Raised Bool :=
  match config.senders channel.type with
  | some sender => sender turn channel event context
  | none => .error .assertionError

/-- The work of a call on the session of the service. -/
def notifyRespond (config : NotificationConfig) (turn : NotifyTurn) :
    (op : NotifyOp) → Database → Reply notifyPort Raised op × Database
  | .getEvent eventId, db => (SqlAlchemyDetectionEventRepository.getById db eventId, db)
  | .getWatchTarget watchTargetId, db =>
      (SqlAlchemyWatchTargetRepository.getById db watchTargetId, db)
  | .getSnapshot snapshotId, db => (SqlAlchemySnapshotRepository.getById db snapshotId, db)
  | .listByWatchTarget watchTargetId, db =>
      (.ok (SqlAlchemyWatchRepository.listByWatchTarget db watchTargetId), db)
  | .existsRecent key cooldownSeconds, db =>
      (SqlAlchemyNotificationLogRepository.existsRecent db key cooldownSeconds turn.now, db)
  | .listForUser userId, db =>
      (.ok (SqlAlchemyNotificationChannelRepository.listForUser db userId), db)
  | .send channel event context, db => (sendReply config turn channel event context, db)
  | .createLog userId detectionEventId channelId status key, db =>
      let (log, next) := SqlAlchemyNotificationLogRepository.create db userId detectionEventId
        channelId status key turn.now
      (.ok log, next)

/-- The handler of one run of the service.  The outside's choice may depend on
everything about a call: a run makes no call twice. -/
def notifyHandler (config : NotificationConfig) (turns : NotifyOp → NotifyTurn) :
    Handler notifyPort Raised Database := fun op db =>
  notifyRespond config (turns op) op db

end StockMonitoring.Application
