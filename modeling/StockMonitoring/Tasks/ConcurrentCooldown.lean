import StockMonitoring.Application.NotificationProtocol
import StockMonitoring.Foundation.Sessions
import StockMonitoring.Infrastructure.Db.ForeignKeys
import StockMonitoring.Tasks.Cooldown
import StockMonitoring.Tasks.DedupLookup
import StockMonitoring.Tasks.Workers

set_option autoImplicit false

/-!
# Tasks: the cooldown across workers

Every task looks its keys up, sends, and makes its rows visible at its commit only.
Two tasks that both find nothing recent both send, and a task that raises after a send
takes the row of that send with it.  Where no task looks a key up while another one under
way has found nothing recent for it, and no task raises once it has delivered, deliveries
by different tasks are a cooldown apart (`cooldown_across_workers`).
-/

namespace StockMonitoring.Tasks

open StockMonitoring.Foundation StockMonitoring.Domain StockMonitoring.Application
  StockMonitoring.Infrastructure.Db

/-! ## Tasks as sessions -/

/-- What a row that the call flushes refers to is committed. -/
def LogRefers (committed : Database) : NotifyOp → Prop
  | .createLog userId detectionEventId channelId _ _ =>
      Refers committed.users userId ∧ Refers committed.detectionEvents detectionEventId ∧
        Refers committed.notificationChannels channelId
  | _ => True

instance (committed : Database) : (op : NotifyOp) → Decidable (LogRefers committed op)
  | .createLog userId detectionEventId channelId _ _ =>
      inferInstanceAs (Decidable (Refers committed.users userId ∧
        Refers committed.detectionEvents detectionEventId ∧
        Refers committed.notificationChannels channelId))
  | .getEvent _ | .getWatchTarget _ | .getSnapshot _ | .listByWatchTarget _ | .existsRecent _ _
  | .listForUser _ | .send _ _ _ => isTrue trivial

/-- The tasks of the workers, `_process_detection_event_async` each: a session that commits
when `process_event` has returned. -/
def workerSessions (config : NotificationConfig) :
    SessionSpec Nat notifyPort Raised Unit Database (List NotificationLogModel) NotifyTurn
      Database where
  program := processEvent config
  fresh := []
  respond op turn committed flushed :=
    if LogRefers committed op then
      ((notifyRespond config turn op (withFlushed committed flushed)).1, committed,
        flushed ++ flushedBy turn.now op)
    else (.error .integrityError, committed, flushed)
  commit committed flushed := .ok (withFlushed committed flushed)
  -- none but the tasks writes the log
  outside tables committed := { tables with notificationLogs := committed.notificationLogs }

/-- The session of a task. -/
abbrev TaskSession : Type :=
  Session Nat notifyPort Raised Unit (List NotificationLogModel) NotifyTurn

/-- The committed database and the tasks. -/
abbrev TaskSystem : Type :=
  SessionSystem Nat notifyPort Raised Unit Database (List NotificationLogModel) NotifyTurn

/-- The worker of a session. -/
def workerOf (session : TaskSession) : Worker := ⟨session.key, session.program, session.work⟩

/-- The calls of a session are those of its worker, where no row it refers to has gone. -/
theorem call_workerOf {config : NotificationConfig} {committed next : Database}
    {turn : NotifyTurn} {session after : TaskSession}
    (hrefers : ∀ op resume, session.program = .call op resume → LogRefers committed op)
    (hcalled : (workerSessions config).called committed turn session = some (next, after)) :
    next = committed ∧
      (workerOf session).call config committed (fun _ => turn) = some (workerOf after) := by
  obtain ⟨op, resume, reply, work, _, hprogram, hrespond, rfl⟩ :=
    SessionSpec.called_cases hcalled
  simp only [workerSessions, if_pos (hrefers op resume hprogram), Prod.mk.injEq] at hrespond
  obtain ⟨rfl, rfl, rfl⟩ := hrespond
  unfold workerOf Worker.call
  simp only [hprogram]
  exact ⟨trivial, rfl⟩

/-- And a session ends as its worker does. -/
theorem finish_workerOf {config : NotificationConfig} {committed next : Database}
    {session after : TaskSession}
    (hfinished : (workerSessions config).finished committed session = some (next, after)) :
    (workerOf session).finish committed = some next := by
  obtain ⟨key, program, work, calls, response⟩ := session
  cases response with
  | some result => cases hfinished
  | none =>
      cases program with
      | call op resume => cases hfinished
      | raise error =>
          cases hfinished
          rfl
      | ret value =>
          cases hfinished
          rfl

/-! ## Lookups and deliveries -/

/-- A send that has succeeded. -/
structure Delivery where
  channel : NotificationChannel
  event : DetectionEvent
  time : Datetime
  deriving DecidableEq

/-- The dedup key of a delivery. -/
def Delivery.key (delivery : Delivery) : String :=
  dedupKey delivery.channel.userId delivery.event.watchTargetId delivery.event.eventType

/-- The key of a lookup that has found nothing recent, with the time. -/
def claimOf : NotifyTurn × Event notifyPort Raised → Option (String × Datetime)
  | (turn, ⟨.existsRecent key _, .ok false⟩) => some (key, turn.now)
  | _ => none

/-- The delivery that a call is. -/
def deliveryOf : NotifyTurn × Event notifyPort Raised → Option Delivery
  | (turn, ⟨.send channel event _, .ok true⟩) => some ⟨channel, event, turn.now⟩
  | _ => none

/-- The keys for which a task has found nothing recent. -/
def claims (session : TaskSession) : List (String × Datetime) := session.calls.filterMap claimOf

/-- The deliveries of a task. -/
def deliveries (session : TaskSession) : List Delivery := session.calls.filterMap deliveryOf

/-- Two successful sends of different tasks for one user, target and type on one channel are
never less than the cooldown apart. -/
def CooldownHolds (config : NotificationConfig) (system : TaskSystem) : Prop :=
  ∀ (index position : Nat) session other, index ≠ position →
    system.sessions[index]? = some session → system.sessions[position]? = some other →
    ∀ first ∈ deliveries session, ∀ second ∈ deliveries other,
      first.channel.userId = second.channel.userId →
      first.event.watchTargetId = second.event.watchTargetId →
      first.event.eventType = second.event.eventType → first.channel.id = second.channel.id →
        first.time + seconds config.cooldownSeconds ≤ second.time ∨
          second.time + seconds config.cooldownSeconds ≤ first.time

/-! ## The runs -/

/-- The clock does not go back. -/
def ClockRuns (system : TaskSystem) : SessionMove Nat NotifyTurn Database → Prop
  | .call _ turn => ∀ session ∈ system.sessions, ∀ call ∈ session.calls, call.1.now ≤ turn.now
  | _ => True

/-- A property of the next call of a session. -/
def OfNextCall (holds : TaskSession → NotifyOp → Prop) (session : TaskSession) : Prop :=
  match session.program with
  | .call op _ => holds session op
  | _ => True

/-- Senders return bools. -/
def SendReplies (config : NotificationConfig) (turn : NotifyTurn) : NotifyOp → Prop
  | .send channel event context =>
      (sendReply config turn channel event context).toOption.isSome = true
  | _ => True

/-- A lookup that finds nothing recent is made while no other task under way has found
nothing recent for the key. -/
def Exclusive (committed : Database) (others : List TaskSession) (turn : NotifyTurn)
    (session : TaskSession) : NotifyOp → Prop
  | .existsRecent key cooldownSeconds =>
      SqlAlchemyNotificationLogRepository.recentRows (withFlushed committed session.work) key
          cooldownSeconds turn.now = [] →
        ∀ other ∈ others, other.InProgress → key ∉ (claims other).map Prod.fst
  | _ => True

/-- A task that has delivered selects at most one row with a lookup and finds what its log
row refers to. -/
def Lasting (committed : Database) (turn : NotifyTurn) (session : TaskSession) (op : NotifyOp) :
    Prop :=
  deliveries session ≠ [] → LogRefers committed op ∧
    match op with
    | .existsRecent key cooldownSeconds =>
        (SqlAlchemyNotificationLogRepository.recentRows (withFlushed committed session.work) key
          cooldownSeconds turn.now).length ≤ 1
    | _ => True

/-- Senders return bools in the move. -/
def SendsReturn (config : NotificationConfig) (system : TaskSystem) :
    SessionMove Nat NotifyTurn Database → Prop
  | .call index turn =>
      ∀ session ∈ system.sessions[index]?, OfNextCall (fun _ => SendReplies config turn) session
  | _ => True

/-- The move neither races for a key nor takes a delivery back. -/
def KeepsCooldown (system : TaskSystem) : SessionMove Nat NotifyTurn Database → Prop
  | .call index turn => ∀ session ∈ system.sessions[index]?,
      OfNextCall (fun session op =>
        Exclusive system.committed (system.sessions.eraseIdx index) turn session op ∧
          Lasting system.committed turn session op) session
  | _ => True

section Decidable

variable (config : NotificationConfig) (system : TaskSystem) (committed : Database)
  (turn : NotifyTurn) (session : TaskSession)

instance : (move : SessionMove Nat NotifyTurn Database) → Decidable (ClockRuns system move)
  | .call _ turn => inferInstanceAs (Decidable
      (∀ session ∈ system.sessions, ∀ call ∈ session.calls, call.1.now ≤ turn.now))
  | .outside _ | .start _ | .finish _ => isTrue trivial

instance {holds : TaskSession → NotifyOp → Prop} [∀ session op, Decidable (holds session op)] :
    Decidable (OfNextCall holds session) :=
  match hprogram : session.program with
  | .call op _ => decidable_of_iff (holds session op) (by rw [OfNextCall, hprogram])
  | .ret _ => isTrue (by rw [OfNextCall, hprogram]; trivial)
  | .raise _ => isTrue (by rw [OfNextCall, hprogram]; trivial)

instance : (op : NotifyOp) → Decidable (SendReplies config turn op)
  | .send channel event context => inferInstanceAs (Decidable
      ((sendReply config turn channel event context).toOption.isSome = true))
  | .getEvent _ | .getWatchTarget _ | .getSnapshot _ | .listByWatchTarget _ | .existsRecent _ _
  | .listForUser _ | .createLog _ _ _ _ _ => isTrue trivial

instance (others : List TaskSession) :
    (op : NotifyOp) → Decidable (Exclusive committed others turn session op)
  | .existsRecent key cooldownSeconds => inferInstanceAs (Decidable
      (SqlAlchemyNotificationLogRepository.recentRows (withFlushed committed session.work) key
          cooldownSeconds turn.now = [] →
        ∀ other ∈ others, other.InProgress → key ∉ (claims other).map Prod.fst))
  | .getEvent _ | .getWatchTarget _ | .getSnapshot _ | .listByWatchTarget _ | .listForUser _
  | .send _ _ _ | .createLog _ _ _ _ _ => isTrue trivial

instance (op : NotifyOp) : Decidable (Lasting committed turn session op) := by
  unfold Lasting
  cases op <;> infer_instance

instance : (move : SessionMove Nat NotifyTurn Database) → Decidable (SendsReturn config system move)
  | .call index turn => inferInstanceAs (Decidable (∀ session ∈ system.sessions[index]?,
      OfNextCall (fun _ => SendReplies config turn) session))
  | .outside _ | .start _ | .finish _ => isTrue trivial

instance : (move : SessionMove Nat NotifyTurn Database) → Decidable (KeepsCooldown system move)
  | .call index turn => inferInstanceAs (Decidable (∀ session ∈ system.sessions[index]?,
      OfNextCall (fun session op =>
        Exclusive system.committed (system.sessions.eraseIdx index) turn session op ∧
          Lasting system.committed turn session op) session))
  | .outside _ | .start _ | .finish _ => isTrue trivial

end Decidable

/-! ## What one task keeps -/

/-- The rows have one with the key that is not from before the time. -/
def LoggedSince (rows : List NotificationLogModel) (key : String) (time : Datetime) : Prop :=
  ∃ row ∈ rows, row.dedupKey = key ∧ time ≤ row.sentAt

/-- How far a task has come. -/
def progressOf (config : NotificationConfig) (session : TaskSession) : NotifyProgress :=
  session.ghost (notifyProtocol config) .start

/-- What holds of a task: it has looked up what it delivers, and its deliveries are logged,
or about to be. -/
structure Careful (config : NotificationConfig) (committed : Database) (session : TaskSession) :
    Prop where
  obeys : session.program.Obeys (notifyProtocol config) (progressOf config session)
  claimed : ∀ key, (progressOf config session).claimed = some key →
    ∃ time, (key, time) ∈ claims session
  delivered : ∀ delivery ∈ deliveries session,
    ∃ time ≤ delivery.time, (delivery.key, time) ∈ claims session
  unfailed : deliveries session ≠ [] → (progressOf config session).failed = false
  logged : session.InProgress → ∀ delivery ∈ deliveries session,
    ((progressOf config session).unlogged.isSome = true ∧
        (progressOf config session).claimed = some delivery.key) ∨
      LoggedSince session.work delivery.key delivery.time
  committed : ∀ value, session.response = some (.ok value) → ∀ delivery ∈ deliveries session,
    LoggedSince committed.notificationLogs.rows delivery.key delivery.time
  discarded : ∀ error, session.response = some (.error error) → deliveries session = []

section Rows

variable {committed : Database} {flushed rows more : List NotificationLogModel} {key : String}
  {time : Datetime}

theorem loggedSince_append_iff :
    LoggedSince (rows ++ more) key time ↔
      LoggedSince rows key time ∨ LoggedSince more key time := by
  unfold LoggedSince
  constructor
  · rintro ⟨row, hrow, hlogs⟩
    rcases List.mem_append.mp hrow with hrow | hrow
    · exact Or.inl ⟨row, hrow, hlogs⟩
    · exact Or.inr ⟨row, hrow, hlogs⟩
  · rintro (⟨row, hrow, hlogs⟩ | ⟨row, hrow, hlogs⟩)
    · exact ⟨row, List.mem_append_left _ hrow, hlogs⟩
    · exact ⟨row, List.mem_append_right _ hrow, hlogs⟩

/-- A session sees the committed rows and those it has flushed. -/
theorem loggedSince_withFlushed_iff :
    LoggedSince (withFlushed committed flushed).notificationLogs.rows key time ↔
      LoggedSince committed.notificationLogs.rows key time ∨ LoggedSince flushed key time := by
  induction flushed using List.reverseRecOn with
  | nil => exact ⟨Or.inl, fun h => h.resolve_right fun ⟨_, hrow, _⟩ => by cases hrow⟩
  | append_singleton flushed row ih =>
      have hrows : (withFlushed committed (flushed ++ [row])).notificationLogs.rows =
          (withFlushed committed flushed).notificationLogs.rows ++
            [{ row with id := (withFlushed committed flushed).notificationLogs.nextId }] := by
        unfold withFlushed
        rw [List.foldl_append]
        rfl
      have hlast : LoggedSince
          [{ row with id := (withFlushed committed flushed).notificationLogs.nextId }] key time ↔
            LoggedSince [row] key time := by simp [LoggedSince]
      rw [hrows, loggedSince_append_iff, loggedSince_append_iff, ih, hlast, or_assoc]

/-- A lookup that finds nothing recent comes a cooldown after every row of its key. -/
theorem add_le_of_not_recent {cooldownSeconds : Int} {now : Datetime}
    (hlogged : LoggedSince committed.notificationLogs.rows key time)
    (hnone : SqlAlchemyNotificationLogRepository.recentRows (withFlushed committed flushed) key
      cooldownSeconds now = []) :
    time + seconds cooldownSeconds ≤ now := by
  obtain ⟨row, hrow, hkey, htime⟩ :=
    loggedSince_withFlushed_iff.mpr (Or.inl hlogged : _ ∨ LoggedSince flushed key time)
  unfold SqlAlchemyNotificationLogRepository.recentRows at hnone
  have hold := List.filter_eq_nil_iff.mp hnone row hrow
  simp only [hkey, beq_self_eq_true, Bool.true_and, decide_eq_true_eq, not_le] at hold
  exact Int.le_of_lt (Int.add_lt_of_lt_sub_right (Int.lt_of_le_of_lt htime hold))

end Rows

section Calls

variable {config : NotificationConfig} {committed next : Database} {turn : NotifyTurn}
  {session after other : TaskSession}

theorem claims_concat {call : NotifyTurn × Event notifyPort Raised}
    (hcalls : after.calls = session.calls ++ [call]) :
    claims after = claims session ++ (claimOf call).toList := by
  unfold claims
  rw [hcalls, List.filterMap_append]
  cases hclaim : claimOf call <;> simp [hclaim]

theorem deliveries_concat {call : NotifyTurn × Event notifyPort Raised}
    (hcalls : after.calls = session.calls ++ [call]) :
    deliveries after = deliveries session ++ (deliveryOf call).toList := by
  unfold deliveries
  rw [hcalls, List.filterMap_append]
  cases hdelivery : deliveryOf call <;> simp [hdelivery]

/-- The call behind a claim. -/
theorem claimOf_eq_some {call : NotifyTurn × Event notifyPort Raised} {key : String}
    {time : Datetime} (hclaim : claimOf call = some (key, time)) :
    ∃ cooldownSeconds, call.2 = ⟨.existsRecent key cooldownSeconds, .ok false⟩ ∧
      call.1.now = time := by
  unfold claimOf at hclaim
  split at hclaim
  · cases hclaim
    exact ⟨_, rfl, rfl⟩
  · cases hclaim

/-- The call behind a delivery. -/
theorem deliveryOf_eq_some {call : NotifyTurn × Event notifyPort Raised} {delivery : Delivery}
    (hdelivery : deliveryOf call = some delivery) :
    ∃ context, call.2 = ⟨.send delivery.channel delivery.event context, .ok true⟩ ∧
      delivery.time = call.1.now := by
  unfold deliveryOf at hdelivery
  split at hdelivery
  · cases hdelivery
    exact ⟨_, rfl, rfl⟩
  · cases hdelivery

/-- A claim is from before the next call. -/
theorem time_le_of_mem_claims (hclock : ∀ call ∈ session.calls, call.1.now ≤ turn.now)
    {key : String} {time : Datetime} (hclaim : (key, time) ∈ claims session) : time ≤ turn.now := by
  obtain ⟨call, hcall, hclaim⟩ := List.mem_filterMap.mp hclaim
  obtain ⟨_, _, rfl⟩ := claimOf_eq_some hclaim
  exact hclock call hcall

/-- So is a delivery. -/
theorem time_le_of_mem_deliveries (hclock : ∀ call ∈ session.calls, call.1.now ≤ turn.now)
    {delivery : Delivery} (hdelivery : delivery ∈ deliveries session) :
    delivery.time ≤ turn.now := by
  obtain ⟨call, hcall, hdelivery⟩ := List.mem_filterMap.mp hdelivery
  obtain ⟨_, _, htime⟩ := deliveryOf_eq_some hdelivery
  rw [htime]
  exact hclock call hcall

/-- The repositories answer rows with keys, and channels of the user. -/
theorem keyedAnswers_respond (config : NotificationConfig) (turn : NotifyTurn) (db : Database)
    (op : NotifyOp) : KeyedAnswers op (notifyRespond config turn op db).1 := by
  cases op with
  | getEvent eventId =>
      rw [respond_getEvent]
      cases hfound : db.detectionEvents.find? eventId with
      | none => trivial
      | some row => exact ⟨row.id, rfl⟩
  | listForUser userId => exact fun channel hchannel => userId_of_mem_listForUser hchannel
  | getWatchTarget watchTargetId => trivial
  | getSnapshot snapshotId => trivial
  | listByWatchTarget watchTargetId => trivial
  | existsRecent key cooldownSeconds => trivial
  | send channel event context => trivial
  | createLog userId detectionEventId channelId status key => trivial

theorem keyedAnswers_called (op : NotifyOp) (turn : NotifyTurn) (committed : Database)
    (flushed : List NotificationLogModel) :
    KeyedAnswers op ((workerSessions config).respond op turn committed flushed).1 := by
  unfold workerSessions
  dsimp only
  split
  · exact keyedAnswers_respond config turn _ op
  · cases op <;> trivial

/-- A call of a task that has delivered returns. -/
theorem respond_returns {op : NotifyOp} (hdelivered : deliveries session ≠ [])
    (hsends : SendReplies config turn op) (hlasting : Lasting committed turn session op) :
    ∃ answer, (workerSessions config).respond op turn committed session.work =
      (.ok answer, committed, session.work ++ flushedBy turn.now op) := by
  obtain ⟨hrefers, hone⟩ := hlasting hdelivered
  have hreturns : ∃ answer, (notifyRespond config turn op
      (withFlushed committed session.work)).1 = .ok answer := by
    cases op with
    | getEvent eventId => exact ⟨_, congrArg Prod.fst (respond_getEvent ..)⟩
    | getWatchTarget watchTargetId => exact ⟨_, congrArg Prod.fst (respond_getWatchTarget ..)⟩
    | getSnapshot snapshotId => exact ⟨_, congrArg Prod.fst (respond_getSnapshot ..)⟩
    | listByWatchTarget watchTargetId => exact ⟨_, rfl⟩
    | existsRecent key cooldownSeconds => exact ⟨_, existsRecent_of_le_one hone⟩
    | listForUser userId => exact ⟨_, rfl⟩
    | send channel event context =>
        change (sendReply config turn channel event context).toOption.isSome = true at hsends
        change ∃ answer, sendReply config turn channel event context = .ok answer
        cases hreply : sendReply config turn channel event context with
        | ok success => exact ⟨success, rfl⟩
        | error error =>
            rw [hreply] at hsends
            cases hsends
    | createLog userId detectionEventId channelId status key => exact ⟨_, rfl⟩
  obtain ⟨answer, hanswer⟩ := hreturns
  refine ⟨answer, ?_⟩
  unfold workerSessions
  simp only [if_pos hrefers, hanswer]

/-- Only the log of a send may follow it. -/
theorem createLog_of_unlogged {progress : NotifyProgress} {op : NotifyOp}
    (hallows : progress.Allows config op) (hunlogged : progress.unlogged.isSome = true) :
    ∃ userId detectionEventId channelId status key,
      op = .createLog userId detectionEventId channelId status key ∧
        progress.claimed = some key := by
  have hnot : progress.unlogged ≠ none := Option.isSome_iff_ne_none.mp hunlogged
  obtain ⟨_, hop⟩ := hallows
  cases op with
  | createLog userId detectionEventId channelId status key => exact ⟨_, _, _, _, _, rfl, hop.1⟩
  | send channel event context => exact absurd hop.1 hnot
  | existsRecent key cooldownSeconds => exact absurd hop.1 hnot
  | getEvent eventId => exact absurd hop hnot
  | getWatchTarget watchTargetId => exact absurd hop hnot
  | getSnapshot snapshotId => exact absurd hop hnot
  | listByWatchTarget watchTargetId => exact absurd hop hnot
  | listForUser userId => exact absurd hop hnot

/-- What a run holds claimed after a call, it held before or has just looked up. -/
theorem claimed_next {progress : NotifyProgress} {op : NotifyOp}
    {reply : Reply notifyPort Raised op} {key : String}
    (hclaimed : (progress.next op reply).claimed = some key) :
    progress.claimed = some key ∨ claimOf (turn, ⟨op, reply⟩) = some (key, turn.now) := by
  cases reply with
  | error error => exact Or.inl hclaimed
  | ok answer =>
      cases op with
      | existsRecent looked cooldownSeconds =>
          cases answer with
          | true => cases hclaimed
          | false =>
              cases hclaimed
              exact Or.inr rfl
      | _ => exact Or.inl hclaimed

theorem failed_returned (progress : NotifyProgress) (op : NotifyOp) (answer : op.Answer) :
    (progress.returned op answer).failed = progress.failed := by
  cases op <;> rfl

/-- A task sends for a key that it has claimed before. -/
theorem Careful.claims_of_delivery (hcareful : Careful config committed session)
    (hclock : ∀ call ∈ session.calls, call.1.now ≤ turn.now) {op : NotifyOp}
    {resume : Reply notifyPort Raised op → Notify Unit} {reply : Reply notifyPort Raised op}
    (hprogram : session.program = .call op resume) {delivery : Delivery}
    (hdelivery : deliveryOf (turn, ⟨op, reply⟩) = some delivery) :
    delivery.time = turn.now ∧ ∃ time ≤ turn.now, (delivery.key, time) ∈ claims session := by
  have hallows : (progressOf config session).Allows config op :=
    Co.pre_of_obeys hcareful.obeys hprogram
  obtain ⟨context, hcall, hnow⟩ := deliveryOf_eq_some hdelivery
  cases hcall
  obtain ⟨_, _, _, _, hclaimed⟩ := hallows
  obtain ⟨time, htime⟩ := hcareful.claimed _ hclaimed
  exact ⟨hnow, time, time_le_of_mem_claims hclock htime, htime⟩

/-- The step lemma for one task. -/
theorem Careful.called (hcareful : Careful config committed session)
    (hclock : ∀ call ∈ session.calls, call.1.now ≤ turn.now)
    (hsends : OfNextCall (fun _ => SendReplies config turn) session)
    (hlasting : OfNextCall (Lasting committed turn) session)
    (hcalled : (workerSessions config).called committed turn session = some (next, after)) :
    next = committed ∧ Careful config committed after := by
  have hobeys := SessionSpec.obeys_called hcareful.obeys
    (fun op _ => keyedAnswers_called op turn committed session.work) hcalled
  obtain ⟨op, resume, reply, work, hprogress, hprogram, hrespond, hafter⟩ :=
    SessionSpec.called_cases hcalled
  unfold OfNextCall at hsends hlasting
  rw [hprogram] at hsends hlasting
  have hallows : (progressOf config session).Allows config op :=
    Co.pre_of_obeys hcareful.obeys hprogram
  have hcalls : after.calls = session.calls ++ [(turn, ⟨op, reply⟩)] := by rw [hafter]
  have hnext : progressOf config after = (progressOf config session).next op reply :=
    SessionSpec.ghost_concat (notifyProtocol config) .start hcalls
  have hresponse : after.response = none := by rw [hafter]; exact hprogress
  have hreturns : deliveries session ≠ [] → (∃ answer, reply = .ok answer) ∧
      after.work = session.work ++ flushedBy turn.now op := by
    intro hdelivered
    obtain ⟨answer, hanswer⟩ := respond_returns hdelivered hsends hlasting
    rw [hrespond] at hanswer
    cases hanswer
    exact ⟨⟨answer, rfl⟩, by rw [hafter]⟩
  have hcommitted : next = committed := by
    unfold workerSessions at hrespond
    dsimp only at hrespond
    split at hrespond
    · cases hrespond
      rfl
    · cases hrespond
      rfl
  refine ⟨hcommitted, hobeys, ?_, ?_, ?_, ?_, ?_, ?_⟩
  · intro key hclaimed
    rw [hnext] at hclaimed
    rw [claims_concat hcalls]
    rcases claimed_next hclaimed with hold | hnew
    · obtain ⟨time, htime⟩ := hcareful.claimed key hold
      exact ⟨time, List.mem_append_left _ htime⟩
    · exact ⟨turn.now, List.mem_append_right _ (by rw [hnew]; exact List.mem_singleton_self _)⟩
  · intro delivery hdelivery
    rw [deliveries_concat hcalls] at hdelivery
    rw [claims_concat hcalls]
    rcases List.mem_append.mp hdelivery with hold | hnew
    · obtain ⟨time, hle, htime⟩ := hcareful.delivered delivery hold
      exact ⟨time, hle, List.mem_append_left _ htime⟩
    · obtain ⟨hnow, time, hle, htime⟩ :=
        hcareful.claims_of_delivery hclock hprogram (Option.mem_toList.mp hnew)
      rw [hnow]
      exact ⟨time, hle, List.mem_append_left _ htime⟩
  · intro hdelivered
    rw [hnext]
    cases reply with
    | ok answer => exact (failed_returned _ op answer).trans hallows.1
    | error error =>
        rw [deliveries_concat hcalls] at hdelivered
        have hnone : deliveryOf (turn, ⟨op, .error error⟩) = none := by cases op <;> rfl
        rw [hnone] at hdelivered
        obtain ⟨⟨answer, hanswer⟩, _⟩ := hreturns (by simpa using hdelivered)
        cases hanswer
  · intro _ delivery hdelivery
    rw [deliveries_concat hcalls] at hdelivery
    rw [hnext]
    rcases List.mem_append.mp hdelivery with hold | hnew
    · obtain ⟨⟨answer, rfl⟩, hwork⟩ := hreturns (List.ne_nil_of_mem hold)
      rw [hwork, loggedSince_append_iff]
      rcases hcareful.logged hprogress delivery hold with ⟨hunlogged, hclaimed⟩ | hlogged
      · obtain ⟨userId, eventId, channelId, status, key, rfl, hkey⟩ :=
          createLog_of_unlogged hallows hunlogged
        rw [hclaimed] at hkey
        cases hkey
        exact Or.inr (Or.inr ⟨_, List.mem_singleton_self _, rfl,
          time_le_of_mem_deliveries hclock hold⟩)
      · exact Or.inr (Or.inl hlogged)
    · obtain ⟨context, hcall, _⟩ := deliveryOf_eq_some (Option.mem_toList.mp hnew)
      cases hcall
      obtain ⟨_, _, _, _, hclaimed⟩ := hallows
      exact Or.inl ⟨rfl, hclaimed⟩
  · intro value hended
    rw [hresponse] at hended
    cases hended
  · intro error hended
    rw [hresponse] at hended
    cases hended

/-- A task that returns commits what it has logged; one that raises has delivered nothing. -/
theorem Careful.finished (hcareful : Careful config committed session)
    (hfinished : (workerSessions config).finished committed session = some (next, after)) :
    (∀ key time, LoggedSince committed.notificationLogs.rows key time →
        LoggedSince next.notificationLogs.rows key time) ∧ Careful config next after := by
  obtain ⟨hprogress, hended⟩ := SessionSpec.finished_cases hfinished
  have hobeys := hcareful.obeys
  rcases hended with ⟨value, hprogram, hcommit, rfl⟩ | ⟨error, hprogram, rfl, rfl⟩
  · cases hcommit
    have hkeeps : ∀ key time, LoggedSince committed.notificationLogs.rows key time →
        LoggedSince (withFlushed committed session.work).notificationLogs.rows key time :=
      fun key time hlogged => loggedSince_withFlushed_iff.mpr (Or.inl hlogged)
    refine ⟨hkeeps, hobeys, hcareful.claimed, hcareful.delivered, hcareful.unfailed, nofun, ?_,
      nofun⟩
    intro _ _ delivery hdelivery
    rw [hprogram] at hobeys
    have hunlogged : (progressOf config session).unlogged = none := hobeys
    rcases hcareful.logged hprogress delivery hdelivery with ⟨hpending, _⟩ | hlogged
    · rw [hunlogged] at hpending
      cases hpending
    · exact loggedSince_withFlushed_iff.mpr (Or.inr hlogged)
  · refine ⟨fun _ _ hlogged => hlogged, hobeys, hcareful.claimed, hcareful.delivered,
      hcareful.unfailed, nofun, nofun, ?_⟩
    intro _ _
    rcases hprogram with hprogram | ⟨value, _, hcommit⟩
    · rw [hprogram] at hobeys
      have hfailed : (progressOf config session).failed = true := hobeys
      by_contra hdelivered
      rw [hcareful.unfailed hdelivered] at hfailed
      cases hfailed
    · cases hcommit

end Calls

/-! ## What two tasks keep -/

/-- What holds of two tasks. -/
structure Separate (config : NotificationConfig) (session other : TaskSession) : Prop where
  exclusive : session.InProgress → other.InProgress → ∀ key time later,
    (key, time) ∈ claims session → (key, later) ∉ claims other
  apart : ∀ first ∈ deliveries session, ∀ second ∈ deliveries other, first.key = second.key →
    first.time + seconds config.cooldownSeconds ≤ second.time ∨
      second.time + seconds config.cooldownSeconds ≤ first.time
  /-- what a task under way has claimed, the other has delivered a cooldown before -/
  before : session.InProgress → ∀ time, ∀ delivery ∈ deliveries other,
    (delivery.key, time) ∈ claims session →
      delivery.time + seconds config.cooldownSeconds ≤ time

section Pairs

variable {config : NotificationConfig} {committed next : Database} {turn : NotifyTurn}
  {session after other : TaskSession}

/-- What a lookup that answers false has selected. -/
theorem recentRows_eq_nil {key : String} {cooldownSeconds : Int}
    (hreply : ((workerSessions config).respond (.existsRecent key cooldownSeconds) turn committed
      session.work).1 = .ok false) :
    SqlAlchemyNotificationLogRepository.recentRows (withFlushed committed session.work) key
      cooldownSeconds turn.now = [] := by
  change (scalarOneOrNone (SqlAlchemyNotificationLogRepository.recentRows
    (withFlushed committed session.work) key cooldownSeconds turn.now)).map Option.isSome =
      .ok false at hreply
  match hrows : SqlAlchemyNotificationLogRepository.recentRows
    (withFlushed committed session.work) key cooldownSeconds turn.now with
  | [] => rfl
  | [row] =>
      rw [hrows] at hreply
      cases hreply
  | _ :: _ :: _ =>
      rw [hrows] at hreply
      cases hreply

/-- A key is claimed beside no other claim, and a cooldown after every delivery. -/
theorem separate_claim (hother : Careful config committed other) {others : List TaskSession}
    (hmem : other ∈ others) {key : String}
    (hnone : SqlAlchemyNotificationLogRepository.recentRows (withFlushed committed session.work)
      key config.cooldownSeconds turn.now = [])
    (hexclusive : Exclusive committed others turn session
      (.existsRecent key config.cooldownSeconds)) :
    (other.InProgress → ∀ time, (key, time) ∉ claims other) ∧
      ∀ delivery ∈ deliveries other, delivery.key = key →
        delivery.time + seconds config.cooldownSeconds ≤ turn.now := by
  have hunclaimed : other.InProgress → ∀ time, (key, time) ∉ claims other := by
    intro hprogress time hclaim
    exact hexclusive hnone other hmem hprogress (List.mem_map.mpr ⟨_, hclaim, rfl⟩)
  refine ⟨hunclaimed, ?_⟩
  rintro delivery hdelivery rfl
  cases hresponse : other.response with
  | none =>
      obtain ⟨time, _, hclaim⟩ := hother.delivered delivery hdelivery
      exact absurd hclaim (hunclaimed hresponse time)
  | some result =>
      cases result with
      | ok value =>
          exact add_le_of_not_recent (hother.committed value hresponse delivery hdelivery) hnone
      | error error =>
          rw [hother.discarded error hresponse] at hdelivery
          cases hdelivery

/-- The step lemma for two tasks. -/
theorem separate_called (hcareful : Careful config committed session)
    (hclock : ∀ call ∈ session.calls, call.1.now ≤ turn.now) {others : List TaskSession}
    (hexclusive : OfNextCall (Exclusive committed others turn) session)
    (hcalled : (workerSessions config).called committed turn session = some (next, after))
    (hmem : other ∈ others) (hother : Careful config committed other)
    (hseparate : Separate config session other) (hreverse : Separate config other session) :
    Separate config after other ∧ Separate config other after := by
  obtain ⟨op, resume, reply, work, hprogress, hprogram, hrespond, hafter⟩ :=
    SessionSpec.called_cases hcalled
  unfold OfNextCall at hexclusive
  rw [hprogram] at hexclusive
  have hallows : (progressOf config session).Allows config op :=
    Co.pre_of_obeys hcareful.obeys hprogram
  have hcalls : after.calls = session.calls ++ [(turn, ⟨op, reply⟩)] := by rw [hafter]
  have hclaims := claims_concat hcalls
  have hdeliveries := deliveries_concat hcalls
  have hclaim : ∀ key time, (key, time) ∈ claims after → (key, time) ∈ claims session ∨
      (time = turn.now ∧ (other.InProgress → ∀ time, (key, time) ∉ claims other) ∧
        ∀ delivery ∈ deliveries other, delivery.key = key →
          delivery.time + seconds config.cooldownSeconds ≤ turn.now) := by
    intro key time hmemClaim
    rw [hclaims] at hmemClaim
    rcases List.mem_append.mp hmemClaim with hold | hnew
    · exact Or.inl hold
    · obtain ⟨cooldownSeconds, hcall, htime⟩ := claimOf_eq_some (Option.mem_toList.mp hnew)
      cases hcall
      obtain ⟨_, _, rfl⟩ := hallows
      exact Or.inr ⟨htime.symm, separate_claim hother hmem
        (recentRows_eq_nil (congrArg Prod.fst hrespond)) hexclusive⟩
  have hdelivery : ∀ delivery ∈ deliveries after, delivery ∈ deliveries session ∨
      (delivery.time = turn.now ∧ ∃ time ≤ turn.now, (delivery.key, time) ∈ claims session) := by
    intro delivery hmemDelivery
    rw [hdeliveries] at hmemDelivery
    rcases List.mem_append.mp hmemDelivery with hold | hnew
    · exact Or.inl hold
    · exact Or.inr (hcareful.claims_of_delivery hclock hprogram (Option.mem_toList.mp hnew))
  have hexclusiveAfter : other.InProgress → ∀ key time later, (key, time) ∈ claims after →
      (key, later) ∉ claims other := by
    intro hunder key time later hmemClaim
    rcases hclaim key time hmemClaim with hold | ⟨_, hnone, _⟩
    · exact hseparate.exclusive hprogress hunder key time later hold
    · exact hnone hunder later
  have hapartAfter : ∀ first ∈ deliveries after, ∀ second ∈ deliveries other,
      first.key = second.key → first.time + seconds config.cooldownSeconds ≤ second.time ∨
        second.time + seconds config.cooldownSeconds ≤ first.time := by
    intro first hfirst second hsecond hkey
    rcases hdelivery first hfirst with hold | ⟨hnow, time, hle, hclaimed⟩
    · exact hseparate.apart first hold second hsecond hkey
    · rw [hkey] at hclaimed
      rw [hnow]
      exact Or.inr (Int.le_trans (hseparate.before hprogress time second hsecond hclaimed) hle)
  refine ⟨⟨fun _ hunder => hexclusiveAfter hunder, hapartAfter, ?_⟩, ⟨?_, ?_, ?_⟩⟩
  · intro _ time delivery hmemDelivery hmemClaim
    rcases hclaim _ time hmemClaim with hold | ⟨rfl, _, hbefore⟩
    · exact hseparate.before hprogress time delivery hmemDelivery hold
    · exact hbefore delivery hmemDelivery rfl
  · intro hunder _ key time later hmemOther hmemAfter
    exact hexclusiveAfter hunder key later time hmemAfter hmemOther
  · intro first hfirst second hsecond hkey
    exact (hapartAfter second hsecond first hfirst hkey.symm).symm
  · intro hunder time delivery hmemDelivery hmemClaim
    rcases hdelivery delivery hmemDelivery with hold | ⟨_, later, _, hclaimed⟩
    · exact hreverse.before hunder time delivery hold hmemClaim
    · exact absurd hmemClaim (hseparate.exclusive hprogress hunder _ later time hclaimed)

/-- A task that ends claims and delivers nothing more. -/
theorem separate_finished
    (hfinished : (workerSessions config).finished committed session = some (next, after))
    (hseparate : Separate config session other) (hreverse : Separate config other session) :
    Separate config after other ∧ Separate config other after := by
  obtain ⟨_, ⟨value, _, _, rfl⟩ | ⟨error, _, _, rfl⟩⟩ := SessionSpec.finished_cases hfinished
  · exact ⟨⟨nofun, hseparate.apart, nofun⟩, ⟨fun _ => nofun, hreverse.apart, hreverse.before⟩⟩
  · exact ⟨⟨nofun, hseparate.apart, nofun⟩, ⟨fun _ => nofun, hreverse.apart, hreverse.before⟩⟩

end Pairs

/-! ## Whole runs -/

theorem ofNextCall_and {left right : TaskSession → NotifyOp → Prop} {session : TaskSession}
    (hboth : OfNextCall (fun session op => left session op ∧ right session op) session) :
    OfNextCall left session ∧ OfNextCall right session := by
  unfold OfNextCall at *
  cases hprogram : session.program with
  | call op resume =>
      rw [hprogram] at hboth
      exact hboth
  | ret value => exact ⟨trivial, trivial⟩
  | raise error => exact ⟨trivial, trivial⟩

theorem careful_opened (config : NotificationConfig) (committed : Database) (eventId : Nat) :
    Careful config committed ((workerSessions config).opened eventId) := by
  refine ⟨processEvent_obeys config eventId, ?_, ?_, ?_, ?_, ?_, ?_⟩
  · intro key hclaimed
    exact absurd hclaimed (Option.some_ne_none key).symm
  · intro delivery hdelivery
    cases hdelivery
  · intro hdelivered
    exact absurd rfl hdelivered
  · intro _ delivery hdelivery
    cases hdelivery
  · intro value hended
    cases hended
  · intro error _
    rfl

theorem separate_opened (config : NotificationConfig) (eventId : Nat) (other : TaskSession) :
    Separate config ((workerSessions config).opened eventId) other ∧
      Separate config other ((workerSessions config).opened eventId) := by
  have hclaims : claims ((workerSessions config).opened eventId) = [] := rfl
  have hdeliveries : deliveries ((workerSessions config).opened eventId) = [] := rfl
  refine ⟨⟨?_, ?_, ?_⟩, ⟨?_, ?_, ?_⟩⟩ <;> simp [hclaims, hdeliveries]

/-- Why the moves of the tasks keep their deliveries apart. -/
def cooldownKept (config : NotificationConfig) :
    Interference (workerSessions config) fun system move =>
      (ClockRuns system move ∧ SendsReturn config system move) ∧ KeepsCooldown system move where
  single := Careful config
  pair := Separate config
  keeps committed next := ∀ key time, LoggedSince committed.notificationLogs.rows key time →
    LoggedSince next.notificationLogs.rows key time
  keeps_refl _ _ _ hlogged := hlogged
  outside_keeps _ _ _ _ hlogged := hlogged
  single_keeps _ _ _ hkeeps hcareful :=
    { hcareful with
      committed := fun value hended delivery hdelivery =>
        hkeeps _ _ (hcareful.committed value hended delivery hdelivery) }
  single_opened committed key := careful_opened config committed key
  pair_opened key other := separate_opened config key other
  single_called := by
    intro system index turn session next after ⟨⟨hclock, hsends⟩, hkeeps⟩ hsession hcareful hcalled
    obtain ⟨rfl, hafter⟩ := hcareful.called (hclock session (List.mem_of_getElem? hsession))
      (hsends session hsession) (ofNextCall_and (hkeeps session hsession)).2 hcalled
    exact ⟨fun _ _ hlogged => hlogged, hafter⟩
  pair_called := by
    intro system index turn session next after other position ⟨⟨hclock, _⟩, hkeeps⟩ hsession
      hcareful hcalled hne hposition hother hseparate hreverse
    exact separate_called hcareful (hclock session (List.mem_of_getElem? hsession))
      (ofNextCall_and (hkeeps session hsession)).1 hcalled
      (List.mem_eraseIdx_iff_getElem?.mpr ⟨position, hne, hposition⟩) hother hseparate hreverse
  single_finished _ _ _ _ hcareful hfinished := hcareful.finished hfinished
  pair_finished _ _ _ _ _ _ hfinished _ hseparate hreverse :=
    separate_finished hfinished hseparate hreverse

/-- If no move of a run races for a key or takes a delivery back, then deliveries by
different tasks for one user, target and type are a cooldown apart. -/
theorem cooldown_across_workers (config : NotificationConfig) (committed : Database)
    (moves : List (SessionMove Nat NotifyTurn Database)) (last : TaskSystem)
    (hclock : Along (workerSessions config).step ClockRuns ⟨committed, []⟩ moves)
    (hsends : Along (workerSessions config).step (SendsReturn config) ⟨committed, []⟩ moves)
    (hkeeps : Along (workerSessions config).step KeepsCooldown ⟨committed, []⟩ moves)
    (hrun : runFrom (workerSessions config).step ⟨committed, []⟩ moves = some last) :
    CooldownHolds config last := by
  have hholds := (cooldownKept config).holds_run ((hclock.and hsends).and hkeeps) hrun
    ((cooldownKept config).holds_start committed)
  intro index position session other hne hsession hother first hfirst second hsecond huser
    htarget htype _
  have hkey : first.key = second.key := by
    unfold Delivery.key
    rw [huser, htarget, htype]
  exact (hholds.pair index position session other hne hsession hother).apart first hfirst second
    hsecond hkey

/-- `telegramAlerts` with the user. -/
def subscribedAlerts : Database :=
  { telegramAlerts with users := ⟨[⟨10, "+919876543210", none, 0⟩], 11, by decide, by decide⟩ }

/-- Eight calls of a task, and its end. -/
def taskMoves (index : Nat) (turn : NotifyTurn) : List (SessionMove Nat NotifyTurn Database) :=
  List.replicate 8 (.call index turn) ++ [.finish index]

/-- Everything is delivered. -/
def deliveredTurn (now : Datetime) : NotifyTurn := ⟨now, .ok 200, .delivered⟩

/-- The second event is sent once the cooldown of the first is over. -/
theorem second_alert_after_cooldown :
    let moves : List (SessionMove Nat NotifyTurn Database) :=
      [.start 1, .start 2] ++ taskMoves 0 (deliveredTurn 0) ++
        taskMoves 1 (deliveredTurn 900000001)
    ∃ last, runFrom (workerSessions workerConfig).step ⟨subscribedAlerts, []⟩ moves = some last ∧
      last.sessions.map (fun session => (deliveries session).length) = [1, 1] ∧
        CooldownHolds workerConfig last := by
  intro moves
  have hreached : ((runFrom (workerSessions workerConfig).step ⟨subscribedAlerts, []⟩ moves).map
      fun last => last.sessions.map fun session => (deliveries session).length) =
        some [1, 1] := by decide +kernel
  obtain ⟨last, hrun, hsent⟩ := Option.map_eq_some_iff.mp hreached
  exact ⟨last, hrun, hsent, cooldown_across_workers workerConfig subscribedAlerts moves last
    (by decide +kernel) (by decide +kernel) (by decide +kernel) hrun⟩

/-- Two tasks look the user up before either commits, and both send. -/
theorem racing_tasks_both_deliver :
    let moves : List (SessionMove Nat NotifyTurn Database) :=
      [.start 1, .start 2] ++ List.replicate 7 (.call 0 (deliveredTurn 0)) ++
        taskMoves 1 (deliveredTurn 1) ++ [.call 0 (deliveredTurn 1), .finish 0]
    Along (workerSessions workerConfig).step ClockRuns ⟨subscribedAlerts, []⟩ moves ∧
      Along (workerSessions workerConfig).step (SendsReturn workerConfig) ⟨subscribedAlerts, []⟩
        moves ∧
      ∃ last, runFrom (workerSessions workerConfig).step ⟨subscribedAlerts, []⟩ moves =
          some last ∧
        (last.committed.notificationLogs.rows.map fun row => (row.dedupKey, row.status)) =
          [("10:1:stock_available", "sent"), ("10:1:stock_available", "sent")] ∧
        ¬ CooldownHolds workerConfig last := by
  intro moves
  refine ⟨by decide +kernel, by decide +kernel, ?_⟩
  have hreached : ((runFrom (workerSessions workerConfig).step ⟨subscribedAlerts, []⟩ moves).map
      fun last => (last.sessions.map deliveries,
        last.committed.notificationLogs.rows.map fun row => (row.dedupKey, row.status))) =
      some ([[⟨⟨some 1, 10, .telegram, [("chat_id", "77")], true⟩, milkEvent, 0⟩],
          [⟨⟨some 1, 10, .telegram, [("chat_id", "77")], true⟩,
            { milkEvent with id := some 2 }, 1⟩]],
        [("10:1:stock_available", "sent"), ("10:1:stock_available", "sent")]) := by
    decide +kernel
  obtain ⟨last, hrun, hboth⟩ := Option.map_eq_some_iff.mp hreached
  obtain ⟨hsent, hrows⟩ := Prod.ext_iff.mp hboth
  refine ⟨last, hrun, hrows, ?_⟩
  intro hholds
  obtain ⟨session, hsession, hfirst⟩ := Option.map_eq_some_iff.mp
    (List.getElem?_map.symm.trans (congrArg (·[0]?) hsent))
  obtain ⟨other, hother, hsecond⟩ := Option.map_eq_some_iff.mp
    (List.getElem?_map.symm.trans (congrArg (·[1]?) hsent))
  have hapart := hholds 0 1 session other (by decide) hsession hother
  rw [hfirst, hsecond] at hapart
  have hdistance := hapart _ (List.mem_singleton_self _) _ (List.mem_singleton_self _) rfl rfl rfl
    rfl
  revert hdistance
  decide

end StockMonitoring.Tasks
