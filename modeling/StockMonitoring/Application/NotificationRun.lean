import StockMonitoring.Application.NotificationService
import StockMonitoring.Foundation.Lists

set_option autoImplicit false

/-!
# Application: what one run of the notification service does

`dueChannels` is the list of channels a run owes a message: the channels with a sender
of the subscribed users whose dedup key is not in the recent log.  A run whose lookups
select at most one row each and whose due sends all return sends to exactly these
channels, logs each and completes; any other run raises (`processEvent_notified`).
-/

namespace StockMonitoring.Application

open StockMonitoring.Foundation StockMonitoring.Domain StockMonitoring.Infrastructure.Db

/-! ## Whom a run owes a message -/

/-- The users of the watches that are not in `seenUsers`, by first watch. -/
def newUsers : List Watch → List Nat → List Nat
  | [], _ => []
  | watch :: rest, seenUsers =>
      if watch.userId ∈ seenUsers then newUsers rest seenUsers
      else watch.userId :: newUsers rest (watch.userId :: seenUsers)

theorem not_mem_seen_of_mem_newUsers {watches : List Watch} {seenUsers : List Nat} {userId : Nat}
    (hmem : userId ∈ newUsers watches seenUsers) : userId ∉ seenUsers := by
  induction watches generalizing seenUsers with
  | nil => cases hmem
  | cons watch rest ih =>
      unfold newUsers at hmem
      split at hmem
      · exact ih hmem
      · rename_i hnew
        rcases List.mem_cons.mp hmem with rfl | hlater
        · exact hnew
        · exact fun hseen => ih hlater (List.mem_cons_of_mem _ hseen)

/-- The subscribed users of a target. -/
def subscribers (db : Database) (watchTargetId : Nat) : List Nat :=
  newUsers (SqlAlchemyWatchRepository.listByWatchTarget db watchTargetId) []

/-- The event with the context of its messages, as far as `process_event` finds them. -/
def contextOf (db : Database) (eventId : Nat) : Option (DetectionEvent × NotificationContext) := do
  let event ← (db.detectionEvents.find? eventId).map toDetectionEvent
  let watchTarget ← (db.watchTargets.find? event.watchTargetId).map toWatchTarget
  let snapshot ← (db.snapshots.find? event.snapshotId).map toSnapshot
  some (event, ⟨watchTarget.keyword, watchTarget.retailerSlug, event.eventType, snapshot⟩)

section Due

variable (config : NotificationConfig) (turns : NotifyOp → NotifyTurn)

/-- The rows of the log that the lookup for a user selects. -/
def recentOf (event : DetectionEvent) (db : Database) (userId : Nat) :
    List NotificationLogModel :=
  let key := dedupKey userId event.watchTargetId event.eventType
  SqlAlchemyNotificationLogRepository.recentRows db key config.cooldownSeconds
    (turns (.existsRecent key config.cooldownSeconds)).now

/-- The channels that have a sender. -/
def withSender (channels : List NotificationChannel) : List NotificationChannel :=
  channels.filter fun channel => (config.senders channel.type).isSome

/-- The channels of a user that are owed a message. -/
def dueOf (event : DetectionEvent) (db : Database) (userId : Nat) : List NotificationChannel :=
  if recentOf config turns event db userId = [] then
    withSender config (SqlAlchemyNotificationChannelRepository.listForUser db userId)
  else []

/-- The channels that are owed a message for an event. -/
def dueChannels (event : DetectionEvent) (db : Database) : List NotificationChannel :=
  (subscribers db event.watchTargetId).flatMap (dueOf config turns event db)

/-- Every lookup of the run selects at most one row. -/
def LookupsFine (event : DetectionEvent) (db : Database) : Prop :=
  ∀ userId ∈ subscribers db event.watchTargetId,
    (recentOf config turns event db userId).length ≤ 1

/-- What the send to a channel answers in the run. -/
def sendAnswer (event : DetectionEvent) (context : NotificationContext)
    (channel : NotificationChannel) : Except Raised Bool :=
  sendReply config (turns (.send channel event context)) channel event context

/-- The send to a channel returns a bool. -/
def SendReturns (event : DetectionEvent) (context : NotificationContext)
    (channel : NotificationChannel) : Prop :=
  ∃ success, sendAnswer config turns event context channel = .ok success

instance decidableLookupsFine (event : DetectionEvent) (db : Database) :
    Decidable (LookupsFine config turns event db) :=
  inferInstanceAs (Decidable (∀ userId ∈ subscribers db event.watchTargetId,
    (recentOf config turns event db userId).length ≤ 1))

instance decidableSendReturns (event : DetectionEvent) (context : NotificationContext)
    (channel : NotificationChannel) :
    Decidable (SendReturns config turns event context channel) :=
  match hanswer : sendAnswer config turns event context channel with
  | .ok success => isTrue ⟨success, hanswer⟩
  | .error _ => isFalse fun ⟨_, hsuccess⟩ => (by cases hanswer.symm.trans hsuccess)

end Due

theorem userId_of_mem_listForUser {db : Database} {userId : Nat} {channel : NotificationChannel}
    (hchannel : channel ∈ SqlAlchemyNotificationChannelRepository.listForUser db userId) :
    channel.userId = userId ∧ ∃ id, channel.id = some id := by
  obtain ⟨row, hrow, rfl⟩ := List.mem_map.mp hchannel
  have huser := (List.mem_filter.mp hrow).2
  exact ⟨by simpa [toNotificationChannel] using huser, row.id, rfl⟩

theorem userId_of_mem_dueOf {config : NotificationConfig} {turns : NotifyOp → NotifyTurn}
    {event : DetectionEvent} {db : Database} {userId : Nat} {channel : NotificationChannel}
    (hchannel : channel ∈ dueOf config turns event db userId) : channel.userId = userId := by
  unfold dueOf at hchannel
  split at hchannel
  · exact (userId_of_mem_listForUser (List.mem_filter.mp hchannel).1).1
  · cases hchannel

/-! ## What a run leaves in the log -/

section Logging

variable (config : NotificationConfig) (turns : NotifyOp → NotifyTurn) (event : DetectionEvent)
  (context : NotificationContext)

/-- The row that logs the send to a channel. -/
structure LogsSend (channel : NotificationChannel) (row : NotificationLogModel) : Prop where
  userId : row.userId = channel.userId
  detectionEventId : event.id = some row.detectionEventId
  channelId : channel.id = some row.channelId
  dedupKey : row.dedupKey = dedupKey channel.userId event.watchTargetId event.eventType
  status : ∃ success, sendAnswer config turns event context channel = .ok success ∧
    row.status = if success then "sent" else "failed"

/-- From `db` to `next` the sends to `channels` have been logged, and nothing else has
changed. -/
def Logged (channels : List NotificationChannel) (db next : Database) : Prop :=
  ∃ logs : Table NotificationLogModel, next = { db with notificationLogs := logs } ∧
    ∃ added, logs.rows = db.notificationLogs.rows ++ added ∧
      List.Forall₂ (LogsSend config turns event context) channels added

end Logging

section Spec

variable {config : NotificationConfig} {turns : NotifyOp → NotifyTurn} {event : DetectionEvent}
  {context : NotificationContext} {db next last : Database}
  {first second channels : List NotificationChannel}

theorem Logged.refl : Logged config turns event context [] db db :=
  ⟨db.notificationLogs, rfl, [], (List.append_nil _).symm, .nil⟩

theorem Logged.trans (hfirst : Logged config turns event context first db next)
    (hsecond : Logged config turns event context second next last) :
    Logged config turns event context (first ++ second) db last := by
  obtain ⟨logs, rfl, added, hrows, hadded⟩ := hfirst
  obtain ⟨logs', rfl, added', hrows', hadded'⟩ := hsecond
  refine ⟨logs', rfl, added ++ added', ?_, List.rel_append hadded hadded'⟩
  rw [hrows', hrows, List.append_assoc]

/-- The row `create` inserts for a send logs it. -/
theorem Logged.create {channel : NotificationChannel} {userId eventId channelId : Nat}
    {success : Bool} {now : Datetime} (hevent : event.id = some eventId)
    (hchannel : channel.id = some channelId) (huser : channel.userId = userId)
    (hsend : sendAnswer config turns event context channel = .ok success) :
    Logged config turns event context [channel] db
      (SqlAlchemyNotificationLogRepository.create db userId eventId channelId
        (if success then "sent" else "failed")
        (dedupKey userId event.watchTargetId event.eventType) now).2 := by
  refine ⟨_, rfl, [_], rfl, .cons ?_ .nil⟩
  exact ⟨huser.symm, hevent, hchannel, by rw [huser], success, hsend, rfl⟩

/-- What is logged for other users does not have the key of a user. -/
theorem Logged.keyRows_eq {userId : Nat}
    (hlogged : Logged config turns event context channels db next)
    (hother : ∀ channel ∈ channels, channel.userId ≠ userId) :
    (next.notificationLogs.rows.filter fun row =>
        row.dedupKey == dedupKey userId event.watchTargetId event.eventType) =
      db.notificationLogs.rows.filter fun row =>
        row.dedupKey == dedupKey userId event.watchTargetId event.eventType := by
  obtain ⟨logs, rfl, added, hrows, hadded⟩ := hlogged
  simp only [hrows, List.filter_append]
  refine List.append_right_eq_self.mpr (List.filter_eq_nil_iff.mpr ?_)
  intro row hrow
  obtain ⟨channel, hchannel, hlogs⟩ := exists_partner hadded.flip hrow
  have hkey : row.dedupKey ≠ dedupKey userId event.watchTargetId event.eventType := by
    rw [hlogs.dedupKey]
    intro heq
    exact hother channel hchannel (dedupKey_injective heq).1
  simp [hkey]

/-- So the lookup for the user does not see it. -/
theorem Logged.recentOf_eq {userId : Nat}
    (hlogged : Logged config turns event context channels db next)
    (hother : ∀ channel ∈ channels, channel.userId ≠ userId) :
    recentOf config turns event next userId = recentOf config turns event db userId := by
  unfold recentOf SqlAlchemyNotificationLogRepository.recentRows
  simp only [Bool.and_comm (_ == _), ← List.filter_filter, hlogged.keyRows_eq hother]

theorem Logged.dueOf_eq {userId : Nat}
    (hlogged : Logged config turns event context channels db next)
    (hother : ∀ channel ∈ channels, channel.userId ≠ userId) :
    dueOf config turns event next userId = dueOf config turns event db userId := by
  unfold dueOf
  rw [hlogged.recentOf_eq hother]
  obtain ⟨logs, rfl, _⟩ := hlogged
  rfl

/-! ## The specification of a part of the service -/

/-- The sends among the calls of a run. -/
def sendsOf (trace : List (Event notifyPort Raised)) : List NotifyOp :=
  (trace.map Event.op).filter NotifyOp.isSend

/-- The sends of an event to a list of channels. -/
def sendsTo (event : DetectionEvent) (context : NotificationContext)
    (channels : List NotificationChannel) : List NotifyOp :=
  channels.map fun channel => .send channel event context

@[simp] theorem sendsOf_nil : sendsOf [] = [] := rfl

@[simp] theorem sendsOf_append (before after : List (Event notifyPort Raised)) :
    sendsOf (before ++ after) = sendsOf before ++ sendsOf after := by
  unfold sendsOf
  rw [List.map_append, List.filter_append]

theorem sendsTo_append :
    sendsTo event context (first ++ second) =
      sendsTo event context first ++ sendsTo event context second :=
  List.map_append

end Spec

/-- A part of the service that owes a message to `due`, and whose lookups are fine when
`fine` holds. -/
structure Notified (config : NotificationConfig) (turns : NotifyOp → NotifyTurn)
    (event : DetectionEvent) (context : NotificationContext) (due : List NotificationChannel)
    (fine : Prop) (db : Database) (outcome : Outcome notifyPort Raised Database Unit) : Prop where
  sends : sendsOf outcome.trace <+: sendsTo event context due
  completes : fine → (∀ channel ∈ due, SendReturns config turns event context channel) →
    outcome.result = .ok () ∧ sendsOf outcome.trace = sendsTo event context due ∧
      Logged config turns event context due db outcome.state
  fails : ¬ (fine ∧ ∀ channel ∈ due, SendReturns config turns event context channel) →
    ∃ error, outcome.result = .error error

section Parts

variable {config : NotificationConfig} {turns : NotifyOp → NotifyTurn} {event : DetectionEvent}
  {context : NotificationContext} {db : Database}

/-- A part that is done owes nothing. -/
theorem Notified.done {outcome : Outcome notifyPort Raised Database Unit}
    (hresult : outcome.result = .ok ()) (htrace : sendsOf outcome.trace = [])
    (hstate : outcome.state = db) :
    Notified config turns event context [] True db outcome := by
  refine ⟨htrace ▸ List.nil_prefix, ?_, ?_⟩
  · intro _ _
    exact ⟨hresult, htrace, hstate ▸ Logged.refl⟩
  · intro hbad
    exact absurd ⟨trivial, fun _ hnone => (by cases hnone)⟩ hbad

/-- A call that is not a send, in front of a part. -/
theorem Notified.after {due : List NotificationChannel} {fine : Prop}
    {outcome : Outcome notifyPort Raised Database Unit} {call : Event notifyPort Raised}
    (hcall : sendsOf [call] = [])
    (hrest : Notified config turns event context due fine db outcome) :
    Notified config turns event context due fine db (outcome.after call) := by
  have htrace : sendsOf (outcome.after call).trace = sendsOf outcome.trace := by
    rw [Outcome.after_trace, ← List.singleton_append, sendsOf_append, hcall, List.nil_append]
  refine ⟨htrace ▸ hrest.sends, ?_, hrest.fails⟩
  rw [htrace]
  exact hrest.completes

/-- Two parts one after the other.  What the second owes is read off the state in which
the first has logged all of its sends. -/
theorem Notified.bind {handler : Handler notifyPort Raised Database}
    {first second : List NotificationChannel} {fine fine' : Prop}
    {program : Notify Unit} {rest : Unit → Notify Unit}
    (hfirst : Notified config turns event context first fine db (program.exec handler db))
    (hsecond : ∀ next, Logged config turns event context first db next →
      Notified config turns event context second fine' next ((rest ()).exec handler next)) :
    Notified config turns event context (first ++ second) (fine ∧ fine') db
      ((program >>= rest).exec handler db) := by
  rw [Co.exec_bind]
  by_cases hgood : fine ∧ ∀ channel ∈ first, SendReturns config turns event context channel
  · obtain ⟨hresult, hsends, hlogged⟩ := hfirst.completes hgood.1 hgood.2
    have hrest := hsecond _ hlogged
    simp only [hresult]
    refine ⟨?_, ?_, ?_⟩
    · rw [sendsOf_append, hsends, sendsTo_append]
      exact List.prefix_append_right_inj _ |>.mpr hrest.sends
    · intro hfine hreturns
      obtain ⟨hresult', hsends', hlogged'⟩ := hrest.completes hfine.2
        fun channel hchannel => hreturns channel (List.mem_append_right _ hchannel)
      refine ⟨hresult', ?_, hlogged.trans hlogged'⟩
      rw [sendsOf_append, hsends, hsends', sendsTo_append]
    · intro hbad
      apply hrest.fails
      rintro ⟨hfine, hreturns⟩
      refine hbad ⟨⟨hgood.1, hfine⟩, ?_⟩
      intro channel hchannel
      rcases List.mem_append.mp hchannel with hleft | hright
      · exact hgood.2 channel hleft
      · exact hreturns channel hright
  · obtain ⟨error, hresult⟩ := hfirst.fails hgood
    simp only [hresult]
    have hbad : ¬ ((fine ∧ fine') ∧
        ∀ channel ∈ first ++ second, SendReturns config turns event context channel) := by
      rintro ⟨hfine, hreturns⟩
      exact hgood ⟨hfine.1, fun channel hchannel =>
        hreturns channel (List.mem_append_left _ hchannel)⟩
    refine ⟨?_, ?_, fun _ => ⟨error, rfl⟩⟩
    · rw [sendsTo_append]
      exact hfirst.sends.trans (List.prefix_append _ _)
    · intro hfine hreturns
      exact absurd ⟨hfine, hreturns⟩ hbad

end Parts

/-! ## The parts -/

/-- A handler whose calls do what the service's calls do, except perhaps the lookup of a
dedup key. -/
def AnswersAlike (config : NotificationConfig) (turns : NotifyOp → NotifyTurn)
    (handler : Handler notifyPort Raised Database) : Prop :=
  ∀ op db, (∀ key cooldownSeconds, op ≠ .existsRecent key cooldownSeconds) →
    handler op db = notifyRespond config (turns op) op db

section Run

variable {config : NotificationConfig} {turns : NotifyOp → NotifyTurn} {event : DetectionEvent}
  {context : NotificationContext} {db : Database} {userId : Nat}

theorem answersAlike_notifyHandler : AnswersAlike config turns (notifyHandler config turns) :=
  fun _ _ _ => rfl

/-- A call of the service that returns, and what the service does next. -/
theorem exec_askNotify {handler : Handler notifyPort Raised Database} {op : NotifyOp}
    {answer : op.Answer} {next : Database} (hreply : handler op db = (.ok answer, next))
    (rest : op.Answer → Notify Unit) :
    (askNotify op >>= rest).exec handler db =
      ((rest answer).exec handler next).after ⟨op, .ok answer⟩ :=
  @Co.exec_perform_ok notifyPort Raised Database Unit handler op db next answer hreply rest

/-- A call of the service that raises. -/
theorem exec_askNotify_raises {handler : Handler notifyPort Raised Database} {op : NotifyOp}
    {error : Raised} {next : Database} (hreply : handler op db = (.error error, next))
    (rest : op.Answer → Notify Unit) :
    (askNotify op >>= rest).exec handler db = ⟨[⟨op, .error error⟩], .error error, next⟩ :=
  @Co.exec_perform_error notifyPort Raised Database Unit handler op db next error hreply rest

/-- A send that returns and its log row, in front of the sends that remain. -/
theorem Notified.logged {channel : NotificationChannel} {due : List NotificationChannel}
    {next : Database} {outcome : Outcome notifyPort Raised Database Unit} {success : Bool}
    {log : Event notifyPort Raised} (hlog : sendsOf [log] = [])
    (hreturns : sendAnswer config turns event context channel = .ok success)
    (hlogged : Logged config turns event context [channel] db next)
    (hrest : Notified config turns event context due True next outcome) :
    Notified config turns event context (channel :: due) True db
      ((outcome.after log).after ⟨.send channel event context, .ok success⟩) := by
  have hfront := hrest.after hlog
  refine ⟨?_, ?_, ?_⟩
  · exact (List.prefix_cons_inj (NotifyOp.send channel event context)).mpr hfront.sends
  · intro _ hdue
    obtain ⟨hresult, hsends, hlogged'⟩ := hfront.completes trivial
      fun other hother => hdue other (List.mem_cons_of_mem _ hother)
    exact ⟨hresult, congrArg (NotifyOp.send channel event context :: ·) hsends,
      hlogged.trans hlogged'⟩
  · intro hbad
    apply hfront.fails
    rintro ⟨_, hdue⟩
    refine hbad ⟨trivial, ?_⟩
    intro other hother
    rcases List.mem_cons.mp hother with rfl | hlater
    · exact ⟨success, hreturns⟩
    · exact hdue other hlater

/-- A send that raises ends the run. -/
theorem Notified.raised {channel : NotificationChannel} {due : List NotificationChannel}
    {fine : Prop} {next : Database} {error : Raised}
    (hraises : sendAnswer config turns event context channel = .error error) :
    Notified config turns event context (channel :: due) fine db
      ⟨[⟨.send channel event context, .error error⟩], .error error, next⟩ := by
  have hfront : sendsTo event context [channel] <+: sendsTo event context (channel :: due) :=
    (List.prefix_cons_inj (NotifyOp.send channel event context)).mpr List.nil_prefix
  refine ⟨hfront, ?_, fun _ => ⟨error, rfl⟩⟩
  intro _ hdue
  obtain ⟨success, hreturns⟩ := hdue channel List.mem_cons_self
  cases hraises.symm.trans hreturns

/-- The loop over the channels of a user. -/
theorem notifyChannels_notified {handler : Handler notifyPort Raised Database}
    (halike : AnswersAlike config turns handler) {eventId : Nat}
    (hevent : event.id = some eventId) {channels : List NotificationChannel}
    (hchannels : ∀ channel ∈ channels, channel.userId = userId ∧ ∃ id, channel.id = some id) :
    Notified config turns event context (withSender config channels) True db
      ((notifyChannels config event context userId
        (dedupKey userId event.watchTargetId event.eventType) channels).exec handler db) := by
  induction channels generalizing db with
  | nil => exact Notified.done rfl rfl rfl
  | cons channel rest ih =>
      obtain ⟨huser, channelId, hchannel⟩ := hchannels channel List.mem_cons_self
      have hrest := fun next => @ih next fun other hother =>
        hchannels other (List.mem_cons_of_mem _ hother)
      cases hsender : config.senders channel.type with
      | none =>
          simp only [notifyChannels, withSender, hsender, List.filter_cons, Option.isSome_none,
            Bool.false_eq_true, if_false]
          exact hrest db
      | some sender =>
          have hdue : withSender config (channel :: rest) =
              channel :: withSender config rest := by
            simp only [withSender, List.filter_cons, hsender, Option.isSome_some, if_true]
          rw [hdue]
          simp only [notifyChannels, hsender, hevent, hchannel]
          have hreply : handler (.send channel event context) db =
              (sendAnswer config turns event context channel, db) :=
            halike (.send channel event context) db nofun
          cases hsend : sendAnswer config turns event context channel with
          | error error =>
              rw [exec_askNotify_raises (hreply.trans (by rw [hsend]))]
              exact Notified.raised hsend
          | ok success =>
              rw [exec_askNotify (hreply.trans (by rw [hsend])),
                exec_askNotify (halike (.createLog userId eventId channelId
                  (if success then "sent" else "failed")
                  (dedupKey userId event.watchTargetId event.eventType)) db nofun)]
              exact Notified.logged rfl hsend (Logged.create hevent hchannel huser hsend) (hrest _)

/-- A specification may be read with other words for the due channels and the lookups. -/
theorem Notified.congr {due due' : List NotificationChannel} {fine fine' : Prop}
    {outcome : Outcome notifyPort Raised Database Unit}
    (hnotified : Notified config turns event context due fine db outcome) (hdue : due = due')
    (hfine : fine ↔ fine') : Notified config turns event context due' fine' db outcome := by
  rw [← hdue, ← propext hfine]
  exact hnotified

/-- A user with a recent key is owed nothing. -/
theorem notifyUser_of_recent {handler : Handler notifyPort Raised Database}
    (hlookup : handler (.existsRecent (dedupKey userId event.watchTargetId event.eventType)
      config.cooldownSeconds) db = (.ok true, db)) :
    Notified config turns event context [] True db
      ((notifyUser config event context userId).exec handler db) := by
  unfold notifyUser
  rw [exec_askNotify hlookup]
  exact Notified.after rfl (Notified.done rfl rfl rfl)

/-- Without one, the user is owed a message on every channel that has a sender. -/
theorem notifyUser_of_not_recent {handler : Handler notifyPort Raised Database}
    (halike : AnswersAlike config turns handler) {eventId : Nat} (hevent : event.id = some eventId)
    (hlookup : handler (.existsRecent (dedupKey userId event.watchTargetId event.eventType)
      config.cooldownSeconds) db = (.ok false, db)) :
    Notified config turns event context
      (withSender config (SqlAlchemyNotificationChannelRepository.listForUser db userId)) True db
      ((notifyUser config event context userId).exec handler db) := by
  unfold notifyUser
  rw [exec_askNotify hlookup]
  simp only [Bool.false_eq_true, if_false]
  rw [exec_askNotify (halike (.listForUser userId) db nofun)]
  exact Notified.after rfl (Notified.after rfl (notifyChannels_notified halike hevent
    fun channel hchannel => userId_of_mem_listForUser hchannel))

/-- What `process_event` does for one user. -/
theorem notifyUser_notified {eventId : Nat} (hevent : event.id = some eventId) :
    Notified config turns event context (dueOf config turns event db userId)
      ((recentOf config turns event db userId).length ≤ 1) db
      ((notifyUser config event context userId).exec (notifyHandler config turns) db) := by
  have hlookup : notifyHandler config turns (.existsRecent
      (dedupKey userId event.watchTargetId event.eventType) config.cooldownSeconds) db =
      ((scalarOneOrNone (recentOf config turns event db userId)).map Option.isSome, db) := rfl
  unfold dueOf
  match hrecent : recentOf config turns event db userId with
  | [] =>
      rw [hrecent] at hlookup
      exact (notifyUser_of_not_recent answersAlike_notifyHandler hevent hlookup).congr
        (if_pos rfl).symm (iff_of_true trivial (Nat.zero_le _))
  | [row] =>
      rw [hrecent] at hlookup
      exact (notifyUser_of_recent hlookup).congr (if_neg (List.cons_ne_nil _ _)).symm
        (iff_of_true trivial (Nat.le_refl _))
  | first :: second :: rows =>
      rw [hrecent] at hlookup
      unfold notifyUser
      rw [exec_askNotify_raises hlookup]
      refine ⟨List.nil_prefix, ?_, fun _ => ⟨_, rfl⟩⟩
      intro hfine _
      simp at hfine

/-- What each user is owed in a state, and when the user's lookup is fine; the rows that
are logged for others change neither. -/
structure NotifiesUsers (config : NotificationConfig) (turns : NotifyOp → NotifyTurn)
    (event : DetectionEvent) (context : NotificationContext)
    (handler : Handler notifyPort Raised Database)
    (due : Database → Nat → List NotificationChannel) (fine : Database → Nat → Prop) : Prop where
  notified : ∀ db userId, Notified config turns event context (due db userId) (fine db userId) db
    ((notifyUser config event context userId).exec handler db)
  owner : ∀ db userId, ∀ channel ∈ due db userId, channel.userId = userId
  framed : ∀ db next channels userId, Logged config turns event context channels db next →
    (∀ channel ∈ channels, channel.userId ≠ userId) →
      due next userId = due db userId ∧ (fine next userId ↔ fine db userId)

theorem notifiesUsers_notifyHandler {eventId : Nat} (hevent : event.id = some eventId) :
    NotifiesUsers config turns event context (notifyHandler config turns)
      (dueOf config turns event)
      (fun db userId => (recentOf config turns event db userId).length ≤ 1) where
  notified _ _ := notifyUser_notified hevent
  owner _ _ _ := userId_of_mem_dueOf
  framed _ _ _ _ hlogged hother :=
    ⟨hlogged.dueOf_eq hother, by rw [hlogged.recentOf_eq hother]⟩

/-- The loop over the watches. -/
theorem notifyWatches_notified {handler : Handler notifyPort Raised Database}
    {due : Database → Nat → List NotificationChannel} {fine : Database → Nat → Prop}
    (husers : NotifiesUsers config turns event context handler due fine)
    (watches : List Watch) (seenUsers : List Nat) :
    Notified config turns event context ((newUsers watches seenUsers).flatMap (due db))
      (∀ user ∈ newUsers watches seenUsers, fine db user) db
      ((notifyWatches config event context watches seenUsers).exec handler db) := by
  induction watches generalizing db seenUsers with
  | nil =>
      have hnone : ∀ user ∈ newUsers [] seenUsers, fine db user :=
        fun user hmem => (by cases hmem)
      rw [eq_true hnone]
      exact Notified.done rfl rfl rfl
  | cons watch rest ih =>
      unfold notifyWatches newUsers
      split
      · exact ih seenUsers
      · rw [List.flatMap_cons, List.forall_mem_cons]
        refine Notified.bind (husers.notified db watch.userId) ?_
        intro next hlogged
        -- the users that remain are others, so the first user's rows do not concern them
        have hother : ∀ user ∈ newUsers rest (watch.userId :: seenUsers),
            ∀ channel ∈ due db watch.userId, channel.userId ≠ user := by
          intro user huser channel hchannel heq
          apply not_mem_seen_of_mem_newUsers huser
          rw [← heq, husers.owner _ _ channel hchannel]
          exact List.mem_cons_self
        refine (@ih next (watch.userId :: seenUsers)).congr ?_ ?_
        · exact List.flatMap_congr fun user huser =>
            (husers.framed _ _ _ _ hlogged (hother user huser)).1
        · exact forall₂_congr fun user huser =>
            (husers.framed _ _ _ _ hlogged (hother user huser)).2

theorem respond_getEvent (eventId : Nat) (turn : NotifyTurn) :
    notifyRespond config turn (.getEvent eventId) db =
      (.ok ((db.detectionEvents.find? eventId).map toDetectionEvent), db) :=
  congrArg (·, db) (SqlAlchemyDetectionEventRepository.getById_eq db eventId)

theorem respond_getWatchTarget (watchTargetId : Nat) (turn : NotifyTurn) :
    notifyRespond config turn (.getWatchTarget watchTargetId) db =
      (.ok ((db.watchTargets.find? watchTargetId).map toWatchTarget), db) :=
  congrArg (·, db) (SqlAlchemyWatchTargetRepository.getById_eq db watchTargetId)

theorem respond_getSnapshot (snapshotId : Nat) (turn : NotifyTurn) :
    notifyRespond config turn (.getSnapshot snapshotId) db =
      (.ok ((db.snapshots.find? snapshotId).map toSnapshot), db) :=
  congrArg (·, db) (SqlAlchemySnapshotRepository.getById_eq db snapshotId)

/-- The first calls of `process_event`, when the event exists. -/
theorem exec_processEvent {handler : Handler notifyPort Raised Database}
    (halike : AnswersAlike config turns handler) {eventId : Nat} {row : DetectionEventModel}
    (hrow : db.detectionEvents.find? eventId = some row) :
    (processEvent config eventId).exec handler db =
      ((((notifyOfEvent config (toDetectionEvent row)
        ((db.watchTargets.find? row.watchTargetId).map toWatchTarget)
        ((db.snapshots.find? row.snapshotId).map toSnapshot)).exec handler db).after
        ⟨.getSnapshot row.snapshotId,
          .ok ((db.snapshots.find? row.snapshotId).map toSnapshot)⟩).after
        ⟨.getWatchTarget row.watchTargetId,
          .ok ((db.watchTargets.find? row.watchTargetId).map toWatchTarget)⟩).after
        ⟨.getEvent eventId, .ok (some (toDetectionEvent row))⟩ := by
  have hevent : handler (.getEvent eventId) db = (.ok (some (toDetectionEvent row)), db) := by
    rw [halike (.getEvent eventId) db nofun, respond_getEvent, hrow]
    rfl
  have htarget : handler (.getWatchTarget row.watchTargetId) db =
      (.ok ((db.watchTargets.find? row.watchTargetId).map toWatchTarget), db) :=
    (halike (.getWatchTarget row.watchTargetId) db nofun).trans (respond_getWatchTarget _ _)
  have hsnapshot : handler (.getSnapshot row.snapshotId) db =
      (.ok ((db.snapshots.find? row.snapshotId).map toSnapshot), db) :=
    (halike (.getSnapshot row.snapshotId) db nofun).trans (respond_getSnapshot _ _)
  unfold processEvent
  rw [exec_askNotify hevent]
  simp only
  refine congrArg (Outcome.after · _) ((exec_askNotify htarget _).trans ?_)
  exact congrArg (Outcome.after · _) (exec_askNotify hsnapshot _)

/-- The rows of an event that is found with its context. -/
theorem contextOf_cases {eventId : Nat} (hfound : contextOf db eventId = some (event, context)) :
    ∃ row target snapshot, db.detectionEvents.find? eventId = some row ∧
      db.watchTargets.find? row.watchTargetId = some target ∧
      db.snapshots.find? row.snapshotId = some snapshot ∧ event = toDetectionEvent row ∧
      context = ⟨target.keyword, target.retailerSlug, row.eventType, toSnapshot snapshot⟩ := by
  simp only [contextOf, Option.bind_eq_bind, Option.bind_eq_some_iff, Option.map_eq_some_iff,
    Option.some.injEq, Prod.mk.injEq] at hfound
  obtain ⟨_, ⟨row, hrow, rfl⟩, _, ⟨target, htarget, rfl⟩, _, ⟨snapshot, hsnapshot, rfl⟩, rfl,
    rfl⟩ := hfound
  exact ⟨row, target, snapshot, hrow, htarget, hsnapshot, rfl, rfl⟩

/-- The first calls of `process_event`, when the event is found with its context. -/
theorem exec_processEvent_found {handler : Handler notifyPort Raised Database}
    (halike : AnswersAlike config turns handler) {eventId : Nat}
    (hfound : contextOf db eventId = some (event, context)) :
    ∃ found target snapshot watches, (processEvent config eventId).exec handler db =
      (((((notifyWatches config event context
        (SqlAlchemyWatchRepository.listByWatchTarget db event.watchTargetId) []).exec handler
          db).after ⟨.listByWatchTarget event.watchTargetId, watches⟩).after
        ⟨.getSnapshot event.snapshotId, snapshot⟩).after
        ⟨.getWatchTarget event.watchTargetId, target⟩).after ⟨.getEvent eventId, found⟩ := by
  obtain ⟨row, target, snapshot, hrow, htarget, hsnapshot, rfl, rfl⟩ := contextOf_cases hfound
  have hwatches := halike (.listByWatchTarget (toDetectionEvent row).watchTargetId) db nofun
  refine ⟨.ok (some (toDetectionEvent row)), .ok (some (toWatchTarget target)),
    .ok (some (toSnapshot snapshot)),
    .ok (SqlAlchemyWatchRepository.listByWatchTarget db row.watchTargetId), ?_⟩
  rw [exec_processEvent halike hrow, htarget, hsnapshot]
  simp only [Option.map_some, notifyOfEvent]
  rw [exec_askNotify hwatches]
  rfl

/-- What `process_event` does with the event it has found. -/
theorem processEvent_notifies {handler : Handler notifyPort Raised Database}
    {due : Database → Nat → List NotificationChannel} {fine : Database → Nat → Prop}
    (halike : AnswersAlike config turns handler)
    (husers : NotifiesUsers config turns event context handler due fine) {eventId : Nat}
    (hfound : contextOf db eventId = some (event, context)) :
    Notified config turns event context
      ((subscribers db event.watchTargetId).flatMap (due db))
      (∀ userId ∈ subscribers db event.watchTargetId, fine db userId) db
      ((processEvent config eventId).exec handler db) := by
  obtain ⟨_, _, _, _, hexec⟩ := exec_processEvent_found halike hfound
  rw [hexec]
  refine Notified.after rfl (Notified.after rfl (Notified.after rfl ?_))
  exact Notified.after rfl (notifyWatches_notified husers _ _)

/-- An event that is found has a key. -/
theorem id_of_contextOf {eventId : Nat} (hfound : contextOf db eventId = some (event, context)) :
    ∃ id, event.id = some id := by
  obtain ⟨row, _, _, _, _, _, rfl, _⟩ := contextOf_cases hfound
  exact ⟨row.id, rfl⟩

/-- What a run of the service does with the event it has found. -/
theorem processEvent_notified {eventId : Nat}
    (hfound : contextOf db eventId = some (event, context)) :
    Notified config turns event context (dueChannels config turns event db)
      (LookupsFine config turns event db) db
      ((processEvent config eventId).exec (notifyHandler config turns) db) := by
  obtain ⟨id, hevent⟩ := id_of_contextOf hfound
  exact processEvent_notifies answersAlike_notifyHandler (notifiesUsers_notifyHandler hevent) hfound

/-- Without the event, its target or its snapshot, `process_event` returns silently. -/
theorem processEvent_of_hidden {eventId : Nat} (hhidden : contextOf db eventId = none) :
    let outcome := (processEvent config eventId).exec (notifyHandler config turns) db
    outcome.result = .ok () ∧ sendsOf outcome.trace = [] ∧ outcome.state = db := by
  intro outcome
  cases hrow : db.detectionEvents.find? eventId with
  | none =>
      have houtcome : outcome = ⟨[⟨.getEvent eventId, .ok none⟩], .ok (), db⟩ := by
        have hevent : notifyHandler config turns (.getEvent eventId) db = (.ok none, db) := by
          unfold notifyHandler
          rw [respond_getEvent, hrow]
          rfl
        unfold outcome processEvent
        rw [exec_askNotify hevent]
        rfl
      rw [houtcome]
      exact ⟨rfl, rfl, rfl⟩
  | some row =>
      unfold outcome
      rw [exec_processEvent answersAlike_notifyHandler hrow]
      cases htarget : db.watchTargets.find? row.watchTargetId with
      | none => exact ⟨rfl, rfl, rfl⟩
      | some target =>
          cases hsnapshot : db.snapshots.find? row.snapshotId with
          | none => exact ⟨rfl, rfl, rfl⟩
          | some snapshot =>
              simp [contextOf, hrow, toDetectionEvent, htarget, hsnapshot] at hhidden

end Run

end StockMonitoring.Application
