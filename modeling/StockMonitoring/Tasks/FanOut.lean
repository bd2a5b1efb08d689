import Mathlib.Data.List.Count
import StockMonitoring.Tasks.DedupLookup

set_option autoImplicit false

/-!
# Tasks: the fan-out of an event

With `exists_recent` taken by the contract of its port, a run sends exactly once on each
channel that is owed a message, and logs each send (`FannedOut`).
-/

namespace StockMonitoring.Tasks

open StockMonitoring.Foundation StockMonitoring.Domain StockMonitoring.Application
  StockMonitoring.Infrastructure.Db

/-! ## The lookup by its contract -/

section FanOut

variable (config : NotificationConfig) (turns : NotifyOp → NotifyTurn)
  (recent : String → List NotificationLogModel → Bool)

/-- The rows of the log with a dedup key. -/
def keyRows (db : Database) (key : String) : List NotificationLogModel :=
  db.notificationLogs.rows.filter fun row => row.dedupKey == key

/-- The handler of a run in which `exists_recent` answers a bool for a key, as it pleases
from the log rows of that key. -/
def contractHandler : Handler notifyPort Raised Database
  | .existsRecent key _, db => (.ok (recent key (keyRows db key)), db)
  | op, db => notifyRespond config (turns op) op db

/-- The user's dedup key is recent. -/
def isRecent (event : DetectionEvent) (db : Database) (userId : Nat) : Bool :=
  let key := dedupKey userId event.watchTargetId event.eventType
  recent key (keyRows db key)

/-- A channel is owed a message for an event. -/
structure Owed (event : DetectionEvent) (db : Database) (channel : NotificationChannel) :
    Prop where
  /-- the user has an active watch on the event's target -/
  subscribed : ∃ watch ∈ db.watches.rows, watch.watchTargetId = event.watchTargetId ∧
    watch.isActive = true ∧ watch.userId = channel.userId
  notRecent : isRecent recent event db channel.userId = false
  assigned : ∃ row ∈ db.notificationChannels.rows, channel = toNotificationChannel row
  sender : (config.senders channel.type).isSome = true

/-- The channels of a user that are owed a message. -/
def owedOf (event : DetectionEvent) (db : Database) (userId : Nat) : List NotificationChannel :=
  if isRecent recent event db userId then []
  else withSender config (SqlAlchemyNotificationChannelRepository.listForUser db userId)

end FanOut

section FanOut

variable {config : NotificationConfig} {turns : NotifyOp → NotifyTurn}
  {recent : String → List NotificationLogModel → Bool} {event : DetectionEvent}
  {context : NotificationContext} {db : Database}

theorem answersAlike_contractHandler :
    AnswersAlike config turns (contractHandler config turns recent) := by
  intro op db hop
  cases op with
  | existsRecent key cooldownSeconds => exact absurd rfl (hop key cooldownSeconds)
  | _ => rfl

theorem notifiesUsers_contractHandler {eventId : Nat} (hevent : event.id = some eventId) :
    NotifiesUsers config turns event context (contractHandler config turns recent)
      (owedOf config recent event) (fun _ _ => True) where
  notified db userId := by
    unfold owedOf
    have hlookup : contractHandler config turns recent (.existsRecent
        (dedupKey userId event.watchTargetId event.eventType) config.cooldownSeconds) db =
        (.ok (isRecent recent event db userId), db) := rfl
    cases hrecent : isRecent recent event db userId with
    | true =>
        rw [hrecent] at hlookup
        exact notifyUser_of_recent hlookup
    | false =>
        rw [hrecent] at hlookup
        exact notifyUser_of_not_recent answersAlike_contractHandler hevent hlookup
  owner db userId channel hchannel := by
    unfold owedOf at hchannel
    split at hchannel
    · cases hchannel
    · exact (userId_of_mem_listForUser (List.mem_filter.mp hchannel).1).1
  framed db next channels userId hlogged hother := by
    refine ⟨?_, Iff.rfl⟩
    unfold owedOf isRecent keyRows
    simp only [hlogged.keyRows_eq hother]
    obtain ⟨logs, rfl, _⟩ := hlogged
    rfl

/-! ## The channels that are owed a message -/

/-- No subscriber is listed twice. -/
theorem nodup_newUsers (watches : List Watch) (seenUsers : List Nat) :
    (newUsers watches seenUsers).Nodup := by
  induction watches generalizing seenUsers with
  | nil => exact List.nodup_nil
  | cons watch rest ih =>
      unfold newUsers
      split
      · exact ih seenUsers
      · refine List.nodup_cons.mpr ⟨?_, ih _⟩
        exact fun hmem => not_mem_seen_of_mem_newUsers hmem List.mem_cons_self

/-- The users are those of the watches, without the ones that have been seen. -/
theorem mem_newUsers {watches : List Watch} {seenUsers : List Nat} {userId : Nat} :
    userId ∈ newUsers watches seenUsers ↔
      (∃ watch ∈ watches, watch.userId = userId) ∧ userId ∉ seenUsers := by
  induction watches generalizing seenUsers with
  | nil => simp [newUsers]
  | cons watch rest ih =>
      unfold newUsers
      split
      · rename_i hseen
        rw [ih, List.exists_mem_cons_iff]
        constructor
        · exact fun ⟨hwatch, hnew⟩ => ⟨Or.inr hwatch, hnew⟩
        · rintro ⟨rfl | hwatch, hnew⟩
          · exact absurd hseen hnew
          · exact ⟨hwatch, hnew⟩
      · rename_i hfresh
        rw [List.mem_cons, ih, List.exists_mem_cons_iff, List.mem_cons, not_or]
        constructor
        · rintro (rfl | ⟨hwatch, _, hnew⟩)
          · exact ⟨Or.inl rfl, hfresh⟩
          · exact ⟨Or.inr hwatch, hnew⟩
        · rintro ⟨hwatch, hnew⟩
          by_cases hsame : userId = watch.userId
          · exact Or.inl hsame
          · exact Or.inr ⟨hwatch.resolve_left (Ne.symm hsame), hsame, hnew⟩

theorem mem_subscribers {watchTargetId userId : Nat} :
    userId ∈ subscribers db watchTargetId ↔ ∃ watch ∈ db.watches.rows,
      watch.watchTargetId = watchTargetId ∧ watch.isActive = true ∧ watch.userId = userId := by
  unfold subscribers SqlAlchemyWatchRepository.listByWatchTarget
  rw [mem_newUsers]
  simp [toWatch, and_assoc]

theorem mem_owedOf {userId : Nat} {channel : NotificationChannel} :
    channel ∈ owedOf config recent event db userId ↔
      channel.userId = userId ∧ isRecent recent event db userId = false ∧
        (∃ row ∈ db.notificationChannels.rows, channel = toNotificationChannel row) ∧
        (config.senders channel.type).isSome = true := by
  unfold owedOf
  constructor
  · intro hmem
    split at hmem
    · cases hmem
    · rename_i hrecent
      obtain ⟨hlisted, hsender⟩ := List.mem_filter.mp hmem
      obtain ⟨row, hrow, rfl⟩ := List.mem_map.mp hlisted
      exact ⟨(userId_of_mem_listForUser hlisted).1, Bool.eq_false_iff.mpr hrecent,
        ⟨row, List.mem_of_mem_filter hrow, rfl⟩, hsender⟩
  · rintro ⟨rfl, hrecent, ⟨row, hrow, rfl⟩, hsender⟩
    rw [hrecent, if_neg Bool.false_ne_true]
    refine List.mem_filter.mpr ⟨List.mem_map_of_mem (List.mem_filter.mpr ⟨hrow, ?_⟩), hsender⟩
    exact beq_iff_eq.mpr rfl

/-- The run goes through the channels that are owed a message. -/
theorem mem_owed_iff {channel : NotificationChannel} :
    channel ∈ (subscribers db event.watchTargetId).flatMap (owedOf config recent event db) ↔
      Owed config recent event db channel := by
  rw [List.mem_flatMap]
  constructor
  · rintro ⟨userId, huser, howed⟩
    obtain ⟨rfl, hrecent, hassigned, hsender⟩ := mem_owedOf.mp howed
    exact ⟨mem_subscribers.mp huser, hrecent, hassigned, hsender⟩
  · intro howed
    exact ⟨channel.userId, mem_subscribers.mpr howed.subscribed,
      mem_owedOf.mpr ⟨rfl, howed.notRecent, howed.assigned, howed.sender⟩⟩

/-- The channels of a user have different keys. -/
theorem nodup_owedOf (userId : Nat) : (owedOf config recent event db userId).Nodup := by
  unfold owedOf
  split
  · exact List.nodup_nil
  · refine List.Nodup.filter _ (List.Nodup.map_on ?_ (List.Nodup.filter _
      (List.Nodup.of_map _ db.notificationChannels.keys_nodup)))
    intro row hrow other hother hsame
    have hid : row.id = other.id := Option.some.inj (congrArg NotificationChannel.id hsame)
    exact db.notificationChannels.eq_of_key_eq (List.mem_of_mem_filter hrow)
      (List.mem_of_mem_filter hother) hid

/-- It goes through none twice. -/
theorem nodup_owed :
    ((subscribers db event.watchTargetId).flatMap (owedOf config recent event db)).Nodup := by
  refine List.nodup_flatMap.mpr ⟨fun userId _ => nodup_owedOf userId, ?_⟩
  refine (nodup_newUsers _ []).imp ?_
  intro userId other hne channel hleft hright
  exact hne ((mem_owedOf.mp hleft).1.symm.trans (mem_owedOf.mp hright).1)

end FanOut

/-! ## The result -/

/-- A run has sent once on each channel that is owed a message and on no other, and has
logged each send with the user, the event, the channel, the result and the dedup key. -/
structure FannedOut (config : NotificationConfig) (turns : NotifyOp → NotifyTurn)
    (recent : String → List NotificationLogModel → Bool) (event : DetectionEvent)
    (context : NotificationContext) (db : Database)
    (outcome : Outcome notifyPort Raised Database Unit) : Prop where
  completes : outcome.result = .ok ()
  once : ∀ channel, Owed config recent event db channel →
    (sendsOf outcome.trace).count (.send channel event context) = 1
  noOther : ∀ op ∈ sendsOf outcome.trace, ∃ channel, Owed config recent event db channel ∧
    op = .send channel event context
  logged : ∃ sent, sendsOf outcome.trace = sendsTo event context sent ∧
    Logged config turns event context sent db outcome.state

/-- However the active watches, the channels, the recent keys, the senders and the results
of the sends are, `process_event` fans the event out exactly; dedup keys are shared by no
two triples of a user, a target and an event type. -/
theorem process_event_fans_out {config : NotificationConfig} {turns : NotifyOp → NotifyTurn}
    (recent : String → List NotificationLogModel → Bool) {db : Database} {eventId : Nat}
    {event : DetectionEvent} {context : NotificationContext}
    (hfound : contextOf db eventId = some (event, context))
    (hreturns : ∀ channel, Owed config recent event db channel →
      SendReturns config turns event context channel) :
    FannedOut config turns recent event context db
        ((processEvent config eventId).exec (contractHandler config turns recent) db) ∧
      ∀ userId watchTargetId eventType other otherTargetId otherType,
        dedupKey userId watchTargetId eventType = dedupKey other otherTargetId otherType →
          userId = other ∧ watchTargetId = otherTargetId ∧ eventType = otherType := by
  refine ⟨?_, fun _ _ _ _ _ _ heq => dedupKey_injective heq⟩
  obtain ⟨id, hevent⟩ := id_of_contextOf hfound
  have hnotified := processEvent_notifies answersAlike_contractHandler
    (@notifiesUsers_contractHandler config turns recent event context id hevent) hfound
  obtain ⟨hresult, hsends, hlogged⟩ := hnotified.completes (fun _ _ => trivial)
    fun channel hchannel => hreturns channel (mem_owed_iff.mp hchannel)
  have hinjective : Function.Injective fun channel : NotificationChannel =>
      NotifyOp.send channel event context := fun _ _ hsame => (NotifyOp.send.inj hsame).1
  refine ⟨hresult, ?_, ?_, ⟨_, hsends, hlogged⟩⟩
  · intro channel howed
    rw [hsends, sendsTo, List.count_map_of_injective _ _ hinjective]
    exact List.count_eq_one_of_mem nodup_owed (mem_owed_iff.mpr howed)
  · intro op hop
    rw [hsends] at hop
    obtain ⟨channel, hchannel, rfl⟩ := List.mem_map.mp hop
    exact ⟨channel, mem_owed_iff.mp hchannel, rfl⟩

/-- The first event of `milkAlerts`, with a key recent as soon as it is logged. -/
theorem milk_alert_fans_out :
    FannedOut workerConfig (reachableTurns 0) (fun _ rows => !rows.isEmpty) milkEvent milkContext
      milkAlerts ((processEvent workerConfig 1).exec
        (contractHandler workerConfig (reachableTurns 0) fun _ rows => !rows.isEmpty)
        milkAlerts) := by
  have hreturns : ∀ channel ∈ (subscribers milkAlerts milkEvent.watchTargetId).flatMap
      (owedOf workerConfig (fun _ rows => !rows.isEmpty) milkEvent milkAlerts),
        SendReturns workerConfig (reachableTurns 0) milkEvent milkContext channel := by
    decide +kernel
  exact (process_event_fans_out (fun _ rows => !rows.isEmpty) (by decide +kernel)
    fun channel howed => hreturns channel (mem_owed_iff.mpr howed)).1

end StockMonitoring.Tasks
