import StockMonitoring.Application.NotificationParts
import StockMonitoring.Tasks.DedupLookup

set_option autoImplicit false

/-!
# Tasks: what starts a cooldown

`exists_recent` does not look at the status of the rows it selects, so a delivery that
failed silences the user as one that succeeded does, and two that failed make the lookup
raise.  A run skips a user only for a delivered notification, and attempts again those
whose deliveries all failed, exactly where no user it reaches has a failed delivery as the
only recent row and it reaches the users without a delivered one after their rows have aged
(`skipsDelivered_iff`).
-/

namespace StockMonitoring.Tasks

open StockMonitoring.Foundation StockMonitoring.Domain StockMonitoring.Application
  StockMonitoring.Infrastructure.Db

/-! ## One task -/

section Task

variable (config : NotificationConfig) (turns : NotifyOp → NotifyTurn) (db : Database)
  (eventId : Nat) (event : DetectionEvent) (context : NotificationContext)

/-- The lookup of the task for a user answers `success`. -/
def LooksUp (userId : Nat) (success : Bool) : Prop :=
  ⟨.existsRecent (dedupKey userId event.watchTargetId event.eventType) config.cooldownSeconds,
    .ok success⟩ ∈ (taskOutcome config turns db eventId).trace

/-- The user has log rows of the event's dedup key, and all are of deliveries that failed. -/
def OnlyFailed (userId : Nat) : Prop :=
  (∃ row ∈ db.notificationLogs.rows,
    row.dedupKey = dedupKey userId event.watchTargetId event.eventType) ∧
  ∀ row ∈ db.notificationLogs.rows,
    row.dedupKey = dedupKey userId event.watchTargetId event.eventType → row.status = "failed"

/-- Only a delivered notification keeps the task from a subscribed user. -/
structure SkipsDelivered : Prop where
  /-- a user who is skipped has a recent row of a delivery -/
  skipped : ∀ userId, LooksUp config turns db eventId event userId true →
    ∃ row ∈ db.notificationLogs.rows,
      row.dedupKey = dedupKey userId event.watchTargetId event.eventType ∧ row.status = "sent" ∧
        (turns (.existsRecent (dedupKey userId event.watchTargetId event.eventType)
          config.cooldownSeconds)).now - seconds config.cooldownSeconds ≤ row.sentAt
  /-- a user whose deliveries all failed is attempted again -/
  retried : ∀ userId ∈ subscribers db event.watchTargetId, OnlyFailed db event userId →
    ∃ call ∈ (taskOutcome config turns db eventId).trace, call.op = .listForUser userId

/-- No failed delivery keeps the task from a subscribed user. -/
structure NoneSilenced : Prop where
  /-- no user whom the task reaches has one recent row, of a delivery that failed -/
  single : ∀ userId,
    Reaches config turns event context db (subscribers db event.watchTargetId) userId →
    ∀ row, recentOf config turns event db userId = [row] → row.status ≠ "failed"
  /-- a user whose deliveries all failed is reached, and none of them was recent -/
  aged : ∀ userId ∈ subscribers db event.watchTargetId, OnlyFailed db event userId →
    Reaches config turns event context db (subscribers db event.watchTargetId) userId ∧
      recentOf config turns event db userId = []

/-- Every row of the log is of a delivery that succeeded or failed. -/
def StatusesKnown (db : Database) : Prop :=
  ∀ row ∈ db.notificationLogs.rows, row.status = "sent" ∨ row.status = "failed"

end Task

section Task

variable {config : NotificationConfig} {turns : NotifyOp → NotifyTurn} {db : Database}
  {eventId : Nat} {event : DetectionEvent} {context : NotificationContext}

theorem mem_recentOf {userId : Nat} {row : NotificationLogModel} :
    row ∈ recentOf config turns event db userId ↔ row ∈ db.notificationLogs.rows ∧
      row.dedupKey = dedupKey userId event.watchTargetId event.eventType ∧
        (turns (.existsRecent (dedupKey userId event.watchTargetId event.eventType)
          config.cooldownSeconds)).now - seconds config.cooldownSeconds ≤ row.sentAt := by
  unfold recentOf SqlAlchemyNotificationLogRepository.recentRows
  simp

/-- The task looks a user up exactly if it reaches the user and the lookup answers. -/
theorem looksUp_iff (hfound : contextOf db eventId = some (event, context)) {userId : Nat}
    {success : Bool} :
    LooksUp config turns db eventId event userId success ↔
      Reaches config turns event context db (subscribers db event.watchTargetId) userId ∧
        (scalarOneOrNone (recentOf config turns event db userId)).map Option.isSome =
          .ok success := by
  refine (mem_lookups_iff hfound).trans ?_
  constructor
  · rintro ⟨other, hreaches, heq⟩
    injection heq with hop hreply
    obtain ⟨hkey, _⟩ := NotifyOp.existsRecent.inj hop
    obtain rfl := (dedupKey_injective hkey).1
    exact ⟨hreaches, hreply⟩
  · rintro ⟨hreaches, hreply⟩
    refine ⟨userId, hreaches, ?_⟩
    unfold lookupOf
    rw [hreply]

/-- A reached user with one recent row, which is not of a failed delivery, was notified. -/
theorem sent_of_single (hstatuses : StatusesKnown db) {userId : Nat} {row : NotificationLogModel}
    (hnone : row.status ≠ "failed") (hrecent : recentOf config turns event db userId = [row]) :
    ∃ row ∈ db.notificationLogs.rows,
      row.dedupKey = dedupKey userId event.watchTargetId event.eventType ∧ row.status = "sent" ∧
        (turns (.existsRecent (dedupKey userId event.watchTargetId event.eventType)
          config.cooldownSeconds)).now - seconds config.cooldownSeconds ≤ row.sentAt := by
  have hmem := mem_recentOf.mp (hrecent ▸ List.mem_singleton_self row)
  exact ⟨row, hmem.1, hmem.2.1, (hstatuses row hmem.1).resolve_right hnone, hmem.2.2⟩

/-- Only delivered notifications keep a task from users exactly if no failed delivery does. -/
theorem skipsDelivered_iff (hstatuses : StatusesKnown db)
    (hfound : contextOf db eventId = some (event, context)) :
    SkipsDelivered config turns db eventId event ↔
      NoneSilenced config turns db event context := by
  constructor
  · intro hskips
    refine ⟨?_, ?_⟩
    · intro userId hreaches row hrecent hfailed
      have hlooks : LooksUp config turns db eventId event userId true :=
        (looksUp_iff hfound).mpr ⟨hreaches, by rw [hrecent]; rfl⟩
      obtain ⟨other, hother, hkey, hsent, htime⟩ := hskips.skipped userId hlooks
      have hmem := mem_recentOf.mpr ⟨hother, hkey, htime⟩
      rw [hrecent, List.mem_singleton] at hmem
      rw [hmem, hfailed] at hsent
      exact absurd hsent (by decide)
    · intro userId hsubscribed hfailed
      exact (mem_listForUser_iff hfound).mp (hskips.retried userId hsubscribed hfailed)
  · intro hnone
    refine ⟨?_, ?_⟩
    · intro userId hlooks
      obtain ⟨hreaches, hreply⟩ := (looksUp_iff hfound).mp hlooks
      match hrecent : recentOf config turns event db userId with
      | [] =>
          rw [hrecent] at hreply
          cases hreply
      | [row] => exact sent_of_single hstatuses (hnone.single userId hreaches row hrecent) hrecent
      | _ :: _ :: _ =>
          rw [hrecent] at hreply
          cases hreply
    · intro userId hsubscribed hfailed
      exact (mem_listForUser_iff hfound).mpr (hnone.aged userId hsubscribed hfailed)

/-- A task logs deliveries that succeeded or failed. -/
theorem statusesKnown_process (hstatuses : StatusesKnown db) :
    StatusesKnown (processDetectionEvent config turns db eventId) := by
  cases hfound : contextOf db eventId with
  | none =>
      rw [unchanged_of_hidden hfound]
      exact hstatuses
  | some found =>
      obtain ⟨event, context⟩ := found
      by_cases hgood : LookupsFine config turns event db ∧
          ∀ channel ∈ dueChannels config turns event db,
            SendReturns config turns event context channel
      · obtain ⟨logs, hcommitted, added, hrows, hadded⟩ :=
          logged_of_completes hfound hgood.1 hgood.2
        intro row hrow
        rw [hcommitted] at hrow
        simp only [hrows] at hrow
        rcases List.mem_append.mp hrow with hold | hnew
        · exact hstatuses row hold
        · obtain ⟨channel, _, hlogs⟩ := exists_partner hadded.flip hnew
          obtain ⟨success, _, hstatus⟩ := hlogs.status
          cases success with
          | true => exact Or.inl hstatus
          | false => exact Or.inr hstatus
      · rw [unchanged_of_raises hfound hgood]
        exact hstatuses

end Task

/-! ## Whole runs -/

/-- The invariant of a run of tasks. -/
theorem statusesKnown_reached (config : NotificationConfig) (moves : List LogMove) :
    StatusesKnown (reached config moves) := by
  induction moves using List.reverseRecOn with
  | nil => exact fun row hrow => by cases hrow
  | append_singleton moves move ih =>
      rw [reached_concat]
      cases move with
      | outside tables => exact ih
      | process eventId turns => exact statusesKnown_process ih

/-- `milkAlerts` with the Telegram channel alone. -/
def telegramAlerts : Database :=
  { milkAlerts with notificationChannels := milkAlerts.notificationChannels.delete 2 }

/-- Every post is answered with 500. -/
def refusedTurns (now : Datetime) : NotifyOp → NotifyTurn := fun _ => ⟨now, .ok 500, .delivered⟩

/-- The message for the first event is refused; the second event, a minute later, skips
the user. -/
theorem failed_delivery_silences_user :
    let db := reached workerConfig [.outside telegramAlerts, .process 1 (refusedTurns 0)]
    (db.notificationLogs.rows.map fun row => (row.dedupKey, row.status)) =
        [("10:1:stock_available", "failed")] ∧
      ¬ SkipsDelivered workerConfig (reachableTurns 60000000) db 2
        { milkEvent with id := some 2 } := by
  intro db
  have hrows : (db.notificationLogs.rows.map fun row => (row.dedupKey, row.status)) =
      [("10:1:stock_available", "failed")] := by decide +kernel
  refine ⟨hrows, ?_⟩
  intro hskips
  have hfound : contextOf db 2 = some ({ milkEvent with id := some 2 }, milkContext) := by
    decide +kernel
  have hnone := (skipsDelivered_iff (statusesKnown_reached _ _) hfound).mp hskips
  have hreaches : Reaches workerConfig (reachableTurns 60000000) { milkEvent with id := some 2 }
      milkContext db (subscribers db 1) 10 :=
    ⟨[], [], by decide +kernel, fun earlier hearlier => by cases hearlier⟩
  have hrecent : recentOf workerConfig (reachableTurns 60000000) { milkEvent with id := some 2 } db
      10 = [⟨1, 10, 1, 1, "failed", 0, "10:1:stock_available"⟩] := by decide +kernel
  exact hnone.single 10 hreaches _ hrecent rfl

/-- In a run of tasks only delivered notifications keep a task from a subscribed user exactly
if in no task a failed delivery does. -/
theorem cooldown_starts_on_delivery_iff (config : NotificationConfig) (moves : List LogMove) :
    (∀ earlier eventId turns event context, earlier ++ [.process eventId turns] <+: moves →
        contextOf (reached config earlier) eventId = some (event, context) →
        SkipsDelivered config turns (reached config earlier) eventId event) ↔
      ∀ earlier eventId turns event context, earlier ++ [.process eventId turns] <+: moves →
        contextOf (reached config earlier) eventId = some (event, context) →
        NoneSilenced config turns (reached config earlier) event context := by
  constructor
  · intro hskips earlier eventId turns event context hsplit hfound
    exact (skipsDelivered_iff (statusesKnown_reached config earlier) hfound).mp
      (hskips earlier eventId turns event context hsplit hfound)
  · intro hnone earlier eventId turns event context hsplit hfound
    exact (skipsDelivered_iff (statusesKnown_reached config earlier) hfound).mpr
      (hnone earlier eventId turns event context hsplit hfound)

end StockMonitoring.Tasks
