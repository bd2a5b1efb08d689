import StockMonitoring.Tasks.Notifications

set_option autoImplicit false

/-!
# Tasks: a channel whose send raises

`process_event` lets an exception of a send through, so the sends after it do not
happen and the session with the log of the sends before it is discarded.  The channels
of one event are independent only where either all sends return or none does
(`siblings_unaffected_iff`).
-/

namespace StockMonitoring.Tasks

open StockMonitoring.Foundation StockMonitoring.Domain StockMonitoring.Application
  StockMonitoring.Infrastructure.Db

/-- A channel whose send raises does not affect the others: each due channel whose send
does not raise is sent to, and each send that returned has its own committed row. -/
structure SiblingsUnaffected (config : NotificationConfig) (turns : NotifyOp → NotifyTurn)
    (db : Database) (eventId : Nat) (event : DetectionEvent) (context : NotificationContext) :
    Prop where
  sent : ∀ channel ∈ dueChannels config turns event db,
    SendReturns config turns event context channel →
      .send channel event context ∈ sendsOf (taskOutcome config turns db eventId).trace
  logged : ∀ channel event' context' success,
    ⟨.send channel event' context', .ok success⟩ ∈ (taskOutcome config turns db eventId).trace →
      ∃ row ∈ (processDetectionEvent config turns db eventId).notificationLogs.rows,
        row ∉ db.notificationLogs.rows ∧ row.userId = channel.userId ∧
          event'.id = some row.detectionEventId ∧ channel.id = some row.channelId ∧
          row.status = if success then "sent" else "failed"

section FailingChannel

variable {config : NotificationConfig} {turns : NotifyOp → NotifyTurn} {db : Database}
  {eventId : Nat} {event : DetectionEvent} {context : NotificationContext}

/-- Every send of a task is one the task owes. -/
theorem due_of_mem_trace (hfound : contextOf db eventId = some (event, context))
    {channel : NotificationChannel} {event' : DetectionEvent} {context' : NotificationContext}
    {reply : Except Raised Bool}
    (hcall : ⟨.send channel event' context', reply⟩ ∈
      (taskOutcome config turns db eventId).trace) :
    channel ∈ dueChannels config turns event db ∧ event' = event ∧ context' = context := by
  have hsent : NotifyOp.send channel event' context' ∈
      sendsOf (taskOutcome config turns db eventId).trace :=
    mem_sendsOf_iff.mpr ⟨rfl, _, hcall, rfl⟩
  have howed := (taskOutcome_notified hfound).sends.subset hsent
  obtain ⟨other, hother, heq⟩ := List.mem_map.mp howed
  cases heq
  exact ⟨hother, rfl, rfl⟩

/-- Once a task owes a send that returns, it must complete. -/
theorem completes_of_unaffected (hfound : contextOf db eventId = some (event, context))
    (hsiblings : SiblingsUnaffected config turns db eventId event context)
    {channel : NotificationChannel} (hchannel : channel ∈ dueChannels config turns event db)
    (hreturns : SendReturns config turns event context channel) :
    LookupsFine config turns event db ∧ ∀ other ∈ dueChannels config turns event db,
      SendReturns config turns event context other := by
  by_contra hbad
  obtain ⟨success, hanswer⟩ := hreturns
  obtain ⟨_, call, hcall, hop⟩ :=
    mem_sendsOf_iff.mp (hsiblings.sent channel hchannel ⟨success, hanswer⟩)
  obtain ⟨op, reply⟩ := call
  cases hop
  have hreply := (answer_of_mem_trace hcall).trans hanswer
  rw [hreply] at hcall
  obtain ⟨row, hrow, hnew, _⟩ := hsiblings.logged channel event context success hcall
  rw [unchanged_of_raises hfound hbad] at hrow
  exact hnew hrow

/-- A task that completes has sent to every channel it owed and logged each send. -/
theorem unaffected_of_completes (hfound : contextOf db eventId = some (event, context))
    (hfine : LookupsFine config turns event db)
    (hreturns : ∀ channel ∈ dueChannels config turns event db,
      SendReturns config turns event context channel) :
    SiblingsUnaffected config turns db eventId event context := by
  obtain ⟨hresult, hsends, _⟩ := (taskOutcome_notified hfound).completes hfine hreturns
  obtain ⟨logs, hcommitted, added, hrows, hadded⟩ := logged_of_completes hfound hfine hreturns
  refine ⟨?_, ?_⟩
  · intro channel hchannel _
    rw [hsends]
    exact List.mem_map_of_mem hchannel
  · intro channel event' context' success hcall
    obtain ⟨hchannel, rfl, rfl⟩ := due_of_mem_trace hfound hcall
    obtain ⟨row, hrow, hlogs⟩ := exists_partner hadded hchannel
    have hanswer := answer_of_mem_trace hcall
    obtain ⟨logged, hlogged, hstatus⟩ := hlogs.status
    cases hanswer.trans hlogged
    have hnodup : (db.notificationLogs.rows ++ added).Nodup :=
      hrows ▸ List.Nodup.of_map _ logs.keys_nodup
    rw [hcommitted]
    refine ⟨row, hrows ▸ List.mem_append_right _ hrow, ?_, hlogs.userId, hlogs.detectionEventId,
      hlogs.channelId, hstatus⟩
    intro hold
    exact (List.disjoint_of_nodup_append hnodup) hold hrow

/-- The channels of an event that is found do not affect one another exactly when every
due send raises, or no due send raises and no lookup selects more than one row. -/
theorem siblings_unaffected_iff (hfound : contextOf db eventId = some (event, context)) :
    SiblingsUnaffected config turns db eventId event context ↔
      (∀ channel ∈ dueChannels config turns event db,
        ¬ SendReturns config turns event context channel) ∨
      ((∀ channel ∈ dueChannels config turns event db,
        SendReturns config turns event context channel) ∧ LookupsFine config turns event db) := by
  constructor
  · intro hsiblings
    by_cases hsome : ∃ channel ∈ dueChannels config turns event db,
        SendReturns config turns event context channel
    · obtain ⟨channel, hchannel, hreturns⟩ := hsome
      exact Or.inr (completes_of_unaffected hfound hsiblings hchannel hreturns).symm
    · exact Or.inl fun channel hchannel hreturns => hsome ⟨channel, hchannel, hreturns⟩
  · rintro (hraises | ⟨hreturns, hfine⟩)
    · refine ⟨fun channel hchannel hreturns => absurd hreturns (hraises channel hchannel), ?_⟩
      intro channel event' context' success hcall
      obtain ⟨hchannel, rfl, rfl⟩ := due_of_mem_trace hfound hcall
      exact absurd ⟨success, (answer_of_mem_trace hcall).symm⟩ (hraises channel hchannel)
    · exact unaffected_of_completes hfound hfine hreturns

end FailingChannel

/-- With both channels reachable, both are sent to and logged. -/
theorem reachable_channels_unaffected :
    SiblingsUnaffected workerConfig (reachableTurns 0) milkAlerts 1 milkEvent milkContext :=
  (siblings_unaffected_iff (by decide +kernel)).mpr
    (Or.inr ⟨by decide +kernel, by decide +kernel⟩)

/-- Telegram's API cannot be reached. -/
def telegramDown : NotifyOp → NotifyTurn
  | .send ⟨_, _, .telegram, _, _⟩ _ _ => ⟨0, .error (.external "ConnectError"), .delivered⟩
  | _ => ⟨0, .ok 204, .delivered⟩

/-- The Discord channel of the same user is then not sent to. -/
theorem telegram_failure_silences_discord :
    ¬ SiblingsUnaffected workerConfig telegramDown milkAlerts 1 milkEvent milkContext := by
  intro hsiblings
  let discord : NotificationChannel :=
    ⟨some 2, 10, .discord, [("webhook_url", "https://discord.test/hook")], true⟩
  have hdue : discord ∈ dueChannels workerConfig telegramDown milkEvent milkAlerts := by
    decide +kernel
  have hreturns : SendReturns workerConfig telegramDown milkEvent milkContext discord :=
    ⟨true, rfl⟩
  have hsent := hsiblings.sent discord hdue hreturns
  have hsilent : sendsOf (taskOutcome workerConfig telegramDown milkAlerts 1).trace =
      [.send ⟨some 1, 10, .telegram, [("chat_id", "77")], true⟩ milkEvent milkContext] := by
    decide +kernel
  rw [hsilent] at hsent
  exact absurd hsent (by decide +kernel)

end StockMonitoring.Tasks
