import StockMonitoring.Application.Messages
import StockMonitoring.Tasks.Recipients

set_option autoImplicit false

/-!
# Tasks: what the messages say

Whatever is committed beside the tasks, the text of every message they send reads back as the
stored keyword and retailer of the target, the type of the event and the price of its snapshot
(`messages_tell_what_is_stored`).  But a keyword in which a line ends cannot be the subject of an
email: no task for such a target is ever recorded as long as one of its users is to get an email
(`line_break_undoes_tasks`).
-/

namespace StockMonitoring.Tasks

open StockMonitoring.Foundation StockMonitoring.Domain StockMonitoring.Application
  StockMonitoring.Infrastructure.Db

/-! ## Texts -/

/-- A text that reads back as what is stored about an event. -/
def TellsStored (db : Database) (eventId : Nat) (text : String) : Prop :=
  ∃ event ∈ db.detectionEvents.rows, event.id = eventId ∧
    ∃ target ∈ db.watchTargets.rows, target.id = event.watchTargetId ∧
      ∃ snapshot ∈ db.snapshots.rows, snapshot.id = event.snapshotId ∧
        (target.retailerSlug ∈ registeredSlugs → readMessage text =
          some ⟨target.keyword, target.retailerSlug, event.eventType,
            snapshot.price.map roundHalfEven⟩)

/-- Every message of every task does. -/
def MessagesTell (settings : SenderSettings) (system : TaskSystem) : Prop :=
  ∀ session ∈ system.sessions, ∀ turn channel event context reply message,
    (turn, ⟨.send channel event context, reply⟩) ∈ session.calls →
      messageTo settings channel context = some message →
        TellsStored system.committed session.key message.text

theorem Addressed.tells {db : Database} {session : TaskSession} {channel : NotificationChannel}
    {event : DetectionEvent} {context : NotificationContext}
    (haddressed : Addressed db session channel event context) :
    TellsStored db session.key (formatMessage context) := by
  obtain ⟨eventRow, heventRow, hkey, rfl⟩ := haddressed.eventRow
  obtain ⟨targetRow, htargetRow, htarget, hkeyword, hslug⟩ := haddressed.targetRow
  obtain ⟨snapshotRow, hsnapshotRow, hsnapshot, hcontext⟩ := haddressed.snapshotRow
  refine ⟨eventRow, heventRow, hkey, targetRow, htargetRow, htarget, snapshotRow, hsnapshotRow,
    hsnapshot, fun hregistered => ?_⟩
  rw [readMessage_formatMessage (hslug ▸ hregistered), noticeOf, hkeyword, hslug, haddressed.type,
    hcontext]
  rfl

/-- However the tasks of the workers interleave with each other and with what the API and the
monitor commit, what the recipient of a message reads is what is stored: the keyword and the
retailer of the event's target, what has happened, and the price of the event's snapshot. -/
theorem messages_tell_what_is_stored (config : NotificationConfig) (settings : SenderSettings)
    (initial : Database) (moves : List (SessionMove Nat NotifyTurn Commit)) :
    Throughout (tasksBeside config).step (MessagesTell settings) ⟨initial, []⟩ moves := by
  intro earlier later reached _ hrun
  have halong : Along (tasksBeside config).step (fun _ _ => True) ⟨initial, []⟩ earlier :=
    along_of_forall (fun _ _ => trivial) _ earlier
  have hholds := (recipients config initial).holds_run halong hrun
    ((recipients config initial).holds_start fun _ hrow => Or.inl hrow)
  intro session hsession turn channel event context reply message hcall hmessage
  rw [text_messageTo hmessage]
  exact ((hholds.single session hsession).sends _ _ _ _ _ hcall).tells

/-! ## Subjects of several lines -/

/-- Tasks one after another, each for an event id and with what the outside chooses in it. -/
def runTasks (db : Database) (tasks : List (Nat × (NotifyOp → NotifyTurn))) : Database :=
  tasks.foldl (fun committed task => processDetectionEvent workerConfig task.2 committed task.1) db

/-- A user who is to get emails about a target, and no row of the log with the user's key. -/
structure AwaitsEmail (db : Database) (watchTargetId : Nat) (eventType : EventType)
    (channel : NotificationChannel) : Prop where
  subscribed : channel.userId ∈ subscribers db watchTargetId
  listed : channel ∈ SqlAlchemyNotificationChannelRepository.listForUser db channel.userId
  email : channel.type = .email
  address : (addressOf "email" channel).isSome = true
  unlogged : ∀ row ∈ db.notificationLogs.rows,
    row.dedupKey ≠ dedupKey channel.userId watchTargetId eventType

section Subjects

variable {db : Database} {turns : NotifyOp → NotifyTurn} {event : DetectionEvent}
  {context : NotificationContext} {channel : NotificationChannel}

theorem AwaitsEmail.due (hawaits : AwaitsEmail db event.watchTargetId event.eventType channel) :
    channel ∈ dueChannels workerConfig turns event db := by
  have hnone : recentOf workerConfig turns event db channel.userId = [] := by
    refine List.filter_eq_nil_iff.mpr fun row hrow => ?_
    simp [hawaits.unlogged row hrow]
  refine List.mem_flatMap.mpr ⟨channel.userId, hawaits.subscribed, ?_⟩
  rw [dueOf, if_pos hnone]
  refine List.mem_filter.mpr ⟨hawaits.listed, ?_⟩
  rw [hawaits.email]
  rfl

/-- The send to an email channel raises what the subject does. -/
theorem not_sendReturns_of_boundary (hemail : channel.type = .email)
    (haddress : (addressOf "email" channel).isSome = true)
    (hkeyword : ∃ char ∈ context.keyword.toList, isLineBoundary char = true) :
    ¬ SendReturns workerConfig turns event context channel := by
  rintro ⟨success, hanswer⟩
  obtain ⟨address, hfilter⟩ := Option.isSome_iff_exists.mp haddress
  obtain ⟨hlookup, hne⟩ := Option.filter_eq_some_iff.mp hfilter
  obtain ⟨error, hraises⟩ := sendSync_of_boundary hkeyword address
    (turns (.send channel event context)).smtp
  have hsend : sendAnswer workerConfig turns event context channel = .error error := by
    unfold sendAnswer sendReply
    rw [hemail]
    simp only [workerConfig, EmailSender.send, withAddress, hlookup, hraises]
    rw [if_neg (by simpa using hne)]
  rw [hsend] at hanswer
  cases hanswer

/-- A task for an event of the target is not recorded. -/
theorem undone_of_boundary {target : WatchTargetModel} {eventType : EventType} {eventId : Nat}
    (htarget : db.watchTargets.find? target.id = some target)
    (hkeyword : ∃ char ∈ target.keyword.toList, isLineBoundary char = true)
    (hawaits : AwaitsEmail db target.id eventType channel)
    (hevent : ∀ row, db.detectionEvents.find? eventId = some row →
      row.watchTargetId = target.id ∧ row.eventType = eventType) :
    processDetectionEvent workerConfig turns db eventId = db := by
  cases hfound : contextOf db eventId with
  | none => exact unchanged_of_hidden hfound
  | some found =>
      obtain ⟨event, context⟩ := found
      obtain ⟨event', hrow, hrest⟩ := Option.bind_eq_some_iff.mp hfound
      obtain ⟨row, hfind, rfl⟩ := Option.map_eq_some_iff.mp hrow
      obtain ⟨watchTarget, htargetRow, hrest⟩ := Option.bind_eq_some_iff.mp hrest
      obtain ⟨snapshot, hsnapshot, hpair⟩ := Option.bind_eq_some_iff.mp hrest
      cases hpair
      obtain ⟨hid, rfl⟩ := hevent row hfind
      have hsame : (toDetectionEvent row).watchTargetId = target.id := hid
      rw [hsame, htarget, Option.map_some] at htargetRow
      obtain rfl := Option.some.inj htargetRow
      refine unchanged_of_raises hfound fun hgood => ?_
      have hdue : channel ∈ dueChannels workerConfig turns (toDetectionEvent row) db := by
        refine AwaitsEmail.due ?_
        rw [hsame]
        exact hawaits
      exact not_sendReturns_of_boundary hawaits.email hawaits.address hkeyword
        (hgood.2 channel hdue)

end Subjects

/-- However many tasks run for the events of a type of a target whose keyword ends a line,
whenever they run and whatever the senders' calls come to: as long as one of its users is to get
an email that is not in the log yet, none of the tasks is recorded. -/
theorem line_break_undoes_tasks {db : Database} {target : WatchTargetModel}
    {eventType : EventType} {channel : NotificationChannel}
    (htarget : db.watchTargets.find? target.id = some target)
    (hkeyword : ∃ char ∈ target.keyword.toList, isLineBoundary char = true)
    (hawaits : AwaitsEmail db target.id eventType channel)
    (tasks : List (Nat × (NotifyOp → NotifyTurn)))
    (hevents : ∀ task ∈ tasks, ∀ row, db.detectionEvents.find? task.1 = some row →
      row.watchTargetId = target.id ∧ row.eventType = eventType) :
    runTasks db tasks = db := by
  unfold runTasks
  induction tasks with
  | nil => rfl
  | cons task tasks ih =>
      rw [List.foldl_cons, undone_of_boundary htarget hkeyword hawaits
        (hevents task List.mem_cons_self)]
      exact ih fun other hother => hevents other (List.mem_cons_of_mem _ hother)

/-- The target of `milkAlerts` with a line break in its keyword, and an email channel. -/
def brokenTarget (id : Nat) : WatchTargetModel :=
  ⟨id, "blinkit", "Delhi", "110001", "milk\n", 60, none⟩

def inbox : NotificationChannel :=
  ⟨some 3, 10, .email, [("email", "friend@example.com")], true⟩

def brokenAlerts : Database :=
  { milkAlerts with
    watchTargets := Table.empty.insert brokenTarget
    notificationChannels := milkAlerts.notificationChannels.insert fun id =>
      ⟨id, 10, .email, [("email", "friend@example.com")], true⟩ }

/-- Both events of `brokenAlerts`, a second apart: nothing is recorded. -/
theorem broken_alerts_undone :
    runTasks brokenAlerts [(1, reachableTurns 0), (2, reachableTurns (seconds 1))] =
      brokenAlerts := by
  refine @line_break_undoes_tasks brokenAlerts (brokenTarget 1) .stockAvailable inbox rfl
    ⟨'\n', by decide, rfl⟩
    ⟨by decide +kernel, by decide +kernel, rfl, rfl, by decide +kernel⟩ _ ?_
  decide +kernel

end StockMonitoring.Tasks
