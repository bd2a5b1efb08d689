import StockMonitoring.Api.ApiSessions
import StockMonitoring.Api.AuthSessions
import StockMonitoring.Tasks.ConcurrentCooldown

set_option autoImplicit false

/-!
# Tasks: who is notified

The tasks of the workers beside everything else that commits: the requests of the API and
of the authentication service, and the rows of the monitor.  Whatever the interleaving, a
task sends only to channels of users that had an active watch on the event's target when it
listed the watches, and what it sends is about the event, its target and its snapshot
(`only_watchers_are_notified`).

A watch may be deactivated at any time, but its row stays, with its user and its target
(`Lasts`).
-/

namespace StockMonitoring.Tasks

open StockMonitoring.Foundation StockMonitoring.Domain StockMonitoring.Application
  StockMonitoring.Infrastructure.Db StockMonitoring.Api

/-! ## What else commits -/

/-- What happens to the committed database beside the tasks. -/
inductive Commit where
  /-- a request of the API draws the key of a new row -/
  | drawn (write : ApiWrite)
  /-- a request of the API ends, with what it has written -/
  | request (work : List ApiWrite)
  /-- a request of a code or a verification ends, with what it has written -/
  | login (work : List AuthWrite)
  /-- rows of the monitor become visible -/
  | snapshot (watchTargetId : Nat) (result : ProviderProductResult)
  | event (watchTargetId snapshotId : Nat) (previousSnapshotId : Option Nat)
      (eventType : EventType) (createdAt : Datetime)
  | checked (watchTargetId : Nat) (checkedAt : Datetime)

/-- The committed database afterwards. -/
def Commit.apply (db : Database) : Commit → Database
  | .drawn write => write.reserve db
  | .request work =>
      if AllFits db work ∧ UniqueTargets (shown db work) ∧ ForeignKeys (shown db work) then
        shown db work
      else db
  | .login work => if ∀ write ∈ work, write.Fits db then seen db work else db
  | .snapshot watchTargetId result =>
      (SqlAlchemySnapshotRepository.create db watchTargetId result).2
  | .event watchTargetId snapshotId previousSnapshotId eventType createdAt =>
      (SqlAlchemyDetectionEventRepository.create db watchTargetId snapshotId previousSnapshotId
        eventType createdAt).2
  | .checked watchTargetId checkedAt =>
      (SqlAlchemyWatchTargetRepository.markChecked db watchTargetId checkedAt).2

/-- The tasks of the workers beside everything else. -/
def tasksBeside (config : NotificationConfig) :
    SessionSpec Nat notifyPort Raised Unit Database (List NotificationLogModel) NotifyTurn
      Commit where
  program := (workerSessions config).program
  fresh := (workerSessions config).fresh
  respond := (workerSessions config).respond
  commit := (workerSessions config).commit
  outside change committed := change.apply committed

/-! ## What lasts -/

/-- What no commit takes back. -/
structure Lasts (db next : Database) : Prop where
  events : ∀ row ∈ db.detectionEvents.rows, row ∈ next.detectionEvents.rows
  snapshots : ∀ row ∈ db.snapshots.rows, row ∈ next.snapshots.rows
  targets : ∀ row ∈ db.watchTargets.rows, ∃ later ∈ next.watchTargets.rows, later.id = row.id ∧
    later.keyword = row.keyword ∧ later.retailerSlug = row.retailerSlug
  watches : ∀ row ∈ db.watches.rows, ∃ later ∈ next.watches.rows, later.userId = row.userId ∧
    later.watchTargetId = row.watchTargetId

section Lasts

variable {db mid next : Database}

theorem lasts_refl (db : Database) : Lasts db db where
  events _ hrow := hrow
  snapshots _ hrow := hrow
  targets row hrow := ⟨row, hrow, rfl, rfl, rfl⟩
  watches row hrow := ⟨row, hrow, rfl, rfl⟩

theorem Lasts.trans (hfirst : Lasts db mid) (hsecond : Lasts mid next) : Lasts db next where
  events row hrow := hsecond.events row (hfirst.events row hrow)
  snapshots row hrow := hsecond.snapshots row (hfirst.snapshots row hrow)
  targets row hrow := by
    obtain ⟨later, hlater, hid, hkeyword, hslug⟩ := hfirst.targets row hrow
    obtain ⟨last, hlast, hid', hkeyword', hslug'⟩ := hsecond.targets later hlater
    exact ⟨last, hlast, hid'.trans hid, hkeyword'.trans hkeyword, hslug'.trans hslug⟩
  watches row hrow := by
    obtain ⟨later, hlater, huser, htarget⟩ := hfirst.watches row hrow
    obtain ⟨last, hlast, huser', htarget'⟩ := hsecond.watches later hlater
    exact ⟨last, hlast, huser'.trans huser, htarget'.trans htarget⟩

/-- An update of a row leaves a row for each, and the key. -/
theorem exists_mem_modify {Row : Type} [Keyed Row] {table : Table Row} {id : Nat}
    {change : Row → Row} {hkey : ∀ row, Keyed.key (change row) = Keyed.key row} {row : Row}
    (hrow : row ∈ table.rows) :
    ∃ later ∈ (table.modify id change hkey).rows, later = row ∨ later = change row := by
  rw [Table.rows_modify]
  refine ⟨_, List.mem_map_of_mem hrow, ?_⟩
  split
  · exact Or.inr rfl
  · exact Or.inl rfl

theorem lasts_reserve (db : Database) (write : ApiWrite) : Lasts db (write.reserve db) := by
  cases write <;> exact { lasts_refl db with }

/-- An update of a target that leaves what it is about. -/
theorem lasts_modifyTarget (db : Database) (id : Nat) {change : WatchTargetModel → WatchTargetModel}
    {hkey : ∀ row, Keyed.key (change row) = Keyed.key row}
    (hkeyword : ∀ row, (change row).keyword = row.keyword)
    (hslug : ∀ row, (change row).retailerSlug = row.retailerSlug) :
    Lasts db { db with watchTargets := db.watchTargets.modify id change hkey } := by
  refine { lasts_refl db with targets := ?_ }
  intro row hrow
  obtain ⟨later, hlater, rfl | rfl⟩ := @exists_mem_modify _ _ _ id change hkey row hrow
  · exact ⟨later, hlater, rfl, rfl, rfl⟩
  · exact ⟨_, hlater, hkey row, hkeyword row, hslug row⟩

theorem lasts_write (db : Database) (write : ApiWrite) : Lasts db (write.apply db) := by
  cases write with
  | watchTarget row =>
      exact { lasts_refl db with
        targets := fun old hold => ⟨old, Table.mem_place hold, rfl, rfl, rfl⟩ }
  | watch row =>
      exact { lasts_refl db with
        watches := fun old hold => ⟨old, Table.mem_place hold, rfl, rfl⟩ }
  | intervalSet watchTargetId intervalSeconds =>
      exact lasts_modifyTarget db watchTargetId (fun _ => rfl) fun _ => rfl
  | deactivated watchId =>
      refine { lasts_refl db with watches := ?_ }
      intro row hrow
      change ∃ later ∈ (updateIfAny db.watches watchId _ _).2.rows, _
      rw [updateIfAny_snd]
      obtain ⟨later, hlater, hsame⟩ := exists_mem_modify hrow
      refine ⟨later, hlater, ?_⟩
      rcases hsame with rfl | rfl <;> exact ⟨rfl, rfl⟩
  | product | channel | setting | valueSet | verified | productGone | channelGone =>
      exact { lasts_refl db with }

theorem lasts_shown (db : Database) (work : List ApiWrite) : Lasts db (shown db work) := by
  induction work generalizing db with
  | nil => exact lasts_refl db
  | cons write later ih => exact (lasts_write db write).trans (ih _)

theorem lasts_seen (db : Database) (work : List AuthWrite) : Lasts db (seen db work) := by
  induction work generalizing db with
  | nil => exact lasts_refl db
  | cons write later ih =>
      refine Lasts.trans ?_ (ih _)
      cases write <;> exact { lasts_refl db with }

/-- Nothing that commits beside the tasks takes back what lasts. -/
theorem lasts_commit (db : Database) (change : Commit) : Lasts db (change.apply db) := by
  cases change with
  | drawn write => exact lasts_reserve db write
  | request work =>
      simp only [Commit.apply]
      split
      · exact lasts_shown db work
      · exact lasts_refl db
  | login work =>
      simp only [Commit.apply]
      split
      · exact lasts_seen db work
      · exact lasts_refl db
  | snapshot watchTargetId result =>
      exact { lasts_refl db with snapshots := fun row hrow => List.mem_append_left _ hrow }
  | event watchTargetId snapshotId previousSnapshotId eventType createdAt =>
      exact { lasts_refl db with events := fun row hrow => List.mem_append_left _ hrow }
  | checked watchTargetId checkedAt =>
      change Lasts db { db with watchTargets := (updateOne db.watchTargets watchTargetId _ _).2 }
      rw [updateOne_snd]
      exact lasts_modifyTarget db watchTargetId (fun _ => rfl) fun _ => rfl

/-- What a fold of writes leaves alone. -/
theorem log_foldl {Write : Type} {write : Database → Write → Database}
    (hwrite : ∀ db change, (write db change).notificationLogs = db.notificationLogs)
    (db : Database) (work : List Write) :
    (work.foldl write db).notificationLogs = db.notificationLogs := by
  induction work generalizing db with
  | nil => rfl
  | cons change later ih => exact (ih _).trans (hwrite db change)

/-- Nobody but the tasks writes the log. -/
theorem log_commit (db : Database) (change : Commit) :
    (change.apply db).notificationLogs = db.notificationLogs := by
  cases change with
  | drawn write => cases write <;> rfl
  | request work =>
      simp only [Commit.apply]
      split
      · exact log_foldl (fun db write => by cases write <;> rfl) db work
      · rfl
  | login work =>
      simp only [Commit.apply]
      split
      · exact log_foldl (fun db write => by cases write <;> rfl) db work
      · rfl
  | snapshot | event | checked => rfl

end Lasts

/-! ## What a task has read -/

/-- What a task has read when it sends. -/
structure Briefing where
  event : Option DetectionEvent
  watchTarget : Option WatchTarget
  snapshot : Option Snapshot
  watches : List Watch
  channels : List NotificationChannel

namespace Briefing

/-- Before the first call. -/
def start : Briefing := ⟨none, none, none, [], []⟩

/-- The briefing after a call has returned. -/
def returned (briefing : Briefing) : (op : NotifyOp) → op.Answer → Briefing
  | .getEvent _, event => { briefing with event := event }
  | .getWatchTarget _, watchTarget => { briefing with watchTarget := watchTarget }
  | .getSnapshot _, snapshot => { briefing with snapshot := snapshot }
  | .listByWatchTarget _, watches => { briefing with watches := watches }
  | .listForUser _, channels => { briefing with channels := channels }
  | .existsRecent _ _, _ | .send _ _ _, _ | .createLog _ _ _ _ _, _ => briefing

/-- The briefing after a reply. -/
def next (briefing : Briefing) (op : NotifyOp) (reply : Reply notifyPort Raised op) : Briefing :=
  match reply with
  | .ok answer => briefing.returned op answer
  | .error _ => briefing

/-- The user has one of the watches. -/
def Watches (briefing : Briefing) (userId : Nat) : Prop :=
  ∃ watch ∈ briefing.watches, watch.userId = userId

/-- A message about the event, its target and its snapshot. -/
def Tells (briefing : Briefing) (event : DetectionEvent) (context : NotificationContext) : Prop :=
  briefing.event = some event ∧ ∃ watchTarget snapshot, briefing.watchTarget = some watchTarget ∧
    briefing.snapshot = some snapshot ∧
    context = ⟨watchTarget.keyword, watchTarget.retailerSlug, event.eventType, snapshot⟩

/-- What must hold when the task of an event makes a call. -/
def Allows (eventId : Nat) (briefing : Briefing) : NotifyOp → Prop
  | .getEvent id => id = eventId ∧ briefing = .start
  | .getWatchTarget id => ∃ event, briefing.event = some event ∧ id = event.watchTargetId
  | .getSnapshot id => ∃ event, briefing.event = some event ∧ id = event.snapshotId
  | .listByWatchTarget id => ∃ event, briefing.event = some event ∧ id = event.watchTargetId
  | .existsRecent _ _ => True
  | .listForUser userId => briefing.Watches userId
  | .send channel event context => briefing.Tells event context ∧ channel ∈ briefing.channels ∧
      briefing.Watches channel.userId
  | .createLog userId detectionEventId _ _ key => ∃ event, briefing.event = some event ∧
      event.id = some detectionEventId ∧
      key = dedupKey userId event.watchTargetId event.eventType ∧ briefing.Watches userId

end Briefing

/-- The protocol of a task: it reads, and sends by what it has read. -/
def briefingProtocol (eventId : Nat) : Protocol notifyPort Raised Unit Briefing where
  pre op briefing := briefing.Allows eventId op
  answers op reply _ := KeyedAnswers op reply
  next op reply briefing := briefing.next op reply
  post _ _ := True

section Obeys

variable {config : NotificationConfig} {event : DetectionEvent} {context : NotificationContext}
  {userId eventId : Nat} {briefing : Briefing}

/-- A call of a task: what it needs, and the rest after its answer. -/
theorem briefed_askNotify {op : NotifyOp} {rest : op.Answer → Notify Unit}
    (hallows : briefing.Allows eventId op)
    (hrest : ∀ answer, KeyedAnswers op (.ok answer) →
      (rest answer).Obeys (briefingProtocol eventId) (briefing.returned op answer)) :
    (askNotify op >>= rest).Obeys (briefingProtocol eventId) briefing := by
  refine ⟨hallows, ?_⟩
  intro reply hreply
  cases reply with
  | ok answer => exact hrest answer hreply
  | error error => exact trivial

/-- What the loop over the watches relies on. -/
structure Briefing.Ready (briefing : Briefing) (event : DetectionEvent)
    (context : NotificationContext) (watches : List Watch) : Prop where
  tells : briefing.Tells event context
  watches : briefing.watches = watches

/-- The loop over the channels of a user. -/
theorem notifyChannels_briefed {all : List Watch} (hready : briefing.Ready event context all)
    (hwatches : briefing.Watches userId) {channels : List NotificationChannel}
    (hlisted : ∀ channel ∈ channels, channel ∈ briefing.channels)
    (hown : ∀ channel ∈ channels, channel.userId = userId)
    {rest : Unit → Notify Unit}
    (hrest : (rest ()).Obeys (briefingProtocol eventId) briefing) :
    (notifyChannels config event context userId
      (dedupKey userId event.watchTargetId event.eventType) channels >>= rest).Obeys
        (briefingProtocol eventId) briefing := by
  induction channels with
  | nil => exact hrest
  | cons channel later ih =>
      have hchannel : channel.userId = userId := hown channel List.mem_cons_self
      have hlater := ih (fun other hother => hlisted other (List.mem_cons_of_mem _ hother))
        fun other hother => hown other (List.mem_cons_of_mem _ hother)
      unfold notifyChannels
      cases config.senders channel.type with
      | none => exact hlater
      | some sender =>
          simp only
          rw [bind_assoc]
          refine briefed_askNotify ⟨hready.tells, hlisted channel List.mem_cons_self,
            hchannel ▸ hwatches⟩ fun success _ => ?_
          split
          · rename_i id channelId hid _
            rw [bind_assoc]
            exact briefed_askNotify ⟨event, hready.tells.1, hid, rfl, hwatches⟩ fun _ _ => hlater
          · exact trivial

theorem notifyUser_briefed {all : List Watch} (hready : briefing.Ready event context all)
    (hwatches : briefing.Watches userId) {rest : Unit → Notify Unit}
    (hrest : ∀ reached : Briefing, reached.Ready event context all →
      (rest ()).Obeys (briefingProtocol eventId) reached) :
    (notifyUser config event context userId >>= rest).Obeys (briefingProtocol eventId)
      briefing := by
  unfold notifyUser
  rw [bind_assoc]
  refine briefed_askNotify trivial fun isRecent _ => ?_
  cases isRecent with
  | true => exact hrest briefing hready
  | false =>
      simp only [Bool.false_eq_true, if_false]
      rw [bind_assoc]
      refine briefed_askNotify hwatches fun channels hchannels => ?_
      have hready' : (briefing.returned (.listForUser userId) channels).Ready event context all :=
        ⟨hready.tells, hready.watches⟩
      exact notifyChannels_briefed hready' hwatches (fun _ hchannel => hchannel)
        (fun channel hchannel => (hchannels channel hchannel).1) (hrest _ hready')

theorem notifyWatches_briefed {all : List Watch} (hready : briefing.Ready event context all)
    {watches : List Watch} (hsub : ∀ watch ∈ watches, watch ∈ all) (seenUsers : List Nat) :
    (notifyWatches config event context watches seenUsers).Obeys (briefingProtocol eventId)
      briefing := by
  induction watches generalizing briefing seenUsers with
  | nil => exact trivial
  | cons watch later ih =>
      have hlater := fun other hother => hsub other (List.mem_cons_of_mem _ hother)
      unfold notifyWatches
      split
      · exact ih hready hlater seenUsers
      · have hwatch : watch ∈ briefing.watches :=
          hready.watches ▸ hsub watch List.mem_cons_self
        exact notifyUser_briefed hready ⟨watch, hwatch, rfl⟩ fun reached hreached =>
          ih hreached hlater _

/-- Every task keeps to its protocol. -/
theorem processEvent_briefed (config : NotificationConfig) (eventId : Nat) :
    (processEvent config eventId).Obeys (briefingProtocol eventId) .start := by
  unfold processEvent
  refine briefed_askNotify ⟨rfl, rfl⟩ fun found _ => ?_
  cases found with
  | none => exact trivial
  | some event =>
      refine briefed_askNotify ⟨event, rfl, rfl⟩ fun watchTarget _ => ?_
      refine briefed_askNotify ⟨event, rfl, rfl⟩ fun snapshot _ => ?_
      cases watchTarget with
      | none => exact trivial
      | some watchTarget =>
          cases snapshot with
          | none => exact trivial
          | some snapshot =>
              refine briefed_askNotify ⟨event, rfl, rfl⟩ fun watches _ => ?_
              refine notifyWatches_briefed ⟨⟨?_, watchTarget, snapshot, ?_, ?_, rfl⟩, ?_⟩
                (fun _ hwatch => hwatch) []
              all_goals rfl

end Obeys

/-! ## What is sent and logged -/

/-- A send of a task: what it is about is stored, and the user had an active watch on the
target, and the channel, when the task listed them. -/
structure Addressed (db : Database) (session : TaskSession) (channel : NotificationChannel)
    (event : DetectionEvent) (context : NotificationContext) : Prop where
  eventRow : ∃ row ∈ db.detectionEvents.rows, row.id = session.key ∧ event = toDetectionEvent row
  targetRow : ∃ row ∈ db.watchTargets.rows, row.id = event.watchTargetId ∧
    context.keyword = row.keyword ∧ context.retailerSlug = row.retailerSlug
  snapshotRow : ∃ row ∈ db.snapshots.rows, row.id = event.snapshotId ∧
    context.snapshot = toSnapshot row
  type : context.eventType = event.eventType
  watched : ∃ turn watches, (turn, ⟨.listByWatchTarget event.watchTargetId, .ok watches⟩) ∈
    session.calls ∧ ∃ watch ∈ watches, watch.userId = channel.userId ∧ watch.isActive = true ∧
      ∃ row ∈ db.watches.rows, row.userId = channel.userId ∧ row.watchTargetId = event.watchTargetId
  listed : ∃ turn channels, (turn, ⟨.listForUser channel.userId, .ok channels⟩) ∈ session.calls ∧
    channel ∈ channels

/-- A log row of a task: it is for a user with a watch, active or not, on the event's target. -/
structure Justified (db : Database) (row : NotificationLogModel) : Prop where
  eventRow : ∃ event ∈ db.detectionEvents.rows, event.id = row.detectionEventId ∧
    row.dedupKey = dedupKey row.userId event.watchTargetId event.eventType ∧
    ∃ watch ∈ db.watches.rows, watch.userId = row.userId ∧
      watch.watchTargetId = event.watchTargetId

/-- What a task knows is stored. -/
structure Known (db : Database) (session : TaskSession) (briefing : Briefing) : Prop where
  event : ∀ event, briefing.event = some event →
    ∃ row ∈ db.detectionEvents.rows, row.id = session.key ∧ event = toDetectionEvent row
  target : ∀ event watchTarget, briefing.event = some event →
    briefing.watchTarget = some watchTarget → ∃ row ∈ db.watchTargets.rows,
      row.id = event.watchTargetId ∧ watchTarget.keyword = row.keyword ∧
        watchTarget.retailerSlug = row.retailerSlug
  snapshot : ∀ event snapshot, briefing.event = some event → briefing.snapshot = some snapshot →
    ∃ row ∈ db.snapshots.rows, row.id = event.snapshotId ∧ snapshot = toSnapshot row
  watches : ∀ event, briefing.event = some event → ∀ watch ∈ briefing.watches,
    watch.isActive = true ∧
      (∃ turn watches, (turn, ⟨.listByWatchTarget event.watchTargetId, .ok watches⟩) ∈
        session.calls ∧ watch ∈ watches) ∧
      ∃ row ∈ db.watches.rows, row.userId = watch.userId ∧ row.watchTargetId = event.watchTargetId
  channels : ∀ channel ∈ briefing.channels, ∃ turn channels,
    (turn, ⟨.listForUser channel.userId, .ok channels⟩) ∈ session.calls ∧ channel ∈ channels

/-- What a task has read so far. -/
def briefingOf (session : TaskSession) : Briefing :=
  session.ghost (briefingProtocol session.key) .start

/-- What holds of a task: it keeps to its protocol, and what it has sent and flushed is for
watchers. -/
structure Informed (db : Database) (session : TaskSession) : Prop where
  obeys : session.program.Obeys (briefingProtocol session.key) (briefingOf session)
  known : Known db session (briefingOf session)
  sends : ∀ turn channel event context reply,
    (turn, ⟨.send channel event context, reply⟩) ∈ session.calls →
      Addressed db session channel event context
  flushed : ∀ row ∈ session.work, Justified db row

section Keeps

variable {db next : Database} {session after : TaskSession} {channel : NotificationChannel}
  {event : DetectionEvent} {context : NotificationContext} {briefing : Briefing}
  {row : NotificationLogModel}

theorem Lasts.watchRow (hlasts : Lasts db next) {userId watchTargetId : Nat}
    (hwatch : ∃ row ∈ db.watches.rows, row.userId = userId ∧ row.watchTargetId = watchTargetId) :
    ∃ row ∈ next.watches.rows, row.userId = userId ∧ row.watchTargetId = watchTargetId := by
  obtain ⟨row, hrow, rfl, rfl⟩ := hwatch
  exact hlasts.watches row hrow

theorem Lasts.targetRow (hlasts : Lasts db next) {id : Nat} {keyword retailerSlug : String}
    (htarget : ∃ row ∈ db.watchTargets.rows, row.id = id ∧ keyword = row.keyword ∧
      retailerSlug = row.retailerSlug) :
    ∃ row ∈ next.watchTargets.rows, row.id = id ∧ keyword = row.keyword ∧
      retailerSlug = row.retailerSlug := by
  obtain ⟨row, hrow, rfl, rfl, rfl⟩ := htarget
  obtain ⟨later, hlater, hid, hkeyword, hslug⟩ := hlasts.targets row hrow
  exact ⟨later, hlater, hid, hkeyword.symm, hslug.symm⟩

theorem Lasts.eventRow (hlasts : Lasts db next) {holds : DetectionEventModel → Prop}
    (hevent : ∃ row ∈ db.detectionEvents.rows, holds row) :
    ∃ row ∈ next.detectionEvents.rows, holds row := by
  obtain ⟨row, hrow, hholds⟩ := hevent
  exact ⟨row, hlasts.events row hrow, hholds⟩

theorem Lasts.snapshotRow (hlasts : Lasts db next) {holds : SnapshotModel → Prop}
    (hsnapshot : ∃ row ∈ db.snapshots.rows, holds row) :
    ∃ row ∈ next.snapshots.rows, holds row := by
  obtain ⟨row, hrow, hholds⟩ := hsnapshot
  exact ⟨row, hlasts.snapshots row hrow, hholds⟩

theorem Justified.lasts (hjustified : Justified db row) (hlasts : Lasts db next) :
    Justified next row := by
  obtain ⟨event, hevent, hid, hkey, hwatch⟩ := hjustified.eventRow
  exact ⟨event, hlasts.events event hevent, hid, hkey, hlasts.watchRow hwatch⟩

/-- A send stays addressed while the task and the database go on. -/
theorem Addressed.lasts (haddressed : Addressed db session channel event context)
    (hlasts : Lasts db next) (hkey : after.key = session.key)
    (hcalls : ∀ call ∈ session.calls, call ∈ after.calls) :
    Addressed next after channel event context := by
  obtain ⟨turn, watches, hcall, watch, hwatch, huser, hactive, hrow⟩ := haddressed.watched
  obtain ⟨turn', channels, hcall', hchannel⟩ := haddressed.listed
  refine ⟨?_, hlasts.targetRow haddressed.targetRow, hlasts.snapshotRow haddressed.snapshotRow,
    haddressed.type, ?_, ?_⟩
  · rw [hkey]
    exact hlasts.eventRow haddressed.eventRow
  · exact ⟨turn, watches, hcalls _ hcall, watch, hwatch, huser, hactive, hlasts.watchRow hrow⟩
  · exact ⟨turn', channels, hcalls _ hcall', hchannel⟩

theorem Known.lasts (hknown : Known db session briefing) (hlasts : Lasts db next)
    (hkey : after.key = session.key) (hcalls : ∀ call ∈ session.calls, call ∈ after.calls) :
    Known next after briefing where
  event event hevent := by
    rw [hkey]
    exact hlasts.eventRow (hknown.event event hevent)
  target event watchTarget hevent htarget :=
    hlasts.targetRow (hknown.target event watchTarget hevent htarget)
  snapshot event snapshot hevent hsnapshot :=
    hlasts.snapshotRow (hknown.snapshot event snapshot hevent hsnapshot)
  watches event hevent watch hwatch := by
    obtain ⟨hactive, ⟨turn, watches, hcall, hmem⟩, hrow⟩ := hknown.watches event hevent watch hwatch
    exact ⟨hactive, ⟨turn, watches, hcalls _ hcall, hmem⟩, hlasts.watchRow hrow⟩
  channels channel hchannel := by
    obtain ⟨turn, channels, hcall, hmem⟩ := hknown.channels channel hchannel
    exact ⟨turn, channels, hcalls _ hcall, hmem⟩

/-- What holds of a task holds whatever else commits. -/
theorem Informed.lasts (hinformed : Informed db session) (hlasts : Lasts db next) :
    Informed next session where
  obeys := hinformed.obeys
  known := hinformed.known.lasts hlasts rfl fun _ hcall => hcall
  sends turn channel event context reply hcall :=
    (hinformed.sends turn channel event context reply hcall).lasts hlasts rfl fun _ hcall => hcall
  flushed row hrow := (hinformed.flushed row hrow).lasts hlasts

end Keeps

/-! ## One call -/

section Calls

variable {config : NotificationConfig} {db next : Database} {session after : TaskSession}
  {briefing : Briefing} {turn : NotifyTurn}

/-- What a call answers is known from then on. -/
theorem Known.returned (hknown : Known db session briefing) {op : NotifyOp} {answer : op.Answer}
    (hallows : briefing.Allows session.key op)
    (hreply : (notifyRespond config turn op (withFlushed db session.work)).1 = .ok answer)
    (hkey : after.key = session.key)
    (hcalls : after.calls = session.calls ++ [(turn, ⟨op, .ok answer⟩)]) :
    Known db after (briefing.returned op answer) := by
  have hold : ∀ call ∈ session.calls, call ∈ after.calls := by
    intro call hcall
    rw [hcalls]
    exact List.mem_append_left _ hcall
  have hnew : (turn, ⟨op, .ok answer⟩) ∈ after.calls := by
    rw [hcalls]
    exact List.mem_append_right _ (List.mem_singleton_self _)
  have hkept : Known db after briefing := hknown.lasts (lasts_refl db) hkey hold
  cases op with
  | getEvent eventId =>
      obtain ⟨rfl, rfl⟩ := hallows
      refine ⟨?_, fun _ _ _ h => (by cases h), fun _ _ _ h => (by cases h),
        fun _ _ _ h => (by cases h), fun _ h => (by cases h)⟩
      rintro event rfl
      rw [respond_getEvent] at hreply
      obtain ⟨row, hrow, rfl⟩ := Option.map_eq_some_iff.mp (Except.ok.inj hreply)
      exact ⟨row, Table.mem_of_find? hrow, (Table.key_of_find? hrow).trans hkey.symm, rfl⟩
  | getWatchTarget watchTargetId =>
      obtain ⟨event, hevent, rfl⟩ := hallows
      refine { hkept with target := ?_ }
      rintro other watchTarget hother rfl
      obtain rfl := Option.some.inj (hevent.symm.trans hother)
      rw [respond_getWatchTarget] at hreply
      obtain ⟨row, hrow, rfl⟩ := Option.map_eq_some_iff.mp (Except.ok.inj hreply)
      exact ⟨row, Table.mem_of_find? hrow, Table.key_of_find? hrow, rfl, rfl⟩
  | getSnapshot snapshotId =>
      obtain ⟨event, hevent, rfl⟩ := hallows
      refine { hkept with snapshot := ?_ }
      rintro other snapshot hother rfl
      obtain rfl := Option.some.inj (hevent.symm.trans hother)
      rw [respond_getSnapshot] at hreply
      obtain ⟨row, hrow, rfl⟩ := Option.map_eq_some_iff.mp (Except.ok.inj hreply)
      exact ⟨row, Table.mem_of_find? hrow, Table.key_of_find? hrow, rfl⟩
  | listByWatchTarget watchTargetId =>
      obtain ⟨event, hevent, rfl⟩ := hallows
      refine { hkept with watches := ?_ }
      intro other hother watch hwatch
      obtain rfl := Option.some.inj (hevent.symm.trans hother)
      obtain rfl := Except.ok.inj hreply
      obtain ⟨row, hrow, rfl⟩ := List.mem_map.mp hwatch
      obtain ⟨hmem, htest⟩ := List.mem_filter.mp hrow
      rw [Bool.and_eq_true, beq_iff_eq] at htest
      exact ⟨htest.2, ⟨turn, _, hnew, hwatch⟩, row, hmem, rfl, htest.1⟩
  | listForUser userId =>
      refine { hkept with channels := ?_ }
      intro channel hchannel
      obtain rfl := Except.ok.inj hreply
      have huser : channel.userId = userId := (userId_of_mem_listForUser hchannel).1
      rw [huser]
      exact ⟨turn, _, hnew, hchannel⟩
  | existsRecent | send | createLog => exact hkept

/-- A send by what is known is addressed. -/
theorem Known.addressed (hknown : Known db session briefing) {channel : NotificationChannel}
    {event : DetectionEvent} {context : NotificationContext}
    (hallows : briefing.Allows session.key (.send channel event context)) :
    Addressed db session channel event context := by
  obtain ⟨⟨hevent, watchTarget, snapshot, htarget, hsnapshot, rfl⟩, hchannel, watch, hwatch,
    huser⟩ := hallows
  obtain ⟨hactive, ⟨turn, watches, hcall, hmem⟩, row, hrow, howner, hrowTarget⟩ :=
    hknown.watches event hevent watch hwatch
  refine ⟨hknown.event event hevent, hknown.target event watchTarget hevent htarget,
    hknown.snapshot event snapshot hevent hsnapshot, rfl, ?_, hknown.channels channel hchannel⟩
  exact ⟨turn, watches, hcall, watch, hmem, huser, hactive, row, hrow, howner.trans huser,
    hrowTarget⟩

/-- A row that is flushed by what is known is for a watcher. -/
theorem Known.justified (hknown : Known db session briefing) {op : NotifyOp} {now : Datetime}
    (hallows : briefing.Allows session.key op) :
    ∀ row ∈ flushedBy now op, Justified db row := by
  intro row hrow
  cases op with
  | createLog userId detectionEventId channelId status key =>
      obtain rfl := List.mem_singleton.mp hrow
      obtain ⟨event, hevent, hid, rfl, watch, hwatch, rfl⟩ := hallows
      obtain ⟨stored, hstored, _, rfl⟩ := hknown.event event hevent
      obtain ⟨_, _, hwatched⟩ := hknown.watches _ hevent watch hwatch
      exact ⟨stored, hstored, Option.some.inj hid, rfl, hwatched⟩
  | _ => cases hrow

/-- The step lemma for one task. -/
theorem Informed.called (hinformed : Informed db session)
    (hcalled : (tasksBeside config).called db turn session = some (next, after)) :
    next = db ∧ Informed db after := by
  have hobeys := SessionSpec.obeys_called hinformed.obeys
    (fun op _ => @keyedAnswers_called config op turn db session.work) hcalled
  obtain ⟨op, resume, reply, work, _, hprogram, hrespond, hafter⟩ :=
    SessionSpec.called_cases hcalled
  have hallows : (briefingOf session).Allows session.key op :=
    Co.pre_of_obeys hinformed.obeys hprogram
  have hkey : after.key = session.key := by rw [hafter]
  have hcalls : after.calls = session.calls ++ [(turn, ⟨op, reply⟩)] := by rw [hafter]
  have hnext : briefingOf after = (briefingOf session).next op reply := by
    unfold briefingOf
    rw [hkey]
    exact SessionSpec.ghost_concat (briefingProtocol session.key) .start hcalls
  have hold : ∀ call ∈ session.calls, call ∈ after.calls := by
    intro call hcall
    rw [hcalls]
    exact List.mem_append_left _ hcall
  have hkept : Known db after (briefingOf session) :=
    hinformed.known.lasts (lasts_refl db) hkey hold
  have hanswer : ∀ answer, reply = .ok answer →
      (notifyRespond config turn op (withFlushed db session.work)).1 = .ok answer := by
    rintro answer rfl
    simp only [tasksBeside, workerSessions] at hrespond
    split at hrespond
    · exact congrArg Prod.fst hrespond
    · cases hrespond
  have hwork : next = db ∧
      ∀ row ∈ after.work, row ∈ session.work ∨ row ∈ flushedBy turn.now op := by
    rw [hafter]
    simp only [tasksBeside, workerSessions] at hrespond
    split at hrespond
    · cases hrespond
      exact ⟨rfl, fun row hrow => List.mem_append.mp hrow⟩
    · cases hrespond
      exact ⟨rfl, fun row hrow => Or.inl hrow⟩
  refine ⟨hwork.1, ?_, ?_, ?_, ?_⟩
  · unfold briefingOf
    rw [hkey]
    exact hobeys
  · rw [hnext]
    cases reply with
    | error error => exact hkept
    | ok answer => exact hinformed.known.returned hallows (hanswer answer rfl) hkey hcalls
  · intro turn' channel event context reply' hcall
    rw [hcalls] at hcall
    rcases List.mem_append.mp hcall with hearlier | hlast
    · exact (hinformed.sends turn' channel event context reply' hearlier).lasts (lasts_refl db)
        hkey hold
    · cases List.mem_singleton.mp hlast
      exact (hinformed.known.addressed hallows).lasts (lasts_refl db) hkey hold
  · intro row hrow
    rcases hwork.2 row hrow with hearlier | hlast
    · exact hinformed.flushed row hearlier
    · exact hinformed.known.justified hallows row hlast

end Calls

/-! ## Runs -/

section Runs

variable {config : NotificationConfig} {initial db next : Database} {session after : TaskSession}

/-- The rows of the log after a commit of a task. -/
theorem mem_withFlushed {flushed : List NotificationLogModel} {row : NotificationLogModel}
    (hrow : row ∈ (withFlushed db flushed).notificationLogs.rows) :
    row ∈ db.notificationLogs.rows ∨ ∃ made ∈ flushed, row = { made with id := row.id } := by
  induction flushed using List.reverseRecOn with
  | nil => exact Or.inl hrow
  | append_singleton flushed made ih =>
      have hrows : (withFlushed db (flushed ++ [made])).notificationLogs.rows =
          (withFlushed db flushed).notificationLogs.rows ++
            [{ made with id := (withFlushed db flushed).notificationLogs.nextId }] := by
        unfold withFlushed
        rw [List.foldl_append]
        rfl
      rw [hrows] at hrow
      rcases List.mem_append.mp hrow with hold | hnew
      · rcases ih hold with hcommitted | ⟨other, hother, hsame⟩
        · exact Or.inl hcommitted
        · exact Or.inr ⟨other, List.mem_append_left _ hother, hsame⟩
      · rw [List.mem_singleton.mp hnew]
        exact Or.inr ⟨made, List.mem_append_right _ (List.mem_singleton_self _), rfl⟩

/-- The log holds what it held at first, and rows for watchers. -/
def LogJustified (initial db : Database) : Prop :=
  ∀ row ∈ db.notificationLogs.rows, row ∈ initial.notificationLogs.rows ∨ Justified db row

theorem LogJustified.lasts (hlog : LogJustified initial db) (hlasts : Lasts db next)
    (hsame : next.notificationLogs = db.notificationLogs) : LogJustified initial next := by
  intro row hrow
  rw [hsame] at hrow
  exact (hlog row hrow).imp_right fun hjustified => hjustified.lasts hlasts

/-- A task that has ended has sent what it had sent. -/
theorem Informed.ended (hinformed : Informed db session) (response : Option (Except Raised Unit)) :
    Informed db { session with response := response } where
  obeys := hinformed.obeys
  known := hinformed.known.lasts (lasts_refl db) rfl fun _ hcall => hcall
  sends turn channel event context reply hcall :=
    (hinformed.sends turn channel event context reply hcall).lasts (lasts_refl db) rfl
      fun _ hcall => hcall
  flushed := hinformed.flushed

/-- The end of a task leaves a log for watchers. -/
theorem Informed.finished (hinformed : Informed db session) (hlog : LogJustified initial db)
    (hfinished : (tasksBeside config).finished db session = some (next, after)) :
    Lasts db next ∧ LogJustified initial next ∧ Informed next after := by
  obtain ⟨_, ⟨value, _, hcommit, rfl⟩ | ⟨error, _, rfl, rfl⟩⟩ :=
    SessionSpec.finished_cases hfinished
  · obtain rfl : withFlushed db session.work = next := Except.ok.inj hcommit
    have hlasts : Lasts db (withFlushed db session.work) := { lasts_refl db with }
    refine ⟨hlasts, ?_, (hinformed.lasts hlasts).ended _⟩
    intro row hrow
    rcases mem_withFlushed hrow with hold | ⟨made, hmade, hsame⟩
    · exact (hlog row hold).imp_right fun hjustified => hjustified.lasts hlasts
    · rw [hsame]
      exact Or.inr ⟨((hinformed.flushed made hmade).lasts hlasts).eventRow⟩
  · exact ⟨lasts_refl _, hlog, hinformed.ended _⟩

/-- What the tasks keep. -/
def recipients (config : NotificationConfig) (initial : Database) :
    Guarantee (tasksBeside config) fun _ _ => True where
  holds committed := LogJustified initial committed
  single committed session := Informed committed session
  pair _ _ := True
  outside change committed hlog :=
    have hlasts := lasts_commit committed change
    ⟨hlog.lasts hlasts (log_commit committed change), fun _ hinformed => hinformed.lasts hlasts⟩
  single_opened committed eventId _ :=
    { obeys := processEvent_briefed config eventId
      known := ⟨fun _ h => (by cases h), fun _ _ h => (by cases h), fun _ _ h => (by cases h),
        fun _ h => (by cases h), fun _ h => (by cases h)⟩
      sends := fun _ _ _ _ _ h => by cases h
      flushed := fun _ h => by cases h }
  pair_opened _ _ := ⟨trivial, trivial⟩
  called := by
    intro system index turn session next after _ _ hlog hinformed hcalled
    obtain ⟨rfl, hafter⟩ := hinformed.called hcalled
    exact ⟨hlog, hafter, fun _ _ _ _ hother _ _ => ⟨hother, trivial, trivial⟩⟩
  finished := by
    intro system index session next after _ _ hlog hinformed hfinished
    obtain ⟨hlasts, hnext, hafter⟩ := hinformed.finished hlog hfinished
    exact ⟨hnext, hafter, fun _ _ _ _ hother _ _ => ⟨hother.lasts hlasts, trivial, trivial⟩⟩

end Runs

/-- Every send of every task is addressed, and every new row of the log is for a watcher. -/
structure OnlyWatchers (initial : Database) (system : TaskSystem) : Prop where
  sends : ∀ session ∈ system.sessions, ∀ turn channel event context reply,
    (turn, ⟨.send channel event context, reply⟩) ∈ session.calls →
      Addressed system.committed session channel event context
  log : LogJustified initial system.committed

/-- However the tasks of the workers interleave with each other and with what the API and the
monitor commit, they notify nobody but users with a watch on the event's target, active when
the task listed the watches, on their own channels, and of nothing but the event. -/
theorem only_watchers_are_notified (config : NotificationConfig) (initial : Database)
    (moves : List (SessionMove Nat NotifyTurn Commit)) :
    Throughout (tasksBeside config).step (OnlyWatchers initial) ⟨initial, []⟩ moves := by
  intro earlier later reached _ hrun
  have halong : Along (tasksBeside config).step (fun _ _ => True) ⟨initial, []⟩ earlier :=
    along_of_forall (fun _ _ => trivial) _ earlier
  have hholds := (recipients config initial).holds_run halong hrun
    ((recipients config initial).holds_start fun _ hrow => Or.inl hrow)
  exact ⟨fun session hsession => (hholds.single session hsession).sends, hholds.committed⟩

end StockMonitoring.Tasks
