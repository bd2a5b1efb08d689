import StockMonitoring.Application.MonitoringService

set_option autoImplicit false

/-!
# Application: what a check leaves on record

The records of one watch target are its snapshots, its events, what was published for
it and what was dispatched for it (`TargetLog`).  They tell one story (`Coherent`): the
events of a snapshot are the first of those `diff_snapshots` reports for it against the
newest snapshot stored before it, and what was published and dispatched follows the
stored events in their order.

`recordProtocol` is what a check promises of its calls on the records, and each such
call keeps the records coherent (`TargetLog.Coherent.record`).
-/

namespace StockMonitoring.Application

open StockMonitoring.Foundation StockMonitoring.Domain StockMonitoring.Infrastructure.Db

/-! ## The records of a watch target -/

/-- What is on record for one watch target, each list in the order of writing. -/
structure TargetLog where
  snapshots : List SnapshotModel
  events : List DetectionEventModel
  published : List DetectionEvent
  dispatched : List Nat

/-- What was sent to `events:{watch_target_id}`. -/
def publishedOn (store : MonitorStore) (watchTargetId : Nat) : List DetectionEvent :=
  (store.published.filter fun message => message.1 == watchTargetId).map Prod.snd

/-- The dispatched ids that are of events of a target. -/
def dispatchedFor (store : MonitorStore) (watchTargetId : Nat) : List Nat :=
  store.dispatched.filter fun eventId => decide (eventId ∈
    (SqlAlchemyDetectionEventRepository.ofTarget store.db watchTargetId).map
      DetectionEventModel.id)

/-- The records of a target. -/
def logOf (store : MonitorStore) (watchTargetId : Nat) : TargetLog :=
  ⟨SqlAlchemySnapshotRepository.ofTarget store.db watchTargetId,
    SqlAlchemyDetectionEventRepository.ofTarget store.db watchTargetId,
    publishedOn store watchTargetId, dispatchedFor store watchTargetId⟩

namespace TargetLog

/-- `get_latest`. -/
def latest (tie : Nat → Nat) (log : TargetLog) : Option SnapshotModel :=
  newest tie SnapshotModel.timestamp log.snapshots

/-- What `get_latest` has answered before a snapshot was stored. -/
def baseline (tie : Nat → Nat) (log : TargetLog) (row : SnapshotModel) : Option SnapshotModel :=
  newest tie SnapshotModel.timestamp (log.snapshots.filter fun other => decide (other.id < row.id))

/-- The events that were stored with a snapshot. -/
def eventsAt (log : TargetLog) (snapshotId : Nat) : List DetectionEventModel :=
  log.events.filter fun event => event.snapshotId == snapshotId

/-- A snapshot was stored because it differs from its baseline, and the events stored with
it are the first of those `diff_snapshots` reports. -/
structure Told (tie : Nat → Nat) (log : TargetLog) (row : SnapshotModel) : Prop where
  types : ∃ result,
    row = SqlAlchemySnapshotRepository.rowOf row.watchTargetId result row.id ∧
      diffSnapshots ((log.baseline tie row).map toSnapshot) result ≠ [] ∧
      (log.eventsAt row.id).map DetectionEventModel.eventType <+:
        diffSnapshots ((log.baseline tie row).map toSnapshot) result
  events : ∀ event ∈ log.eventsAt row.id,
    event.previousSnapshotId = (log.baseline tie row).map SnapshotModel.id ∧
      event.createdAt = row.timestamp

/-- The records tell one story. -/
structure Coherent (tie : Nat → Nat) (log : TargetLog) : Prop where
  told : ∀ row ∈ log.snapshots, log.Told tie row
  grounded : ∀ event ∈ log.events, ∃ row ∈ log.snapshots, row.id = event.snapshotId
  published : log.published.Sublist (log.events.map toDetectionEvent)
  dispatched : (log.dispatched.map some).Sublist (log.published.map DetectionEvent.id)

/-- What a call of a check adds to the records of its target. -/
def record (log : TargetLog) (nextSnapshotId nextEventId : Nat) : MonitorOp → TargetLog
  | .createSnapshot watchTargetId result =>
      { log with
        snapshots := log.snapshots ++
          [SqlAlchemySnapshotRepository.rowOf watchTargetId result nextSnapshotId] }
  | .createEvent watchTargetId snapshotId previousSnapshotId eventType createdAt =>
      { log with
        events := log.events ++
          [⟨nextEventId, watchTargetId, snapshotId, previousSnapshotId, eventType, createdAt⟩] }
  | .publish _ event => { log with published := log.published ++ [event] }
  | .dispatchDetectionEvent eventId => { log with dispatched := log.dispatched ++ [eventId] }
  | .registryGet _ | .setLocation _ _ | .closeLocationPage _ | .searchProduct _ _ | .now
  | .getLatest _ | .markChecked _ _ => log

end TargetLog

/-! ## The protocol -/

/-- The snapshot a check has stored, with the events stored and to be stored for it. -/
structure Storing where
  previous : Option Snapshot
  result : ProviderProductResult
  snapshotId : Nat
  stored : List EventType
  rest : List EventType

/-- What has become of the last event a check has stored. -/
inductive Announcing where
  /-- there is none, or it was dispatched -/
  | nothing
  | created (event : DetectionEvent)
  | published (event : DetectionEvent)

/-- What a check has put on record. -/
structure RecordProgress where
  /-- what `get_latest` has answered, until the check stores a snapshot -/
  compared : Option (Option Snapshot)
  storing : Option Storing
  announcing : Announcing

namespace RecordProgress

/-- Nothing yet. -/
def start : RecordProgress := ⟨none, none, .nothing⟩

/-- The progress after a call has returned. -/
def returned (progress : RecordProgress) : (op : MonitorOp) → op.Answer → RecordProgress
  | .getLatest _, previous => ⟨some previous, none, .nothing⟩
  | .createSnapshot _ result, snapshot =>
      ⟨none, progress.compared.bind fun previous => snapshot.id.map fun snapshotId =>
        ⟨previous, result, snapshotId, [], diffSnapshots previous result⟩, .nothing⟩
  | .createEvent _ _ _ eventType _, event =>
      ⟨none, progress.storing.map fun storing =>
        { storing with
          stored := storing.stored ++ [eventType]
          rest := storing.rest.tail }, .created event⟩
  | .publish _ event, _ => { progress with announcing := .published event }
  | .dispatchDetectionEvent _, _ => { progress with announcing := .nothing }
  | .registryGet _, _ | .setLocation _ _, _ | .closeLocationPage _, _ | .searchProduct _ _, _
  | .now, _ | .markChecked _ _, _ => progress

/-- The progress after a reply; a check that a call has failed puts nothing on record
any more. -/
def next (progress : RecordProgress) (op : MonitorOp) (reply : Reply monitorPort Raised op) :
    RecordProgress :=
  match reply with
  | .ok answer => progress.returned op answer
  | .error _ => start

/-- What must hold when a check makes a call. -/
def Allows (watchTarget : WatchTarget) (progress : RecordProgress) : MonitorOp → Prop
  | .getLatest id => watchTarget.id = some id
  | .createSnapshot id result => watchTarget.id = some id ∧
      ∃ previous, progress.compared = some previous ∧ diffSnapshots previous result ≠ []
  | .createEvent id snapshotId previousSnapshotId eventType createdAt =>
      watchTarget.id = some id ∧ ∃ storing, progress.storing = some storing ∧
        snapshotId = storing.snapshotId ∧
        previousSnapshotId = storing.previous.bind Snapshot.id ∧
        storing.rest.head? = some eventType ∧ createdAt = storing.result.scrapedAt
  | .publish id event => watchTarget.id = some id ∧ progress.announcing = .created event
  | .dispatchDetectionEvent eventId => watchTarget.id.isSome = true ∧
      ∃ event, progress.announcing = .published event ∧ event.id = some eventId
  | .registryGet _ | .setLocation _ _ | .closeLocationPage _ | .searchProduct _ _ | .now
  | .markChecked _ _ => True

end RecordProgress

/-- What a check promises of its calls on the records. -/
def recordProtocol (watchTarget : WatchTarget) :
    Protocol monitorPort Raised (List DetectionEvent) RecordProgress where
  pre op progress := progress.Allows watchTarget op
  answers _ _ _ := True
  next op reply progress := progress.next op reply
  post _ _ := True

section Obeys

variable {watchTarget : WatchTarget} {id : Nat}

/-- A call of a check: what it needs, and the rest after its answer. -/
theorem records_ask {op : MonitorOp} {progress : RecordProgress}
    {rest : op.Answer → Monitor (List DetectionEvent)} (hallows : progress.Allows watchTarget op)
    (hrest : ∀ answer, (rest answer).Obeys (recordProtocol watchTarget)
      (progress.returned op answer)) :
    (ask op >>= rest).Obeys (recordProtocol watchTarget) progress := by
  refine ⟨hallows, ?_⟩
  intro reply _
  cases reply with
  | ok answer => exact hrest answer
  | error error => trivial

/-- The last call of a check writes no record. -/
theorem records_markChecked (checkedAt : Datetime) (events : List DetectionEvent)
    (progress : RecordProgress) :
    (ask (.markChecked id checkedAt) >>= fun _ => pure events).Obeys (recordProtocol watchTarget)
      progress :=
  records_ask trivial fun _ => trivial

/-- The loop stores, publishes and dispatches one event after the other. -/
theorem records_storeEvents (hid : watchTarget.id = some id) (storing : Storing)
    {progress : RecordProgress} (hstoring : progress.storing = some storing)
    (events : List DetectionEvent) {rest : List DetectionEvent → Monitor (List DetectionEvent)}
    (hrest : ∀ events progress, (rest events).Obeys (recordProtocol watchTarget) progress) :
    (storeEvents id storing.snapshotId (storing.previous.bind Snapshot.id)
        storing.result.scrapedAt storing.rest events >>= rest).Obeys
      (recordProtocol watchTarget) progress := by
  obtain ⟨previous, result, snapshotId, stored, eventTypes⟩ := storing
  simp only at hstoring ⊢
  induction eventTypes generalizing stored progress events with
  | nil => exact hrest events progress
  | cons eventType later ih =>
      unfold storeEvents
      rw [bind_assoc]
      refine records_ask ⟨hid, _, hstoring, rfl, rfl, rfl, rfl⟩ ?_
      intro event
      have hnext : (progress.returned (.createEvent id snapshotId (previous.bind Snapshot.id)
          eventType result.scrapedAt) event).storing =
          some ⟨previous, result, snapshotId, stored ++ [eventType], later⟩ := by
        simp only [RecordProgress.returned, hstoring, Option.map_some, List.tail_cons]
      cases hevent : event.id with
      | none => trivial
      | some eventId =>
          have hsome : watchTarget.id.isSome = true := by
            rw [hid]
            rfl
          simp only [bind_assoc]
          refine records_ask ⟨hid, rfl⟩ fun _ => ?_
          refine records_ask ⟨hsome, event, rfl, hevent⟩ fun _ => ?_
          exact ih (events ++ [event]) (stored ++ [eventType]) hnext

theorem records_checkResult (hid : watchTarget.id = some id) (result : ProviderProductResult)
    (progress : RecordProgress) :
    (checkResult id result).Obeys (recordProtocol watchTarget) progress := by
  unfold checkResult
  refine records_ask hid fun previous => ?_
  by_cases hdiff : diffSnapshots previous result = []
  · simp only [hdiff, if_true]
    exact records_markChecked _ _ _
  · simp only [hdiff, if_false]
    refine records_ask ⟨hid, previous, rfl, hdiff⟩ fun snapshot => ?_
    cases hsnapshot : snapshot.id with
    | none => trivial
    | some snapshotId =>
        refine records_storeEvents hid ⟨previous, result, snapshotId, [],
          diffSnapshots previous result⟩ ?_ [] fun _ _ => records_markChecked _ _ _
        simp only [RecordProgress.returned, Option.bind_some, hsnapshot, Option.map_some]

theorem records_checkResults (hid : watchTarget.id = some id)
    (results : List ProviderProductResult) (progress : RecordProgress) :
    (checkResults id results).Obeys (recordProtocol watchTarget) progress := by
  cases results with
  | nil => exact records_ask trivial fun _ => records_markChecked _ _ _
  | cons result rest => exact records_checkResult hid result progress

/-- Every check keeps to its protocol. -/
theorem checkWatchTarget_records (watchTarget : WatchTarget) :
    (checkWatchTarget watchTarget).Obeys (recordProtocol watchTarget) .start := by
  unfold checkWatchTarget
  cases hid : watchTarget.id with
  | none => trivial
  | some id =>
      refine records_ask trivial fun _ => ?_
      unfold initializeProvider
      rw [Co.call_bind]
      refine ⟨trivial, ?_⟩
      intro reply _
      beta_reduce
      rw [bind_assoc]
      refine records_ask trivial fun _ => ?_
      cases reply with
      | error error => trivial
      | ok answer =>
          refine records_ask trivial fun results => ?_
          exact records_checkResults hid results _

end Obeys

/-! ## What a check relies on -/

/-- The snapshot a check has stored is there with the events stored for it so far. -/
structure Storing.Holds (tie : Nat → Nat) (id : Nat) (log : TargetLog) (storing : Storing) :
    Prop where
  snapshot : SqlAlchemySnapshotRepository.rowOf id storing.result storing.snapshotId ∈
    log.snapshots
  previous : (log.baseline tie
    (SqlAlchemySnapshotRepository.rowOf id storing.result storing.snapshotId)).map toSnapshot =
      storing.previous
  stored : (log.eventsAt storing.snapshotId).map DetectionEventModel.eventType = storing.stored
  rest : storing.stored ++ storing.rest = diffSnapshots storing.previous storing.result

/-- The event a check has stored last is not yet published, or not yet dispatched. -/
def Announcing.Holds (log : TargetLog) : Announcing → Prop
  | .nothing => True
  | .created event => ∃ before row, log.events = before ++ [row] ∧ toDetectionEvent row = event ∧
      log.published.Sublist (before.map toDetectionEvent)
  | .published event => ∃ before, log.published = before ++ [event] ∧
      (log.dispatched.map some).Sublist (before.map DetectionEvent.id)

/-- What a check of target `id` relies on, while no other check writes its records. -/
structure RecordProgress.Holds (tie : Nat → Nat) (id : Nat) (log : TargetLog)
    (progress : RecordProgress) : Prop where
  compared : ∀ previous ∈ progress.compared, previous = (log.latest tie).map toSnapshot
  storing : ∀ storing ∈ progress.storing, storing.Holds tie id log
  announcing : progress.announcing.Holds log

theorem RecordProgress.holds_start (tie : Nat → Nat) (id : Nat) (log : TargetLog) :
    RecordProgress.start.Holds tie id log :=
  ⟨fun _ h => (by cases h), fun _ h => (by cases h), trivial⟩

/-- The keys the next rows of a target get are new, and no two snapshots share one. -/
structure TargetLog.Keys (log : TargetLog) (nextSnapshotId : Nat) : Prop where
  below : ∀ row ∈ log.snapshots, row.id < nextSnapshotId
  unique : ∀ left ∈ log.snapshots, ∀ right ∈ log.snapshots, left.id = right.id → left = right

section Steps

variable {tie : Nat → Nat} {log : TargetLog} {id nextSnapshotId : Nat}

/-- A snapshot that is stored later is no baseline. -/
theorem TargetLog.baseline_addSnapshot (tie : Nat → Nat) (log : TargetLog)
    {new old : SnapshotModel} (hlater : old.id < new.id) :
    TargetLog.baseline tie { log with snapshots := log.snapshots ++ [new] } old =
      log.baseline tie old := by
  have hnot : ¬ new.id < old.id := Nat.not_lt.mpr (Nat.le_of_lt hlater)
  simp only [baseline, List.filter_append, List.filter_singleton, hnot, decide_false, cond_false,
    List.append_nil]

/-- The baseline of the newest snapshot is what `get_latest` has answered before. -/
theorem TargetLog.baseline_new (tie : Nat → Nat) (log : TargetLog) {new : SnapshotModel}
    (hbelow : ∀ row ∈ log.snapshots, row.id < new.id) :
    TargetLog.baseline tie { log with snapshots := log.snapshots ++ [new] } new =
      log.latest tie := by
  have hall : log.snapshots.filter (fun other => decide (other.id < new.id)) = log.snapshots :=
    List.filter_eq_self.mpr fun row hrow => decide_eq_true (hbelow row hrow)
  simp only [baseline, latest, List.filter_append, hall, List.filter_singleton, Nat.lt_irrefl,
    decide_false, cond_false, List.append_nil]

/-- No event is stored with a snapshot that is not there. -/
theorem TargetLog.Coherent.eventsAt_eq_nil (hcoherent : log.Coherent tie)
    (hkeys : log.Keys nextSnapshotId) : log.eventsAt nextSnapshotId = [] := by
  apply List.filter_eq_nil_iff.mpr
  intro event hevent hat
  obtain ⟨row, hrow, hsame⟩ := hcoherent.grounded event hevent
  have hlt := hkeys.below row hrow
  rw [hsame, beq_iff_eq.mp hat] at hlt
  exact Nat.lt_irrefl _ hlt

/-- Storing a snapshot that differs from the newest keeps the records coherent. -/
theorem TargetLog.Coherent.createSnapshot (hcoherent : log.Coherent tie)
    (hkeys : log.Keys nextSnapshotId) {result : ProviderProductResult}
    (hchanged : diffSnapshots ((log.latest tie).map toSnapshot) result ≠ []) :
    TargetLog.Coherent tie { log with
      snapshots := log.snapshots ++
        [SqlAlchemySnapshotRepository.rowOf id result nextSnapshotId] } := by
  refine ⟨?_, ?_, hcoherent.published, hcoherent.dispatched⟩
  · intro row hrow
    rcases List.mem_append.mp hrow with hold | hnew
    · have htold := hcoherent.told row hold
      have hbaseline := @TargetLog.baseline_addSnapshot tie log
        (SqlAlchemySnapshotRepository.rowOf id result nextSnapshotId) row (hkeys.below row hold)
      refine ⟨?_, ?_⟩
      · rw [hbaseline]
        exact htold.types
      · rw [hbaseline]
        exact htold.events
    · cases List.mem_singleton.mp hnew
      have hnone := hcoherent.eventsAt_eq_nil hkeys
      have hbaseline := @TargetLog.baseline_new tie log
        (SqlAlchemySnapshotRepository.rowOf id result nextSnapshotId) hkeys.below
      refine ⟨⟨result, rfl, ?_, ?_⟩, ?_⟩
      · rw [hbaseline]
        exact hchanged
      · change (log.eventsAt nextSnapshotId).map _ <+: _
        rw [hnone]
        exact List.nil_prefix
      · intro event hevent
        change event ∈ log.eventsAt nextSnapshotId at hevent
        rw [hnone] at hevent
        cases hevent
  · intro event hevent
    obtain ⟨row, hrow, hsame⟩ := hcoherent.grounded event hevent
    exact ⟨row, List.mem_append_left _ hrow, hsame⟩

/-- Events of other snapshots are not seen at a snapshot. -/
theorem TargetLog.eventsAt_addEvent (log : TargetLog) (event : DetectionEventModel)
    (snapshotId : Nat) :
    TargetLog.eventsAt { log with events := log.events ++ [event] } snapshotId =
      log.eventsAt snapshotId ++ if event.snapshotId = snapshotId then [event] else [] := by
  unfold eventsAt
  rw [List.filter_append]
  congr 1
  split <;> simp_all

theorem id_toSnapshot (row : Option SnapshotModel) :
    (row.map toSnapshot).bind Snapshot.id = row.map SnapshotModel.id := by
  cases row <;> rfl

/-- The event that is due next: its snapshot, and its place in the diff. -/
structure Storing.Due (storing : Storing) (event : DetectionEventModel) : Prop where
  snapshot : event.snapshotId = storing.snapshotId
  previous : event.previousSnapshotId = storing.previous.bind Snapshot.id
  eventType : storing.rest.head? = some event.eventType
  createdAt : event.createdAt = storing.result.scrapedAt

theorem Storing.Due.rest_eq {storing : Storing} {event : DetectionEventModel}
    (hdue : storing.Due event) : storing.rest = event.eventType :: storing.rest.tail :=
  (List.cons_head?_tail hdue.eventType).symm

theorem Storing.Due.eventsAt {storing : Storing} {event : DetectionEventModel}
    (hdue : storing.Due event) (log : TargetLog) :
    TargetLog.eventsAt { log with events := log.events ++ [event] } storing.snapshotId =
      log.eventsAt storing.snapshotId ++ [event] := by
  rw [log.eventsAt_addEvent, if_pos hdue.snapshot]

/-- Storing the event that is due next keeps the records coherent. -/
theorem TargetLog.Coherent.createEvent (hcoherent : log.Coherent tie)
    (hkeys : log.Keys nextSnapshotId) {storing : Storing} (hstoring : storing.Holds tie id log)
    {event : DetectionEventModel} (hdue : storing.Due event) :
    TargetLog.Coherent tie { log with events := log.events ++ [event] } := by
  refine ⟨?_, ?_, ?_, hcoherent.dispatched⟩
  · intro row hrow
    by_cases hsame : row.id = storing.snapshotId
    · -- the snapshot the check has stored
      have hrow' : row = SqlAlchemySnapshotRepository.rowOf id storing.result
          storing.snapshotId := hkeys.unique row hrow _ hstoring.snapshot hsame
      have hold := hcoherent.told row hrow
      subst hrow'
      have hevents : TargetLog.eventsAt { log with events := log.events ++ [event] }
          storing.snapshotId = log.eventsAt storing.snapshotId ++ [event] := hdue.eventsAt log
      obtain ⟨result, hresult, hchanged, _⟩ := hold.types
      refine ⟨⟨storing.result, rfl, ?_, ?_⟩, ?_⟩
      · change diffSnapshots ((log.baseline tie _).map toSnapshot) storing.result ≠ []
        rw [hstoring.previous, ← hstoring.rest, hdue.rest_eq]
        simp
      · change (TargetLog.eventsAt _ storing.snapshotId).map DetectionEventModel.eventType <+:
          diffSnapshots ((log.baseline tie _).map toSnapshot) storing.result
        rw [hevents, hstoring.previous, ← hstoring.rest, hdue.rest_eq, List.map_append,
          hstoring.stored]
        exact ⟨storing.rest.tail, by simp⟩
      · intro other hother
        change other ∈ TargetLog.eventsAt _ storing.snapshotId at hother
        rw [hevents] at hother
        rcases List.mem_append.mp hother with hearlier | hnew
        · exact hold.events other hearlier
        · rw [List.mem_singleton.mp hnew]
          refine ⟨?_, hdue.createdAt⟩
          rw [hdue.previous, ← hstoring.previous]
          exact id_toSnapshot _
    · have hnone : TargetLog.eventsAt { log with events := log.events ++ [event] } row.id =
          log.eventsAt row.id := by
        rw [log.eventsAt_addEvent, if_neg, List.append_nil]
        rw [hdue.snapshot]
        exact fun h => hsame h.symm
      have hold := hcoherent.told row hrow
      obtain ⟨result, hresult, hchanged, hprefix⟩ := hold.types
      refine ⟨⟨result, hresult, hchanged, ?_⟩, ?_⟩
      · rw [hnone]
        exact hprefix
      · rw [hnone]
        exact hold.events
  · intro other hother
    rcases List.mem_append.mp hother with hearlier | hnew
    · exact hcoherent.grounded other hearlier
    · rw [List.mem_singleton.mp hnew]
      exact ⟨_, hstoring.snapshot, hdue.snapshot.symm⟩
  · rw [List.map_append]
    exact hcoherent.published.trans (List.sublist_append_left _ _)

/-- Publishing the event that was stored last keeps the records coherent. -/
theorem TargetLog.Coherent.publish (hcoherent : log.Coherent tie) {event : DetectionEvent}
    (hcreated : Announcing.Holds log (.created event)) :
    TargetLog.Coherent tie { log with published := log.published ++ [event] } := by
  obtain ⟨before, row, hevents, rfl, hpublished⟩ := hcreated
  refine ⟨fun row hrow => ⟨(hcoherent.told row hrow).types, (hcoherent.told row hrow).events⟩,
    hcoherent.grounded, ?_, ?_⟩
  · change (log.published ++ _).Sublist (log.events.map toDetectionEvent)
    rw [hevents, List.map_append]
    exact hpublished.append (List.Sublist.refl _)
  · rw [List.map_append]
    exact hcoherent.dispatched.trans (List.sublist_append_left _ _)

/-- Dispatching the event that was published last keeps the records coherent. -/
theorem TargetLog.Coherent.dispatch (hcoherent : log.Coherent tie) {event : DetectionEvent}
    (hpublished : Announcing.Holds log (.published event)) {eventId : Nat}
    (hid : event.id = some eventId) :
    TargetLog.Coherent tie { log with dispatched := log.dispatched ++ [eventId] } := by
  obtain ⟨before, hlist, hdispatched⟩ := hpublished
  refine ⟨fun row hrow => ⟨(hcoherent.told row hrow).types, (hcoherent.told row hrow).events⟩,
    hcoherent.grounded, hcoherent.published, ?_⟩
  change ((log.dispatched ++ [eventId]).map some).Sublist
    (log.published.map DetectionEvent.id)
  rw [hlist, List.map_append, List.map_append, List.map_singleton, List.map_singleton, hid]
  exact hdispatched.append (List.Sublist.refl _)

/-! ## What the calls keep of it -/

/-- The snapshot a check stores is the one it has compared. -/
theorem RecordProgress.Holds.createSnapshot {progress : RecordProgress}
    (hholds : progress.Holds tie id log) (hkeys : log.Keys nextSnapshotId)
    (hcoherent : log.Coherent tie) {result : ProviderProductResult} :
    (progress.returned (.createSnapshot id result)
        (toSnapshot (SqlAlchemySnapshotRepository.rowOf id result nextSnapshotId))).Holds tie id
      { log with
        snapshots := log.snapshots ++
          [SqlAlchemySnapshotRepository.rowOf id result nextSnapshotId] } := by
  refine ⟨fun _ h => (by cases h), ?_, trivial⟩
  intro storing hstoring
  obtain ⟨previous, hprevious, hsome⟩ := Option.bind_eq_some_iff.mp hstoring
  cases hsome
  refine ⟨List.mem_append_right _ (List.mem_singleton_self _), ?_, ?_, rfl⟩
  · rw [hholds.compared previous hprevious]
    exact congrArg (Option.map toSnapshot) (TargetLog.baseline_new tie log hkeys.below)
  · change (log.eventsAt nextSnapshotId).map DetectionEventModel.eventType = []
    rw [hcoherent.eventsAt_eq_nil hkeys]
    rfl

/-- The event a check stores is one more of its snapshot. -/
theorem RecordProgress.Holds.createEvent {progress : RecordProgress}
    (hholds : progress.Holds tie id log) (hcoherent : log.Coherent tie) {storing : Storing}
    (hstoring : progress.storing = some storing) {event : DetectionEventModel}
    (hdue : storing.Due event) :
    (progress.returned (.createEvent id event.snapshotId event.previousSnapshotId
        event.eventType event.createdAt) (toDetectionEvent event)).Holds tie id
      { log with events := log.events ++ [event] } := by
  have hbefore := hholds.storing storing hstoring
  refine ⟨fun _ h => (by cases h), ?_, ⟨log.events, event, rfl, rfl, hcoherent.published⟩⟩
  intro next hnext
  simp only [RecordProgress.returned, hstoring, Option.map_some, Option.mem_def,
    Option.some.injEq] at hnext
  subst hnext
  refine ⟨hbefore.snapshot, hbefore.previous, ?_, ?_⟩
  · change (TargetLog.eventsAt _ storing.snapshotId).map DetectionEventModel.eventType = _
    rw [hdue.eventsAt, List.map_append, hbefore.stored]
    rfl
  · change (storing.stored ++ [event.eventType]) ++ storing.rest.tail = _
    rw [List.append_assoc, List.singleton_append, ← hdue.rest_eq]
    exact hbefore.rest

theorem RecordProgress.Holds.publish {progress : RecordProgress}
    (hholds : progress.Holds tie id log) (hcoherent : log.Coherent tie) (event : DetectionEvent) :
    (progress.returned (.publish id event) ()).Holds tie id
      { log with published := log.published ++ [event] } := by
  refine ⟨hholds.compared, ?_, ⟨log.published, rfl, hcoherent.dispatched⟩⟩
  intro storing hstoring
  have hbefore := hholds.storing storing hstoring
  exact ⟨hbefore.snapshot, hbefore.previous, hbefore.stored, hbefore.rest⟩

theorem RecordProgress.Holds.dispatch {progress : RecordProgress}
    (hholds : progress.Holds tie id log) (eventId : Nat) :
    (progress.returned (.dispatchDetectionEvent eventId) ()).Holds tie id
      { log with dispatched := log.dispatched ++ [eventId] } := by
  refine ⟨hholds.compared, ?_, trivial⟩
  intro storing hstoring
  have hbefore := hholds.storing storing hstoring
  exact ⟨hbefore.snapshot, hbefore.previous, hbefore.stored, hbefore.rest⟩

variable {watchTarget : WatchTarget} {progress : RecordProgress} {op : MonitorOp}

/-- The event a check is allowed to store is the one that is due. -/
theorem RecordProgress.Allows.due {snapshotId : Nat} {previousSnapshotId : Option Nat}
    {eventType : EventType} {createdAt : Datetime}
    (hallows : progress.Allows watchTarget
      (.createEvent id snapshotId previousSnapshotId eventType createdAt)) (eventId : Nat) :
    ∃ storing, progress.storing = some storing ∧
      storing.Due ⟨eventId, id, snapshotId, previousSnapshotId, eventType, createdAt⟩ := by
  obtain ⟨_, storing, hstoring, hsnapshot, hprevious, hrest, hcreated⟩ := hallows
  exact ⟨storing, hstoring, ⟨hsnapshot, hprevious, hrest, hcreated⟩⟩

/-- Every call of a check keeps the records of its target coherent. -/
theorem TargetLog.Coherent.record (hcoherent : log.Coherent tie) (hkeys : log.Keys nextSnapshotId)
    (hid : watchTarget.id = some id) (hholds : progress.Holds tie id log)
    (hallows : progress.Allows watchTarget op) (nextEventId : Nat) :
    (log.record nextSnapshotId nextEventId op).Coherent tie := by
  cases op with
  | createSnapshot other result =>
      obtain ⟨hother, previous, hcompared, hchanged⟩ := hallows
      cases hid.symm.trans hother
      rw [hholds.compared previous hcompared] at hchanged
      exact hcoherent.createSnapshot hkeys hchanged
  | createEvent other snapshotId previousId eventType createdAt =>
      cases hid.symm.trans hallows.1
      obtain ⟨storing, hstoring, hdue⟩ := RecordProgress.Allows.due hallows nextEventId
      exact hcoherent.createEvent hkeys (hholds.storing storing hstoring) hdue
  | publish other event =>
      have hcreated := hholds.announcing
      rw [hallows.2] at hcreated
      exact hcoherent.publish hcreated
  | dispatchDetectionEvent eventId =>
      obtain ⟨_, event, hevent, heventId⟩ := hallows
      have hpublished := hholds.announcing
      rw [hevent] at hpublished
      exact hcoherent.dispatch hpublished heventId
  | registryGet | setLocation | closeLocationPage | searchProduct | now | getLatest
  | markChecked => exact hcoherent

end Steps

/-! ## The records in the store -/

/-- The records of all targets are coherent, and what was dispatched is stored. -/
structure Recorded (tie : Nat → Nat) (store : MonitorStore) : Prop where
  coherent : ∀ id, (logOf store id).Coherent tie
  stored : ∀ eventId ∈ store.dispatched, ∃ event ∈ store.db.detectionEvents.rows,
    event.id = eventId

theorem keys_logOf (store : MonitorStore) (id : Nat) :
    (logOf store id).Keys store.db.snapshots.nextId := by
  refine ⟨?_, ?_⟩
  · intro row hrow
    exact store.db.snapshots.keys_lt row (List.mem_filter.mp hrow).1
  · intro left hleft right hright hsame
    exact store.db.snapshots.eq_of_key_eq (List.mem_filter.mp hleft).1
      (List.mem_filter.mp hright).1 hsame

section Store

variable {tie : Nat → Nat} {store : MonitorStore} {watchTarget : WatchTarget}
  {progress : RecordProgress} {config : MonitorConfig} {found : List ProviderProductResult}
  {op : MonitorOp} {id : Nat}

/-- An event that was published last is stored for its target. -/
theorem stored_of_published {event : DetectionEvent} {eventId : Nat}
    (hcoherent : (logOf store id).Coherent tie)
    (hpublished : Announcing.Holds (logOf store id) (.published event))
    (hid : event.id = some eventId) :
    ∃ row ∈ SqlAlchemyDetectionEventRepository.ofTarget store.db id, row.id = eventId := by
  obtain ⟨before, hlist, _⟩ := hpublished
  have hmem : event ∈ (logOf store id).published := by
    rw [hlist]
    exact List.mem_append_right _ (List.mem_singleton_self _)
  obtain ⟨row, hrow, rfl⟩ := List.mem_map.mp (hcoherent.published.subset hmem)
  cases hid
  exact ⟨row, hrow, rfl⟩

theorem logOf_markChecked (watchTargetId id : Nat) (checkedAt : Datetime) :
    logOf (work config found (.markChecked watchTargetId checkedAt) store).2 id =
      logOf store id := by
  simp only [work, SqlAlchemyWatchTargetRepository.markChecked]
  cases hfind : store.db.watchTargets.find? watchTargetId with
  | none => rw [updateOne_of_none hfind]
  | some row =>
      rw [updateOne_of_some hfind]
      rfl

/-- What a call of a check does to the records of its target. -/
theorem logOf_work_self (hrecorded : Recorded tie store) (hid : watchTarget.id = some id)
    (hholds : progress.Holds tie id (logOf store id)) (hallows : progress.Allows watchTarget op) :
    logOf (work config found op store).2 id =
      (logOf store id).record store.db.snapshots.nextId store.db.detectionEvents.nextId op := by
  cases op with
  | createSnapshot other result =>
      cases hid.symm.trans hallows.1
      have hsnapshots := SqlAlchemySnapshotRepository.ofTarget_create store.db id id result
      rw [if_pos rfl] at hsnapshots
      simp only [work, logOf, hsnapshots]
      rfl
  | createEvent other snapshotId previousId eventType createdAt =>
      cases hid.symm.trans hallows.1
      have hevents := SqlAlchemyDetectionEventRepository.ofTarget_create store.db id snapshotId id
        previousId eventType createdAt
      rw [if_pos rfl] at hevents
      have hdispatched : dispatchedFor (work config found (.createEvent id snapshotId previousId
          eventType createdAt) store).2 id = dispatchedFor store id := by
        simp only [dispatchedFor, work, hevents]
        refine List.filter_congr fun eventId hmem => ?_
        obtain ⟨event, hevent, rfl⟩ := hrecorded.stored eventId hmem
        have hlt : event.id < store.db.detectionEvents.nextId :=
          store.db.detectionEvents.keys_lt event hevent
        simp [Nat.ne_of_lt hlt]
      simp only [logOf, hdispatched, TargetLog.record]
      simp only [work, hevents]
      rfl
  | publish other event =>
      cases hid.symm.trans hallows.1
      simp [work, logOf, TargetLog.record, publishedOn, dispatchedFor]
  | dispatchDetectionEvent eventId =>
      obtain ⟨_, event, hevent, heventId⟩ := hallows
      have hpublished := hholds.announcing
      rw [hevent] at hpublished
      obtain ⟨row, hrow, rfl⟩ := stored_of_published (hrecorded.coherent id) hpublished heventId
      have hmem : row.id ∈ (SqlAlchemyDetectionEventRepository.ofTarget store.db id).map
          DetectionEventModel.id := List.mem_map_of_mem hrow
      simp only [work, logOf, TargetLog.record, dispatchedFor, List.filter_append,
        List.filter_singleton, hmem, decide_true, cond_true]
      rfl
  | markChecked other checkedAt => exact logOf_markChecked other id checkedAt
  | registryGet slug =>
      simp only [work]
      split <;> rfl
  | setLocation | closeLocationPage | searchProduct | now | getLatest => rfl

/-- A call of a check leaves the records of other targets as they are. -/
theorem logOf_work_other (hrecorded : Recorded tie store)
    (hholds : ∀ id, watchTarget.id = some id → progress.Holds tie id (logOf store id))
    (hallows : progress.Allows watchTarget op) {other : Nat}
    (hother : watchTarget.id ≠ some other) :
    logOf (work config found op store).2 other = logOf store other := by
  cases op with
  | createSnapshot id result =>
      have hne : id ≠ other := fun h => hother (h ▸ hallows.1)
      have hsnapshots := SqlAlchemySnapshotRepository.ofTarget_create store.db id other result
      rw [if_neg hne, List.append_nil] at hsnapshots
      simp only [work, logOf, hsnapshots]
      rfl
  | createEvent id snapshotId previousId eventType createdAt =>
      have hne : id ≠ other := fun h => hother (h ▸ hallows.1)
      have hevents := SqlAlchemyDetectionEventRepository.ofTarget_create store.db id snapshotId
        other previousId eventType createdAt
      rw [if_neg hne, List.append_nil] at hevents
      simp only [work, logOf, dispatchedFor, hevents]
      rfl
  | publish id event =>
      have hne : id ≠ other := fun h => hother (h ▸ hallows.1)
      simp [work, logOf, publishedOn, dispatchedFor, hne]
  | dispatchDetectionEvent eventId =>
      obtain ⟨hsome, event, hevent, heventId⟩ := hallows
      obtain ⟨id, hid⟩ := Option.isSome_iff_exists.mp hsome
      have hpublished := (hholds id hid).announcing
      rw [hevent] at hpublished
      obtain ⟨row, hrow, rfl⟩ := stored_of_published (hrecorded.coherent id) hpublished heventId
      have hnot : row.id ∉ (SqlAlchemyDetectionEventRepository.ofTarget store.db other).map
          DetectionEventModel.id := by
        intro hmem
        obtain ⟨twin, htwin, hsame⟩ := List.mem_map.mp hmem
        obtain ⟨hrow', htarget⟩ := List.mem_filter.mp hrow
        obtain ⟨htwin', htarget'⟩ := List.mem_filter.mp htwin
        cases store.db.detectionEvents.eq_of_key_eq htwin' hrow' hsame
        have hid' : id = other := (beq_iff_eq.mp htarget).symm.trans (beq_iff_eq.mp htarget')
        exact hother (hid' ▸ hid)
      simp only [work, logOf, dispatchedFor, List.filter_append, List.filter_singleton, hnot,
        decide_false, cond_false, List.append_nil]
      rfl
  | markChecked id checkedAt => exact logOf_markChecked id other checkedAt
  | registryGet slug =>
      simp only [work]
      split <;> rfl
  | setLocation | closeLocationPage | searchProduct | now | getLatest => rfl

/-- Every call of a check keeps all records coherent. -/
theorem Recorded.work (hrecorded : Recorded tie store)
    (hholds : ∀ id, watchTarget.id = some id → progress.Holds tie id (logOf store id))
    (hallows : progress.Allows watchTarget op) :
    Recorded tie (work config found op store).2 := by
  refine ⟨?_, ?_⟩
  · intro id
    by_cases hid : watchTarget.id = some id
    · rw [logOf_work_self hrecorded hid (hholds id hid) hallows]
      exact (hrecorded.coherent id).record (keys_logOf store id) hid (hholds id hid) hallows _
    · rw [logOf_work_other hrecorded hholds hallows hid]
      exact hrecorded.coherent id
  · cases op with
    | createEvent other snapshotId previousId eventType createdAt =>
        intro eventId hmem
        obtain ⟨event, hevent, hsame⟩ := hrecorded.stored eventId hmem
        exact ⟨event, List.mem_append_left _ hevent, hsame⟩
    | dispatchDetectionEvent eventId =>
        intro other hmem
        rcases List.mem_append.mp hmem with hold | hnew
        · exact hrecorded.stored other hold
        · rw [List.mem_singleton.mp hnew]
          obtain ⟨hsome, event, hevent, heventId⟩ := hallows
          obtain ⟨id, hid⟩ := Option.isSome_iff_exists.mp hsome
          have hpublished := (hholds id hid).announcing
          rw [hevent] at hpublished
          obtain ⟨row, hrow, hsame⟩ := stored_of_published (hrecorded.coherent id) hpublished
            heventId
          exact ⟨row, (List.mem_filter.mp hrow).1, hsame⟩
    | registryGet slug =>
        simp only [Application.work]
        split <;> exact hrecorded.stored
    | setLocation | closeLocationPage | searchProduct | now | getLatest | createSnapshot
    | publish | markChecked => exact hrecorded.stored

/-- What a check relies on after its own call. -/
theorem RecordProgress.Holds.work (hrecorded : Recorded tie store)
    (hid : watchTarget.id = some id) (hholds : progress.Holds tie id (logOf store id))
    (hallows : progress.Allows watchTarget op) (htie : config.tie = tie) :
    (progress.next op (work config found op store).1).Holds tie id
      (logOf (work config found op store).2 id) := by
  have hcoherent := hrecorded.coherent id
  have hkeys := keys_logOf store id
  rw [logOf_work_self hrecorded hid hholds hallows]
  cases op with
  | getLatest other =>
      cases hid.symm.trans hallows
      refine ⟨?_, fun _ h => (by cases h), trivial⟩
      intro previous hprevious
      cases hprevious
      rw [htie]
      rfl
  | createSnapshot other result =>
      cases hid.symm.trans hallows.1
      exact hholds.createSnapshot hkeys hcoherent
  | createEvent other snapshotId previousId eventType createdAt =>
      cases hid.symm.trans hallows.1
      obtain ⟨storing, hstoring, hdue⟩ :=
        RecordProgress.Allows.due hallows store.db.detectionEvents.nextId
      exact hholds.createEvent hcoherent hstoring hdue
  | publish other event => exact hholds.publish hcoherent event
  | dispatchDetectionEvent eventId => exact hholds.dispatch eventId
  | markChecked other checkedAt =>
      cases (Application.work config found (.markChecked other checkedAt) store).1 with
      | ok _ => exact hholds
      | error error => exact RecordProgress.holds_start tie id _
  | registryGet slug =>
      simp only [Application.work]
      split
      · exact hholds
      · exact RecordProgress.holds_start tie id _
  | setLocation | closeLocationPage | searchProduct | now => exact hholds

end Store

end StockMonitoring.Application
