import StockMonitoring.Api.PriceHistory
import StockMonitoring.Api.Requests
import StockMonitoring.Monitor.Records

set_option autoImplicit false

/-!
# API: the history of a watch

`GET /history` leaves out an event whose snapshot it does not find.  On coherent records
there is none: the answer has one entry for each of the newest events of the watch's
target, newest first, and each entry shows the snapshot its event was stored with, which
differs from the one stored before it as the event says (`history_shows_changes`).
-/

namespace StockMonitoring.Api

open StockMonitoring.Foundation StockMonitoring.Domain StockMonitoring.Application
  StockMonitoring.Infrastructure.Db StockMonitoring.Monitor

/-- An entry shows an event of the records: when it was, and its snapshot, in which the
event was due against the snapshot before it. -/
structure ShowsEvent (tie : Nat → Nat) (log : TargetLog) (entry : HistoryEntrySchema)
    (event : DetectionEventModel) : Prop where
  eventId : entry.eventId = some event.id
  eventType : entry.eventType = event.eventType.value
  snapshot : ∃ row ∈ log.snapshots, row.id = event.snapshotId ∧
    entry.snapshot = SnapshotSchema.of (toSnapshot row) ∧ entry.createdAt = row.timestamp ∧
    Fires (((log.baseline tie row).map toSnapshot).map Reading.ofSnapshot)
      (Reading.ofSnapshot (toSnapshot row)) event.eventType

/-- The newest events of a target, newest first: no other event is newer than one of them,
and there are others only if they are `limit` many. -/
structure NewestEvents (limit : Nat) (events shown : List DetectionEventModel) : Prop where
  stored : ∀ event ∈ shown, event ∈ events
  nodup : shown.Nodup
  length : shown.length = min limit events.length
  descending : shown.Pairwise fun event other => other.createdAt ≤ event.createdAt
  newest : ∀ event ∈ shown, ∀ other ∈ events, other ∉ shown → other.createdAt ≤ event.createdAt

section Entries

variable {tie : Nat → Nat} {store : MonitorStore} {id : Nat}

/-- On coherent records an event was due in its snapshot. -/
theorem exists_snapshot (hcoherent : (logOf store id).Coherent tie) {event : DetectionEventModel}
    (hevent : event ∈ (logOf store id).events) :
    ∃ row ∈ (logOf store id).snapshots, row.id = event.snapshotId ∧
      event.createdAt = row.timestamp ∧
      Fires ((((logOf store id).baseline tie row).map toSnapshot).map Reading.ofSnapshot)
        (Reading.ofSnapshot (toSnapshot row)) event.eventType := by
  obtain ⟨row, hrow, hsame⟩ := hcoherent.grounded event hevent
  have hat : event ∈ (logOf store id).eventsAt row.id :=
    List.mem_filter.mpr ⟨hevent, beq_iff_eq.mpr hsame.symm⟩
  have htold := hcoherent.told row hrow
  obtain ⟨result, hresult, _, hprefix⟩ := htold.types
  have hreported := hprefix.subset (List.mem_map_of_mem hat)
  have hfires := mem_diffSnapshots_iff.mp hreported
  have hreading : Reading.ofSnapshot (toSnapshot row) = Reading.ofResult result := by
    rw [hresult]
    rfl
  refine ⟨row, hrow, hsame, (htold.events event hat).2, ?_⟩
  rw [hreading]
  exact hfires

/-- No event is left out. -/
theorem entriesOf_shows (hcoherent : (logOf store id).Coherent tie)
    (shown : List DetectionEventModel)
    (hstored : ∀ event ∈ shown, event ∈ (logOf store id).events) :
    List.Forall₂ (ShowsEvent tie (logOf store id))
      (entriesOf store.db (shown.map toDetectionEvent)) shown := by
  induction shown with
  | nil => exact .nil
  | cons event rest ih =>
      obtain ⟨row, hrow, hsame, hcreated, hfires⟩ :=
        exists_snapshot hcoherent (hstored event List.mem_cons_self)
      have hfind : store.db.snapshots.find? event.snapshotId = some row :=
        Table.find?_eq_some_iff.mpr ⟨(List.mem_filter.mp hrow).1, hsame⟩
      have hentries : entriesOf store.db ((event :: rest).map toDetectionEvent) =
          ⟨some event.id, event.eventType.value, event.createdAt,
            SnapshotSchema.of (toSnapshot row)⟩ ::
            entriesOf store.db (rest.map toDetectionEvent) := by
        simp [entriesOf, toDetectionEvent, hfind]
      rw [hentries]
      refine .cons ⟨rfl, rfl, row, hrow, hsame, rfl, hcreated, hfires⟩ ?_
      exact ih fun other hother => hstored other (List.mem_cons_of_mem _ hother)

/-- What `list_for_watch_target` gives without a start. -/
theorem newestEvents_listed (tie : Nat → Nat) (db : Database) (id limit : Nat) :
    NewestEvents limit (SqlAlchemyDetectionEventRepository.ofTarget db id)
      (SqlAlchemyDetectionEventRepository.listed tie db id limit none) := by
  have hselected : SqlAlchemyDetectionEventRepository.selected db id none =
      SqlAlchemyDetectionEventRepository.ofTarget db id := List.filter_eq_self.mpr fun _ _ => rfl
  unfold SqlAlchemyDetectionEventRepository.listed
  rw [hselected]
  let events := SqlAlchemyDetectionEventRepository.ofTarget db id
  let ordered := orderDesc tie DetectionEventModel.createdAt events
  have hperm : ordered.Perm events := orderDesc_perm tie _ events
  have hnodup : events.Nodup := (List.Nodup.of_map Keyed.key db.detectionEvents.keys_nodup).filter _
  have hordered : ordered.Pairwise fun event other => other.createdAt ≤ event.createdAt :=
    (orderDesc_pairwise tie _ events).imp fun hnot =>
      Int.not_lt.mp fun hlt => hnot (Or.inl hlt)
  refine ⟨?_, ?_, ?_, ?_, ?_⟩
  · intro event hevent
    exact hperm.subset (List.mem_of_mem_take hevent)
  · exact (hperm.nodup_iff.mpr hnodup).sublist (List.take_sublist _ _)
  · rw [List.length_take, hperm.length_eq]
  · exact hordered.sublist (List.take_sublist _ _)
  · intro event hevent other hother hcut
    exact Int.not_lt.mp fun hlt => hcut (mem_take_of_newer hevent hother hlt)

end Entries

/-- What `GET /history` answers on coherent records: for a watch of the user, one entry for
each of the newest 50 events of its target, newest first, with the snapshot the event was
stored with. -/
theorem history_shows_changes {tie rowTie : Nat → Nat} {store : MonitorStore}
    (hrecorded : Recorded tie store) {turns : Nat → ApiTurn} {watchId userId : Nat}
    {entries : List HistoryEntrySchema}
    (hanswer : (runHandler rowTie turns (getHistory watchId userId) store.db).result =
      .ok entries) :
    ∃ watch ∈ store.db.watches.rows, watch.id = watchId ∧ watch.userId = userId ∧
      ∃ shown, NewestEvents 50 (logOf store watch.watchTargetId).events shown ∧
        List.Forall₂ (ShowsEvent tie (logOf store watch.watchTargetId)) entries shown := by
  have hpropagates : (getHistory watchId userId).Propagates :=
    propagates_handler userId (.getHistory watchId)
  have hsettle := settle_of_ok hpropagates hanswer
  rw [settle_getHistory] at hsettle
  cases hown : ownRow WatchModel.userId store.db.watches watchId userId with
  | none =>
      rw [hown] at hsettle
      cases congrArg Prod.fst hsettle
  | some watch =>
      rw [hown] at hsettle
      obtain ⟨hwatch, hid, howner⟩ := ownRow_eq_some_iff.mp hown
      have hentries := Except.ok.inj (congrArg Prod.fst hsettle)
      let shown := SqlAlchemyDetectionEventRepository.listed rowTie store.db watch.watchTargetId
        50 none
      have hnewest := newestEvents_listed rowTie store.db watch.watchTargetId 50
      refine ⟨watch, hwatch, hid, howner, shown, hnewest, ?_⟩
      rw [← hentries]
      exact entriesOf_shows (hrecorded.coherent watch.watchTargetId) shown hnewest.stored

/-- The Delhi product with a watch of user 10 on it. -/
def watchedDelhiStore : MonitorStore :=
  { delhiStore with
    db := watchedMilkStore.db }

/-- After the tick that has found the product, its history has one entry. -/
theorem delhi_history_shows_change :
    ∃ loop entries, (MonitorLoop.start watchedDelhiStore).run mainLoop findingTick = some loop ∧
      (runHandler mainLoop.tie (fun _ => ⟨daysOf 1, none⟩) (getHistory 1 10)
        loop.store.db).result = .ok entries ∧
      entries.map HistoryEntrySchema.eventType = ["stock_available"] ∧
      ∃ watch ∈ loop.store.db.watches.rows, watch.id = 1 ∧ watch.userId = 10 ∧
        ∃ shown, NewestEvents 50 (logOf loop.store watch.watchTargetId).events shown ∧
          List.Forall₂ (ShowsEvent mainLoop.tie (logOf loop.store watch.watchTargetId))
            entries shown := by
  have hentries : ((MonitorLoop.start watchedDelhiStore).run mainLoop findingTick).map
      (fun loop => (runHandler mainLoop.tie (fun _ => ⟨daysOf 1, none⟩) (getHistory 1 10)
        loop.store.db).result.toOption.map fun entries =>
          entries.map HistoryEntrySchema.eventType) = some (some ["stock_available"]) := by
    decide +kernel
  obtain ⟨loop, hrun, hloop⟩ := Option.map_eq_some_iff.mp hentries
  obtain ⟨entries, hanswer, htypes⟩ := Option.map_eq_some_iff.mp hloop
  have hok : (runHandler mainLoop.tie (fun _ => ⟨daysOf 1, none⟩) (getHistory 1 10)
      loop.store.db).result = .ok entries := by
    cases hresult : (runHandler mainLoop.tie (fun _ => ⟨daysOf 1, none⟩) (getHistory 1 10)
      loop.store.db).result with
    | ok answered =>
        rw [hresult] at hanswer
        cases hanswer
        rfl
    | error error =>
        rw [hresult] at hanswer
        cases hanswer
  have hrecorded : Recorded mainLoop.tie loop.store :=
    recorded_run (recorded_of_empty rfl rfl rfl rfl) (by decide +kernel) hrun
  exact ⟨loop, entries, hrun, hok, htypes, history_shows_changes hrecorded hok⟩

end StockMonitoring.Api
