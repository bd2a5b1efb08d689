import StockMonitoring.Api.RequestEffects

set_option autoImplicit false

/-!
# Api: whose rows a response shows

A response is made of the user's own rows and of the snapshots and events of the targets
that the user's watches point to.
-/

namespace StockMonitoring.Api

open StockMonitoring.Foundation StockMonitoring.Domain StockMonitoring.Application
  StockMonitoring.Infrastructure.Db

/-- The user has a watch with this id, on this target. -/
def Watches (db : Database) (userId watchId watchTargetId : Nat) : Prop :=
  ∃ watch ∈ db.watches.rows, watch.id = watchId ∧ watch.userId = userId ∧
    watch.watchTargetId = watchTargetId

/-- A response is made of the user's rows and of what is known of the user's targets. -/
def Belongs (db : Database) (userId : Nat) : (request : ApiRequest) → request.Response → Prop
  | .createProduct _, response => ∃ row ∈ db.products.rows, row.userId = userId ∧
      response = ProductSchema.of (toProduct row)
  | .listProducts, response => ∀ entry ∈ response, ∃ row ∈ db.products.rows,
      row.userId = userId ∧ entry = ProductSchema.of (toProduct row)
  | .createWatch _, response => ∃ row ∈ db.watches.rows, row.userId = userId ∧
      response = WatchSchema.of (toWatch row)
  | .listWatches, response => ∀ entry ∈ response, ∃ row ∈ db.watches.rows,
      row.userId = userId ∧ entry = WatchSchema.of (toWatch row)
  | .createChannel _, response => ∃ row ∈ db.notificationChannels.rows, row.userId = userId ∧
      response = ChannelSchema.of (toNotificationChannel row)
  | .listChannels, response => ∀ entry ∈ response, ∃ row ∈ db.notificationChannels.rows,
      row.userId = userId ∧ entry = ChannelSchema.of (toNotificationChannel row)
  | .listNotificationLog, response => ∀ entry ∈ response, ∃ row ∈ db.notificationLogs.rows,
      row.userId = userId ∧ entry = NotificationLogEntrySchema.of (toNotificationLog row)
  | .getSettings, response | .updateSetting _, response => ∀ entry ∈ response,
      ∃ row ∈ db.settings.rows, row.userId = some userId ∧ entry = (row.key, row.valueJson)
  | .getHistory watchId, response => ∃ watchTargetId, Watches db userId watchId watchTargetId ∧
      ∀ entry ∈ response, ∃ event ∈ SqlAlchemyDetectionEventRepository.ofTarget db watchTargetId,
        ∃ snapshot ∈ db.snapshots.rows, snapshot.id = event.snapshotId ∧
          entry = ⟨some event.id, event.eventType.value, event.createdAt,
            SnapshotSchema.of (toSnapshot snapshot)⟩
  | .priceHistory watchId _, response => ∃ watchTargetId, Watches db userId watchId watchTargetId ∧
      ∀ point ∈ response, ∃ snapshot ∈ SqlAlchemySnapshotRepository.ofTarget db watchTargetId,
        point = PricePointSchema.of (toSnapshot snapshot)
  | .availabilitySummary watchId _, response => ∃ watchTargetId,
      Watches db userId watchId watchTargetId ∧
      ∃ events start stop, response = computeAvailabilitySummary events start stop ∧
        ∀ event ∈ events, ∃ row ∈ SqlAlchemyDetectionEventRepository.ofTarget db watchTargetId,
          event = toDetectionEvent row
  | .deleteProduct _, _ | .deleteWatch _, _ | .verifyChannel _, _ | .deleteChannel _, _ => True

/-- The snapshots of a history are those of the watch's target. -/
def OwnSnapshots (db : Database) (userId : Nat) : (request : ApiRequest) → request.Response → Prop
  | .getHistory watchId, response => ∃ watchTargetId, Watches db userId watchId watchTargetId ∧
      ∀ entry ∈ response, ∃ snapshot ∈ SqlAlchemySnapshotRepository.ofTarget db watchTargetId,
        entry.snapshot = SnapshotSchema.of (toSnapshot snapshot)
  | _, _ => True

section Belongs

variable {db : Database} {userId : Nat}

theorem mem_dictSet {dict : List (String × String)} {key value : String}
    {entry : String × String} (hentry : entry ∈ dictSet dict key value) :
    entry ∈ dict ∨ entry = (key, value) := by
  unfold dictSet at hentry
  split at hentry
  · obtain ⟨old, hold, rfl⟩ := List.mem_map.mp hentry
    split
    · exact Or.inr rfl
    · exact Or.inl hold
  · rcases List.mem_append.mp hentry with hold | hnew
    · exact Or.inl hold
    · exact Or.inr (List.mem_singleton.mp hnew)

/-- A dictionary of settings has the values of the user's rows. -/
theorem mem_getForUser {entry : String × String}
    (hentry : entry ∈ SqlAlchemySettingsRepository.getForUser db userId) :
    ∃ row ∈ db.settings.rows, row.userId = some userId ∧ entry = (row.key, row.valueJson) := by
  have hfold : ∀ (rows : List SettingsModel) (dict : List (String × String)),
      entry ∈ rows.foldl (fun dict row => dictSet dict row.key row.valueJson) dict →
      entry ∈ dict ∨ ∃ row ∈ rows, entry = (row.key, row.valueJson) := by
    intro rows
    induction rows with
    | nil => exact fun dict hmem => Or.inl hmem
    | cons row rest ih =>
        intro dict hmem
        rcases ih _ hmem with hset | ⟨other, hother, hsame⟩
        · rcases mem_dictSet hset with hold | hnew
          · exact Or.inl hold
          · exact Or.inr ⟨row, List.mem_cons_self, hnew⟩
        · exact Or.inr ⟨other, List.mem_cons_of_mem _ hother, hsame⟩
  rcases hfold _ _ hentry with hnone | ⟨row, hrow, hsame⟩
  · cases hnone
  · obtain ⟨hmem, howner⟩ := List.mem_filter.mp hrow
    exact ⟨row, hmem, beq_iff_eq.mp howner, hsame⟩

/-- The rendered rows of one owner. -/
theorem exists_row_of_mem {Row Entity Schema : Type} {rows : List Row} {owner : Row → Nat}
    {toEntity : Row → Entity} {render : Entity → Schema} {entry : Schema}
    (hentry : entry ∈ ((rows.filter fun row => owner row == userId).map toEntity).map render) :
    ∃ row ∈ rows, owner row = userId ∧ entry = render (toEntity row) := by
  obtain ⟨entity, hentity, rfl⟩ := List.mem_map.mp hentry
  obtain ⟨row, hrow, rfl⟩ := List.mem_map.mp hentity
  obtain ⟨hmem, howner⟩ := List.mem_filter.mp hrow
  exact ⟨row, hmem, beq_iff_eq.mp howner, rfl⟩

theorem mem_listForWatchTarget {tie : Nat → Nat} {watchTargetId limit : Nat}
    {since : Option Datetime} {event : DetectionEvent}
    (hevent : event ∈ SqlAlchemyDetectionEventRepository.listForWatchTarget tie db watchTargetId
      limit since) :
    ∃ row ∈ SqlAlchemyDetectionEventRepository.ofTarget db watchTargetId,
      event = toDetectionEvent row := by
  obtain ⟨row, hrow, rfl⟩ := List.mem_map.mp hevent
  have hselected := (mem_orderDesc tie _).mp (List.mem_of_mem_take hrow)
  exact ⟨row, List.mem_of_mem_filter hselected, rfl⟩

/-- In a sound database the snapshot of a target's event is one of the target's. -/
theorem snapshot_of_event (hsound : Sound db) {watchTargetId : Nat} {event : DetectionEventModel}
    (hevent : event ∈ SqlAlchemyDetectionEventRepository.ofTarget db watchTargetId) :
    ∃ snapshot, db.snapshots.find? event.snapshotId = some snapshot ∧
      snapshot ∈ SqlAlchemySnapshotRepository.ofTarget db watchTargetId := by
  obtain ⟨hmem, htarget⟩ := List.mem_filter.mp hevent
  obtain ⟨snapshot, hfind⟩ := Option.isSome_iff_exists.mp (hsound.keys.eventSnapshot event hmem)
  obtain ⟨hsnapshot, hid⟩ := Table.find?_eq_some_iff.mp hfind
  refine ⟨snapshot, hfind, List.mem_filter.mpr ⟨hsnapshot, ?_⟩⟩
  rw [hsound.eventSnapshot event hmem snapshot hsnapshot hid]
  exact htarget

variable {tie : Nat → Nat} {turns : Nat → ApiTurn} {next : Database}

/-- What `create_watch` returns is a watch of the user. -/
theorem belongs_createWatch {body : WatchCreateSchema} {value : WatchSchema}
    (hsettle : settle tie turns (createWatch body userId) 0 db = (.ok value, next)) :
    Belongs next userId (.createWatch body) value := by
  obtain ⟨_, _, _, _, _, _, _, rfl, rfl⟩ := returned_createWatch hsettle
  exact ⟨_, List.mem_append_right _ (List.mem_singleton_self _), rfl, rfl⟩

theorem belongs_createChannel {body : ChannelCreateSchema} {value : ChannelSchema}
    (hsettle : settle tie turns (createChannel body userId) 0 db = (.ok value, next)) :
    Belongs next userId (.createChannel body) value := by
  obtain ⟨_, rfl, rfl⟩ := returned_createChannel hsettle
  exact ⟨_, List.mem_append_right _ (List.mem_singleton_self _), rfl, rfl⟩

theorem belongs_listNotificationLog {value : List NotificationLogEntrySchema}
    (hsettle : settle tie turns (listNotificationLog userId) 0 db = (.ok value, next)) :
    Belongs next userId .listNotificationLog value := by
  cases settle_listNotificationLog.symm.trans hsettle
  intro entry hentry
  obtain ⟨entity, hentity, rfl⟩ := List.mem_map.mp hentry
  obtain ⟨row, hrow, rfl⟩ := List.mem_map.mp hentity
  have hselected := (mem_orderDesc tie _).mp (List.mem_of_mem_take hrow)
  obtain ⟨hmem, howner⟩ := List.mem_filter.mp hselected
  exact ⟨row, hmem, beq_iff_eq.mp howner, rfl⟩

/-- An entry of a history shows an event, with the snapshot it refers to. -/
theorem shown_of_mem_entriesOf {watchTargetId limit : Nat} {since : Option Datetime}
    {entry : HistoryEntrySchema}
    (hentry : entry ∈ entriesOf db (SqlAlchemyDetectionEventRepository.listForWatchTarget tie db
      watchTargetId limit since)) :
    ∃ event ∈ SqlAlchemyDetectionEventRepository.ofTarget db watchTargetId,
      ∃ snapshot ∈ db.snapshots.rows, snapshot.id = event.snapshotId ∧
        entry = ⟨some event.id, event.eventType.value, event.createdAt,
          SnapshotSchema.of (toSnapshot snapshot)⟩ := by
  obtain ⟨event, hevent, hrender⟩ := List.mem_filterMap.mp hentry
  obtain ⟨row, hrow, rfl⟩ := mem_listForWatchTarget hevent
  obtain ⟨snapshot, hfind, rfl⟩ := Option.map_eq_some_iff.mp hrender
  obtain ⟨hmem, hid⟩ := Table.find?_eq_some_iff.mp hfind
  exact ⟨row, hrow, snapshot, hmem, hid, rfl⟩

theorem belongs_getHistory {watchId : Nat} {value : List HistoryEntrySchema}
    (hsettle : settle tie turns (getHistory watchId userId) 0 db = (.ok value, next)) :
    Belongs next userId (.getHistory watchId) value := by
  obtain ⟨rfl, watch, hmem, hid, howner, rfl⟩ := returned_getHistory hsettle
  exact ⟨watch.watchTargetId, ⟨watch, hmem, hid, howner, rfl⟩,
    fun entry hentry => shown_of_mem_entriesOf hentry⟩

theorem belongs_priceHistory {watchId : Nat} {days : Int} {value : List PricePointSchema}
    (hsettle : settle tie turns (priceHistory watchId days userId) 0 db = (.ok value, next)) :
    Belongs next userId (.priceHistory watchId days) value := by
  obtain ⟨rfl, watch, hmem, hid, howner, since, rfl⟩ := returned_priceHistory hsettle
  refine ⟨watch.watchTargetId, ⟨watch, hmem, hid, howner, rfl⟩, ?_⟩
  intro point hpoint
  obtain ⟨entity, hentity, rfl⟩ := List.mem_map.mp hpoint
  obtain ⟨row, hrow, rfl⟩ := List.mem_map.mp hentity
  exact ⟨row, List.mem_of_mem_filter ((mem_orderAsc tie _).mp hrow), rfl⟩

theorem belongs_availabilitySummary {watchId : Nat} {days : Int} {value : AvailabilitySummary}
    (hsettle : settle tie turns (availabilitySummary watchId days userId) 0 db =
      (.ok value, next)) :
    Belongs next userId (.availabilitySummary watchId days) value := by
  obtain ⟨rfl, watch, hmem, hid, howner, start, stop, rfl⟩ := returned_availabilitySummary hsettle
  exact ⟨watch.watchTargetId, ⟨watch, hmem, hid, howner, rfl⟩, _, start, stop, rfl,
    fun event hevent => mem_listForWatchTarget hevent⟩

/-- What a handler returns belongs to the user. -/
theorem belongs_of_settle {request : ApiRequest} {value : request.Response}
    (hsettle : settle tie turns (request.handler userId) 0 db = (.ok value, next)) :
    Belongs next userId request value := by
  cases request with
  | createProduct body =>
      cases (settle_createProduct body).symm.trans hsettle
      exact ⟨_, List.mem_append_right _ (List.mem_singleton_self _), rfl, rfl⟩
  | listProducts =>
      cases settle_listProducts.symm.trans hsettle
      exact fun entry hentry => exists_row_of_mem hentry
  | createWatch body => exact belongs_createWatch hsettle
  | listWatches =>
      cases settle_listWatches.symm.trans hsettle
      exact fun entry hentry => exists_row_of_mem hentry
  | createChannel body => exact belongs_createChannel hsettle
  | listChannels =>
      cases settle_listChannels.symm.trans hsettle
      exact fun entry hentry => exists_row_of_mem hentry
  | listNotificationLog => exact belongs_listNotificationLog hsettle
  | getSettings =>
      cases settle_getSettings.symm.trans hsettle
      exact fun entry hentry => mem_getForUser hentry
  | updateSetting body =>
      obtain ⟨_, rfl⟩ := returned_updateSetting hsettle
      exact fun entry hentry => mem_getForUser hentry
  | getHistory watchId => exact belongs_getHistory hsettle
  | priceHistory watchId days => exact belongs_priceHistory hsettle
  | availabilitySummary watchId days => exact belongs_availabilitySummary hsettle
  | deleteProduct | deleteWatch | verifyChannel | deleteChannel => trivial

/-- Where events refer to snapshots of their own target, a history shows the target's. -/
theorem ownSnapshots_of_settle
    (hevents : ∀ event ∈ db.detectionEvents.rows, ∀ snapshot ∈ db.snapshots.rows,
      snapshot.id = event.snapshotId → snapshot.watchTargetId = event.watchTargetId)
    {request : ApiRequest} {value : request.Response}
    (hsettle : settle tie turns (request.handler userId) 0 db = (.ok value, next)) :
    OwnSnapshots next userId request value := by
  cases request with
  | getHistory watchId =>
      obtain ⟨rfl, _⟩ := returned_getHistory hsettle
      obtain ⟨watchTargetId, hwatches, hentries⟩ := belongs_getHistory hsettle
      refine ⟨watchTargetId, hwatches, ?_⟩
      intro entry hentry
      obtain ⟨event, hevent, snapshot, hmem, hid, rfl⟩ := hentries entry hentry
      obtain ⟨hstored, htarget⟩ := List.mem_filter.mp hevent
      refine ⟨snapshot, List.mem_filter.mpr ⟨hmem, ?_⟩, rfl⟩
      rw [hevents event hstored snapshot hmem hid]
      exact htarget
  | _ => trivial

end Belongs

end StockMonitoring.Api
