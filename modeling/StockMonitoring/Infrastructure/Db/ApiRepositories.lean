import StockMonitoring.Foundation.Ordering
import StockMonitoring.Infrastructure.Db.Repositories

set_option autoImplicit false

/-!
# Infrastructure: the repository methods of the REST API

The rest of `app/infrastructure/db/repositories.py` that the products, watches,
notifications, settings, history and analytics routers call.  Where a method makes
several statements each has a function of its own: `get_or_create` and `set_for_user`
are programs over them in `Api.Port`.

An attribute that is assigned on a loaded row is written when the session flushes; a
session sees its own assignments before that.
-/

namespace StockMonitoring.Infrastructure.Db

open StockMonitoring.Foundation StockMonitoring.Domain

/-- Select one row by key and change it, if there is one. -/
def updateIfAny {Row : Type} [Keyed Row] (table : Table Row) (id : Nat) (change : Row → Row)
    (hkey : ∀ row, Keyed.key (change row) = Keyed.key row := by intro _; rfl) :
    Except Raised Unit × Table Row :=
  match scalarOneOrNone (whereId table id) with
  | .error error => (.error error, table)
  | .ok none => (.ok (), table)
  | .ok (some _) => (.ok (), table.modify id change hkey)

/-- Select one row by key and delete it, if there is one. -/
def deleteIfAny {Row : Type} [Keyed Row] (table : Table Row) (id : Nat) :
    Except Raised Unit × Table Row :=
  match scalarOneOrNone (whereId table id) with
  | .error error => (.error error, table)
  | .ok none => (.ok (), table)
  | .ok (some _) => (.ok (), table.delete id)

section IfAny

variable {Row : Type} [Keyed Row] {table : Table Row} {id : Nat}

theorem updateIfAny_of_some {row : Row} (hfind : table.find? id = some row) (change : Row → Row)
    (hkey : ∀ row, Keyed.key (change row) = Keyed.key row) :
    updateIfAny table id change hkey = (.ok (), table.modify id change hkey) := by
  unfold updateIfAny
  rw [scalarOneOrNone_whereId, hfind]

/-- Whether or not the row is there, the table is changed under its key. -/
theorem updateIfAny_snd (table : Table Row) (id : Nat) (change : Row → Row)
    (hkey : ∀ row, Keyed.key (change row) = Keyed.key row) :
    (updateIfAny table id change hkey).2 = table.modify id change hkey := by
  cases hfind : table.find? id with
  | none =>
      rw [Table.modify_of_find?_eq_none hfind]
      unfold updateIfAny
      rw [scalarOneOrNone_whereId, hfind]
  | some row => rw [updateIfAny_of_some hfind]

theorem deleteIfAny_of_some {row : Row} (hfind : table.find? id = some row) :
    deleteIfAny table id = (.ok (), table.delete id) := by
  unfold deleteIfAny
  rw [scalarOneOrNone_whereId, hfind]

/-- Whether or not the row is there, it is not there afterwards. -/
theorem deleteIfAny_snd (table : Table Row) (id : Nat) :
    (deleteIfAny table id).2 = table.delete id := by
  cases hfind : table.find? id with
  | some row => rw [deleteIfAny_of_some hfind]
  | none =>
      have hother : ∀ row ∈ table.rows, (Keyed.key row != id) = true := by
        intro row hrow
        simpa using List.find?_eq_none.mp hfind row hrow
      unfold deleteIfAny
      rw [scalarOneOrNone_whereId, hfind]
      exact Table.eq_of_rows (List.filter_eq_self.mpr hother).symm rfl

/-- A change by key does not raise. -/
theorem updateIfAny_fst (table : Table Row) (id : Nat) (change : Row → Row)
    (hkey : ∀ row, Keyed.key (change row) = Keyed.key row) :
    (updateIfAny table id change hkey).1 = .ok () := by
  unfold updateIfAny
  rw [scalarOneOrNone_whereId]
  cases table.find? id <;> rfl

/-- A deletion by key does not raise. -/
theorem deleteIfAny_fst (table : Table Row) (id : Nat) : (deleteIfAny table id).1 = .ok () := by
  unfold deleteIfAny
  rw [scalarOneOrNone_whereId]
  cases table.find? id <;> rfl

end IfAny

/-! ## Products -/

/-- `_to_product`. -/
def toProduct (model : ProductModel) : Product :=
  ⟨some model.id, model.userId, model.name, model.keyword, model.canonicalImageUrl⟩

namespace SqlAlchemyProductRepository

/-- `create`. -/
def create (db : Database) (userId : Nat) (name keyword : String)
    (canonicalImageUrl : Option String) : Product × Database :=
  (toProduct ⟨db.products.nextId, userId, name, keyword, canonicalImageUrl⟩,
    { db with products := db.products.insert fun id =>
        ⟨id, userId, name, keyword, canonicalImageUrl⟩ })

/-- `list_for_user`. -/
def listForUser (db : Database) (userId : Nat) : List Product :=
  (db.products.rows.filter fun row => row.userId == userId).map toProduct

/-- `get_by_id`. -/
def getById (db : Database) (productId : Nat) : Except Raised (Option Product) :=
  (scalarOneOrNone (whereId db.products productId)).map fun row => row.map toProduct

theorem getById_eq (db : Database) (productId : Nat) :
    getById db productId = .ok ((db.products.find? productId).map toProduct) := by
  unfold getById
  rw [scalarOneOrNone_whereId]
  rfl

/-- `delete`. -/
def delete (db : Database) (productId : Nat) : Except Raised Unit × Database :=
  let (reply, table) := deleteIfAny db.products productId
  (reply, { db with products := table })

end SqlAlchemyProductRepository

/-! ## Watch targets -/

namespace SqlAlchemyWatchTargetRepository

/-- The rows the `SELECT` of `get_or_create` gives. -/
def withKey (db : Database) (retailerSlug city pincode keyword : String) :
    List WatchTargetModel :=
  db.watchTargets.rows.filter fun row =>
    row.retailerSlug == retailerSlug && row.city == city && row.pincode == pincode &&
      row.keyword == keyword

/-- The `SELECT` of `get_or_create`. -/
def select (db : Database) (retailerSlug city pincode keyword : String) :
    Except Raised (Option WatchTargetModel) :=
  scalarOneOrNone (withKey db retailerSlug city pincode keyword)

/-- `existing.interval_seconds = interval_seconds` on the loaded row. -/
def setInterval (db : Database) (watchTargetId : Nat) (intervalSeconds : Int) : Database :=
  { db with watchTargets := db.watchTargets.modify watchTargetId fun row =>
      { row with intervalSeconds := intervalSeconds } }

/-- The row `get_or_create` inserts. -/
def insert (db : Database) (retailerSlug city pincode keyword : String) (intervalSeconds : Int) :
    WatchTarget × Database :=
  (toWatchTarget ⟨db.watchTargets.nextId, retailerSlug, city, pincode, keyword, intervalSeconds,
      none⟩,
    { db with watchTargets := db.watchTargets.insert fun id =>
        ⟨id, retailerSlug, city, pincode, keyword, intervalSeconds, none⟩ })

end SqlAlchemyWatchTargetRepository

/-! ## Watches -/

namespace SqlAlchemyWatchRepository

/-- `create`. -/
def create (db : Database) (userId productId watchTargetId : Nat) (intervalSeconds : Int) :
    Watch × Database :=
  (toWatch ⟨db.watches.nextId, userId, productId, watchTargetId, intervalSeconds, true⟩,
    { db with watches := db.watches.insert fun id =>
        ⟨id, userId, productId, watchTargetId, intervalSeconds, true⟩ })

/-- `list_by_product`: the active watches. -/
def listByProduct (db : Database) (productId : Nat) : List Watch :=
  (db.watches.rows.filter fun row => row.productId == productId && row.isActive).map toWatch

/-- `list_for_user`. -/
def listForUser (db : Database) (userId : Nat) : List Watch :=
  (db.watches.rows.filter fun row => row.userId == userId).map toWatch

/-- `get_by_id`. -/
def getById (db : Database) (watchId : Nat) : Except Raised (Option Watch) :=
  (scalarOneOrNone (whereId db.watches watchId)).map fun row => row.map toWatch

theorem getById_eq (db : Database) (watchId : Nat) :
    getById db watchId = .ok ((db.watches.find? watchId).map toWatch) := by
  unfold getById
  rw [scalarOneOrNone_whereId]
  rfl

/-- `deactivate`. -/
def deactivate (db : Database) (watchId : Nat) : Except Raised Unit × Database :=
  let (reply, table) := updateIfAny db.watches watchId fun row => { row with isActive := false }
  (reply, { db with watches := table })

end SqlAlchemyWatchRepository

/-! ## Notification channels and logs -/

namespace SqlAlchemyNotificationChannelRepository

/-- `create`. -/
def create (db : Database) (userId : Nat) (type : NotificationChannelType)
    (config : List (String × String)) (isVerified : Bool) : NotificationChannel × Database :=
  (toNotificationChannel ⟨db.notificationChannels.nextId, userId, type, config, isVerified⟩,
    { db with notificationChannels := db.notificationChannels.insert fun id =>
        ⟨id, userId, type, config, isVerified⟩ })

/-- `get_by_id`. -/
def getById (db : Database) (channelId : Nat) : Except Raised (Option NotificationChannel) :=
  (scalarOneOrNone (whereId db.notificationChannels channelId)).map fun row =>
    row.map toNotificationChannel

theorem getById_eq (db : Database) (channelId : Nat) :
    getById db channelId =
      .ok ((db.notificationChannels.find? channelId).map toNotificationChannel) := by
  unfold getById
  rw [scalarOneOrNone_whereId]
  rfl

/-- `delete`. -/
def delete (db : Database) (channelId : Nat) : Except Raised Unit × Database :=
  let (reply, table) := deleteIfAny db.notificationChannels channelId
  (reply, { db with notificationChannels := table })

/-- `mark_verified`. -/
def markVerified (db : Database) (channelId : Nat) : Except Raised Unit × Database :=
  let (reply, table) := updateOne db.notificationChannels channelId fun row =>
    { row with isVerified := true }
  (reply, { db with notificationChannels := table })

end SqlAlchemyNotificationChannelRepository

/-- `list_for_user` of the log: newest `sent_at` first, at most `limit` rows. -/
def SqlAlchemyNotificationLogRepository.listForUser (tie : Nat → Nat) (db : Database)
    (userId limit : Nat) : List NotificationLog :=
  ((orderDesc tie NotificationLogModel.sentAt
    (db.notificationLogs.rows.filter fun row => row.userId == userId)).take limit).map
      toNotificationLog

/-! ## Settings -/

/-- `dict[key] = value`. -/
def dictSet (dict : List (String × String)) (key value : String) : List (String × String) :=
  if dict.any fun entry => entry.1 == key then
    dict.map fun entry => if entry.1 == key then (key, value) else entry
  else dict ++ [(key, value)]

namespace SqlAlchemySettingsRepository

/-- `get_for_user`. -/
def getForUser (db : Database) (userId : Nat) : List (String × String) :=
  (db.settings.rows.filter fun row => row.userId == some userId).foldl
    (fun dict row => dictSet dict row.key row.valueJson) []

/-- The `SELECT` of `set_for_user`. -/
def select (db : Database) (userId : Nat) (key : String) :
    Except Raised (Option SettingsModel) :=
  scalarOneOrNone (db.settings.rows.filter fun row =>
    row.userId == some userId && row.key == key)

/-- `existing.value_json = value` on the loaded row. -/
def setValue (db : Database) (settingId : Nat) (value : String) : Database :=
  { db with settings := db.settings.modify settingId fun row => { row with valueJson := value } }

/-- The row `set_for_user` inserts. -/
def insert (db : Database) (userId : Nat) (key value : String) : Database :=
  { db with settings := db.settings.insert fun id => ⟨id, some userId, key, value⟩ }

end SqlAlchemySettingsRepository

/-! ## Snapshots and detection events -/

/-- `list_since`: oldest `timestamp` first. -/
def SqlAlchemySnapshotRepository.listSince (tie : Nat → Nat) (db : Database)
    (watchTargetId : Nat) (since : Datetime) : List Snapshot :=
  (orderAsc tie SnapshotModel.timestamp
    ((SqlAlchemySnapshotRepository.ofTarget db watchTargetId).filter fun row =>
      decide (since ≤ row.timestamp))).map toSnapshot

namespace SqlAlchemyDetectionEventRepository

/-- The rows of a target that `list_for_watch_target` selects. -/
def selected (db : Database) (watchTargetId : Nat) (since : Option Datetime) :
    List DetectionEventModel :=
  (ofTarget db watchTargetId).filter fun row =>
    match since with
    | none => true
    | some since => decide (since ≤ row.createdAt)

/-- The rows `list_for_watch_target` gives: newest `created_at` first, at most `limit`. -/
def listed (tie : Nat → Nat) (db : Database) (watchTargetId limit : Nat)
    (since : Option Datetime) : List DetectionEventModel :=
  (orderDesc tie DetectionEventModel.createdAt (selected db watchTargetId since)).take limit

/-- `list_for_watch_target`. -/
def listForWatchTarget (tie : Nat → Nat) (db : Database) (watchTargetId limit : Nat)
    (since : Option Datetime) : List DetectionEvent :=
  (listed tie db watchTargetId limit since).map toDetectionEvent

end SqlAlchemyDetectionEventRepository

end StockMonitoring.Infrastructure.Db
