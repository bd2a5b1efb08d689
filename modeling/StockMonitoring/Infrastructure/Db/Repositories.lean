import StockMonitoring.Infrastructure.Db.Models

set_option autoImplicit false

/-!
# Infrastructure: the SQLAlchemy repositories

`app/infrastructure/db/repositories.py`, the repositories the OTP login, the
monitor and the notification worker are built on.  A method is a function of the
tables its session sees; a method that writes also gives the tables after it.
Each `datetime.now` a method makes is an argument.

A `SELECT` without `ORDER BY` gives the rows in insertion order.
-/

namespace StockMonitoring.Infrastructure.Db

open StockMonitoring.Foundation StockMonitoring.Domain

/-! ## Result methods -/

section Scalars

variable {α : Type}

/-- `Result.scalar_one_or_none`. -/
def scalarOneOrNone : List α → Except Raised (Option α)
  | [] => .ok none
  | [row] => .ok (some row)
  | _ :: _ :: _ => .error .multipleResultsFound

/-- `Result.scalar_one`. -/
def scalarOne : List α → Except Raised α
  | [] => .error .noResultFound
  | [row] => .ok row
  | _ :: _ :: _ => .error .multipleResultsFound

theorem scalarOneOrNone_eq_ok_iff {rows : List α} :
    (∃ found, scalarOneOrNone rows = .ok found) ↔ rows.length ≤ 1 := by
  match rows with
  | [] => simp [scalarOneOrNone]
  | [row] => simp [scalarOneOrNone]
  | _ :: _ :: _ => simp [scalarOneOrNone]

/-- A row that `scalar_one_or_none` gives is one of the result set. -/
theorem mem_of_scalarOneOrNone {rows : List α} {row : α}
    (hone : scalarOneOrNone rows = .ok (some row)) : row ∈ rows := by
  match rows with
  | [] => cases hone
  | [only] =>
      cases hone
      exact List.mem_singleton_self _
  | _ :: _ :: _ => cases hone

/-- It gives none only of an empty result set. -/
theorem scalarOneOrNone_eq_none {rows : List α} (hnone : scalarOneOrNone rows = .ok none) :
    rows = [] := by
  match rows with
  | [] => rfl
  | [_] => cases hnone
  | _ :: _ :: _ => cases hnone

end Scalars

section ByKey

variable {Row : Type} [Keyed Row]

/-- `SELECT ... WHERE id = ...`, as a result set. -/
def whereId (table : Table Row) (id : Nat) : List Row :=
  table.rows.filter fun row => Keyed.key row == id

/-- A primary key selects at most one row. -/
theorem whereId_eq (table : Table Row) (id : Nat) :
    whereId table id = (table.find? id).toList := by
  have hnodup : ∀ rows : List Row, (rows.map Keyed.key).Nodup →
      rows.filter (fun row => Keyed.key row == id) =
        (rows.find? fun row => Keyed.key row == id).toList := by
    intro rows
    induction rows with
    | nil => intro _; rfl
    | cons row rest ih =>
        intro hrows
        rw [List.map_cons, List.nodup_cons] at hrows
        by_cases hrow : Keyed.key row = id
        · have hrest : rest.filter (fun other => Keyed.key other == id) = [] := by
            rw [List.filter_eq_nil_iff]
            intro other hother
            have hne : Keyed.key other ≠ id := by
              intro h
              exact hrows.1 (hrow ▸ h ▸ List.mem_map_of_mem hother)
            simpa using hne
          simp [hrow, hrest]
        · simp [hrow, ih hrows.2]
  exact hnodup table.rows table.keys_nodup

@[simp] theorem scalarOneOrNone_whereId (table : Table Row) (id : Nat) :
    scalarOneOrNone (whereId table id) = .ok (table.find? id) := by
  rw [whereId_eq]
  cases table.find? id <;> rfl

theorem scalarOne_whereId_of_some {table : Table Row} {id : Nat} {row : Row}
    (hfind : table.find? id = some row) : scalarOne (whereId table id) = .ok row := by
  rw [whereId_eq, hfind]
  rfl

theorem scalarOne_whereId_of_none {table : Table Row} {id : Nat}
    (hfind : table.find? id = none) :
    scalarOne (whereId table id) = .error .noResultFound := by
  rw [whereId_eq, hfind]
  rfl

/-- Select one row by key, change it, or raise what `scalar_one` raises. -/
def updateOne (table : Table Row) (id : Nat) (change : Row → Row)
    (hkey : ∀ row, Keyed.key (change row) = Keyed.key row := by intro _; rfl) :
    Except Raised Unit × Table Row :=
  match scalarOne (whereId table id) with
  | .ok _ => (.ok (), table.modify id change hkey)
  | .error error => (.error error, table)

theorem updateOne_of_some {table : Table Row} {id : Nat} {row : Row}
    (hfind : table.find? id = some row) (change : Row → Row)
    (hkey : ∀ row, Keyed.key (change row) = Keyed.key row) :
    updateOne table id change hkey = (.ok (), table.modify id change hkey) := by
  unfold updateOne
  rw [scalarOne_whereId_of_some hfind]

theorem updateOne_of_none {table : Table Row} {id : Nat}
    (hfind : table.find? id = none) (change : Row → Row)
    (hkey : ∀ row, Keyed.key (change row) = Keyed.key row) :
    updateOne table id change hkey = (.error .noResultFound, table) := by
  unfold updateOne
  rw [scalarOne_whereId_of_none hfind]

/-- Whether or not the row is there, the table is changed under its key. -/
theorem updateOne_snd (table : Table Row) (id : Nat) (change : Row → Row)
    (hkey : ∀ row, Keyed.key (change row) = Keyed.key row) :
    (updateOne table id change hkey).2 = table.modify id change hkey := by
  cases hfind : table.find? id with
  | none => rw [updateOne_of_none hfind, Table.modify_of_find?_eq_none hfind]
  | some row => rw [updateOne_of_some hfind]

/-- What an update leaves of every row it leaves of the table. -/
theorem map_rows_updateOne {β : Type} {entry : Row → β} {change : Row → Row}
    {hkey : ∀ row, Keyed.key (change row) = Keyed.key row}
    (hentry : ∀ row, entry (change row) = entry row) (table : Table Row) (id : Nat) :
    (updateOne table id change hkey).2.rows.map entry = table.rows.map entry := by
  rw [updateOne_snd, Table.rows_modify, List.map_map]
  refine List.map_congr_left fun row _ => ?_
  rw [Function.comp_apply]
  split
  · exact hentry row
  · rfl

theorem updateOne_snd_of_error {table : Table Row} {id : Nat} {change : Row → Row}
    {hkey : ∀ row, Keyed.key (change row) = Keyed.key row} {error : Raised}
    (herror : (updateOne table id change hkey).1 = .error error) :
    (updateOne table id change hkey).2 = table := by
  cases hfind : table.find? id with
  | none => rw [updateOne_of_none hfind]
  | some row =>
      rw [updateOne_of_some hfind] at herror
      cases herror

end ByKey

/-! ## Users -/

/-- `_to_user`. -/
def toUser (model : UserModel) : User :=
  ⟨some model.id, model.phoneNumber, model.email, model.createdAt⟩

namespace SqlAlchemyUserRepository

/-- `get_or_create_by_phone`. -/
def getOrCreateByPhone (db : Database) (phoneNumber : String) (now : Datetime) :
    Except Raised User × Database :=
  match scalarOneOrNone (db.users.rows.filter fun row => row.phoneNumber == phoneNumber) with
  | .error error => (.error error, db)
  | .ok (some existing) => (.ok (toUser existing), db)
  | .ok none =>
      (.ok (toUser ⟨db.users.nextId, phoneNumber, none, now⟩),
        { db with users := db.users.insert fun id => ⟨id, phoneNumber, none, now⟩ })

end SqlAlchemyUserRepository

/-! ## OTP challenges -/

/-- `_to_otp_challenge`. -/
def toOtpChallenge (model : OtpChallengeModel) : OtpChallenge :=
  ⟨some model.id, model.phoneNumber, model.codeHash, model.expiresAt, model.createdAt,
    model.consumed, model.attemptCount⟩

namespace SqlAlchemyOtpChallengeRepository

/-- `create`. -/
def create (db : Database) (phoneNumber codeHash : String) (expiresAt createdAt : Datetime) :
    OtpChallenge × Database :=
  (toOtpChallenge ⟨db.otpChallenges.nextId, phoneNumber, codeHash, expiresAt, createdAt, false, 0⟩,
    { db with otpChallenges := db.otpChallenges.insert fun id =>
        ⟨id, phoneNumber, codeHash, expiresAt, createdAt, false, 0⟩ })

/-- `get_latest`: newest `created_at` first, one row. -/
def getLatest (tie : Nat → Nat) (db : Database) (phoneNumber : String) : Option OtpChallenge :=
  (newest tie OtpChallengeModel.createdAt
    (db.otpChallenges.rows.filter fun row => row.phoneNumber == phoneNumber)).map toOtpChallenge

/-- `count_recent`. -/
def countRecent (db : Database) (phoneNumber : String) (windowSeconds : Int) (now : Datetime) :
    Nat :=
  (db.otpChallenges.rows.filter fun row =>
    row.phoneNumber == phoneNumber && decide (now - seconds windowSeconds ≤ row.createdAt)).length

/-- `mark_consumed`. -/
def markConsumed (db : Database) (challengeId : Nat) : Except Raised Unit × Database :=
  let (reply, table) := updateOne db.otpChallenges challengeId fun row =>
    { row with consumed := true }
  (reply, { db with otpChallenges := table })

theorem map_rows_markConsumed {β : Type} {entry : OtpChallengeModel → β}
    (hentry : ∀ row, entry { row with consumed := true } = entry row) (db : Database)
    (challengeId : Nat) :
    (markConsumed db challengeId).2.otpChallenges.rows.map entry =
      db.otpChallenges.rows.map entry :=
  map_rows_updateOne hentry db.otpChallenges challengeId

/-- `increment_attempt`. -/
def incrementAttempt (db : Database) (challengeId : Nat) : Except Raised Unit × Database :=
  let (reply, table) := updateOne db.otpChallenges challengeId fun row =>
    { row with attemptCount := row.attemptCount + 1 }
  (reply, { db with otpChallenges := table })

end SqlAlchemyOtpChallengeRepository

/-! ## Watch targets -/

/-- `_to_watch_target`. -/
def toWatchTarget (model : WatchTargetModel) : WatchTarget :=
  ⟨some model.id, model.retailerSlug, model.city, model.pincode, model.keyword,
    model.intervalSeconds⟩

namespace SqlAlchemyWatchTargetRepository

/-- `get_by_id`. -/
def getById (db : Database) (watchTargetId : Nat) : Except Raised (Option WatchTarget) :=
  (scalarOneOrNone (whereId db.watchTargets watchTargetId)).map fun row => row.map toWatchTarget

theorem getById_eq (db : Database) (watchTargetId : Nat) :
    getById db watchTargetId = .ok ((db.watchTargets.find? watchTargetId).map toWatchTarget) := by
  unfold getById
  rw [scalarOneOrNone_whereId]
  rfl

/-- The test `list_due` makes on one row. -/
def isDue (now : Datetime) (model : WatchTargetModel) : Bool :=
  match model.lastCheckedAt with
  | none => true
  | some checkedAt => decide (seconds model.intervalSeconds ≤ now - checkedAt)

/-- `list_due`. -/
def listDue (db : Database) (now : Datetime) : List WatchTarget :=
  (db.watchTargets.rows.filter (isDue now)).map toWatchTarget

/-- `mark_checked`. -/
def markChecked (db : Database) (watchTargetId : Nat) (checkedAt : Datetime) :
    Except Raised Unit × Database :=
  let (reply, table) := updateOne db.watchTargets watchTargetId fun row =>
    { row with lastCheckedAt := some checkedAt }
  (reply, { db with watchTargets := table })

/-- A due target is a row whose interval has passed since it was marked. -/
theorem exists_row_of_mem_listDue {db : Database} {now : Datetime} {watchTarget : WatchTarget}
    (hlisted : watchTarget ∈ listDue db now) :
    ∃ row ∈ db.watchTargets.rows, watchTarget.id = some row.id ∧
      ∀ checkedAt, row.lastCheckedAt = some checkedAt →
        checkedAt + seconds row.intervalSeconds ≤ now := by
  obtain ⟨row, hrow, rfl⟩ := List.mem_map.mp hlisted
  obtain ⟨hmem, hdue⟩ := List.mem_filter.mp hrow
  refine ⟨row, hmem, rfl, ?_⟩
  intro checkedAt hchecked
  simp only [isDue, hchecked, decide_eq_true_eq] at hdue
  exact Int.add_le_of_le_sub_left hdue

/-- `list_due` lists no target twice. -/
theorem listDue_pairwise (db : Database) (now : Datetime) :
    (listDue db now).Pairwise fun left right =>
      left.id ≠ right.id := by
  apply List.pairwise_map.mpr
  have hkeys := List.pairwise_map.mp (List.nodup_iff_pairwise_ne.mp db.watchTargets.keys_nodup)
  refine (hkeys.filter _).imp ?_
  intro left right hne hsame
  exact hne (Option.some.inj hsame)

end SqlAlchemyWatchTargetRepository

/-! ## Snapshots -/

/-- The `Snapshot(...)` expression of the repository's methods. -/
def toSnapshot (model : SnapshotModel) : Snapshot :=
  ⟨some model.id, model.watchTargetId, model.timestamp, model.availability, model.price,
    model.mrp, model.discountPct, model.etaMinutes, model.storeName, model.imageUrl,
    model.quantityLabel, model.variants, model.productUrl⟩

namespace SqlAlchemySnapshotRepository

/-- The snapshots of one watch target, in insertion order. -/
def ofTarget (db : Database) (watchTargetId : Nat) : List SnapshotModel :=
  db.snapshots.rows.filter fun row => row.watchTargetId == watchTargetId

/-- `get_latest`: newest `timestamp` first, one row. -/
def getLatest (tie : Nat → Nat) (db : Database) (watchTargetId : Nat) : Option Snapshot :=
  (newest tie SnapshotModel.timestamp (ofTarget db watchTargetId)).map toSnapshot

/-- `get_by_id`. -/
def getById (db : Database) (snapshotId : Nat) : Except Raised (Option Snapshot) :=
  (scalarOneOrNone (whereId db.snapshots snapshotId)).map fun row => row.map toSnapshot

theorem getById_eq (db : Database) (snapshotId : Nat) :
    getById db snapshotId = .ok ((db.snapshots.find? snapshotId).map toSnapshot) := by
  unfold getById
  rw [scalarOneOrNone_whereId]
  rfl

/-- The row `create` builds from a provider result. -/
def rowOf (watchTargetId : Nat) (result : ProviderProductResult) (id : Nat) : SnapshotModel :=
  ⟨id, watchTargetId, result.scrapedAt, result.availability, result.price, result.mrp,
    result.discountPct, result.etaMinutes, result.storeName, result.imageUrl,
    result.quantityLabel, result.variants, result.productUrl⟩

/-- `create`. -/
def create (db : Database) (watchTargetId : Nat) (result : ProviderProductResult) :
    Snapshot × Database :=
  (toSnapshot (rowOf watchTargetId result db.snapshots.nextId),
    { db with snapshots := db.snapshots.insert (rowOf watchTargetId result) })

/-- A new snapshot comes last among those of its target and is not seen by others. -/
theorem ofTarget_create (db : Database) (watchTargetId other : Nat)
    (result : ProviderProductResult) :
    ofTarget (create db watchTargetId result).2 other =
      ofTarget db other ++ if watchTargetId = other then
        [rowOf watchTargetId result db.snapshots.nextId] else [] := by
  have hrows : (create db watchTargetId result).2.snapshots.rows =
      db.snapshots.rows ++ [rowOf watchTargetId result db.snapshots.nextId] := rfl
  unfold ofTarget
  rw [hrows, List.filter_append]
  congr 1
  split <;> simp_all [rowOf]

end SqlAlchemySnapshotRepository

/-! ## Detection events -/

/-- The `DetectionEvent(...)` expression of the repository's methods. -/
def toDetectionEvent (model : DetectionEventModel) : DetectionEvent :=
  ⟨some model.id, model.watchTargetId, model.snapshotId, model.previousSnapshotId,
    model.eventType, model.createdAt⟩

namespace SqlAlchemyDetectionEventRepository

/-- The events of one watch target, in insertion order. -/
def ofTarget (db : Database) (watchTargetId : Nat) : List DetectionEventModel :=
  db.detectionEvents.rows.filter fun row => row.watchTargetId == watchTargetId

/-- `create`. -/
def create (db : Database) (watchTargetId snapshotId : Nat) (previousSnapshotId : Option Nat)
    (eventType : EventType) (createdAt : Datetime) : DetectionEvent × Database :=
  (toDetectionEvent ⟨db.detectionEvents.nextId, watchTargetId, snapshotId, previousSnapshotId,
      eventType, createdAt⟩,
    { db with detectionEvents := db.detectionEvents.insert fun id =>
        ⟨id, watchTargetId, snapshotId, previousSnapshotId, eventType, createdAt⟩ })

/-- A new event comes last among those of its target and is not seen by others. -/
theorem ofTarget_create (db : Database) (watchTargetId snapshotId other : Nat)
    (previousSnapshotId : Option Nat) (eventType : EventType) (createdAt : Datetime) :
    ofTarget (create db watchTargetId snapshotId previousSnapshotId eventType createdAt).2 other =
      ofTarget db other ++ if watchTargetId = other then
        [⟨db.detectionEvents.nextId, watchTargetId, snapshotId, previousSnapshotId, eventType,
          createdAt⟩] else [] := by
  have hrows : (create db watchTargetId snapshotId previousSnapshotId eventType
      createdAt).2.detectionEvents.rows = db.detectionEvents.rows ++
        [⟨db.detectionEvents.nextId, watchTargetId, snapshotId, previousSnapshotId, eventType,
          createdAt⟩] := rfl
  unfold ofTarget
  rw [hrows, List.filter_append]
  congr 1
  split <;> simp_all

/-- `get_by_id`. -/
def getById (db : Database) (eventId : Nat) : Except Raised (Option DetectionEvent) :=
  (scalarOneOrNone (whereId db.detectionEvents eventId)).map fun row => row.map toDetectionEvent

theorem getById_eq (db : Database) (eventId : Nat) :
    getById db eventId = .ok ((db.detectionEvents.find? eventId).map toDetectionEvent) := by
  unfold getById
  rw [scalarOneOrNone_whereId]
  rfl

end SqlAlchemyDetectionEventRepository

/-! ## Watches and notification channels -/

/-- `_to_watch`. -/
def toWatch (model : WatchModel) : Watch :=
  ⟨some model.id, model.userId, model.productId, model.watchTargetId, model.intervalSeconds,
    model.isActive⟩

/-- `list_by_watch_target`: the active watches. -/
def SqlAlchemyWatchRepository.listByWatchTarget (db : Database) (watchTargetId : Nat) :
    List Watch :=
  (db.watches.rows.filter fun row =>
    row.watchTargetId == watchTargetId && row.isActive).map toWatch

/-- `_to_notification_channel`. -/
def toNotificationChannel (model : NotificationChannelModel) : NotificationChannel :=
  ⟨some model.id, model.userId, model.type, model.configJson, model.isVerified⟩

/-- `list_for_user`. -/
def SqlAlchemyNotificationChannelRepository.listForUser (db : Database) (userId : Nat) :
    List NotificationChannel :=
  (db.notificationChannels.rows.filter fun row => row.userId == userId).map toNotificationChannel

/-! ## Notification logs -/

/-- `_to_notification_log`. -/
def toNotificationLog (model : NotificationLogModel) : NotificationLog :=
  ⟨some model.id, model.userId, model.detectionEventId, model.channelId, model.status,
    model.sentAt, model.dedupKey⟩

namespace SqlAlchemyNotificationLogRepository

/-- The rows the query of `exists_recent` selects. -/
def recentRows (db : Database) (dedupKey : String) (cooldownSeconds : Int) (now : Datetime) :
    List NotificationLogModel :=
  db.notificationLogs.rows.filter fun row =>
    row.dedupKey == dedupKey && decide (now - seconds cooldownSeconds ≤ row.sentAt)

/-- `exists_recent`. -/
def existsRecent (db : Database) (dedupKey : String) (cooldownSeconds : Int) (now : Datetime) :
    Except Raised Bool :=
  (scalarOneOrNone (recentRows db dedupKey cooldownSeconds now)).map Option.isSome

/-- `create`. -/
def create (db : Database) (userId detectionEventId channelId : Nat) (status dedupKey : String)
    (now : Datetime) : NotificationLog × Database :=
  (toNotificationLog ⟨db.notificationLogs.nextId, userId, detectionEventId, channelId, status,
      now, dedupKey⟩,
    { db with notificationLogs := db.notificationLogs.insert fun id =>
        ⟨id, userId, detectionEventId, channelId, status, now, dedupKey⟩ })

end SqlAlchemyNotificationLogRepository

end StockMonitoring.Infrastructure.Db
