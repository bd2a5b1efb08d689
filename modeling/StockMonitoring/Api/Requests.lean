import StockMonitoring.Api.Routers

set_option autoImplicit false

/-!
# Api: the authenticated requests

Every request on the products, watches, notifications, settings, history and analytics
routers, each served on its own session by `get_session`.  For each handler one
equation says what it comes to when its calls return (`settle_createProduct` and so on).
No handler catches an exception (`propagates_handler`), so a request whose calls do not
all return leaves the committed database as it was (`serve_cases`).
-/

namespace StockMonitoring.Api

open StockMonitoring.Foundation StockMonitoring.Domain StockMonitoring.Application
  StockMonitoring.Infrastructure.Db

/-! ## Requests -/

/-- The requests of an authenticated user. -/
inductive ApiRequest where
  /-- `POST /products` -/
  | createProduct (body : ProductCreateSchema)
  /-- `GET /products` -/
  | listProducts
  /-- `DELETE /products/{product_id}` -/
  | deleteProduct (productId : Nat)
  /-- `POST /watches` -/
  | createWatch (body : WatchCreateSchema)
  /-- `GET /watches` -/
  | listWatches
  /-- `DELETE /watches/{watch_id}` -/
  | deleteWatch (watchId : Nat)
  /-- `POST /notifications/channels` -/
  | createChannel (body : ChannelCreateSchema)
  /-- `GET /notifications/channels` -/
  | listChannels
  /-- `POST /notifications/channels/{channel_id}/verify` -/
  | verifyChannel (channelId : Nat)
  /-- `DELETE /notifications/channels/{channel_id}` -/
  | deleteChannel (channelId : Nat)
  /-- `GET /notifications/log` -/
  | listNotificationLog
  /-- `GET /settings` -/
  | getSettings
  /-- `PUT /settings` -/
  | updateSetting (body : SettingUpdateSchema)
  /-- `GET /history` -/
  | getHistory (watchId : Nat)
  /-- `GET /analytics/price-history` -/
  | priceHistory (watchId : Nat) (days : Int)
  /-- `GET /analytics/availability` -/
  | availabilitySummary (watchId : Nat) (days : Int)

/-- The body of a response. -/
abbrev ApiRequest.Response : ApiRequest → Type
  | .createProduct _ => ProductSchema
  | .listProducts => List ProductSchema
  | .createWatch _ => WatchSchema
  | .listWatches => List WatchSchema
  | .createChannel _ => ChannelSchema
  | .listChannels => List ChannelSchema
  | .listNotificationLog => List NotificationLogEntrySchema
  | .verifyChannel _ | .getSettings | .updateSetting _ => List (String × String)
  | .getHistory _ => List HistoryEntrySchema
  | .priceHistory _ _ => List PricePointSchema
  | .availabilitySummary _ _ => AvailabilitySummary
  | .deleteProduct _ | .deleteWatch _ | .deleteChannel _ => Unit

/-- The handler of a request. -/
def ApiRequest.handler (userId : Nat) : (request : ApiRequest) → Endpoint request.Response
  | .createProduct body => Api.createProduct body userId
  | .listProducts => Api.listProducts userId
  | .deleteProduct productId => Api.deleteProduct productId userId
  | .createWatch body => Api.createWatch body userId
  | .listWatches => Api.listWatches userId
  | .deleteWatch watchId => Api.deleteWatch watchId userId
  | .createChannel body => Api.createChannel body userId
  | .listChannels => Api.listChannels userId
  | .verifyChannel channelId => Api.verifyChannel channelId userId
  | .deleteChannel channelId => Api.deleteChannel channelId userId
  | .listNotificationLog => Api.listNotificationLog userId
  | .getSettings => Api.getSettingsForUser userId
  | .updateSetting body => Api.updateSetting body userId
  | .getHistory watchId => Api.getHistory watchId userId
  | .priceHistory watchId days => Api.priceHistory watchId days userId
  | .availabilitySummary watchId days => Api.availabilitySummary watchId days userId

/-- A request of a user, with what the outside chooses at each call of its handler. -/
structure ApiArrival where
  userId : Nat
  request : ApiRequest
  turns : Nat → ApiTurn

/-- Serve a request: the response, and the committed database it leaves. -/
def ApiArrival.serve (tie : Nat → Nat) (arrival : ApiArrival) (db : Database) :
    Except Raised arrival.request.Response × Database :=
  commit Prod.snd db (runHandler tie arrival.turns (arrival.request.handler arrival.userId) db)

/-- Serving requests one after another; a label is a request. -/
def apiStep (tie : Nat → Nat) (db : Database) (arrival : ApiArrival) : Option Database :=
  some (arrival.serve tie db).2

/-! ## Exceptions -/

theorem propagates_notFound {α : Type} (detail : String) :
    (notFound detail : Endpoint α).Propagates := trivial

theorem propagates_askApi (op : ApiOp) : (askApi op).Propagates := Co.propagates_perform _

theorem propagates_ownedWatch (watchId userId : Nat) : (ownedWatch watchId userId).Propagates := by
  unfold ownedWatch
  refine (propagates_askApi _).bind fun found => ?_
  cases found with
  | none => exact propagates_notFound _
  | some watch =>
      simp only
      split
      · exact propagates_notFound _
      · exact Co.propagates_pure _

theorem propagates_ownedChannel (channelId userId : Nat) :
    (ownedChannel channelId userId).Propagates := by
  unfold ownedChannel
  refine (propagates_askApi _).bind fun found => ?_
  cases found with
  | none => exact propagates_notFound _
  | some channel =>
      simp only
      split
      · exact propagates_notFound _
      · exact Co.propagates_pure _

theorem propagates_getOrCreate (retailerSlug city pincode keyword : String)
    (intervalSeconds : Int) :
    (getOrCreate retailerSlug city pincode keyword intervalSeconds).Propagates := by
  unfold getOrCreate
  refine (propagates_askApi _).bind fun found => ?_
  cases found with
  | none => exact propagates_askApi _
  | some existing =>
      simp only
      split
      · exact (propagates_askApi _).bind fun _ => Co.propagates_pure _
      · exact Co.propagates_pure _

theorem propagates_setForUser (userId : Nat) (key value : String) :
    (setForUser userId key value).Propagates := by
  unfold setForUser
  refine (propagates_askApi _).bind fun found => ?_
  cases found with
  | none => exact propagates_askApi _
  | some existing => exact propagates_askApi _

theorem propagates_historyEntries (events : List DetectionEvent)
    (entries : List HistoryEntrySchema) : (historyEntries events entries).Propagates := by
  induction events generalizing entries with
  | nil => exact Co.propagates_pure _
  | cons event rest ih =>
      unfold historyEntries
      refine (propagates_askApi _).bind fun found => ?_
      cases found with
      | none => exact ih entries
      | some snapshot => exact ih _

/-- No handler catches an exception. -/
theorem propagates_handler (userId : Nat) (request : ApiRequest) :
    (request.handler userId).Propagates := by
  cases request with
  | createProduct body | listProducts | listWatches | listChannels | listNotificationLog =>
      exact (propagates_askApi _).bind fun _ => Co.propagates_pure _
  | getSettings => exact propagates_askApi _
  | deleteProduct productId =>
      refine (propagates_askApi _).bind fun found => ?_
      cases found with
      | none => exact propagates_notFound _
      | some product =>
          simp only
          split
          · exact propagates_notFound _
          · refine (propagates_askApi _).bind fun watches => ?_
            split
            · exact propagates_askApi _
            · exact Co.propagates_raise _
  | createWatch body =>
      refine (propagates_askApi _).bind fun found => ?_
      cases found with
      | none => exact propagates_notFound _
      | some product =>
          simp only
          split
          · exact propagates_notFound _
          · refine (propagates_getOrCreate _ _ _ _ _).bind fun watchTarget => ?_
            cases product.id with
            | none => exact Co.propagates_raise _
            | some productId =>
                cases watchTarget.id with
                | none => exact Co.propagates_raise _
                | some watchTargetId =>
                    exact (propagates_askApi _).bind fun _ => Co.propagates_pure _
  | deleteWatch watchId => exact (propagates_ownedWatch _ _).bind fun _ => propagates_askApi _
  | createChannel body =>
      change (createChannel body userId).Propagates
      unfold createChannel
      cases NotificationChannelType.ofValue body.type with
      | error error => exact Co.propagates_raise _
      | ok type => exact (propagates_askApi _).bind fun _ => Co.propagates_pure _
  | verifyChannel channelId =>
      exact (propagates_ownedChannel _ _).bind fun _ =>
        (propagates_askApi _).bind fun _ => Co.propagates_pure _
  | deleteChannel channelId => exact (propagates_ownedChannel _ _).bind fun _ => propagates_askApi _
  | updateSetting body =>
      exact (propagates_setForUser _ _ _).bind fun _ => propagates_askApi _
  | getHistory watchId =>
      exact (propagates_ownedWatch _ _).bind fun _ =>
        (propagates_askApi _).bind fun _ => propagates_historyEntries _ _
  | priceHistory watchId days =>
      exact (propagates_ownedWatch _ _).bind fun _ =>
        (propagates_askApi _).bind fun _ => (Co.propagates_ofExcept _).bind fun _ =>
          (propagates_askApi _).bind fun _ => Co.propagates_pure _
  | availabilitySummary watchId days =>
      exact (propagates_ownedWatch _ _).bind fun _ =>
        (propagates_askApi _).bind fun _ => (Co.propagates_ofExcept _).bind fun _ =>
          (propagates_askApi _).bind fun _ => Co.propagates_pure _

/-! ## What the handlers come to -/

/-- The row with a key, if it is the user's. -/
def ownRow {Row : Type} [Keyed Row] (owner : Row → Nat) (table : Table Row) (id userId : Nat) :
    Option Row :=
  (table.find? id).filter fun row => owner row == userId

section OwnRow

variable {Row : Type} [Keyed Row] {owner : Row → Nat} {table : Table Row} {id userId : Nat}

/-- A key leads to no row, to another user's row, or to one's own. -/
theorem ownRow_cases (owner : Row → Nat) (table : Table Row) (id userId : Nat) :
    (table.find? id = none ∧ ownRow owner table id userId = none) ∨
      (∃ row, table.find? id = some row ∧ owner row ≠ userId ∧
        ownRow owner table id userId = none) ∨
      ∃ row, table.find? id = some row ∧ owner row = userId ∧
        ownRow owner table id userId = some row := by
  unfold ownRow
  cases hfind : table.find? id with
  | none => exact Or.inl ⟨rfl, rfl⟩
  | some row =>
      by_cases howner : owner row = userId
      · exact Or.inr (Or.inr ⟨row, rfl, howner, by simp [Option.filter, howner]⟩)
      · exact Or.inr (Or.inl ⟨row, rfl, howner, by simp [Option.filter, howner]⟩)

theorem ownRow_eq_some_iff {row : Row} :
    ownRow owner table id userId = some row ↔
      row ∈ table.rows ∧ Keyed.key row = id ∧ owner row = userId := by
  unfold ownRow
  rw [Option.filter_eq_some_iff, Table.find?_eq_some_iff, beq_iff_eq, and_assoc]

end OwnRow

section Settle

variable {α : Type} {tie : Nat → Nat} {turns : Nat → ApiTurn} {turn : Nat} {db : Database}
  {userId : Nat}

theorem settle_createProduct (body : ProductCreateSchema) :
    settle tie turns (createProduct body userId) turn db =
      (.ok (ProductSchema.of (SqlAlchemyProductRepository.create db userId body.name body.keyword
          body.canonicalImageUrl).1),
        (SqlAlchemyProductRepository.create db userId body.name body.keyword
          body.canonicalImageUrl).2) := rfl

theorem settle_listProducts :
    settle tie turns (listProducts userId) turn db =
      (.ok ((SqlAlchemyProductRepository.listForUser db userId).map ProductSchema.of), db) := rfl

theorem settle_deleteProduct (productId : Nat) :
    settle tie turns (deleteProduct productId userId) turn db =
      match ownRow ProductModel.userId db.products productId userId with
      | none => (.error (.httpException 404 "Product not found"), db)
      | some _ =>
          if SqlAlchemyWatchRepository.listByProduct db productId = [] then
            (.ok (), { db with products := db.products.delete productId })
          else (.error (.httpException 409
            "Cannot delete a product with active watches; remove its watches first"), db) := by
  unfold deleteProduct
  rw [settle_askApi]
  simp only [apiWork, SqlAlchemyProductRepository.getById_eq]
  rcases ownRow_cases ProductModel.userId db.products productId userId with
    ⟨hfind, hown⟩ | ⟨row, hfind, howner, hown⟩ | ⟨row, hfind, howner, hown⟩
  · rw [hfind, hown]
    rfl
  · simp only [hfind, hown, Option.map_some, toProduct, howner, ne_eq, not_false_eq_true, if_true]
    rfl
  · simp only [hfind, hown, Option.map_some, toProduct, howner, ne_eq, not_true_eq_false, if_false]
    rw [settle_askApi]
    simp only [apiWork]
    by_cases hactive : SqlAlchemyWatchRepository.listByProduct db productId = []
    · rw [if_pos hactive, if_pos hactive]
      refine (settle_askApi_last (.deleteProduct productId)).trans ?_
      simp only [apiWork, SqlAlchemyProductRepository.delete, deleteIfAny_of_some hfind]
    · simp only [hactive, if_false, settle_raise]

/-- What `get_or_create` comes to: the target's id and what it leaves. -/
def targetFor (db : Database) (retailerSlug city pincode keyword : String)
    (intervalSeconds : Int) : Except Raised (Nat × Database) :=
  match SqlAlchemyWatchTargetRepository.select db retailerSlug city pincode keyword with
  | .error error => .error error
  | .ok (some existing) =>
      .ok (existing.id,
        if intervalSeconds < existing.intervalSeconds then
          SqlAlchemyWatchTargetRepository.setInterval db existing.id intervalSeconds
        else db)
  | .ok none =>
      .ok (db.watchTargets.nextId, (SqlAlchemyWatchTargetRepository.insert db retailerSlug city
        pincode keyword intervalSeconds).2)

/-- The target of a new watch is a row, lowered if need be, or a new row. -/
theorem targetFor_cases {mid : Database} {retailerSlug city pincode keyword : String}
    {intervalSeconds : Int} {watchTargetId : Nat}
    (htarget : targetFor db retailerSlug city pincode keyword intervalSeconds =
      .ok (watchTargetId, mid)) :
    (∃ existing ∈ db.watchTargets.rows, existing.id = watchTargetId ∧
        existing.keyword = keyword ∧
        mid = if intervalSeconds < existing.intervalSeconds then
            SqlAlchemyWatchTargetRepository.setInterval db existing.id intervalSeconds
          else db) ∨
      (watchTargetId = db.watchTargets.nextId ∧
        mid = (SqlAlchemyWatchTargetRepository.insert db retailerSlug city pincode keyword
          intervalSeconds).2) := by
  unfold targetFor at htarget
  cases hselect : SqlAlchemyWatchTargetRepository.select db retailerSlug city pincode keyword with
  | error error =>
      rw [hselect] at htarget
      cases htarget
  | ok found =>
      rw [hselect] at htarget
      cases found with
      | none =>
          cases htarget
          exact Or.inr ⟨rfl, rfl⟩
      | some existing =>
          cases htarget
          obtain ⟨hmem, hkey⟩ := List.mem_filter.mp (mem_of_scalarOneOrNone hselect)
          exact Or.inl ⟨existing, hmem, rfl, beq_iff_eq.mp (Bool.and_eq_true_iff.mp hkey).2, rfl⟩

/-- `get_or_create` only writes watch targets. -/
theorem exists_targetFor_eq {mid : Database} {retailerSlug city pincode keyword : String}
    {intervalSeconds : Int} {watchTargetId : Nat}
    (htarget : targetFor db retailerSlug city pincode keyword intervalSeconds =
      .ok (watchTargetId, mid)) : ∃ table, mid = { db with watchTargets := table } := by
  rcases targetFor_cases htarget with ⟨existing, _, _, _, rfl⟩ | ⟨_, rfl⟩
  · split
    · exact ⟨_, rfl⟩
    · exact ⟨db.watchTargets, rfl⟩
  · exact ⟨_, rfl⟩

theorem settle_createWatch (body : WatchCreateSchema) :
    settle tie turns (createWatch body userId) turn db =
      match ownRow ProductModel.userId db.products body.productId userId with
      | none => (.error (.httpException 404 "Product not found"), db)
      | some product =>
          match targetFor db body.retailerSlug body.city body.pincode product.keyword
            body.intervalSeconds with
          | .error error => (.error error, db)
          | .ok (watchTargetId, next) =>
              (.ok (WatchSchema.of (SqlAlchemyWatchRepository.create next userId product.id
                  watchTargetId body.intervalSeconds).1),
                (SqlAlchemyWatchRepository.create next userId product.id watchTargetId
                  body.intervalSeconds).2) := by
  unfold createWatch
  rw [settle_askApi]
  simp only [apiWork, SqlAlchemyProductRepository.getById_eq]
  rcases ownRow_cases ProductModel.userId db.products body.productId userId with
    ⟨hfind, hown⟩ | ⟨row, hfind, howner, hown⟩ | ⟨row, hfind, howner, hown⟩
  · rw [hfind, hown]
    rfl
  · simp only [hfind, hown, Option.map_some, toProduct, howner, ne_eq, not_false_eq_true, if_true]
    rfl
  · simp only [hfind, hown, Option.map_some, toProduct, howner, ne_eq, not_true_eq_false, if_false]
    unfold getOrCreate targetFor
    rw [Co.bind_assoc, settle_askApi]
    simp only [apiWork]
    cases hselect : SqlAlchemyWatchTargetRepository.select db body.retailerSlug body.city
        body.pincode row.keyword with
    | error error => rfl
    | ok found =>
        cases found with
        | none => rfl
        | some existing =>
            simp only
            split <;> rfl

theorem settle_listWatches :
    settle tie turns (listWatches userId) turn db =
      (.ok ((SqlAlchemyWatchRepository.listForUser db userId).map WatchSchema.of), db) := rfl

/-- A handler that begins with the lookup of one's own watch. -/
theorem settle_ownedWatch (watchId : Nat) (rest : Watch → Endpoint α) :
    settle tie turns (ownedWatch watchId userId >>= rest) turn db =
      match ownRow WatchModel.userId db.watches watchId userId with
      | none => (.error (.httpException 404 "Watch not found"), db)
      | some row => settle tie turns (rest (toWatch row)) (turn + 1) db := by
  unfold ownedWatch
  rw [Co.bind_assoc, settle_askApi]
  simp only [apiWork, SqlAlchemyWatchRepository.getById_eq]
  rcases ownRow_cases WatchModel.userId db.watches watchId userId with
    ⟨hfind, hown⟩ | ⟨row, hfind, howner, hown⟩ | ⟨row, hfind, howner, hown⟩
  · rw [hfind, hown]
    rfl
  · simp only [hfind, hown, Option.map_some, toWatch, howner, ne_eq, not_false_eq_true, if_true]
    rfl
  · simp only [hfind, hown, Option.map_some, toWatch, howner, ne_eq, not_true_eq_false, if_false]
    rfl

theorem settle_deleteWatch (watchId : Nat) :
    settle tie turns (deleteWatch watchId userId) turn db =
      match ownRow WatchModel.userId db.watches watchId userId with
      | none => (.error (.httpException 404 "Watch not found"), db)
      | some _ => (.ok (), { db with
          watches := db.watches.modify watchId fun row => { row with isActive := false } }) := by
  unfold deleteWatch
  rw [settle_ownedWatch]
  cases hown : ownRow WatchModel.userId db.watches watchId userId with
  | none => rfl
  | some row =>
      obtain ⟨hmem, hkey, _⟩ := ownRow_eq_some_iff.mp hown
      have hfind := Table.find?_eq_some_iff.mpr ⟨hmem, hkey⟩
      refine (settle_askApi_last (.deactivate watchId)).trans ?_
      simp only [apiWork, SqlAlchemyWatchRepository.deactivate, updateIfAny_of_some hfind]

theorem settle_createChannel (body : ChannelCreateSchema) :
    settle tie turns (createChannel body userId) turn db =
      match NotificationChannelType.ofValue body.type with
      | .error error => (.error error, db)
      | .ok type =>
          (.ok (ChannelSchema.of (SqlAlchemyNotificationChannelRepository.create db userId type
              body.config false).1),
            (SqlAlchemyNotificationChannelRepository.create db userId type body.config
              false).2) := by
  unfold createChannel
  cases NotificationChannelType.ofValue body.type <;> rfl

theorem settle_listChannels :
    settle tie turns (listChannels userId) turn db =
      (.ok ((SqlAlchemyNotificationChannelRepository.listForUser db userId).map ChannelSchema.of),
        db) := rfl

/-- A handler that begins with the lookup of one's own channel. -/
theorem settle_ownedChannel (channelId : Nat) (rest : NotificationChannel → Endpoint α) :
    settle tie turns (ownedChannel channelId userId >>= rest) turn db =
      match ownRow NotificationChannelModel.userId db.notificationChannels channelId userId with
      | none => (.error (.httpException 404 "Channel not found"), db)
      | some row => settle tie turns (rest (toNotificationChannel row)) (turn + 1) db := by
  unfold ownedChannel
  rw [Co.bind_assoc, settle_askApi]
  simp only [apiWork, SqlAlchemyNotificationChannelRepository.getById_eq]
  rcases ownRow_cases NotificationChannelModel.userId db.notificationChannels channelId userId with
    ⟨hfind, hown⟩ | ⟨row, hfind, howner, hown⟩ | ⟨row, hfind, howner, hown⟩
  · rw [hfind, hown]
    rfl
  · simp only [hfind, hown, Option.map_some, toNotificationChannel, howner, ne_eq,
      not_false_eq_true, if_true]
    rfl
  · simp only [hfind, hown, Option.map_some, toNotificationChannel, howner, ne_eq,
      not_true_eq_false, if_false]
    rfl

theorem settle_verifyChannel (channelId : Nat) :
    settle tie turns (verifyChannel channelId userId) turn db =
      match ownRow NotificationChannelModel.userId db.notificationChannels channelId userId with
      | none => (.error (.httpException 404 "Channel not found"), db)
      | some _ => (.ok [("status", "verified")], { db with
          notificationChannels := db.notificationChannels.modify channelId fun row =>
            { row with isVerified := true } }) := by
  unfold verifyChannel
  rw [settle_ownedChannel]
  cases hown : ownRow NotificationChannelModel.userId db.notificationChannels channelId userId with
  | none => rfl
  | some row =>
      obtain ⟨hmem, hkey, _⟩ := ownRow_eq_some_iff.mp hown
      have hfind := Table.find?_eq_some_iff.mpr ⟨hmem, hkey⟩
      refine (settle_askApi (.markVerified channelId) fun _ =>
        pure [("status", "verified")]).trans ?_
      simp only [apiWork, SqlAlchemyNotificationChannelRepository.markVerified,
        updateOne_of_some hfind, settle_pure]

theorem settle_deleteChannel (channelId : Nat) :
    settle tie turns (deleteChannel channelId userId) turn db =
      match ownRow NotificationChannelModel.userId db.notificationChannels channelId userId with
      | none => (.error (.httpException 404 "Channel not found"), db)
      | some _ => (.ok (), { db with
          notificationChannels := db.notificationChannels.delete channelId }) := by
  unfold deleteChannel
  rw [settle_ownedChannel]
  cases hown : ownRow NotificationChannelModel.userId db.notificationChannels channelId userId with
  | none => rfl
  | some row =>
      obtain ⟨hmem, hkey, _⟩ := ownRow_eq_some_iff.mp hown
      have hfind := Table.find?_eq_some_iff.mpr ⟨hmem, hkey⟩
      refine (settle_askApi_last (.deleteChannel channelId)).trans ?_
      simp only [apiWork, SqlAlchemyNotificationChannelRepository.delete, deleteIfAny_of_some hfind]

theorem settle_listNotificationLog :
    settle tie turns (listNotificationLog userId) turn db =
      (.ok ((SqlAlchemyNotificationLogRepository.listForUser tie db userId 50).map
        NotificationLogEntrySchema.of), db) := rfl

theorem settle_getSettings :
    settle tie turns (getSettingsForUser userId) turn db =
      (.ok (SqlAlchemySettingsRepository.getForUser db userId), db) := rfl

/-- What `set_for_user` leaves. -/
def withSetting (db : Database) (userId : Nat) (key value : String) : Except Raised Database :=
  match SqlAlchemySettingsRepository.select db userId key with
  | .error error => .error error
  | .ok (some existing) => .ok (SqlAlchemySettingsRepository.setValue db existing.id value)
  | .ok none => .ok (SqlAlchemySettingsRepository.insert db userId key value)

/-- The setting is a row of the user with a new value, or a new row. -/
theorem withSetting_cases {next : Database} {key value : String}
    (hset : withSetting db userId key value = .ok next) :
    (∃ existing ∈ db.settings.rows, existing.userId = some userId ∧ existing.key = key ∧
        next = SqlAlchemySettingsRepository.setValue db existing.id value) ∨
      next = SqlAlchemySettingsRepository.insert db userId key value := by
  unfold withSetting at hset
  cases hselect : SqlAlchemySettingsRepository.select db userId key with
  | error error =>
      rw [hselect] at hset
      cases hset
  | ok found =>
      rw [hselect] at hset
      cases found with
      | none =>
          cases hset
          exact Or.inr rfl
      | some existing =>
          cases hset
          obtain ⟨hmem, hselected⟩ := List.mem_filter.mp (mem_of_scalarOneOrNone hselect)
          rw [Bool.and_eq_true, beq_iff_eq, beq_iff_eq] at hselected
          exact Or.inl ⟨existing, hmem, hselected.1, hselected.2, rfl⟩

theorem settle_updateSetting (body : SettingUpdateSchema) :
    settle tie turns (updateSetting body userId) turn db =
      match withSetting db userId body.key body.value with
      | .error error => (.error error, db)
      | .ok next => (.ok (SqlAlchemySettingsRepository.getForUser next userId), next) := by
  unfold updateSetting setForUser withSetting
  rw [Co.bind_assoc, settle_askApi]
  simp only [apiWork]
  cases SqlAlchemySettingsRepository.select db userId body.key with
  | error error => rfl
  | ok found => cases found <;> rfl

/-- The entries `get_history` makes of the events: those whose snapshot exists. -/
def entriesOf (db : Database) (events : List DetectionEvent) : List HistoryEntrySchema :=
  events.filterMap fun event =>
    (db.snapshots.find? event.snapshotId).map fun row =>
      ⟨event.id, event.eventType.value, event.createdAt, SnapshotSchema.of (toSnapshot row)⟩

theorem settle_historyEntries (events : List DetectionEvent) (entries : List HistoryEntrySchema) :
    settle tie turns (historyEntries events entries) turn db =
      (.ok (entries ++ entriesOf db events), db) := by
  induction events generalizing entries turn with
  | nil =>
      rw [show entriesOf db [] = [] from rfl, List.append_nil]
      rfl
  | cons event rest ih =>
      unfold historyEntries
      rw [settle_askApi]
      simp only [apiWork, SqlAlchemySnapshotRepository.getById_eq]
      cases hfind : db.snapshots.find? event.snapshotId with
      | none =>
          have hnone : entriesOf db (event :: rest) = entriesOf db rest := by
            simp [entriesOf, hfind]
          rw [hnone]
          exact ih entries
      | some row =>
          have hsome : entriesOf db (event :: rest) =
              ⟨event.id, event.eventType.value, event.createdAt,
                SnapshotSchema.of (toSnapshot row)⟩ :: entriesOf db rest := by
            simp [entriesOf, hfind]
          rw [hsome, ← List.singleton_append, ← List.append_assoc]
          exact ih _

theorem settle_getHistory (watchId : Nat) :
    settle tie turns (getHistory watchId userId) turn db =
      match ownRow WatchModel.userId db.watches watchId userId with
      | none => (.error (.httpException 404 "Watch not found"), db)
      | some row => (.ok (entriesOf db (SqlAlchemyDetectionEventRepository.listForWatchTarget tie db
          row.watchTargetId 50 none)), db) := by
  unfold getHistory
  rw [settle_ownedWatch]
  cases ownRow WatchModel.userId db.watches watchId userId with
  | none => rfl
  | some row =>
      refine (settle_askApi (.listEvents row.watchTargetId 50 none) fun events =>
        historyEntries events []).trans ?_
      exact settle_historyEntries _ []

theorem settle_priceHistory (watchId : Nat) (days : Int) :
    settle tie turns (priceHistory watchId days userId) turn db =
      match ownRow WatchModel.userId db.watches watchId userId with
      | none => (.error (.httpException 404 "Watch not found"), db)
      | some row =>
          match daysBefore (turns (turn + 1)).now days with
          | .error error => (.error error, db)
          | .ok since => (.ok ((SqlAlchemySnapshotRepository.listSince tie db row.watchTargetId
              since).map PricePointSchema.of), db) := by
  unfold priceHistory
  rw [settle_ownedWatch]
  cases ownRow WatchModel.userId db.watches watchId userId with
  | none => rfl
  | some row =>
      refine (settle_askApi .now _).trans ?_
      simp only [apiWork]
      cases daysBefore (turns (turn + 1)).now days <;> rfl

theorem settle_availabilitySummary (watchId : Nat) (days : Int) :
    settle tie turns (availabilitySummary watchId days userId) turn db =
      match ownRow WatchModel.userId db.watches watchId userId with
      | none => (.error (.httpException 404 "Watch not found"), db)
      | some row =>
          match daysBefore (turns (turn + 1)).now days with
          | .error error => (.error error, db)
          | .ok periodStart => (.ok (computeAvailabilitySummary
              (SqlAlchemyDetectionEventRepository.listForWatchTarget tie db row.watchTargetId 1000
                (some periodStart))
              periodStart (turns (turn + 1)).now), db) := by
  unfold availabilitySummary
  rw [settle_ownedWatch]
  cases ownRow WatchModel.userId db.watches watchId userId with
  | none => rfl
  | some row =>
      refine (settle_askApi .now _).trans ?_
      simp only [apiWork]
      cases daysBefore (turns (turn + 1)).now days <;> rfl

end Settle

/-! ## Handlers that return -/

section Returned

variable {tie : Nat → Nat} {turns : Nat → ApiTurn} {turn : Nat} {db next : Database}
  {userId : Nat}

/-- A product is deleted by its user, when no watch on it is active. -/
theorem returned_deleteProduct {productId : Nat} {value : Unit}
    (hsettle : settle tie turns (deleteProduct productId userId) turn db = (.ok value, next)) :
    ∃ product ∈ db.products.rows, product.id = productId ∧ product.userId = userId ∧
      SqlAlchemyWatchRepository.listByProduct db productId = [] ∧
      next = { db with products := db.products.delete productId } := by
  have houtcome := (settle_deleteProduct productId).symm.trans hsettle
  cases hown : ownRow ProductModel.userId db.products productId userId with
  | none =>
      rw [hown] at houtcome
      cases houtcome
  | some product =>
      obtain ⟨hmem, hid, howner⟩ := ownRow_eq_some_iff.mp hown
      rw [hown] at houtcome
      simp only at houtcome
      split at houtcome
      · rename_i hunwatched
        cases houtcome
        exact ⟨product, hmem, hid, howner, hunwatched, rfl⟩
      · cases houtcome

/-- A watch is created on a product of its user and on the target of `get_or_create`. -/
theorem returned_createWatch {body : WatchCreateSchema} {value : WatchSchema}
    (hsettle : settle tie turns (createWatch body userId) turn db = (.ok value, next)) :
    ∃ product ∈ db.products.rows, product.id = body.productId ∧ product.userId = userId ∧
      ∃ watchTargetId mid, targetFor db body.retailerSlug body.city body.pincode product.keyword
          body.intervalSeconds = .ok (watchTargetId, mid) ∧
        value = WatchSchema.of (SqlAlchemyWatchRepository.create mid userId product.id
          watchTargetId body.intervalSeconds).1 ∧
        next = (SqlAlchemyWatchRepository.create mid userId product.id watchTargetId
          body.intervalSeconds).2 := by
  have houtcome := (settle_createWatch body).symm.trans hsettle
  cases hown : ownRow ProductModel.userId db.products body.productId userId with
  | none =>
      rw [hown] at houtcome
      cases houtcome
  | some product =>
      obtain ⟨hmem, hid, howner⟩ := ownRow_eq_some_iff.mp hown
      rw [hown] at houtcome
      simp only at houtcome
      cases htarget : targetFor db body.retailerSlug body.city body.pincode product.keyword
          body.intervalSeconds with
      | error error =>
          rw [htarget] at houtcome
          cases houtcome
      | ok reached =>
          obtain ⟨watchTargetId, mid⟩ := reached
          rw [htarget] at houtcome
          cases houtcome
          exact ⟨product, hmem, hid, howner, watchTargetId, mid, htarget, rfl, rfl⟩

/-- A watch is deactivated by its user. -/
theorem returned_deleteWatch {watchId : Nat} {value : Unit}
    (hsettle : settle tie turns (deleteWatch watchId userId) turn db = (.ok value, next)) :
    ∃ watch ∈ db.watches.rows, watch.id = watchId ∧ watch.userId = userId ∧
      next = { db with
        watches := db.watches.modify watchId fun row => { row with isActive := false } } := by
  have houtcome := (settle_deleteWatch watchId).symm.trans hsettle
  cases hown : ownRow WatchModel.userId db.watches watchId userId with
  | none =>
      rw [hown] at houtcome
      cases houtcome
  | some watch =>
      obtain ⟨hmem, hid, howner⟩ := ownRow_eq_some_iff.mp hown
      rw [hown] at houtcome
      cases houtcome
      exact ⟨watch, hmem, hid, howner, rfl⟩

theorem returned_createChannel {body : ChannelCreateSchema} {value : ChannelSchema}
    (hsettle : settle tie turns (createChannel body userId) turn db = (.ok value, next)) :
    ∃ type, value = ChannelSchema.of (SqlAlchemyNotificationChannelRepository.create db userId
        type body.config false).1 ∧
      next = (SqlAlchemyNotificationChannelRepository.create db userId type body.config
        false).2 := by
  have houtcome := (settle_createChannel body).symm.trans hsettle
  cases htype : NotificationChannelType.ofValue body.type with
  | error error =>
      rw [htype] at houtcome
      cases houtcome
  | ok type =>
      rw [htype] at houtcome
      cases houtcome
      exact ⟨type, rfl, rfl⟩

/-- A channel is verified by its user. -/
theorem returned_verifyChannel {channelId : Nat} {value : List (String × String)}
    (hsettle : settle tie turns (verifyChannel channelId userId) turn db = (.ok value, next)) :
    ∃ channel ∈ db.notificationChannels.rows, channel.id = channelId ∧
      channel.userId = userId ∧
      next = { db with notificationChannels := db.notificationChannels.modify channelId fun row =>
        { row with isVerified := true } } := by
  have houtcome := (settle_verifyChannel channelId).symm.trans hsettle
  cases hown : ownRow NotificationChannelModel.userId db.notificationChannels channelId userId with
  | none =>
      rw [hown] at houtcome
      cases houtcome
  | some channel =>
      obtain ⟨hmem, hid, howner⟩ := ownRow_eq_some_iff.mp hown
      rw [hown] at houtcome
      cases houtcome
      exact ⟨channel, hmem, hid, howner, rfl⟩

/-- A channel is deleted by its user. -/
theorem returned_deleteChannel {channelId : Nat} {value : Unit}
    (hsettle : settle tie turns (deleteChannel channelId userId) turn db = (.ok value, next)) :
    ∃ channel ∈ db.notificationChannels.rows, channel.id = channelId ∧
      channel.userId = userId ∧
      next = { db with notificationChannels := db.notificationChannels.delete channelId } := by
  have houtcome := (settle_deleteChannel channelId).symm.trans hsettle
  cases hown : ownRow NotificationChannelModel.userId db.notificationChannels channelId userId with
  | none =>
      rw [hown] at houtcome
      cases houtcome
  | some channel =>
      obtain ⟨hmem, hid, howner⟩ := ownRow_eq_some_iff.mp hown
      rw [hown] at houtcome
      cases houtcome
      exact ⟨channel, hmem, hid, howner, rfl⟩

theorem returned_updateSetting {body : SettingUpdateSchema} {value : List (String × String)}
    (hsettle : settle tie turns (updateSetting body userId) turn db = (.ok value, next)) :
    withSetting db userId body.key body.value = .ok next ∧
      value = SqlAlchemySettingsRepository.getForUser next userId := by
  have houtcome := (settle_updateSetting body).symm.trans hsettle
  cases hset : withSetting db userId body.key body.value with
  | error error =>
      rw [hset] at houtcome
      cases houtcome
  | ok reached =>
      rw [hset] at houtcome
      cases houtcome
      exact ⟨rfl, rfl⟩

/-- A history is that of the target of a watch of the user. -/
theorem returned_getHistory {watchId : Nat} {value : List HistoryEntrySchema}
    (hsettle : settle tie turns (getHistory watchId userId) turn db = (.ok value, next)) :
    next = db ∧ ∃ watch ∈ db.watches.rows, watch.id = watchId ∧ watch.userId = userId ∧
      value = entriesOf db (SqlAlchemyDetectionEventRepository.listForWatchTarget tie db
        watch.watchTargetId 50 none) := by
  have houtcome := (settle_getHistory watchId).symm.trans hsettle
  cases hown : ownRow WatchModel.userId db.watches watchId userId with
  | none =>
      rw [hown] at houtcome
      cases houtcome
  | some watch =>
      obtain ⟨hmem, hid, howner⟩ := ownRow_eq_some_iff.mp hown
      rw [hown] at houtcome
      cases houtcome
      exact ⟨rfl, watch, hmem, hid, howner, rfl⟩

/-- Price points are those of the target of a watch of the user. -/
theorem returned_priceHistory {watchId : Nat} {days : Int} {value : List PricePointSchema}
    (hsettle : settle tie turns (priceHistory watchId days userId) turn db = (.ok value, next)) :
    next = db ∧ ∃ watch ∈ db.watches.rows, watch.id = watchId ∧ watch.userId = userId ∧
      ∃ since, value = (SqlAlchemySnapshotRepository.listSince tie db watch.watchTargetId
        since).map PricePointSchema.of := by
  have houtcome := (settle_priceHistory watchId days).symm.trans hsettle
  cases hown : ownRow WatchModel.userId db.watches watchId userId with
  | none =>
      rw [hown] at houtcome
      cases houtcome
  | some watch =>
      obtain ⟨hmem, hid, howner⟩ := ownRow_eq_some_iff.mp hown
      rw [hown] at houtcome
      simp only at houtcome
      cases hdate : daysBefore (turns (turn + 1)).now days with
      | error error =>
          rw [hdate] at houtcome
          cases houtcome
      | ok since =>
          rw [hdate] at houtcome
          cases houtcome
          exact ⟨rfl, watch, hmem, hid, howner, since, rfl⟩

/-- A summary is of the events of the target of a watch of the user. -/
theorem returned_availabilitySummary {watchId : Nat} {days : Int} {value : AvailabilitySummary}
    (hsettle : settle tie turns (availabilitySummary watchId days userId) turn db =
      (.ok value, next)) :
    next = db ∧ ∃ watch ∈ db.watches.rows, watch.id = watchId ∧ watch.userId = userId ∧
      ∃ start stop, value = computeAvailabilitySummary
        (SqlAlchemyDetectionEventRepository.listForWatchTarget tie db watch.watchTargetId 1000
          (some start)) start stop := by
  have houtcome := (settle_availabilitySummary watchId days).symm.trans hsettle
  cases hown : ownRow WatchModel.userId db.watches watchId userId with
  | none =>
      rw [hown] at houtcome
      cases houtcome
  | some watch =>
      obtain ⟨hmem, hid, howner⟩ := ownRow_eq_some_iff.mp hown
      rw [hown] at houtcome
      simp only at houtcome
      cases hdate : daysBefore (turns (turn + 1)).now days with
      | error error =>
          rw [hdate] at houtcome
          cases houtcome
      | ok start =>
          rw [hdate] at houtcome
          cases houtcome
          exact ⟨rfl, watch, hmem, hid, howner, start, _, rfl⟩

end Returned

/-! ## What a request leaves -/

/-- A request either leaves the committed database as it was, or all its calls have
returned and what they have left is committed. -/
theorem serve_cases (tie : Nat → Nat) (arrival : ApiArrival) (db : Database) :
    (∃ error, arrival.serve tie db = (.error error, db)) ∨
      ∃ value next,
        settle tie arrival.turns (arrival.request.handler arrival.userId) 0 db =
          (.ok value, next) ∧
        ForeignKeys next ∧ arrival.serve tie db = (.ok value, next) := by
  unfold ApiArrival.serve commit
  cases hresult : (runHandler tie arrival.turns
    (arrival.request.handler arrival.userId) db).result with
  | error error => exact Or.inl ⟨error, rfl⟩
  | ok value =>
      simp only
      split
      · rename_i hkeys
        exact Or.inr ⟨value, _, settle_of_ok (propagates_handler _ _) hresult, hkeys, rfl⟩
      · exact Or.inl ⟨_, rfl⟩

/-- The committed database keeps its foreign keys. -/
theorem serve_foreignKeys (tie : Nat → Nat) (arrival : ApiArrival) {db : Database}
    (hkeys : ForeignKeys db) : ForeignKeys (arrival.serve tie db).2 := by
  rcases serve_cases tie arrival db with ⟨error, hserve⟩ | ⟨value, next, _, hnext, hserve⟩
  · rw [hserve]
    exact hkeys
  · rw [hserve]
    exact hnext

theorem calm_of_returns {turns : Nat → ApiTurn} (hreturns : ∀ turn, (turns turn).failure = none) :
    calm turns = turns := by
  funext turn
  have hturn := hreturns turn
  cases hsame : turns turn with
  | mk now failure =>
      rw [hsame] at hturn
      simp only at hturn
      simp [calm, hsame, hturn]

/-- A request whose calls all return and whose handler returns is committed. -/
theorem serve_of_settle_ok {tie : Nat → Nat} (arrival : ApiArrival)
    (hreturns : ∀ turn, (arrival.turns turn).failure = none) {db next : Database}
    {value : arrival.request.Response}
    (hsettle : settle tie arrival.turns (arrival.request.handler arrival.userId) 0 db =
      (.ok value, next)) :
    arrival.serve tie db =
      if ForeignKeys next then (.ok value, next) else (.error .integrityError, db) := by
  unfold settle at hsettle
  rw [calm_of_returns hreturns] at hsettle
  obtain ⟨hresult, hstate⟩ := Prod.mk.inj hsettle
  unfold ApiArrival.serve runHandler
  rw [commit_of_ok hresult, hstate]

/-- A request whose calls all return and whose handler raises answers what it raises. -/
theorem serve_of_settle_error {tie : Nat → Nat} (arrival : ApiArrival)
    (hreturns : ∀ turn, (arrival.turns turn).failure = none) {db next : Database} {error : Raised}
    (hsettle : settle tie arrival.turns (arrival.request.handler arrival.userId) 0 db =
      (.error error, next)) :
    arrival.serve tie db = (.error error, db) := by
  unfold settle at hsettle
  rw [calm_of_returns hreturns] at hsettle
  obtain ⟨hresult, _⟩ := Prod.mk.inj hsettle
  exact commit_of_error hresult

end StockMonitoring.Api
