import StockMonitoring.Api.Port
import StockMonitoring.Application.Analytics

set_option autoImplicit false

/-!
# Api: the REST handlers

`app/api/routers/products.py`, `watches.py`, `notifications.py`, `settings.py`,
`history.py` and `analytics.py` with the schemas of `app/api/schemas/` they answer
with.  The authenticated user is an argument.  The ids of a response are those of
persisted entities; a timestamp of a response is the datetime it renders.
-/

namespace StockMonitoring.Api

open StockMonitoring.Foundation StockMonitoring.Domain StockMonitoring.Application
  StockMonitoring.Infrastructure.Db

/-! ## Products -/

/-- `ProductCreateSchema`. -/
structure ProductCreateSchema where
  name : String
  keyword : String
  canonicalImageUrl : Option String

/-- `ProductSchema`. -/
structure ProductSchema where
  id : Option Nat
  name : String
  keyword : String
  canonicalImageUrl : Option String
  deriving DecidableEq

/-- The `ProductSchema(...)` expression of the handlers. -/
def ProductSchema.of (product : Product) : ProductSchema :=
  ⟨product.id, product.name, product.keyword, product.canonicalImageUrl⟩

/-- `create_product`. -/
def createProduct (body : ProductCreateSchema) (userId : Nat) : Endpoint ProductSchema := do
  let product ← askApi (.createProduct userId body.name body.keyword body.canonicalImageUrl)
  pure (ProductSchema.of product)

/-- `list_products`. -/
def listProducts (userId : Nat) : Endpoint (List ProductSchema) := do
  let products ← askApi (.listProducts userId)
  pure (products.map ProductSchema.of)

/-- `raise HTTPException(status.HTTP_404_NOT_FOUND, detail)`. -/
def notFound {α : Type} (detail : String) : Endpoint α := .raise (.httpException 404 detail)

/-- `delete_product`. -/
def deleteProduct (productId userId : Nat) : Endpoint Unit := do
  match ← askApi (.getProduct productId) with
  | none => notFound "Product not found"
  | some product =>
      if product.userId ≠ userId then notFound "Product not found"
      else do
        let activeWatches ← askApi (.listByProduct productId)
        if activeWatches = [] then askApi (.deleteProduct productId)
        else .raise (.httpException 409
          "Cannot delete a product with active watches; remove its watches first")

/-! ## Watches -/

/-- `WatchCreateSchema`. -/
structure WatchCreateSchema where
  productId : Nat
  retailerSlug : String
  city : String
  pincode : String
  intervalSeconds : Int

/-- `WatchSchema`. -/
structure WatchSchema where
  id : Option Nat
  productId : Nat
  watchTargetId : Nat
  intervalSeconds : Int
  isActive : Bool
  deriving DecidableEq

/-- The `WatchSchema(...)` expression of the handlers. -/
def WatchSchema.of (watch : Watch) : WatchSchema :=
  ⟨watch.id, watch.productId, watch.watchTargetId, watch.intervalSeconds, watch.isActive⟩

/-- `create_watch`. -/
def createWatch (body : WatchCreateSchema) (userId : Nat) : Endpoint WatchSchema := do
  match ← askApi (.getProduct body.productId) with
  | none => notFound "Product not found"
  | some product =>
      if product.userId ≠ userId then notFound "Product not found"
      else do
        let watchTarget ← getOrCreate body.retailerSlug body.city body.pincode product.keyword
          body.intervalSeconds
        match product.id, watchTarget.id with
        | some productId, some watchTargetId => do
            let watch ← askApi (.createWatch userId productId watchTargetId body.intervalSeconds)
            pure (WatchSchema.of watch)
        | _, _ => .raise .assertionError

/-- `list_watches`. -/
def listWatches (userId : Nat) : Endpoint (List WatchSchema) := do
  let watches ← askApi (.listWatches userId)
  pure (watches.map WatchSchema.of)

/-- Look up a watch and check its user, as `delete_watch`, `get_history` and `_owned_watch`
do. -/
def ownedWatch (watchId userId : Nat) : Endpoint Watch := do
  match ← askApi (.getWatch watchId) with
  | none => notFound "Watch not found"
  | some watch => if watch.userId ≠ userId then notFound "Watch not found" else pure watch

/-- The owner of a watch gets it. -/
theorem exec_ownedWatch {α : Type} {tie : Nat → Nat} {turns : Nat → ApiTurn} {turn : Nat}
    {db : Database} {row : WatchModel} {watchId userId : Nat}
    (hfind : db.watches.find? watchId = some row) (howner : row.userId = userId)
    (hreturns : (turns turn).failure = none) (rest : Watch → Endpoint α) :
    (ownedWatch watchId userId >>= rest).exec ((apiEffects tie).scripted turns) (turn, db) =
      ((rest (toWatch row)).exec ((apiEffects tie).scripted turns) (turn + 1, db)).after
        ⟨.getWatch watchId, .ok (some (toWatch row))⟩ := by
  have hrespond : apiRespond tie (.getWatch watchId) (turns turn) db =
      (.ok (some (toWatch row)), db) := by
    rw [apiRespond_of_none hreturns]
    simp only [apiWork, SqlAlchemyWatchRepository.getById_eq, hfind, Option.map_some]
  have howner' : (toWatch row).userId = userId := howner
  unfold ownedWatch
  rw [Co.bind_assoc, exec_askApi hrespond]
  simp [howner']

/-- `delete_watch`. -/
def deleteWatch (watchId userId : Nat) : Endpoint Unit := do
  let _ ← ownedWatch watchId userId
  askApi (.deactivate watchId)

/-! ## Notifications -/

/-- `ChannelCreateSchema`. -/
structure ChannelCreateSchema where
  type : String
  config : List (String × String)

/-- `ChannelSchema`. -/
structure ChannelSchema where
  id : Option Nat
  type : String
  config : List (String × String)
  isVerified : Bool
  deriving DecidableEq

/-- The `ChannelSchema(...)` expression of the handlers. -/
def ChannelSchema.of (channel : NotificationChannel) : ChannelSchema :=
  ⟨channel.id, channel.type.value, channel.config, channel.isVerified⟩

/-- `create_channel`. -/
def createChannel (body : ChannelCreateSchema) (userId : Nat) : Endpoint ChannelSchema :=
  match NotificationChannelType.ofValue body.type with
  | .error error => .raise error
  | .ok type => do
      let channel ← askApi (.createChannel userId type body.config)
      pure (ChannelSchema.of channel)

/-- `list_channels`. -/
def listChannels (userId : Nat) : Endpoint (List ChannelSchema) := do
  let channels ← askApi (.listChannels userId)
  pure (channels.map ChannelSchema.of)

/-- Look up a channel and check its user, as `verify_channel` and `delete_channel` do. -/
def ownedChannel (channelId userId : Nat) : Endpoint NotificationChannel := do
  match ← askApi (.getChannel channelId) with
  | none => notFound "Channel not found"
  | some channel => if channel.userId ≠ userId then notFound "Channel not found" else pure channel

/-- `verify_channel`. -/
def verifyChannel (channelId userId : Nat) : Endpoint (List (String × String)) := do
  let _ ← ownedChannel channelId userId
  askApi (.markVerified channelId)
  pure [("status", "verified")]

/-- `delete_channel`. -/
def deleteChannel (channelId userId : Nat) : Endpoint Unit := do
  let _ ← ownedChannel channelId userId
  askApi (.deleteChannel channelId)

/-- `NotificationLogEntrySchema`. -/
structure NotificationLogEntrySchema where
  id : Option Nat
  detectionEventId : Nat
  channelId : Nat
  status : String
  sentAt : Datetime
  deriving DecidableEq

/-- The `NotificationLogEntrySchema(...)` expression of `list_notification_log`. -/
def NotificationLogEntrySchema.of (entry : NotificationLog) : NotificationLogEntrySchema :=
  ⟨entry.id, entry.detectionEventId, entry.channelId, entry.status, entry.sentAt⟩

/-- `list_notification_log`. -/
def listNotificationLog (userId : Nat) : Endpoint (List NotificationLogEntrySchema) := do
  let entries ← askApi (.listLog userId 50)
  pure (entries.map NotificationLogEntrySchema.of)

/-! ## Settings -/

/-- `SettingUpdateSchema`. -/
structure SettingUpdateSchema where
  key : String
  value : String

/-- `get_settings_for_user`. -/
def getSettingsForUser (userId : Nat) : Endpoint (List (String × String)) :=
  askApi (.getSettings userId)

/-- `update_setting`. -/
def updateSetting (body : SettingUpdateSchema) (userId : Nat) :
    Endpoint (List (String × String)) := do
  setForUser userId body.key body.value
  askApi (.getSettings userId)

/-! ## History -/

/-- `SnapshotSchema`. -/
structure SnapshotSchema where
  availability : String
  price : Option Rat
  mrp : Option Rat
  discountPct : Option Rat
  etaMinutes : Option Int
  storeName : Option String
  imageUrl : Option String
  quantityLabel : Option String
  variants : List String
  productUrl : Option String
  deriving DecidableEq

/-- The `SnapshotSchema(...)` expression of `get_history`. -/
def SnapshotSchema.of (snapshot : Snapshot) : SnapshotSchema :=
  ⟨snapshot.availability.value, snapshot.price, snapshot.mrp, snapshot.discountPct,
    snapshot.etaMinutes, snapshot.storeName, snapshot.imageUrl, snapshot.quantityLabel,
    snapshot.variants, snapshot.productUrl⟩

/-- `HistoryEntrySchema`. -/
structure HistoryEntrySchema where
  eventId : Option Nat
  eventType : String
  createdAt : Datetime
  snapshot : SnapshotSchema
  deriving DecidableEq

/-- The loop of `get_history`. -/
def historyEntries : List DetectionEvent → List HistoryEntrySchema →
    Endpoint (List HistoryEntrySchema)
  | [], entries => pure entries
  | event :: rest, entries => do
      match ← askApi (.getSnapshot event.snapshotId) with
      | none => historyEntries rest entries
      | some snapshot =>
          historyEntries rest (entries ++
            [⟨event.id, event.eventType.value, event.createdAt, SnapshotSchema.of snapshot⟩])

/-- `get_history`. -/
def getHistory (watchId userId : Nat) : Endpoint (List HistoryEntrySchema) := do
  let watch ← ownedWatch watchId userId
  let events ← askApi (.listEvents watch.watchTargetId 50 none)
  historyEntries events []

/-! ## Analytics -/

/-- `PricePointSchema`. -/
structure PricePointSchema where
  timestamp : Datetime
  price : Option Rat
  deriving DecidableEq

/-- The `PricePointSchema(...)` expression of `price_history`. -/
def PricePointSchema.of (snapshot : Snapshot) : PricePointSchema :=
  ⟨snapshot.timestamp, snapshot.price⟩

/-- `price_history`. -/
def priceHistory (watchId : Nat) (days : Int) (userId : Nat) :
    Endpoint (List PricePointSchema) := do
  let watch ← ownedWatch watchId userId
  let now ← askApi .now
  let since ← Co.ofExcept (daysBefore now days)
  let snapshots ← askApi (.listSince watch.watchTargetId since)
  pure (snapshots.map PricePointSchema.of)

/-- `availability_summary`; `AvailabilitySummarySchema` has the fields of the summary. -/
def availabilitySummary (watchId : Nat) (days : Int) (userId : Nat) :
    Endpoint AvailabilitySummary := do
  let watch ← ownedWatch watchId userId
  let periodEnd ← askApi .now
  let periodStart ← Co.ofExcept (daysBefore periodEnd days)
  let events ← askApi (.listEvents watch.watchTargetId 1000 (some periodStart))
  pure (computeAvailabilitySummary events periodStart periodEnd)

end StockMonitoring.Api
