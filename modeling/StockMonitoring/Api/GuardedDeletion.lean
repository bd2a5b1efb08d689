import StockMonitoring.Api.Requests

set_option autoImplicit false

/-!
# Api: deletions against the foreign keys

`delete_product` is guarded by the active watches of the product, `delete_channel` by
nothing.  A deactivated watch still refers to its product, and a log entry to its
channel; the engine then refuses the deletion when the session flushes.
-/

namespace StockMonitoring.Api

open StockMonitoring.Foundation StockMonitoring.Domain StockMonitoring.Application
  StockMonitoring.Infrastructure.Db

/-! ## What still refers to a row -/

/-- The foreign keys survive the deletion of a product that no watch refers to. -/
theorem foreignKeys_deleteProduct_iff {db : Database} (hkeys : ForeignKeys db) (productId : Nat) :
    ForeignKeys { db with products := db.products.delete productId } ↔
      ∀ watch ∈ db.watches.rows, watch.productId ≠ productId := by
  constructor
  · intro hafter watch hwatch
    exact (refers_delete_iff (hkeys.watchProduct watch hwatch)).mp
      (hafter.watchProduct watch hwatch)
  · intro hunused
    refine { hkeys with productUser := ?_, watchProduct := ?_ }
    · intro row hrow
      exact hkeys.productUser row (List.mem_of_mem_filter hrow)
    · intro watch hwatch
      exact (refers_delete_iff (hkeys.watchProduct watch hwatch)).mpr (hunused watch hwatch)

/-- The foreign keys survive the deletion of a channel that no log entry refers to. -/
theorem foreignKeys_deleteChannel_iff {db : Database} (hkeys : ForeignKeys db) (channelId : Nat) :
    ForeignKeys { db with
        notificationChannels := db.notificationChannels.delete channelId } ↔
      ∀ entry ∈ db.notificationLogs.rows, entry.channelId ≠ channelId := by
  constructor
  · intro hafter entry hentry
    exact (refers_delete_iff (hkeys.logChannel entry hentry)).mp (hafter.logChannel entry hentry)
  · intro hunused
    refine { hkeys with channelUser := ?_, logChannel := ?_ }
    · intro row hrow
      exact hkeys.channelUser row (List.mem_of_mem_filter hrow)
    · intro entry hentry
      exact (refers_delete_iff (hkeys.logChannel entry hentry)).mpr (hunused entry hentry)

/-! ## The two requests -/

/-- The references the deletions could break. -/
structure ReferencesIntact (db : Database) : Prop where
  watchProduct : ∀ watch ∈ db.watches.rows, Refers db.products watch.productId
  logChannel : ∀ entry ∈ db.notificationLogs.rows,
    Refers db.notificationChannels entry.channelId

section Requests

variable (tie : Nat → Nat) (db : Database) (userId : Nat) (turns : Nat → ApiTurn)

/-- `delete_product` completes and the product is gone. -/
structure DeletesProduct (productId : Nat) : Prop where
  completes : ((ApiArrival.mk userId (.deleteProduct productId) turns).serve tie db).1 = .ok ()
  gone : ((ApiArrival.mk userId (.deleteProduct productId) turns).serve tie db).2.products.find?
    productId = none
  intact : ReferencesIntact ((ApiArrival.mk userId (.deleteProduct productId) turns).serve tie db).2

/-- `delete_channel` completes and the channel is gone. -/
structure DeletesChannel (channelId : Nat) : Prop where
  completes : ((ApiArrival.mk userId (.deleteChannel channelId) turns).serve tie db).1 = .ok ()
  gone : ((ApiArrival.mk userId (.deleteChannel channelId) turns).serve tie
    db).2.notificationChannels.find? channelId = none
  intact : ReferencesIntact ((ApiArrival.mk userId (.deleteChannel channelId) turns).serve tie db).2

end Requests

section Deletion

variable {tie : Nat → Nat} {db : Database} {userId : Nat} {turns : Nat → ApiTurn}

/-- What `delete_product` of a product without active watches comes to. -/
theorem serve_deleteProduct (tie : Nat → Nat) (hreturns : ∀ turn, (turns turn).failure = none)
    {productId : Nat} {product : ProductModel}
    (hown : ownRow ProductModel.userId db.products productId userId = some product)
    (hinactive : SqlAlchemyWatchRepository.listByProduct db productId = []) :
    (ApiArrival.mk userId (.deleteProduct productId) turns).serve tie db =
      if ForeignKeys { db with products := db.products.delete productId } then
        (.ok (), { db with products := db.products.delete productId })
      else (.error .integrityError, db) := by
  have hsettle : settle tie turns (deleteProduct productId userId) 0 db =
      (.ok (), { db with products := db.products.delete productId }) := by
    rw [settle_deleteProduct, hown]
    exact if_pos hinactive
  exact serve_of_settle_ok ⟨userId, .deleteProduct productId, turns⟩ hreturns hsettle

/-- What `delete_channel` comes to. -/
theorem serve_deleteChannel (tie : Nat → Nat) (hreturns : ∀ turn, (turns turn).failure = none)
    {channelId : Nat} {channel : NotificationChannelModel}
    (hown : ownRow NotificationChannelModel.userId db.notificationChannels channelId userId =
      some channel) :
    (ApiArrival.mk userId (.deleteChannel channelId) turns).serve tie db =
      if ForeignKeys { db with notificationChannels := db.notificationChannels.delete channelId }
      then (.ok (), { db with notificationChannels := db.notificationChannels.delete channelId })
      else (.error .integrityError, db) := by
  have hsettle : settle tie turns (deleteChannel channelId userId) 0 db =
      (.ok (), { db with notificationChannels := db.notificationChannels.delete channelId }) := by
    rw [settle_deleteChannel, hown]
  exact serve_of_settle_ok ⟨userId, .deleteChannel channelId, turns⟩ hreturns hsettle

/-- A deletion that the engine refuses when it breaks a foreign key succeeds exactly when it
breaks none. -/
theorem deletion_iff {reply : Except Raised Unit × Database} {deleted : Database}
    {gone : Database → Prop} (hgone : gone deleted)
    (hreply : reply = if ForeignKeys deleted then (.ok (), deleted)
      else (.error .integrityError, db)) :
    (reply.1 = .ok () ∧ gone reply.2 ∧ ReferencesIntact reply.2) ↔ ForeignKeys deleted := by
  constructor
  · rintro ⟨hcompletes, -⟩
    by_contra hbroken
    rw [hreply, if_neg hbroken] at hcompletes
    cases hcompletes
  · intro hafter
    rw [hreply, if_pos hafter]
    exact ⟨rfl, hgone, hafter.watchProduct, hafter.logChannel⟩

/-- A guarded deletion of a product succeeds exactly when no watch refers to it. -/
theorem deletesProduct_iff (hkeys : ForeignKeys db)
    (hreturns : ∀ turn, (turns turn).failure = none) {productId : Nat} {product : ProductModel}
    (hown : ownRow ProductModel.userId db.products productId userId = some product)
    (hinactive : SqlAlchemyWatchRepository.listByProduct db productId = []) :
    DeletesProduct tie db userId turns productId ↔
      ∀ watch ∈ db.watches.rows, watch.productId ≠ productId := by
  have hgone : (db.products.delete productId).find? productId = none :=
    (Table.find?_delete _ _ _).trans (if_pos rfl)
  rw [← foreignKeys_deleteProduct_iff hkeys productId, ← @deletion_iff db _ _
    (fun after => after.products.find? productId = none) hgone
    (serve_deleteProduct tie hreturns hown hinactive)]
  constructor
  · intro hdeletes
    exact ⟨hdeletes.completes, hdeletes.gone, hdeletes.intact⟩
  · rintro ⟨hcompletes, hgone, hintact⟩
    exact ⟨hcompletes, hgone, hintact⟩

/-- The deletion of a channel succeeds exactly when no log entry refers to it. -/
theorem deletesChannel_iff (hkeys : ForeignKeys db)
    (hreturns : ∀ turn, (turns turn).failure = none) {channelId : Nat}
    {channel : NotificationChannelModel}
    (hown : ownRow NotificationChannelModel.userId db.notificationChannels channelId userId =
      some channel) :
    DeletesChannel tie db userId turns channelId ↔
      ∀ entry ∈ db.notificationLogs.rows, entry.channelId ≠ channelId := by
  have hgone : (db.notificationChannels.delete channelId).find? channelId = none :=
    (Table.find?_delete _ _ _).trans (if_pos rfl)
  rw [← foreignKeys_deleteChannel_iff hkeys channelId, ← @deletion_iff db _ _
    (fun after => after.notificationChannels.find? channelId = none) hgone
    (serve_deleteChannel tie hreturns hown)]
  constructor
  · intro hdeletes
    exact ⟨hdeletes.completes, hdeletes.gone, hdeletes.intact⟩
  · rintro ⟨hcompletes, hgone, hintact⟩
    exact ⟨hcompletes, hgone, hintact⟩

end Deletion

/-! ## The result -/

/-- A user creates a product, watches it, deletes the watch and then the product. -/
def regretDb : Database :=
  { Database.empty with users := Table.empty.insert fun id => ⟨id, "+15550004444", none, 0⟩ }

@[inherit_doc regretDb] def regretTurns : Nat → ApiTurn := fun _ => ⟨0, none⟩

@[inherit_doc regretDb] def regretArrivals : List ApiArrival :=
  [⟨1, .createProduct ⟨"milk", "milk", none⟩, regretTurns⟩,
    ⟨1, .createWatch ⟨1, "blinkit", "Delhi", "110001", 60⟩, regretTurns⟩,
    ⟨1, .deleteWatch 1, regretTurns⟩]

/-- The product has no active watch, and its deletion raises an integrity error. -/
theorem unwatched_product_not_deleted :
    ∃ db, runFrom (apiStep fun key => key) regretDb regretArrivals = some db ∧
      SqlAlchemyWatchRepository.listByProduct db 1 = [] ∧
      (ownRow ProductModel.userId db.products 1 1).isSome = true ∧
      ((ApiArrival.mk 1 (.deleteProduct 1) regretTurns).serve (fun key => key) db).1 =
        .error .integrityError := by
  refine ⟨_, rfl, ?_, ?_, ?_⟩ <;> decide +kernel

/-- With the foreign keys enforced, an owner's deletion of a product without active watches
succeeds exactly when no watch at all refers to the product, and the deletion of a channel
exactly when no log entry refers to it. -/
theorem guarded_deletions_succeed_iff (tie : Nat → Nat) {db : Database} (hkeys : ForeignKeys db)
    (userId : Nat) {turns : Nat → ApiTurn} (hreturns : ∀ turn, (turns turn).failure = none) :
    (∀ productId product,
      ownRow ProductModel.userId db.products productId userId = some product →
      SqlAlchemyWatchRepository.listByProduct db productId = [] →
      (DeletesProduct tie db userId turns productId ↔
        ∀ watch ∈ db.watches.rows, watch.productId ≠ productId)) ∧
    ∀ channelId channel,
      ownRow NotificationChannelModel.userId db.notificationChannels channelId userId =
        some channel →
      (DeletesChannel tie db userId turns channelId ↔
        ∀ entry ∈ db.notificationLogs.rows, entry.channelId ≠ channelId) :=
  ⟨fun _ _ hown hinactive => deletesProduct_iff hkeys hreturns hown hinactive,
    fun _ _ hown => deletesChannel_iff hkeys hreturns hown⟩

/-- A user with one product and no watch. -/
def shelfDb : Database :=
  { regretDb with products := Table.empty.insert fun id => ⟨id, 1, "milk", "milk", none⟩ }

/-- Beside it a product that nothing refers to; the first one was watched, and one of two
channels was notified. -/
def wornShelfDb : Database :=
  { shelfDb with
    products := shelfDb.products.insert fun id => ⟨id, 1, "oats", "oats", none⟩
    watchTargets := Table.empty.insert fun id =>
      ⟨id, "zepto", "Pune", "411001", "milk", 300, none⟩
    watches := Table.empty.insert fun id => ⟨id, 1, 1, 1, 300, false⟩
    snapshots := Table.empty.insert fun id =>
      ⟨id, 1, 7, .available, some 33, none, none, none, none, none, none, [], none⟩
    detectionEvents := Table.empty.insert fun id => ⟨id, 1, 1, none, .stockAvailable, 7⟩
    notificationChannels := (Table.empty.insert fun id =>
      ⟨id, 1, .telegram, [("chat_id", "44")], true⟩).insert
        fun id => ⟨id, 1, .discord, [("webhook_url", "https://discord.test/shelf")], true⟩
    notificationLogs := Table.empty.insert fun id =>
      ⟨id, 1, 1, 1, "sent", 8, "1:1:stock_available"⟩ }

/-- The product that a deactivated watch refers to stays, as does the channel with a log entry;
the others go. -/
theorem shelf_deletion_succeeds_iff :
    ¬ DeletesProduct (fun key => key) wornShelfDb 1 regretTurns 1 ∧
      DeletesProduct (fun key => key) wornShelfDb 1 regretTurns 2 ∧
      ¬ DeletesChannel (fun key => key) wornShelfDb 1 regretTurns 1 ∧
      DeletesChannel (fun key => key) wornShelfDb 1 regretTurns 2 := by
  obtain ⟨hproducts, hchannels⟩ := @guarded_deletions_succeed_iff (fun key => key) wornShelfDb
    (by decide) 1 regretTurns fun _ => rfl
  refine ⟨fun hdeletes => ?_, (hproducts 2 _ rfl rfl).mpr ?_, fun hdeletes => ?_,
    (hchannels 2 _ rfl).mpr ?_⟩
  · exact (hproducts 1 _ rfl rfl).mp hdeletes _ (List.mem_singleton_self _) rfl
  · decide
  · exact (hchannels 1 _ rfl).mp hdeletes _ (List.mem_singleton_self _) rfl
  · decide

end StockMonitoring.Api
