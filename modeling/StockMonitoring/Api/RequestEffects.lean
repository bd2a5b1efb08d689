import StockMonitoring.Api.Requests
import StockMonitoring.Foundation.Lists

set_option autoImplicit false

/-!
# Api: what a request writes

`effect_of_serve` sums up the handlers: a request leaves the database as it was or does
one of eight things to it.  What every request preserves is a case analysis over these:
the rows of other users (`othersRows_serve`), and that rows refer to rows of their own
user (`sound_serve`).
-/

namespace StockMonitoring.Api

open StockMonitoring.Foundation StockMonitoring.Domain StockMonitoring.Application
  StockMonitoring.Infrastructure.Db

/-! ## Effects -/

/-- What a user's request can do to the database. -/
inductive Effect (userId : Nat) (db : Database) : Database → Prop where
  | nothing : Effect userId db db
  | productCreated (name keyword : String) (canonicalImageUrl : Option String) :
      Effect userId db
        (SqlAlchemyProductRepository.create db userId name keyword canonicalImageUrl).2
  | productDeleted (product : ProductModel) (hmem : product ∈ db.products.rows)
      (howner : product.userId = userId)
      (hunwatched : SqlAlchemyWatchRepository.listByProduct db product.id = []) :
      Effect userId db { db with products := db.products.delete product.id }
  | watchCreated (product : ProductModel) (hmem : product ∈ db.products.rows)
      (howner : product.userId = userId) (retailerSlug city pincode : String)
      (intervalSeconds : Int) (watchTargetId : Nat) (mid : Database)
      (htarget : targetFor db retailerSlug city pincode product.keyword intervalSeconds =
        .ok (watchTargetId, mid)) :
      Effect userId db (SqlAlchemyWatchRepository.create mid userId product.id watchTargetId
        intervalSeconds).2
  | watchDeactivated (watch : WatchModel) (hmem : watch ∈ db.watches.rows)
      (howner : watch.userId = userId) :
      Effect userId db { db with
        watches := db.watches.modify watch.id fun row => { row with isActive := false } }
  | channelCreated (type : NotificationChannelType) (config : List (String × String)) :
      Effect userId db
        (SqlAlchemyNotificationChannelRepository.create db userId type config false).2
  | channelVerified (channel : NotificationChannelModel)
      (hmem : channel ∈ db.notificationChannels.rows) (howner : channel.userId = userId) :
      Effect userId db { db with
        notificationChannels := db.notificationChannels.modify channel.id fun row =>
          { row with isVerified := true } }
  | channelDeleted (channel : NotificationChannelModel)
      (hmem : channel ∈ db.notificationChannels.rows) (howner : channel.userId = userId) :
      Effect userId db { db with
        notificationChannels := db.notificationChannels.delete channel.id }
  | settingSet (key value : String) (next : Database)
      (hset : withSetting db userId key value = .ok next) : Effect userId db next

/-- What a handler that returns leaves. -/
theorem effect_of_settle {tie : Nat → Nat} {turns : Nat → ApiTurn} {userId : Nat}
    {request : ApiRequest} {db next : Database} {value : request.Response}
    (hsettle : settle tie turns (request.handler userId) 0 db = (.ok value, next)) :
    Effect userId db next := by
  cases request with
  | createProduct body =>
      cases (settle_createProduct body).symm.trans hsettle
      exact .productCreated ..
  | listProducts =>
      cases settle_listProducts.symm.trans hsettle
      exact .nothing
  | deleteProduct productId =>
      obtain ⟨product, hmem, rfl, howner, hunwatched, rfl⟩ := returned_deleteProduct hsettle
      exact .productDeleted product hmem howner hunwatched
  | createWatch body =>
      obtain ⟨product, hmem, _, howner, watchTargetId, mid, htarget, _, rfl⟩ :=
        returned_createWatch hsettle
      exact .watchCreated product hmem howner _ _ _ _ watchTargetId mid htarget
  | listWatches =>
      cases settle_listWatches.symm.trans hsettle
      exact .nothing
  | deleteWatch watchId =>
      obtain ⟨watch, hmem, rfl, howner, rfl⟩ := returned_deleteWatch hsettle
      exact .watchDeactivated watch hmem howner
  | createChannel body =>
      obtain ⟨type, _, rfl⟩ := returned_createChannel hsettle
      exact .channelCreated type body.config
  | listChannels =>
      cases settle_listChannels.symm.trans hsettle
      exact .nothing
  | verifyChannel channelId =>
      obtain ⟨channel, hmem, rfl, howner, rfl⟩ := returned_verifyChannel hsettle
      exact .channelVerified channel hmem howner
  | deleteChannel channelId =>
      obtain ⟨channel, hmem, rfl, howner, rfl⟩ := returned_deleteChannel hsettle
      exact .channelDeleted channel hmem howner
  | listNotificationLog =>
      cases settle_listNotificationLog.symm.trans hsettle
      exact .nothing
  | getSettings =>
      cases settle_getSettings.symm.trans hsettle
      exact .nothing
  | updateSetting body => exact .settingSet _ _ next (returned_updateSetting hsettle).1
  | getHistory watchId =>
      obtain ⟨rfl, _⟩ := returned_getHistory hsettle
      exact .nothing
  | priceHistory watchId days =>
      obtain ⟨rfl, _⟩ := returned_priceHistory hsettle
      exact .nothing
  | availabilitySummary watchId days =>
      obtain ⟨rfl, _⟩ := returned_availabilitySummary hsettle
      exact .nothing

/-- What a request leaves committed. -/
theorem effect_of_serve (tie : Nat → Nat) (arrival : ApiArrival) (db : Database) :
    Effect arrival.userId db (arrival.serve tie db).2 := by
  rcases serve_cases tie arrival db with ⟨error, hserve⟩ | ⟨value, next, hsettle, _, hserve⟩
  · rw [hserve]
    exact .nothing
  · rw [hserve]
    exact effect_of_settle hsettle

/-! ## Rows of other users -/

/-- The rows of a database that have an owner; a global setting has none. -/
structure UserRows where
  products : List ProductModel
  watches : List WatchModel
  channels : List NotificationChannelModel
  logs : List NotificationLogModel
  settings : List SettingsModel

/-- The rows whose owner passes a test. -/
def rowsOf (test : Option Nat → Bool) (db : Database) : UserRows where
  products := db.products.rows.filter fun row => test (some row.userId)
  watches := db.watches.rows.filter fun row => test (some row.userId)
  channels := db.notificationChannels.rows.filter fun row => test (some row.userId)
  logs := db.notificationLogs.rows.filter fun row => test (some row.userId)
  settings := db.settings.rows.filter fun row => test row.userId

/-- The rows of a user. -/
def ownRows (db : Database) (userId : Nat) : UserRows := rowsOf (· == some userId) db

/-- The rows that are not the user's. -/
def othersRows (db : Database) (userId : Nat) : UserRows := rowsOf (· != some userId) db

/-- An effect of a user is not seen among the rows of others. -/
theorem rowsOf_of_effect {test : Option Nat → Bool} {userId : Nat} {db next : Database}
    (htest : test (some userId) = false) (heffect : Effect userId db next) :
    rowsOf test next = rowsOf test db := by
  unfold rowsOf
  cases heffect with
  | nothing => rfl
  | productCreated name keyword canonicalImageUrl =>
      congr 1
      exact Table.filter_insert htest
  | productDeleted product hmem howner _ =>
      congr 1
      exact Table.filter_delete hmem (howner ▸ htest)
  | watchCreated product _ _ _ _ _ _ _ mid htarget =>
      obtain ⟨table, rfl⟩ := exists_targetFor_eq htarget
      congr 1
      exact Table.filter_insert htest
  | watchDeactivated watch hmem howner =>
      congr 1
      exact Table.filter_modify (by intro _; rfl) hmem (howner ▸ htest) (howner ▸ htest)
  | channelCreated type config =>
      congr 1
      exact Table.filter_insert htest
  | channelVerified channel hmem howner =>
      congr 1
      exact Table.filter_modify (by intro _; rfl) hmem (howner ▸ htest) (howner ▸ htest)
  | channelDeleted channel hmem howner =>
      congr 1
      exact Table.filter_delete hmem (howner ▸ htest)
  | settingSet key value _ hset =>
      rcases withSetting_cases hset with ⟨existing, hmem, howner, _, rfl⟩ | rfl
      · congr 1
        exact Table.filter_modify (by intro _; rfl) hmem (howner ▸ htest) (howner ▸ htest)
      · congr 1
        exact Table.filter_insert htest

/-- Whatever a request does, the rows of the other users stay as they were. -/
theorem othersRows_serve (tie : Nat → Nat) (arrival : ApiArrival) (db : Database) :
    othersRows (arrival.serve tie db).2 arrival.userId = othersRows db arrival.userId :=
  rowsOf_of_effect (by simp) (effect_of_serve tie arrival db)

/-! ## Rows that refer to rows of their own user -/

/-- The key of a watch target. -/
def targetKey (target : WatchTargetModel) : String × String × String × String :=
  (target.retailerSlug, target.city, target.pincode, target.keyword)

/-- What the writers keep of a database, constraints of the schema included. -/
structure Sound (db : Database) : Prop where
  keys : ForeignKeys db
  /-- `uq_watch_target` -/
  targetKeys : (db.watchTargets.rows.map targetKey).Nodup
  /-- a watch is on a product of its own user -/
  watchProduct : ∀ watch ∈ db.watches.rows, ∀ product ∈ db.products.rows,
    product.id = watch.productId → product.userId = watch.userId
  /-- a log entry is of a channel of its own user -/
  logChannel : ∀ entry ∈ db.notificationLogs.rows, ∀ channel ∈ db.notificationChannels.rows,
    channel.id = entry.channelId → channel.userId = entry.userId
  /-- an event is of its snapshot's target -/
  eventSnapshot : ∀ event ∈ db.detectionEvents.rows, ∀ snapshot ∈ db.snapshots.rows,
    snapshot.id = event.snapshotId → snapshot.watchTargetId = event.watchTargetId

/-- With different keys `get_or_create` finds at most one target. -/
theorem exists_select_eq_ok {db : Database}
    (hkeys : (db.watchTargets.rows.map targetKey).Nodup)
    (retailerSlug city pincode keyword : String) :
    ∃ found, SqlAlchemyWatchTargetRepository.select db retailerSlug city pincode keyword =
      .ok found := by
  refine scalarOneOrNone_eq_ok_iff.mpr ?_
  unfold SqlAlchemyWatchTargetRepository.withKey
  rw [← List.countP_eq_length_filter]
  refine Nat.le_trans (List.countP_mono_left ?_)
    (nodup_map_iff_countP_le_one.mp hkeys (retailerSlug, city, pincode, keyword))
  intro row _ htest
  simp only [Bool.and_eq_true, beq_iff_eq] at htest
  obtain ⟨⟨⟨rfl, rfl⟩, rfl⟩, rfl⟩ := htest
  exact decide_eq_true rfl

/-- The assignment to an interval changes no key. -/
theorem targetKeys_setInterval (db : Database) (watchTargetId : Nat) (intervalSeconds : Int) :
    (SqlAlchemyWatchTargetRepository.setInterval db watchTargetId
      intervalSeconds).watchTargets.rows.map targetKey = db.watchTargets.rows.map targetKey := by
  change (db.watchTargets.rows.map _).map targetKey = _
  rw [List.map_map]
  apply List.map_congr_left
  intro row _
  simp only [Function.comp_apply]
  split <;> rfl

/-- `get_or_create` keeps the keys of the targets different. -/
theorem targetKeys_targetFor {db mid : Database} {retailerSlug city pincode keyword : String}
    {intervalSeconds : Int} {watchTargetId : Nat}
    (hkeys : (db.watchTargets.rows.map targetKey).Nodup)
    (htarget : targetFor db retailerSlug city pincode keyword intervalSeconds =
      .ok (watchTargetId, mid)) : (mid.watchTargets.rows.map targetKey).Nodup := by
  unfold targetFor at htarget
  cases hselect : SqlAlchemyWatchTargetRepository.select db retailerSlug city pincode keyword with
  | error error =>
      rw [hselect] at htarget
      cases htarget
  | ok found =>
      rw [hselect] at htarget
      cases found with
      | some existing =>
          cases htarget
          split
          · rw [targetKeys_setInterval]
            exact hkeys
          · exact hkeys
      | none =>
          cases htarget
          change ((db.watchTargets.rows ++ [_]).map targetKey).Nodup
          rw [List.map_append, List.map_singleton]
          refine hkeys.append (List.nodup_singleton _) ?_
          intro key hold hnew
          obtain ⟨row, hrow, rfl⟩ := List.mem_map.mp hold
          have hfresh := scalarOneOrNone_eq_none hselect
          have hmem : row ∈ SqlAlchemyWatchTargetRepository.withKey db retailerSlug city pincode
              keyword := by
            have hsame : targetKey row = (retailerSlug, city, pincode, keyword) :=
              List.mem_singleton.mp hnew
            simp only [targetKey, Prod.mk.injEq] at hsame
            refine List.mem_filter.mpr ⟨hrow, ?_⟩
            simp [hsame]
          rw [hfresh] at hmem
          cases hmem

/-- Every effect keeps the database sound; the foreign keys are checked at the commit. -/
theorem sound_of_effect {userId : Nat} {db next : Database} (hsound : Sound db)
    (hkeys : ForeignKeys next) (heffect : Effect userId db next) : Sound next := by
  cases heffect with
  | nothing => exact hsound
  | productCreated name keyword canonicalImageUrl =>
      refine { hsound with keys := hkeys, watchProduct := ?_ }
      intro watch hwatch product hproduct hid
      rcases List.mem_append.mp hproduct with hold | hnew
      · exact hsound.watchProduct watch hwatch product hold hid
      · rw [List.mem_singleton.mp hnew] at hid
        have hrefers := hsound.keys.watchProduct watch hwatch
        rw [← hid] at hrefers
        exact absurd hrefers not_refers_nextId
  | productDeleted product hmem howner _ =>
      refine { hsound with keys := hkeys, watchProduct := ?_ }
      intro watch hwatch other hother
      exact hsound.watchProduct watch hwatch other (List.mem_of_mem_filter hother)
  | watchCreated product hmem howner _ _ _ _ _ mid htarget =>
      have htargets := targetKeys_targetFor hsound.targetKeys htarget
      obtain ⟨table, rfl⟩ := exists_targetFor_eq htarget
      refine { hsound with keys := hkeys, targetKeys := htargets, watchProduct := ?_ }
      intro watch hwatch other hother hid
      rcases List.mem_append.mp hwatch with hold | hnew
      · exact hsound.watchProduct watch hold other hother hid
      · rw [List.mem_singleton.mp hnew] at hid ⊢
        obtain rfl := db.products.eq_of_key_eq hother hmem hid
        exact howner
  | watchDeactivated watch hmem howner =>
      refine { hsound with keys := hkeys, watchProduct := ?_ }
      intro other hother product hproduct hid
      obtain ⟨old, hold, rfl | rfl⟩ := Table.exists_of_mem_modify (by intro _; rfl) hother
      · exact hsound.watchProduct other hold product hproduct hid
      · exact hsound.watchProduct old hold product hproduct hid
  | channelCreated type config =>
      refine { hsound with keys := hkeys, logChannel := ?_ }
      intro entry hentry channel hchannel hid
      rcases List.mem_append.mp hchannel with hold | hnew
      · exact hsound.logChannel entry hentry channel hold hid
      · rw [List.mem_singleton.mp hnew] at hid
        have hrefers := hsound.keys.logChannel entry hentry
        rw [← hid] at hrefers
        exact absurd hrefers not_refers_nextId
  | channelVerified channel hmem howner =>
      refine { hsound with keys := hkeys, logChannel := ?_ }
      intro entry hentry other hother hid
      obtain ⟨old, hold, rfl | rfl⟩ := Table.exists_of_mem_modify (by intro _; rfl) hother
      · exact hsound.logChannel entry hentry other hold hid
      · exact hsound.logChannel entry hentry old hold hid
  | channelDeleted channel hmem howner =>
      refine { hsound with keys := hkeys, logChannel := ?_ }
      intro entry hentry other hother
      exact hsound.logChannel entry hentry other (List.mem_of_mem_filter hother)
  | settingSet key value _ hset =>
      rcases withSetting_cases hset with ⟨existing, _, _, _, rfl⟩ | rfl
      · exact { hsound with keys := hkeys }
      · exact { hsound with keys := hkeys }

/-- Every request keeps the database sound. -/
theorem sound_serve (tie : Nat → Nat) (arrival : ApiArrival) {db : Database} (hsound : Sound db) :
    Sound (arrival.serve tie db).2 :=
  sound_of_effect hsound (serve_foreignKeys tie arrival hsound.keys)
    (effect_of_serve tie arrival db)

end StockMonitoring.Api
