import StockMonitoring.Api.Requests

set_option autoImplicit false

/-!
# Api: which writes are committed

The foreign keys after a request that creates or changes rows: the new rows of a user are
committed exactly if the user exists, and a watch on one's own product always is.
-/

namespace StockMonitoring.Api

open StockMonitoring.Foundation StockMonitoring.Domain StockMonitoring.Application
  StockMonitoring.Infrastructure.Db

section Commits

variable {db : Database} {userId : Nat}

theorem foreignKeys_createProduct_iff (hkeys : ForeignKeys db) (name keyword : String)
    (canonicalImageUrl : Option String) :
    ForeignKeys (SqlAlchemyProductRepository.create db userId name keyword canonicalImageUrl).2 ↔
      Refers db.users userId := by
  constructor
  · intro hafter
    exact hafter.productUser _ (List.mem_append_right _ (List.mem_singleton_self _))
  · intro huser
    refine { hkeys with productUser := ?_, watchProduct := ?_ }
    · intro row hrow
      rcases List.mem_append.mp hrow with hold | hnew
      · exact hkeys.productUser row hold
      · rw [List.mem_singleton.mp hnew]
        exact huser
    · intro watch hwatch
      exact refers_insert (hkeys.watchProduct watch hwatch)

theorem foreignKeys_createChannel_iff (hkeys : ForeignKeys db) (type : NotificationChannelType)
    (config : List (String × String)) :
    ForeignKeys (SqlAlchemyNotificationChannelRepository.create db userId type config false).2 ↔
      Refers db.users userId := by
  constructor
  · intro hafter
    exact hafter.channelUser _ (List.mem_append_right _ (List.mem_singleton_self _))
  · intro huser
    refine { hkeys with channelUser := ?_, logChannel := ?_ }
    · intro row hrow
      rcases List.mem_append.mp hrow with hold | hnew
      · exact hkeys.channelUser row hold
      · rw [List.mem_singleton.mp hnew]
        exact huser
    · intro entry hentry
      exact refers_insert (hkeys.logChannel entry hentry)

theorem foreignKeys_insertSetting_iff (hkeys : ForeignKeys db) (key value : String) :
    ForeignKeys (SqlAlchemySettingsRepository.insert db userId key value) ↔
      Refers db.users userId := by
  constructor
  · intro hafter
    exact hafter.settingUser _ (List.mem_append_right _ (List.mem_singleton_self _))
  · intro huser
    refine { hkeys with settingUser := ?_ }
    intro row hrow
    rcases List.mem_append.mp hrow with hold | hnew
    · exact hkeys.settingUser row hold
    · rw [List.mem_singleton.mp hnew]
      exact huser

theorem foreignKeys_setValue (hkeys : ForeignKeys db) (settingId : Nat) (value : String) :
    ForeignKeys (SqlAlchemySettingsRepository.setValue db settingId value) := by
  refine { hkeys with settingUser := ?_ }
  intro row hrow
  obtain ⟨old, hold, rfl | rfl⟩ := Table.exists_of_mem_modify (by intro _; rfl) hrow
  · exact hkeys.settingUser row hold
  · exact hkeys.settingUser old hold

theorem foreignKeys_markVerified (hkeys : ForeignKeys db) (channelId : Nat) :
    ForeignKeys { db with
      notificationChannels := db.notificationChannels.modify channelId fun row =>
        { row with isVerified := true } } := by
  refine { hkeys with channelUser := ?_, logChannel := ?_ }
  · intro row hrow
    obtain ⟨old, hold, rfl | rfl⟩ := Table.exists_of_mem_modify (by intro _; rfl) hrow
    · exact hkeys.channelUser row hold
    · exact hkeys.channelUser old hold
  · intro entry hentry
    exact refers_modify (by intro _; rfl) (hkeys.logChannel entry hentry)

/-- `get_or_create` keeps the foreign keys and gives a target. -/
theorem foreignKeys_targetFor {mid : Database} {retailerSlug city pincode keyword : String}
    {intervalSeconds : Int} {watchTargetId : Nat} (hkeys : ForeignKeys db)
    (htarget : targetFor db retailerSlug city pincode keyword intervalSeconds =
      .ok (watchTargetId, mid)) :
    ForeignKeys mid ∧ Refers mid.watchTargets watchTargetId := by
  rcases targetFor_cases htarget with ⟨existing, hmem, rfl, _, rfl⟩ | ⟨rfl, rfl⟩
  · split
    · exact ⟨hkeys.withTargets fun _ => refers_modify (by intro _; rfl),
        refers_modify (by intro _; rfl) (refers_of_mem hmem)⟩
    · exact ⟨hkeys, refers_of_mem hmem⟩
  · exact ⟨hkeys.withTargets fun _ => refers_insert, refers_insert_nextId⟩

/-- A watch on one's own product is committed. -/
theorem foreignKeys_createWatch {mid : Database} {product : ProductModel} {watchTargetId : Nat}
    (hkeys : ForeignKeys mid) (hproduct : product ∈ mid.products.rows)
    (howner : product.userId = userId) (htarget : Refers mid.watchTargets watchTargetId)
    (intervalSeconds : Int) :
    ForeignKeys (SqlAlchemyWatchRepository.create mid userId product.id watchTargetId
      intervalSeconds).2 := by
  let row : WatchModel :=
    ⟨mid.watches.nextId, userId, product.id, watchTargetId, intervalSeconds, true⟩
  have huser : Refers mid.users userId := howner ▸ hkeys.productUser product hproduct
  refine @ForeignKeys.withWatch mid _ row hkeys (fun other hother => ?_) huser
    (refers_of_mem hproduct) htarget
  rcases List.mem_append.mp hother with hold | hnew
  · exact Or.inl hold
  · exact Or.inr (List.mem_singleton.mp hnew)

end Commits

end StockMonitoring.Api
