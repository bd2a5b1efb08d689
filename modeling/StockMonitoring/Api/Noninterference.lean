import StockMonitoring.Api.Commits
import StockMonitoring.Api.GuardedDeletion
import StockMonitoring.Api.Isolation
import StockMonitoring.Api.SharedTargets

set_option autoImplicit false

/-!
# Api: users do not see each other

Two sound databases that agree on a user's rows, and on the snapshots and events of the
targets the user watches, give the user the same response, up to the ids of new rows and
of shared targets (`alike_serve`).  Soundness is needed: a watch of another user on one's
own product would show in the answer to its deletion.
-/

namespace StockMonitoring.Api

open StockMonitoring.Foundation StockMonitoring.Domain StockMonitoring.Application
  StockMonitoring.Infrastructure.Db

/-! ## Databases that are the same for a user -/

/-- Two databases agree on the user, the user's rows, and the snapshots and events of the
targets of the user's watches.  The targets themselves are read by no response. -/
structure SameFor (userId : Nat) (left right : Database) : Prop where
  user : Refers left.users userId ↔ Refers right.users userId
  own : ownRows left userId = ownRows right userId
  snapshots : ∀ watch ∈ left.watches.rows, watch.userId = userId →
    SqlAlchemySnapshotRepository.ofTarget left watch.watchTargetId =
      SqlAlchemySnapshotRepository.ofTarget right watch.watchTargetId
  events : ∀ watch ∈ left.watches.rows, watch.userId = userId →
    SqlAlchemyDetectionEventRepository.ofTarget left watch.watchTargetId =
      SqlAlchemyDetectionEventRepository.ofTarget right watch.watchTargetId

/-- A response without the ids of new rows and of shared targets. -/
def forgetIds : (request : ApiRequest) → request.Response → request.Response
  | .createProduct _, response => { response with id := none }
  | .createWatch _, response => { response with id := none, watchTargetId := 0 }
  | .createChannel _, response => { response with id := none }
  | _, response => response

/-- Two responses to a request differ at most in such ids. -/
def Alike (request : ApiRequest) (left right : Except Raised request.Response) : Prop :=
  left.map (forgetIds request) = right.map (forgetIds request)

/-- Tables with the same rows of a user give the user the same row by id. -/
theorem ownRow_congr {Row : Type} [Keyed Row] {owner : Row → Nat} {left right : Table Row}
    {userId : Nat}
    (hsame : (left.rows.filter fun row => some (owner row) == some userId) =
      right.rows.filter fun row => some (owner row) == some userId) (id : Nat) :
    ownRow owner left id userId = ownRow owner right id userId := by
  have hmem : ∀ row, (row ∈ left.rows ∧ owner row = userId) ↔
      (row ∈ right.rows ∧ owner row = userId) := by
    intro row
    have hiff : row ∈ (left.rows.filter fun row => some (owner row) == some userId) ↔
        row ∈ right.rows.filter fun row => some (owner row) == some userId := by rw [hsame]
    simpa [List.mem_filter] using hiff
  ext row
  rw [ownRow_eq_some_iff, ownRow_eq_some_iff]
  constructor
  · rintro ⟨hrow, hid, howner⟩
    exact ⟨((hmem row).mp ⟨hrow, howner⟩).1, hid, howner⟩
  · rintro ⟨hrow, hid, howner⟩
    exact ⟨((hmem row).mpr ⟨hrow, howner⟩).1, hid, howner⟩

/-- A query for some of a user's rows only needs the user's rows. -/
theorem filter_own_congr {Row : Type} {owner : Row → Nat} {left right : List Row} {userId : Nat}
    (hsame : (left.filter fun row => some (owner row) == some userId) =
      right.filter fun row => some (owner row) == some userId) {test : Row → Bool}
    (hleft : ∀ row ∈ left, test row = true → owner row = userId)
    (hright : ∀ row ∈ right, test row = true → owner row = userId) :
    left.filter test = right.filter test := by
  have hown : ∀ rows : List Row, (∀ row ∈ rows, test row = true → owner row = userId) →
      rows.filter test = (rows.filter fun row => some (owner row) == some userId).filter test := by
    intro rows howner
    rw [List.filter_filter]
    apply List.filter_congr
    intro row hrow
    cases htest : test row with
    | false => rfl
    | true => simp [howner row hrow htest]
  rw [hown left hleft, hown right hright, hsame]

section Alike

variable {tie : Nat → Nat} {userId : Nat} {turns : Nat → ApiTurn} {left right : Database}
  {request : ApiRequest}

/-- Handlers that return alike and are both committed or both refused. -/
theorem alike_of_settle_ok (hreturns : ∀ turn, (turns turn).failure = none)
    {leftValue rightValue : request.Response} {leftNext rightNext : Database}
    (hleft : settle tie turns (request.handler userId) 0 left = (.ok leftValue, leftNext))
    (hright : settle tie turns (request.handler userId) 0 right = (.ok rightValue, rightNext))
    (hkeys : ForeignKeys leftNext ↔ ForeignKeys rightNext)
    (hvalue : forgetIds request leftValue = forgetIds request rightValue) :
    Alike request ((ApiArrival.mk userId request turns).serve tie left).1
      ((ApiArrival.mk userId request turns).serve tie right).1 := by
  unfold Alike
  rw [serve_of_settle_ok ⟨userId, request, turns⟩ hreturns hleft,
    serve_of_settle_ok ⟨userId, request, turns⟩ hreturns hright]
  by_cases hcommits : ForeignKeys leftNext
  · rw [if_pos hcommits, if_pos (hkeys.mp hcommits)]
    exact congrArg Except.ok hvalue
  · rw [if_neg hcommits, if_neg fun h => hcommits (hkeys.mpr h)]

/-- Handlers that raise the same. -/
theorem alike_of_settle_error (hreturns : ∀ turn, (turns turn).failure = none) {error : Raised}
    {leftNext rightNext : Database}
    (hleft : settle tie turns (request.handler userId) 0 left = (.error error, leftNext))
    (hright : settle tie turns (request.handler userId) 0 right = (.error error, rightNext)) :
    Alike request ((ApiArrival.mk userId request turns).serve tie left).1
      ((ApiArrival.mk userId request turns).serve tie right).1 := by
  unfold Alike
  rw [serve_of_settle_error ⟨userId, request, turns⟩ hreturns hleft,
    serve_of_settle_error ⟨userId, request, turns⟩ hreturns hright]

/-- Handlers that only read and return the same. -/
theorem alike_of_reads (hreturns : ∀ turn, (turns turn).failure = none)
    (hleftKeys : ForeignKeys left) (hrightKeys : ForeignKeys right)
    {leftValue rightValue : request.Response}
    (hleft : settle tie turns (request.handler userId) 0 left = (.ok leftValue, left))
    (hright : settle tie turns (request.handler userId) 0 right = (.ok rightValue, right))
    (hvalue : leftValue = rightValue) :
    Alike request ((ApiArrival.mk userId request turns).serve tie left).1
      ((ApiArrival.mk userId request turns).serve tie right).1 :=
  alike_of_settle_ok hreturns hleft hright ⟨fun _ => hrightKeys, fun _ => hleftKeys⟩
    (congrArg (forgetIds request) hvalue)

end Alike

/-! ## The same response -/

/-- With different keys `get_or_create` gives a target. -/
theorem exists_targetFor_eq_ok {db : Database}
    (hkeys : (db.watchTargets.rows.map targetKey).Nodup)
    (retailerSlug city pincode keyword : String) (intervalSeconds : Int) :
    ∃ watchTargetId mid, targetFor db retailerSlug city pincode keyword intervalSeconds =
      .ok (watchTargetId, mid) := by
  obtain ⟨found, hselect⟩ := exists_select_eq_ok hkeys retailerSlug city pincode keyword
  unfold targetFor
  rw [hselect]
  cases found with
  | none => exact ⟨_, _, rfl⟩
  | some existing => exact ⟨_, _, rfl⟩

section Same

variable {left right : Database} {userId : Nat}

theorem SameFor.ownProduct (hsame : SameFor userId left right) (productId : Nat) :
    ownRow ProductModel.userId left.products productId userId =
      ownRow ProductModel.userId right.products productId userId :=
  ownRow_congr (congrArg UserRows.products hsame.own) productId

theorem SameFor.ownWatch (hsame : SameFor userId left right) (watchId : Nat) :
    ownRow WatchModel.userId left.watches watchId userId =
      ownRow WatchModel.userId right.watches watchId userId :=
  ownRow_congr (congrArg UserRows.watches hsame.own) watchId

theorem SameFor.ownChannel (hsame : SameFor userId left right) (channelId : Nat) :
    ownRow NotificationChannelModel.userId left.notificationChannels channelId userId =
      ownRow NotificationChannelModel.userId right.notificationChannels channelId userId :=
  ownRow_congr (congrArg UserRows.channels hsame.own) channelId

/-- The watches on one's own product are one's own. -/
theorem SameFor.watchesOfProduct (hsame : SameFor userId left right) (hleft : Sound left)
    (hright : Sound right) {product : ProductModel}
    (hproduct : ownRow ProductModel.userId left.products product.id userId = some product)
    {test : WatchModel → Bool} (htest : ∀ row, test row = true → row.productId = product.id) :
    left.watches.rows.filter test = right.watches.rows.filter test := by
  refine filter_own_congr (congrArg UserRows.watches hsame.own) ?_ ?_
  · intro row hrow hpass
    obtain ⟨hmem, _, howner⟩ := ownRow_eq_some_iff.mp hproduct
    exact (hleft.watchProduct row hrow product hmem (htest row hpass).symm).symm.trans howner
  · intro row hrow hpass
    rw [hsame.ownProduct] at hproduct
    obtain ⟨hmem, _, howner⟩ := ownRow_eq_some_iff.mp hproduct
    exact (hright.watchProduct row hrow product hmem (htest row hpass).symm).symm.trans howner

/-- The log entries of one's own channel are one's own. -/
theorem SameFor.logsOfChannel (hsame : SameFor userId left right) (hleft : Sound left)
    (hright : Sound right) {channel : NotificationChannelModel}
    (hchannel : ownRow NotificationChannelModel.userId left.notificationChannels channel.id userId =
      some channel) :
    (left.notificationLogs.rows.filter fun row => row.channelId == channel.id) =
      right.notificationLogs.rows.filter fun row => row.channelId == channel.id := by
  refine filter_own_congr (congrArg UserRows.logs hsame.own) ?_ ?_
  · intro row hrow hpass
    obtain ⟨hmem, _, howner⟩ := ownRow_eq_some_iff.mp hchannel
    exact (hleft.logChannel row hrow channel hmem (beq_iff_eq.mp hpass).symm).symm.trans howner
  · intro row hrow hpass
    rw [hsame.ownChannel] at hchannel
    obtain ⟨hmem, _, howner⟩ := ownRow_eq_some_iff.mp hchannel
    exact (hright.logChannel row hrow channel hmem (beq_iff_eq.mp hpass).symm).symm.trans howner

/-- The user's setting of a key is the same row. -/
theorem SameFor.selectSetting (hsame : SameFor userId left right) (key : String) :
    SqlAlchemySettingsRepository.select left userId key =
      SqlAlchemySettingsRepository.select right userId key := by
  have hown : (left.settings.rows.filter fun row => row.userId == some userId) =
      right.settings.rows.filter fun row => row.userId == some userId :=
    congrArg UserRows.settings hsame.own
  unfold SqlAlchemySettingsRepository.select
  simp only [Bool.and_comm (_ == some userId), ← List.filter_filter, hown]

theorem SameFor.getForUser_eq (hsame : SameFor userId left right) :
    SqlAlchemySettingsRepository.getForUser left userId =
      SqlAlchemySettingsRepository.getForUser right userId := by
  unfold SqlAlchemySettingsRepository.getForUser
  exact congrArg (List.foldl _ []) (congrArg UserRows.settings hsame.own)

/-- A new value of a row shows in the dictionary of settings. -/
theorem SameFor.getForUser_setValue (hsame : SameFor userId left right) (settingId : Nat)
    (value : String) :
    SqlAlchemySettingsRepository.getForUser
        (SqlAlchemySettingsRepository.setValue left settingId value) userId =
      SqlAlchemySettingsRepository.getForUser
        (SqlAlchemySettingsRepository.setValue right settingId value) userId := by
  have hown : (left.settings.rows.filter fun row => row.userId == some userId) =
      right.settings.rows.filter fun row => row.userId == some userId :=
    congrArg UserRows.settings hsame.own
  have hafter : ∀ db : Database,
      ((SqlAlchemySettingsRepository.setValue db settingId value).settings.rows.filter
          fun row => row.userId == some userId) =
        (db.settings.rows.filter fun row => row.userId == some userId).map fun row =>
          if Keyed.key row = settingId then { row with valueJson := value } else row := by
    intro db
    change (db.settings.rows.map _).filter _ = _
    rw [List.filter_map]
    congr 1
    apply List.filter_congr
    intro row _
    simp only [Function.comp_apply]
    split <;> rfl
  unfold SqlAlchemySettingsRepository.getForUser
  rw [hafter left, hafter right, hown]

/-- The id of a new row does not. -/
theorem SameFor.getForUser_insert (hsame : SameFor userId left right) (key value : String) :
    SqlAlchemySettingsRepository.getForUser
        (SqlAlchemySettingsRepository.insert left userId key value) userId =
      SqlAlchemySettingsRepository.getForUser
        (SqlAlchemySettingsRepository.insert right userId key value) userId := by
  have hafter : ∀ db : Database, SqlAlchemySettingsRepository.getForUser
      (SqlAlchemySettingsRepository.insert db userId key value) userId =
        dictSet (SqlAlchemySettingsRepository.getForUser db userId) key value := by
    intro db
    unfold SqlAlchemySettingsRepository.getForUser
    change ((db.settings.rows ++ [_]).filter _).foldl _ [] = _
    rw [List.filter_append, List.foldl_append]
    simp
  rw [hafter left, hafter right, hsame.getForUser_eq]

theorem SameFor.listForWatchTarget_eq (hsame : SameFor userId left right) {tie : Nat → Nat}
    {watch : WatchModel} (hwatch : watch ∈ left.watches.rows) (howner : watch.userId = userId)
    (limit : Nat) (since : Option Datetime) :
    SqlAlchemyDetectionEventRepository.listForWatchTarget tie left watch.watchTargetId limit since =
      SqlAlchemyDetectionEventRepository.listForWatchTarget tie right watch.watchTargetId limit
        since := by
  unfold SqlAlchemyDetectionEventRepository.listForWatchTarget
    SqlAlchemyDetectionEventRepository.listed SqlAlchemyDetectionEventRepository.selected
  rw [hsame.events watch hwatch howner]

/-- The events of the user's targets lead to the same snapshots. -/
theorem SameFor.entriesOf_eq (hsame : SameFor userId left right) (hleft : Sound left)
    {tie : Nat → Nat} {watch : WatchModel} (hwatch : watch ∈ left.watches.rows)
    (howner : watch.userId = userId) (limit : Nat) (since : Option Datetime) :
    entriesOf left (SqlAlchemyDetectionEventRepository.listForWatchTarget tie left
        watch.watchTargetId limit since) =
      entriesOf right (SqlAlchemyDetectionEventRepository.listForWatchTarget tie right
        watch.watchTargetId limit since) := by
  rw [← hsame.listForWatchTarget_eq hwatch howner]
  unfold entriesOf
  apply List.filterMap_congr
  intro event hevent
  obtain ⟨row, hrow, rfl⟩ := mem_listForWatchTarget hevent
  obtain ⟨snapshot, hfind, hsnapshot⟩ := snapshot_of_event hleft hrow
  rw [hsame.snapshots watch hwatch howner] at hsnapshot
  have hfindRight : right.snapshots.find? row.snapshotId = some snapshot :=
    Table.find?_eq_some_iff.mpr
      ⟨List.mem_of_mem_filter hsnapshot, (Table.find?_eq_some_iff.mp hfind).2⟩
  change (left.snapshots.find? row.snapshotId).map _ = (right.snapshots.find? row.snapshotId).map _
  rw [hfind, hfindRight]

end Same

/-! ## The requests -/

section Requests

variable {tie : Nat → Nat} {userId : Nat} {turns : Nat → ApiTurn} {left right : Database}

theorem alike_deleteProduct (hreturns : ∀ turn, (turns turn).failure = none)
    (hsame : SameFor userId left right) (hleft : Sound left) (hright : Sound right)
    (productId : Nat) :
    Alike (.deleteProduct productId)
      ((ApiArrival.mk userId (.deleteProduct productId) turns).serve tie left).1
      ((ApiArrival.mk userId (.deleteProduct productId) turns).serve tie right).1 := by
  have hsettleLeft : settle tie turns (deleteProduct productId userId) 0 left = _ :=
    settle_deleteProduct productId
  have hsettleRight : settle tie turns (deleteProduct productId userId) 0 right = _ :=
    settle_deleteProduct productId
  rw [← hsame.ownProduct] at hsettleRight
  cases hown : ownRow ProductModel.userId left.products productId userId with
  | none =>
      rw [hown] at hsettleLeft hsettleRight
      exact alike_of_settle_error hreturns hsettleLeft hsettleRight
  | some product =>
      rw [hown] at hsettleLeft hsettleRight
      obtain rfl : product.id = productId := (ownRow_eq_some_iff.mp hown).2.1
      have hactive : SqlAlchemyWatchRepository.listByProduct left product.id =
          SqlAlchemyWatchRepository.listByProduct right product.id :=
        congrArg (List.map toWatch) (hsame.watchesOfProduct hleft hright hown fun row hpass =>
          beq_iff_eq.mp (Bool.and_eq_true_iff.mp hpass).1)
      have hunused : (∀ watch ∈ left.watches.rows, watch.productId ≠ product.id) ↔
          ∀ watch ∈ right.watches.rows, watch.productId ≠ product.id := by
        have hon : (left.watches.rows.filter fun row => row.productId == product.id) =
            right.watches.rows.filter fun row => row.productId == product.id :=
          hsame.watchesOfProduct hleft hright hown fun row hpass => beq_iff_eq.mp hpass
        have hempty := congrArg (· = []) hon
        simpa [List.filter_eq_nil_iff] using hempty
      rw [← hactive] at hsettleRight
      by_cases hinactive : SqlAlchemyWatchRepository.listByProduct left product.id = []
      · simp only [hinactive, if_true] at hsettleLeft hsettleRight
        refine alike_of_settle_ok hreturns hsettleLeft hsettleRight ?_ rfl
        rw [foreignKeys_deleteProduct_iff hleft.keys, foreignKeys_deleteProduct_iff hright.keys]
        exact hunused
      · simp only [hinactive, if_false] at hsettleLeft hsettleRight
        exact alike_of_settle_error hreturns hsettleLeft hsettleRight

theorem alike_deleteChannel (hreturns : ∀ turn, (turns turn).failure = none)
    (hsame : SameFor userId left right) (hleft : Sound left) (hright : Sound right)
    (channelId : Nat) :
    Alike (.deleteChannel channelId)
      ((ApiArrival.mk userId (.deleteChannel channelId) turns).serve tie left).1
      ((ApiArrival.mk userId (.deleteChannel channelId) turns).serve tie right).1 := by
  have hsettleLeft : settle tie turns (deleteChannel channelId userId) 0 left = _ :=
    settle_deleteChannel channelId
  have hsettleRight : settle tie turns (deleteChannel channelId userId) 0 right = _ :=
    settle_deleteChannel channelId
  rw [← hsame.ownChannel] at hsettleRight
  cases hown : ownRow NotificationChannelModel.userId left.notificationChannels channelId
      userId with
  | none =>
      rw [hown] at hsettleLeft hsettleRight
      exact alike_of_settle_error hreturns hsettleLeft hsettleRight
  | some channel =>
      rw [hown] at hsettleLeft hsettleRight
      obtain rfl : channel.id = channelId := (ownRow_eq_some_iff.mp hown).2.1
      have hunused : (∀ entry ∈ left.notificationLogs.rows, entry.channelId ≠ channel.id) ↔
          ∀ entry ∈ right.notificationLogs.rows, entry.channelId ≠ channel.id := by
        have hempty := congrArg (· = []) (hsame.logsOfChannel hleft hright hown)
        simpa [List.filter_eq_nil_iff] using hempty
      refine alike_of_settle_ok hreturns hsettleLeft hsettleRight ?_ rfl
      rw [foreignKeys_deleteChannel_iff hleft.keys, foreignKeys_deleteChannel_iff hright.keys]
      exact hunused

/-- The target of the new watch is the only thing another user can have changed. -/
theorem alike_createWatch (hreturns : ∀ turn, (turns turn).failure = none)
    (hsame : SameFor userId left right) (hleft : Sound left) (hright : Sound right)
    (body : WatchCreateSchema) :
    Alike (.createWatch body)
      ((ApiArrival.mk userId (.createWatch body) turns).serve tie left).1
      ((ApiArrival.mk userId (.createWatch body) turns).serve tie right).1 := by
  have hsettleLeft : settle tie turns (createWatch body userId) 0 left = _ :=
    settle_createWatch body
  have hsettleRight : settle tie turns (createWatch body userId) 0 right = _ :=
    settle_createWatch body
  rw [← hsame.ownProduct] at hsettleRight
  cases hown : ownRow ProductModel.userId left.products body.productId userId with
  | none =>
      rw [hown] at hsettleLeft hsettleRight
      exact alike_of_settle_error hreturns hsettleLeft hsettleRight
  | some product =>
      have hownRight := hown
      rw [hsame.ownProduct] at hownRight
      rw [hown] at hsettleLeft hsettleRight
      obtain ⟨leftTarget, leftMid, hleftTarget⟩ := exists_targetFor_eq_ok hleft.targetKeys
        body.retailerSlug body.city body.pincode product.keyword body.intervalSeconds
      obtain ⟨rightTarget, rightMid, hrightTarget⟩ := exists_targetFor_eq_ok hright.targetKeys
        body.retailerSlug body.city body.pincode product.keyword body.intervalSeconds
      simp only [hleftTarget] at hsettleLeft
      simp only [hrightTarget] at hsettleRight
      -- On either side the watch is on one's own product and on an existing target.
      have hcommits : ∀ (db mid : Database) (watchTargetId : Nat), Sound db →
          ownRow ProductModel.userId db.products body.productId userId = some product →
          targetFor db body.retailerSlug body.city body.pincode product.keyword
            body.intervalSeconds = .ok (watchTargetId, mid) →
          ForeignKeys (SqlAlchemyWatchRepository.create mid userId product.id watchTargetId
            body.intervalSeconds).2 := by
        intro db mid watchTargetId hsound hrow htarget
        obtain ⟨hmem, _, howner⟩ := ownRow_eq_some_iff.mp hrow
        obtain ⟨hkeys, hrefers⟩ := foreignKeys_targetFor hsound.keys htarget
        obtain ⟨table, rfl⟩ := exists_targetFor_eq htarget
        exact foreignKeys_createWatch hkeys hmem howner hrefers body.intervalSeconds
      exact alike_of_settle_ok hreturns hsettleLeft hsettleRight
        ⟨fun _ => hcommits right rightMid rightTarget hright hownRight hrightTarget,
          fun _ => hcommits left leftMid leftTarget hleft hown hleftTarget⟩ rfl

theorem alike_updateSetting (hreturns : ∀ turn, (turns turn).failure = none)
    (hsame : SameFor userId left right) (hleft : Sound left) (hright : Sound right)
    (body : SettingUpdateSchema) :
    Alike (.updateSetting body)
      ((ApiArrival.mk userId (.updateSetting body) turns).serve tie left).1
      ((ApiArrival.mk userId (.updateSetting body) turns).serve tie right).1 := by
  have hsettleLeft : settle tie turns (updateSetting body userId) 0 left = _ :=
    settle_updateSetting body
  have hsettleRight : settle tie turns (updateSetting body userId) 0 right = _ :=
    settle_updateSetting body
  unfold withSetting at hsettleLeft hsettleRight
  rw [← hsame.selectSetting] at hsettleRight
  cases hselect : SqlAlchemySettingsRepository.select left userId body.key with
  | error error =>
      rw [hselect] at hsettleLeft hsettleRight
      exact alike_of_settle_error hreturns hsettleLeft hsettleRight
  | ok found =>
      rw [hselect] at hsettleLeft hsettleRight
      cases found with
      | none =>
          refine alike_of_settle_ok hreturns hsettleLeft hsettleRight ?_
            (hsame.getForUser_insert body.key body.value)
          rw [foreignKeys_insertSetting_iff hleft.keys, foreignKeys_insertSetting_iff hright.keys]
          exact hsame.user
      | some existing =>
          exact alike_of_settle_ok hreturns hsettleLeft hsettleRight
            ⟨fun _ => foreignKeys_setValue hright.keys existing.id body.value,
              fun _ => foreignKeys_setValue hleft.keys existing.id body.value⟩
            (hsame.getForUser_setValue existing.id body.value)

theorem alike_deleteWatch (hreturns : ∀ turn, (turns turn).failure = none)
    (hsame : SameFor userId left right) (hleft : Sound left) (hright : Sound right)
    (watchId : Nat) :
    Alike (.deleteWatch watchId)
      ((ApiArrival.mk userId (.deleteWatch watchId) turns).serve tie left).1
      ((ApiArrival.mk userId (.deleteWatch watchId) turns).serve tie right).1 := by
  have hsettleLeft : settle tie turns (deleteWatch watchId userId) 0 left = _ :=
    settle_deleteWatch watchId
  have hsettleRight : settle tie turns (deleteWatch watchId userId) 0 right = _ :=
    settle_deleteWatch watchId
  rw [← hsame.ownWatch] at hsettleRight
  cases hown : ownRow WatchModel.userId left.watches watchId userId with
  | none =>
      rw [hown] at hsettleLeft hsettleRight
      exact alike_of_settle_error hreturns hsettleLeft hsettleRight
  | some watch =>
      rw [hown] at hsettleLeft hsettleRight
      exact alike_of_settle_ok hreturns hsettleLeft hsettleRight
        ⟨fun _ => deactivated_eq right watchId ▸ foreignKeys_deactivated hright.keys watchId,
          fun _ => deactivated_eq left watchId ▸ foreignKeys_deactivated hleft.keys watchId⟩ rfl

theorem alike_createChannel (hreturns : ∀ turn, (turns turn).failure = none)
    (hsame : SameFor userId left right) (hleft : Sound left) (hright : Sound right)
    (body : ChannelCreateSchema) :
    Alike (.createChannel body)
      ((ApiArrival.mk userId (.createChannel body) turns).serve tie left).1
      ((ApiArrival.mk userId (.createChannel body) turns).serve tie right).1 := by
  have hsettleLeft : settle tie turns (createChannel body userId) 0 left = _ :=
    settle_createChannel body
  have hsettleRight : settle tie turns (createChannel body userId) 0 right = _ :=
    settle_createChannel body
  cases htype : NotificationChannelType.ofValue body.type with
  | error error =>
      rw [htype] at hsettleLeft hsettleRight
      exact alike_of_settle_error hreturns hsettleLeft hsettleRight
  | ok type =>
      rw [htype] at hsettleLeft hsettleRight
      refine alike_of_settle_ok hreturns hsettleLeft hsettleRight ?_ rfl
      rw [foreignKeys_createChannel_iff hleft.keys, foreignKeys_createChannel_iff hright.keys]
      exact hsame.user

theorem alike_verifyChannel (hreturns : ∀ turn, (turns turn).failure = none)
    (hsame : SameFor userId left right) (hleft : Sound left) (hright : Sound right)
    (channelId : Nat) :
    Alike (.verifyChannel channelId)
      ((ApiArrival.mk userId (.verifyChannel channelId) turns).serve tie left).1
      ((ApiArrival.mk userId (.verifyChannel channelId) turns).serve tie right).1 := by
  have hsettleLeft : settle tie turns (verifyChannel channelId userId) 0 left = _ :=
    settle_verifyChannel channelId
  have hsettleRight : settle tie turns (verifyChannel channelId userId) 0 right = _ :=
    settle_verifyChannel channelId
  rw [← hsame.ownChannel] at hsettleRight
  cases hown : ownRow NotificationChannelModel.userId left.notificationChannels channelId
      userId with
  | none =>
      rw [hown] at hsettleLeft hsettleRight
      exact alike_of_settle_error hreturns hsettleLeft hsettleRight
  | some channel =>
      rw [hown] at hsettleLeft hsettleRight
      exact alike_of_settle_ok hreturns hsettleLeft hsettleRight
        ⟨fun _ => foreignKeys_markVerified hright.keys channelId,
          fun _ => foreignKeys_markVerified hleft.keys channelId⟩ rfl

theorem alike_getHistory (hreturns : ∀ turn, (turns turn).failure = none)
    (hsame : SameFor userId left right) (hleft : Sound left) (hright : Sound right)
    (watchId : Nat) :
    Alike (.getHistory watchId)
      ((ApiArrival.mk userId (.getHistory watchId) turns).serve tie left).1
      ((ApiArrival.mk userId (.getHistory watchId) turns).serve tie right).1 := by
  have hsettleLeft : settle tie turns (getHistory watchId userId) 0 left = _ :=
    settle_getHistory watchId
  have hsettleRight : settle tie turns (getHistory watchId userId) 0 right = _ :=
    settle_getHistory watchId
  rw [← hsame.ownWatch] at hsettleRight
  cases hown : ownRow WatchModel.userId left.watches watchId userId with
  | none =>
      rw [hown] at hsettleLeft hsettleRight
      exact alike_of_settle_error hreturns hsettleLeft hsettleRight
  | some watch =>
      rw [hown] at hsettleLeft hsettleRight
      obtain ⟨hmem, _, howner⟩ := ownRow_eq_some_iff.mp hown
      exact alike_of_reads hreturns hleft.keys hright.keys hsettleLeft hsettleRight
        (hsame.entriesOf_eq hleft hmem howner 50 none)

theorem alike_priceHistory (hreturns : ∀ turn, (turns turn).failure = none)
    (hsame : SameFor userId left right) (hleft : Sound left) (hright : Sound right)
    (watchId : Nat) (days : Int) :
    Alike (.priceHistory watchId days)
      ((ApiArrival.mk userId (.priceHistory watchId days) turns).serve tie left).1
      ((ApiArrival.mk userId (.priceHistory watchId days) turns).serve tie right).1 := by
  have hsettleLeft : settle tie turns (priceHistory watchId days userId) 0 left = _ :=
    settle_priceHistory watchId days
  have hsettleRight : settle tie turns (priceHistory watchId days userId) 0 right = _ :=
    settle_priceHistory watchId days
  rw [← hsame.ownWatch] at hsettleRight
  cases hown : ownRow WatchModel.userId left.watches watchId userId with
  | none =>
      rw [hown] at hsettleLeft hsettleRight
      exact alike_of_settle_error hreturns hsettleLeft hsettleRight
  | some watch =>
      rw [hown] at hsettleLeft hsettleRight
      obtain ⟨hmem, _, howner⟩ := ownRow_eq_some_iff.mp hown
      cases hdate : daysBefore (turns (0 + 1)).now days with
      | error error =>
          simp only [hdate] at hsettleLeft hsettleRight
          exact alike_of_settle_error hreturns hsettleLeft hsettleRight
      | ok since =>
          simp only [hdate] at hsettleLeft hsettleRight
          refine alike_of_reads hreturns hleft.keys hright.keys hsettleLeft hsettleRight ?_
          unfold SqlAlchemySnapshotRepository.listSince
          rw [hsame.snapshots watch hmem howner]

theorem alike_availabilitySummary (hreturns : ∀ turn, (turns turn).failure = none)
    (hsame : SameFor userId left right) (hleft : Sound left) (hright : Sound right)
    (watchId : Nat) (days : Int) :
    Alike (.availabilitySummary watchId days)
      ((ApiArrival.mk userId (.availabilitySummary watchId days) turns).serve tie left).1
      ((ApiArrival.mk userId (.availabilitySummary watchId days) turns).serve tie right).1 := by
  have hsettleLeft : settle tie turns (availabilitySummary watchId days userId) 0 left = _ :=
    settle_availabilitySummary watchId days
  have hsettleRight : settle tie turns (availabilitySummary watchId days userId) 0 right = _ :=
    settle_availabilitySummary watchId days
  rw [← hsame.ownWatch] at hsettleRight
  cases hown : ownRow WatchModel.userId left.watches watchId userId with
  | none =>
      rw [hown] at hsettleLeft hsettleRight
      exact alike_of_settle_error hreturns hsettleLeft hsettleRight
  | some watch =>
      rw [hown] at hsettleLeft hsettleRight
      obtain ⟨hmem, _, howner⟩ := ownRow_eq_some_iff.mp hown
      cases hdate : daysBefore (turns (0 + 1)).now days with
      | error error =>
          simp only [hdate] at hsettleLeft hsettleRight
          exact alike_of_settle_error hreturns hsettleLeft hsettleRight
      | ok periodStart =>
          simp only [hdate] at hsettleLeft hsettleRight
          refine alike_of_reads hreturns hleft.keys hright.keys hsettleLeft hsettleRight ?_
          rw [hsame.listForWatchTarget_eq hmem howner]

/-- Two sound databases that are the same for a user answer a request of the user alike. -/
theorem alike_serve (hreturns : ∀ turn, (turns turn).failure = none)
    (hsame : SameFor userId left right) (hleft : Sound left) (hright : Sound right)
    (request : ApiRequest) :
    Alike request ((ApiArrival.mk userId request turns).serve tie left).1
      ((ApiArrival.mk userId request turns).serve tie right).1 := by
  cases request with
  | createProduct body =>
      refine alike_of_settle_ok hreturns (settle_createProduct body) (settle_createProduct body)
        ?_ rfl
      rw [foreignKeys_createProduct_iff hleft.keys, foreignKeys_createProduct_iff hright.keys]
      exact hsame.user
  | listProducts =>
      exact alike_of_reads hreturns hleft.keys hright.keys settle_listProducts settle_listProducts
        (congrArg (fun rows => (rows.map toProduct).map ProductSchema.of)
          (congrArg UserRows.products hsame.own))
  | deleteProduct productId => exact alike_deleteProduct hreturns hsame hleft hright productId
  | createWatch body => exact alike_createWatch hreturns hsame hleft hright body
  | listWatches =>
      exact alike_of_reads hreturns hleft.keys hright.keys settle_listWatches settle_listWatches
        (congrArg (fun rows => (rows.map toWatch).map WatchSchema.of)
          (congrArg UserRows.watches hsame.own))
  | deleteWatch watchId => exact alike_deleteWatch hreturns hsame hleft hright watchId
  | createChannel body => exact alike_createChannel hreturns hsame hleft hright body
  | listChannels =>
      exact alike_of_reads hreturns hleft.keys hright.keys settle_listChannels settle_listChannels
        (congrArg (fun rows => (rows.map toNotificationChannel).map ChannelSchema.of)
          (congrArg UserRows.channels hsame.own))
  | verifyChannel channelId => exact alike_verifyChannel hreturns hsame hleft hright channelId
  | deleteChannel channelId => exact alike_deleteChannel hreturns hsame hleft hright channelId
  | listNotificationLog =>
      exact alike_of_reads hreturns hleft.keys hright.keys settle_listNotificationLog
        settle_listNotificationLog
        (congrArg (fun rows => (((orderDesc tie NotificationLogModel.sentAt rows).take 50).map
            toNotificationLog).map NotificationLogEntrySchema.of)
          (congrArg UserRows.logs hsame.own))
  | getSettings =>
      exact alike_of_reads hreturns hleft.keys hright.keys settle_getSettings settle_getSettings
        hsame.getForUser_eq
  | updateSetting body => exact alike_updateSetting hreturns hsame hleft hright body
  | getHistory watchId => exact alike_getHistory hreturns hsame hleft hright watchId
  | priceHistory watchId days => exact alike_priceHistory hreturns hsame hleft hright watchId days
  | availabilitySummary watchId days =>
      exact alike_availabilitySummary hreturns hsame hleft hright watchId days

end Requests

/-! ## The result -/

/-- The first user has a product, which no one watches. -/
def ownProductDb : Database :=
  { shelfDb with
    users := sharedDb.users
    watchTargets := Table.empty.insert fun id =>
      ⟨id, "blinkit", "Delhi", "110001", "milk", 120, none⟩ }

/-- The second user watches the first user's product. -/
def strangerDb : Database :=
  { ownProductDb with watches := Table.empty.insert fun id => ⟨id, 2, 1, 1, 60, true⟩ }

/-- An event of the first user's target refers to a snapshot of another target. -/
def strayDb : Database :=
  { ownProductDb with
    watchTargets := ownProductDb.watchTargets.insert fun id =>
      ⟨id, "zepto", "Pune", "411001", "bread", 120, none⟩
    watches := Table.empty.insert fun id => ⟨id, 1, 1, 1, 60, true⟩
    snapshots := Table.empty.insert fun id =>
      ⟨id, 2, 9, .available, some 40, none, none, none, none, none, none, [], none⟩
    detectionEvents := Table.empty.insert fun id => ⟨id, 1, 1, none, .stockAvailable, 9⟩ }

/-- In a database whose rows refer across users and targets a response can show more: the
databases `ownProductDb` and `strangerDb` are the same for the first user, but the answers to
the deletion of the product are not, since a watch counts whoever owns it; and in `strayDb`
the history of a watch shows the snapshot of another target. -/
theorem foreign_watch_seen :
    (SameFor 1 ownProductDb strangerDb ∧ ForeignKeys ownProductDb ∧ ForeignKeys strangerDb ∧
      ((ApiArrival.mk 1 (.deleteProduct 1) regretTurns).serve (fun key => key) ownProductDb).1 =
        .ok () ∧
      ((ApiArrival.mk 1 (.deleteProduct 1) regretTurns).serve (fun key => key) strangerDb).1 =
        .error (.httpException 409
          "Cannot delete a product with active watches; remove its watches first")) ∧
      ForeignKeys strayDb ∧ Watches strayDb 1 1 1 ∧
      SqlAlchemySnapshotRepository.ofTarget strayDb 1 = [] ∧
      ∃ entry, ((ApiArrival.mk 1 (.getHistory 1) regretTurns).serve (fun key => key) strayDb).1 =
        .ok [entry] := by
  refine ⟨⟨⟨Iff.rfl, rfl, ?_, ?_⟩, by decide, by decide, ?_, ?_⟩, by decide, ?_, rfl, _, rfl⟩
  · intro watch hwatch
    cases hwatch
  · intro watch hwatch
    cases hwatch
  · decide +kernel
  · decide +kernel
  · exact ⟨_, List.mem_singleton_self _, rfl, rfl, rfl⟩

/-- A request writes no row of another user, and its response shows only the user's rows and
what is known of the user's targets; the snapshots of a history are the target's where events
refer to snapshots of their own target.  In a sound database, which a request keeps sound,
the response to a request whose calls return is the same in every sound database that is the
same for the user. -/
theorem users_isolated (tie : Nat → Nat) (arrival : ApiArrival) (db : Database) :
    othersRows (arrival.serve tie db).2 arrival.userId = othersRows db arrival.userId ∧
      (∀ value, (arrival.serve tie db).1 = .ok value →
        Belongs (arrival.serve tie db).2 arrival.userId arrival.request value ∧
        ((∀ event ∈ db.detectionEvents.rows, ∀ snapshot ∈ db.snapshots.rows,
            snapshot.id = event.snapshotId → snapshot.watchTargetId = event.watchTargetId) →
          OwnSnapshots (arrival.serve tie db).2 arrival.userId arrival.request value)) ∧
      (Sound db →
        Sound (arrival.serve tie db).2 ∧
        ((∀ turn, (arrival.turns turn).failure = none) → ∀ other, Sound other →
          SameFor arrival.userId db other →
          Alike arrival.request (arrival.serve tie db).1 (arrival.serve tie other).1)) := by
  refine ⟨othersRows_serve tie arrival db, ?_, fun hsound => ⟨sound_serve tie arrival hsound, ?_⟩⟩
  · intro value hvalue
    rcases serve_cases tie arrival db with ⟨error, hserve⟩ | ⟨returned, next, hsettle, _, hserve⟩
    · rw [hserve] at hvalue
      cases hvalue
    · rw [hserve] at hvalue ⊢
      cases hvalue
      exact ⟨belongs_of_settle hsettle, fun hevents => ownSnapshots_of_settle hevents hsettle⟩
  · intro hreturns other hother hsame
    exact alike_serve hreturns hsame hsound hother arrival.request

/-- The second user watches a product of their own. -/
def neighbourDb : Database :=
  { ownProductDb with
    products := ownProductDb.products.insert fun id => ⟨id, 2, "bread", "bread", none⟩
    watches := Table.empty.insert fun id => ⟨id, 2, 2, 1, 60, true⟩ }

theorem neighbour_not_seen :
    Alike (.deleteProduct 1)
      ((ApiArrival.mk 1 (.deleteProduct 1) regretTurns).serve (fun key => key) ownProductDb).1
      ((ApiArrival.mk 1 (.deleteProduct 1) regretTurns).serve (fun key => key) neighbourDb).1 := by
  have hown : Sound ownProductDb := ⟨by decide, by decide, by decide, by decide, by decide⟩
  have hneighbour : Sound neighbourDb := ⟨by decide, by decide, by decide, by decide, by decide⟩
  have hsame : SameFor 1 ownProductDb neighbourDb := by
    refine ⟨Iff.rfl, rfl, ?_, ?_⟩
    · intro watch hwatch
      cases hwatch
    · intro watch hwatch
      cases hwatch
  exact ((users_isolated (fun key => key) ⟨1, .deleteProduct 1, regretTurns⟩ ownProductDb).2.2
    hown).2 (fun _ => rfl) neighbourDb hneighbour hsame

end StockMonitoring.Api
