import StockMonitoring.Api.RequestFacts
import StockMonitoring.Api.ConcurrentWatches
import StockMonitoring.Api.WatchLinks

set_option autoImplicit false

/-!
# Api: all requests beside each other

What was proved of requests one after another holds for any interleaving of them: the end
of a request changes rows of its own user only (`requests_spare_others`), and the watches
stay on products of their user and on targets with the product's keyword
(`watches_stay_linked_concurrently`).
-/

namespace StockMonitoring.Api

open StockMonitoring.Foundation StockMonitoring.Domain StockMonitoring.Infrastructure.Db

/-! ## What the tables keep -/

/-- The product a write adds. -/
def ApiWrite.addedProduct : ApiWrite → Option ProductModel
  | .product row => some row
  | _ => none

/-- The channel a write adds. -/
def ApiWrite.addedChannel : ApiWrite → Option NotificationChannelModel
  | .channel row => some row
  | _ => none

/-- Products and channels get keys that the sequences have not given yet. -/
theorem other_added_keys {db : Database} {op : ApiOp} {write : ApiWrite}
    (hwrite : write ∈ apiWrites db op) :
    (∀ row, write.addedProduct = some row → db.products.nextId ≤ row.id) ∧
      ∀ row, write.addedChannel = some row → db.notificationChannels.nextId ≤ row.id := by
  cases op with
  | createProduct | insertWatchTarget | createWatch | createChannel | insertSetting | setInterval
  | setValue | deactivate | markVerified | deleteProduct | deleteChannel =>
      obtain rfl := List.mem_singleton.mp hwrite
      refine ⟨?_, ?_⟩ <;> intro row hrow <;> cases hrow <;> exact Nat.le_refl _
  | _ => cases hwrite

/-- After a deletion there is no more to refer to than before. -/
theorem refers_of_delete {Row : Type} [Keyed Row] {table : Table Row} {id other : Nat}
    (hrefers : Refers (table.delete id) other) : Refers table other := by
  obtain ⟨row, hrow, rfl⟩ := exists_of_refers hrefers
  exact refers_of_mem (List.mem_of_mem_filter hrow)

theorem productTable : TableOf Database.products ApiWrite.addedProduct := by
  refine ⟨?_, ?_, ?_⟩
  · intro db write row hrow
    cases write <;> cases hrow
    exact ⟨rfl, rfl⟩
  · intro db write hnone
    cases write with
    | product row => cases hnone
    | productGone productId =>
        have hleft : (ApiWrite.apply db (.productGone productId)).products = _ :=
          deleteIfAny_snd db.products productId
        rw [hleft]
        exact ⟨rfl, rfl, fun _ => refers_of_delete⟩
    | _ => exact ⟨rfl, rfl, fun _ hkey => hkey⟩
  · intro db op write hwrite row hrow
    exact (other_added_keys hwrite).1 row hrow

theorem channelTable : TableOf Database.notificationChannels ApiWrite.addedChannel := by
  refine ⟨?_, ?_, ?_⟩
  · intro db write row hrow
    cases write <;> cases hrow
    exact ⟨rfl, rfl⟩
  · intro db write hnone
    cases write with
    | channel row => cases hnone
    | verified channelId =>
        have hleft : (ApiWrite.apply db (.verified channelId)).notificationChannels = _ :=
          updateOne_snd db.notificationChannels channelId _ _
        rw [hleft]
        exact ⟨rfl, rfl, fun _ => refers_of_modify _⟩
    | channelGone channelId =>
        have hleft : (ApiWrite.apply db (.channelGone channelId)).notificationChannels = _ :=
          deleteIfAny_snd db.notificationChannels channelId
        rw [hleft]
        exact ⟨rfl, rfl, fun _ => refers_of_delete⟩
    | _ => exact ⟨rfl, rfl, fun _ hkey => hkey⟩
  · intro db op write hwrite row hrow
    exact (other_added_keys hwrite).2 row hrow

section Kept

variable {Row A : Type} [Keyed Row] {table : Table Row} {id : Nat} {row : Row} (value : Row → A)

/-- A row of a table with one more row. -/
theorem kept_of_mem_place {other : Row} (hrow : row ∈ (table.place other).rows) :
    some other = some row ∨
      ∃ old ∈ table.rows, Keyed.key old = Keyed.key row ∧ value old = value row := by
  rcases Table.mem_of_mem_place hrow with hold | rfl
  · exact Or.inr ⟨row, hold, rfl, rfl⟩
  · exact Or.inl rfl

/-- A row of a changed table, where the change keeps the value. -/
theorem kept_of_mem_modify {change : Row → Row}
    (hkey : ∀ row, Keyed.key (change row) = Keyed.key row)
    (hvalue : ∀ row, value (change row) = value row)
    (hrow : row ∈ (table.modify id change hkey).rows) :
    ∃ old ∈ table.rows, Keyed.key old = Keyed.key row ∧ value old = value row := by
  obtain ⟨old, hold, rfl | rfl⟩ := Table.exists_of_mem_modify hkey hrow
  · exact ⟨row, hold, rfl, rfl⟩
  · exact ⟨old, hold, (hkey old).symm, (hvalue old).symm⟩

end Kept

theorem products_keep :
    KeepsValue Database.products ApiWrite.addedProduct fun row => (row.userId, row.keyword) := by
  intro db write row hrow
  cases write with
  | product other => exact kept_of_mem_place _ hrow
  | productGone productId =>
      change row ∈ (deleteIfAny db.products productId).2.rows at hrow
      rw [deleteIfAny_snd] at hrow
      exact Or.inr ⟨row, List.mem_of_mem_filter hrow, rfl, rfl⟩
  | _ => exact Or.inr ⟨row, hrow, rfl, rfl⟩

theorem watches_keep : KeepsValue Database.watches ApiWrite.addedWatch fun row =>
    (row.userId, row.productId, row.watchTargetId) := by
  intro db write row hrow
  cases write with
  | watch other => exact kept_of_mem_place _ hrow
  | deactivated watchId =>
      change row ∈ (updateIfAny db.watches watchId _ _).2.rows at hrow
      rw [updateIfAny_snd] at hrow
      exact Or.inr (kept_of_mem_modify _ _ (by intro _; rfl) hrow)
  | _ => exact Or.inr ⟨row, hrow, rfl, rfl⟩

theorem channels_keep : KeepsValue Database.notificationChannels ApiWrite.addedChannel
    NotificationChannelModel.userId := by
  intro db write row hrow
  cases write with
  | channel other => exact kept_of_mem_place _ hrow
  | verified channelId =>
      change row ∈ (updateOne db.notificationChannels channelId _ _).2.rows at hrow
      rw [updateOne_snd] at hrow
      exact Or.inr (kept_of_mem_modify _ _ (by intro _; rfl) hrow)
  | channelGone channelId =>
      change row ∈ (deleteIfAny db.notificationChannels channelId).2.rows at hrow
      rw [deleteIfAny_snd] at hrow
      exact Or.inr ⟨row, List.mem_of_mem_filter hrow, rfl, rfl⟩
  | _ => exact Or.inr ⟨row, hrow, rfl, rfl⟩

theorem settings_keep :
    KeepsValue Database.settings ApiWrite.addedSetting SettingsModel.userId := by
  intro db write row hrow
  cases write with
  | setting other => exact kept_of_mem_place _ hrow
  | valueSet settingId value =>
      exact Or.inr (kept_of_mem_modify _ (by intro _; rfl) (by intro _; rfl) hrow)
  | _ => exact Or.inr ⟨row, hrow, rfl, rfl⟩

theorem targets_keep :
    KeepsValue Database.watchTargets ApiWrite.addedTarget WatchTargetModel.keyword := by
  intro db write row hrow
  cases write with
  | watchTarget other => exact kept_of_mem_place _ hrow
  | intervalSet watchTargetId intervalSeconds =>
      exact Or.inr (kept_of_mem_modify _ (by intro _; rfl) (by intro _; rfl) hrow)
  | _ => exact Or.inr ⟨row, hrow, rfl, rfl⟩

/-- So is what is computed from a value that no write changes. -/
theorem KeepsValue.map {Row A B : Type} [Keyed Row] {table : Database → Table Row}
    {added : ApiWrite → Option Row} {value : Row → A} (hkeeps : KeepsValue table added value)
    (part : A → B) : KeepsValue table added fun row => part (value row) := by
  intro db write row hrow
  rcases hkeeps db write row hrow with hadded | ⟨old, hold, hkey, hvalue⟩
  · exact Or.inl hadded
  · exact Or.inr ⟨old, hold, hkey, congrArg part hvalue⟩

/-! ## What lookups tell -/

section Told

variable {tie : Nat → Nat} {committed after : Database} {turn : ApiTurn} {session : RestSession}
  {op : ApiOp} {reply : Reply apiPort Raised op} {left : List ApiWrite}
  {resume : Reply apiPort Raised op → Endpoint (Σ request : ApiRequest, request.Response)}
  {key : Nat}

/-- A row that was found speaks for its key. -/
theorem told_of_row {Row A : Type} [Keyed Row] {table : Database → Table Row} {value : Row → A}
    {row : Row} {said : A} (hrow : row ∈ (table committed).rows) (hkey : Keyed.key row = key)
    (hvalue : value row = said) :
    Refers (table committed) key ∧ Says table value committed key said := by
  subst hkey hvalue
  exact ⟨refers_of_mem hrow, says_of_mem hrow⟩

/-- What a call of a session without writes answers is what is committed. -/
theorem lookup_ok {answer : op.Answer} (hsession : ResponsibleSession session)
    (hprogram : session.program = .call op resume)
    (hlookup : Permitted session.key.userId op (heardOf session) →
      ∀ event ∈ heardOf session, event.op.reads = true)
    (hrespond : (restSessions tie).respond op turn committed session.work = (reply, after, left))
    (hreply : reply = .ok answer) : (apiWork tie turn op committed).1 = .ok answer := by
  have hanswer := respond_ok hrespond hreply
  rw [clean_of_lookup hsession hprogram hlookup] at hanswer
  exact hanswer

theorem told_product {said : Nat × String} (hsession : ResponsibleSession session)
    (hprogram : session.program = .call op resume)
    (hrespond : (restSessions tie).respond op turn committed session.work = (reply, after, left))
    (htells : tellsProduct ⟨op, reply⟩ key said) :
    Refers committed.products key ∧
      Says Database.products (fun row => (row.userId, row.keyword)) committed key said := by
  cases op with
  | getProduct productId =>
      cases reply with
      | error error => cases htells
      | ok answer =>
          cases answer with
          | none => cases htells
          | some product =>
              obtain ⟨rfl, hvalue⟩ := htells
              have hanswer := lookup_ok hsession hprogram id hrespond rfl
              change SqlAlchemyProductRepository.getById committed productId = _ at hanswer
              rw [SqlAlchemyProductRepository.getById_eq, Except.ok.injEq] at hanswer
              obtain ⟨row, hfind, rfl⟩ := Option.map_eq_some_iff.mp hanswer
              exact told_of_row (Table.mem_of_find? hfind) (Table.key_of_find? hfind) hvalue
  | _ => cases htells

theorem told_watch {said : Nat} (hsession : ResponsibleSession session)
    (hprogram : session.program = .call op resume)
    (hrespond : (restSessions tie).respond op turn committed session.work = (reply, after, left))
    (htells : tellsWatch ⟨op, reply⟩ key said) :
    Refers committed.watches key ∧ Says Database.watches WatchModel.userId committed key said := by
  cases op with
  | getWatch watchId =>
      cases reply with
      | error error => cases htells
      | ok answer =>
          cases answer with
          | none => cases htells
          | some watch =>
              obtain ⟨rfl, hvalue⟩ := htells
              have hanswer := lookup_ok hsession hprogram id hrespond rfl
              change SqlAlchemyWatchRepository.getById committed watchId = _ at hanswer
              rw [SqlAlchemyWatchRepository.getById_eq, Except.ok.injEq] at hanswer
              obtain ⟨row, hfind, rfl⟩ := Option.map_eq_some_iff.mp hanswer
              exact told_of_row (Table.mem_of_find? hfind) (Table.key_of_find? hfind) hvalue
  | _ => cases htells

theorem told_channel {said : Nat} (hsession : ResponsibleSession session)
    (hprogram : session.program = .call op resume)
    (hrespond : (restSessions tie).respond op turn committed session.work = (reply, after, left))
    (htells : tellsChannel ⟨op, reply⟩ key said) :
    Refers committed.notificationChannels key ∧
      Says Database.notificationChannels NotificationChannelModel.userId committed key said := by
  cases op with
  | getChannel channelId =>
      cases reply with
      | error error => cases htells
      | ok answer =>
          cases answer with
          | none => cases htells
          | some channel =>
              obtain ⟨rfl, hvalue⟩ := htells
              have hanswer := lookup_ok hsession hprogram id hrespond rfl
              change SqlAlchemyNotificationChannelRepository.getById committed channelId = _
                at hanswer
              rw [SqlAlchemyNotificationChannelRepository.getById_eq, Except.ok.injEq] at hanswer
              obtain ⟨row, hfind, rfl⟩ := Option.map_eq_some_iff.mp hanswer
              exact told_of_row (Table.mem_of_find? hfind) (Table.key_of_find? hfind) hvalue
  | _ => cases htells

theorem told_setting {said : Option Nat} (hsession : ResponsibleSession session)
    (hprogram : session.program = .call op resume)
    (hrespond : (restSessions tie).respond op turn committed session.work = (reply, after, left))
    (htells : tellsSetting ⟨op, reply⟩ key said) :
    Refers committed.settings key ∧
      Says Database.settings SettingsModel.userId committed key said := by
  cases op with
  | selectSetting userId name =>
      cases reply with
      | error error => cases htells
      | ok answer =>
          cases answer with
          | none => cases htells
          | some setting =>
              obtain ⟨hkey, hvalue⟩ := htells
              have hanswer := lookup_ok hsession hprogram id hrespond rfl
              change SqlAlchemySettingsRepository.select committed userId name = _ at hanswer
              exact told_of_row (List.mem_of_mem_filter (mem_of_scalarOneOrNone hanswer)) hkey
                hvalue
  | _ => cases htells

theorem told_target {said : String} (hsession : ResponsibleSession session)
    (hprogram : session.program = .call op resume)
    (hrespond : (restSessions tie).respond op turn committed session.work = (reply, after, left))
    (htells : tellsTarget ⟨op, reply⟩ key said) :
    Refers committed.watchTargets key ∧
      Says Database.watchTargets WatchTargetModel.keyword committed key said := by
  cases op with
  | selectWatchTarget retailerSlug city pincode keyword =>
      cases reply with
      | error error => cases htells
      | ok answer =>
          cases answer with
          | none => cases htells
          | some target =>
              obtain ⟨hkey, hvalue⟩ := htells
              have hanswer := lookup_ok hsession hprogram id hrespond rfl
              change SqlAlchemyWatchTargetRepository.select committed _ _ _ _ = _ at hanswer
              exact told_of_row (List.mem_of_mem_filter (mem_of_scalarOneOrNone hanswer)) hkey
                hvalue
  | _ => cases htells

end Told

/-! ## What a session may rely on -/

variable (tie : Nat → Nat)

/-- The owner and the keyword of a product. -/
def lastingProduct :
    Lasting (productTable.sequence tie UserRequest.program) ResponsibleSession (Nat × String) :=
  lastingValue tie productTable products_keep tellsProduct
    fun _ _ _ _ _ _ _ _ hsession hprogram hrespond _ _ htells =>
      told_product hsession hprogram hrespond htells

/-- The owner of a watch. -/
def lastingWatch :
    Lasting (watchTable.sequence tie UserRequest.program) ResponsibleSession Nat :=
  lastingValue tie watchTable (watches_keep.map Prod.fst) tellsWatch
    fun _ _ _ _ _ _ _ _ hsession hprogram hrespond _ _ htells =>
      told_watch hsession hprogram hrespond htells

/-- The owner of a channel. -/
def lastingChannel :
    Lasting (channelTable.sequence tie UserRequest.program) ResponsibleSession Nat :=
  lastingValue tie channelTable channels_keep tellsChannel
    fun _ _ _ _ _ _ _ _ hsession hprogram hrespond _ _ htells =>
      told_channel hsession hprogram hrespond htells

/-- The owner of a setting. -/
def lastingSetting :
    Lasting (settingTable.sequence tie UserRequest.program) ResponsibleSession (Option Nat) :=
  lastingValue tie settingTable settings_keep tellsSetting
    fun _ _ _ _ _ _ _ _ hsession hprogram hrespond _ _ htells =>
      told_setting hsession hprogram hrespond htells

/-- The keyword of a watch target. -/
def lastingTarget :
    Lasting (watchTargetTable.sequence tie UserRequest.program) ResponsibleSession String :=
  lastingValue tie watchTargetTable targets_keep tellsTarget
    fun _ _ _ _ _ _ _ _ hsession hprogram hrespond _ _ htells =>
      told_target hsession hprogram hrespond htells

variable {tie}

/-- What holds of the sessions at every move of a run. -/
structure Informed (tie : Nat → Nat) (system : RestSystem) : Prop where
  responsible : ∀ session ∈ system.sessions, ResponsibleSession session
  product : ∀ session ∈ system.sessions, (lastingProduct tie).Known system.committed session
  watch : ∀ session ∈ system.sessions, (lastingWatch tie).Known system.committed session
  channel : ∀ session ∈ system.sessions, (lastingChannel tie).Known system.committed session
  setting : ∀ session ∈ system.sessions, (lastingSetting tie).Known system.committed session
  target : ∀ session ∈ system.sessions, (lastingTarget tie).Known system.committed session
  productFree : (productTable.sequence tie UserRequest.program).Free system
  targetFree : (watchTargetTable.sequence tie UserRequest.program).Free system

/-- At every move of every run what the sessions have read is still so. -/
theorem along_informed (tie : Nat → Nat) (db : Database) (moves : List RestMove) :
    Along (restSessions tie).step (fun system _ => Informed tie system) ⟨db, []⟩ moves := by
  have hany : Along (restSessions tie).step (fun _ _ => True) ⟨db, []⟩ moves :=
    along_of_forall (fun _ _ => trivial) _ _
  have hown := along_own ResponsibleSession (fun key _ => responsible_opened key)
    (fun _ _ _ _ _ => responsible_called) (fun _ _ _ _ => responsible_finished) hany
  have hproduct := (lastingProduct tie).along_known
    (fun _ => TableOf.behind Database.products db) hown
  have hwatch := (lastingWatch tie).along_known (fun _ => TableOf.behind Database.watches db) hown
  have hchannel := (lastingChannel tie).along_known
    (fun _ => TableOf.behind Database.notificationChannels db) hown
  have hsetting := (lastingSetting tie).along_known
    (fun _ => TableOf.behind Database.settings db) hown
  have htarget := (lastingTarget tie).along_known
    (fun _ => TableOf.behind Database.watchTargets db) hown
  have hproductFree := (productTable.sequence tie UserRequest.program).along_free
    (fun _ => TableOf.behind Database.products db) hany
  have htargetFree := (watchTargetTable.sequence tie UserRequest.program).along_free
    (fun _ => TableOf.behind Database.watchTargets db) hany
  refine ((hown.and (hproduct.and (hwatch.and (hchannel.and (hsetting.and
    (htarget.and (hproductFree.and htargetFree))))))).imp ?_)
  rintro system move ⟨⟨_, hown⟩, ⟨_, hproduct⟩, ⟨_, hwatch⟩, ⟨_, hchannel⟩, ⟨_, hsetting⟩,
    ⟨_, htarget⟩, ⟨_, hproductFree⟩, _, htargetFree⟩
  exact ⟨hown, hproduct, hwatch, hchannel, hsetting, htarget, hproductFree, htargetFree⟩

/-- What a session has heard, it has learned. -/
theorem learned_of_told {K α W A : Type} {tells : Event apiPort Raised → Nat → A → Prop}
    {session : Session K apiPort Raised α W ApiTurn} {key : Nat} {value : A}
    (htold : Told tells (session.calls.map Prod.snd) key value) :
    ∃ call ∈ session.calls, tells call.2 key value := by
  obtain ⟨event, hevent, htells⟩ := htold
  obtain ⟨call, hcall, rfl⟩ := List.mem_map.mp hevent
  exact ⟨call, hcall, htells⟩

/-! ## The rows of the others -/

/-- The write is on rows of the user, in this database. -/
def Owned (userId : Nat) (db : Database) : ApiWrite → Prop
  | .product row => row.userId = userId
  | .watch row => row.userId = userId
  | .channel row => row.userId = userId
  | .setting row => row.userId = some userId
  | .productGone productId => ∀ row ∈ db.products.rows, row.id = productId → row.userId = userId
  | .deactivated watchId => ∀ row ∈ db.watches.rows, row.id = watchId → row.userId = userId
  | .verified channelId | .channelGone channelId =>
      ∀ row ∈ db.notificationChannels.rows, row.id = channelId → row.userId = userId
  | .valueSet settingId _ =>
      ∀ row ∈ db.settings.rows, row.id = settingId → row.userId = some userId
  | .watchTarget _ | .intervalSet _ _ => True

section Spared

variable {userId : Nat} {db : Database}

section Queries

variable {Row : Type} [Keyed Row] {table : Table Row} {test : Row → Bool} {id : Nat}

/-- A query does not see a row that it does not select come in. -/
theorem filter_place {row : Row} (hnew : test row = false) :
    (table.place row).rows.filter test = table.rows.filter test := by
  by_cases hmem : Keyed.key row ∈ table.rows.map Keyed.key
  · rw [Table.place_of_mem hmem]
  · rw [Table.rows_place hmem, List.filter_append, List.filter_cons_of_neg (by simp [hnew]),
      List.filter_nil, List.append_nil]

/-- Nor a change under a key, if it would not select the row there. -/
theorem filter_modify_key {change : Row → Row}
    (hkey : ∀ row, Keyed.key (change row) = Keyed.key row)
    (htest : ∀ row, test (change row) = test row)
    (hnone : ∀ row ∈ table.rows, Keyed.key row = id → test row = false) :
    (table.modify id change hkey).rows.filter test = table.rows.filter test := by
  cases hfind : table.find? id with
  | none => rw [Table.modify_of_find?_eq_none hfind]
  | some row =>
      obtain ⟨hrow, rfl⟩ := Table.find?_eq_some_iff.mp hfind
      have hbefore := hnone row hrow rfl
      exact Table.filter_modify hkey hrow hbefore ((htest row).trans hbefore)

/-- Nor a deletion. -/
theorem filter_delete_key (hnone : ∀ row ∈ table.rows, Keyed.key row = id → test row = false) :
    (table.delete id).rows.filter test = table.rows.filter test := by
  rw [Table.rows_delete, List.filter_filter]
  apply List.filter_congr
  intro row hrow
  by_cases hid : Keyed.key row = id
  · rw [hnone row hrow hid, Bool.false_and]
  · simp [hid]

end Queries

/-- A write on rows of a user is not seen among the rows of others. -/
theorem rowsOf_of_owned {test : Option Nat → Bool} (htest : test (some userId) = false)
    {write : ApiWrite} (howned : Owned userId db write) :
    rowsOf test (write.apply db) = rowsOf test db := by
  unfold rowsOf
  cases write with
  | watchTarget | intervalSet => rfl
  | product row | watch row | channel row =>
      congr 1
      refine filter_place ?_
      rw [show row.userId = userId from howned, htest]
  | setting row =>
      congr 1
      refine filter_place ?_
      rw [show row.userId = some userId from howned, htest]
  | valueSet settingId value =>
      congr 1
      refine filter_modify_key (by intro _; rfl) (fun _ => rfl) fun row hrow hid => ?_
      rw [howned row hrow hid, htest]
  | deactivated watchId =>
      congr 1
      change List.filter _ (updateIfAny db.watches watchId _ _).2.rows = _
      rw [updateIfAny_snd]
      refine filter_modify_key _ (fun _ => rfl) fun row hrow hid => ?_
      rw [howned row hrow hid, htest]
  | verified channelId =>
      congr 1
      change List.filter _ (updateOne db.notificationChannels channelId _ _).2.rows = _
      rw [updateOne_snd]
      refine filter_modify_key _ (fun _ => rfl) fun row hrow hid => ?_
      rw [howned row hrow hid, htest]
  | productGone productId =>
      congr 1
      change List.filter _ (deleteIfAny db.products productId).2.rows = _
      rw [deleteIfAny_snd]
      refine filter_delete_key fun row hrow hid => ?_
      rw [howned row hrow hid, htest]
  | channelGone channelId =>
      congr 1
      change List.filter _ (deleteIfAny db.notificationChannels channelId).2.rows = _
      rw [deleteIfAny_snd]
      refine filter_delete_key fun row hrow hid => ?_
      rw [howned row hrow hid, htest]

/-- Rows that were the user's, and a new row of the user. -/
theorem owner_apply {Row A : Type} [Keyed Row] {table : Database → Table Row}
    {added : ApiWrite → Option Row} {value : Row → A} (hkeeps : KeepsValue table added value)
    {said : A} {write : ApiWrite} (hadded : ∀ row, added write = some row → value row = said)
    {key : Nat} (hold : Says table value db key said) :
    Says table value (write.apply db) key said := by
  intro row hrow hkey
  rcases hkeeps db write row hrow with hnew | ⟨old, holdRow, holdKey, hvalue⟩
  · exact hadded row hnew
  · exact hvalue.symm.trans (hold old holdRow (holdKey.trans hkey))

/-- What is the user's stays the user's. -/
theorem Owned.apply {write later : ApiWrite} (hwrite : Owned userId db write)
    (hlater : Owned userId db later) : Owned userId (write.apply db) later := by
  have hproduct : ∀ row, write.addedProduct = some row → row.userId = userId := by
    intro row hrow
    cases write <;> cases hrow
    exact hwrite
  have hwatch : ∀ row, write.addedWatch = some row → row.userId = userId := by
    intro row hrow
    cases write <;> cases hrow
    exact hwrite
  have hchannel : ∀ row, write.addedChannel = some row → row.userId = userId := by
    intro row hrow
    cases write <;> cases hrow
    exact hwrite
  have hsetting : ∀ row, write.addedSetting = some row → row.userId = some userId := by
    intro row hrow
    cases write <;> cases hrow
    exact hwrite
  cases later with
  | product | watch | channel | setting => exact hlater
  | watchTarget | intervalSet => trivial
  | productGone productId => exact owner_apply (products_keep.map Prod.fst) hproduct hlater
  | deactivated watchId => exact owner_apply (watches_keep.map Prod.fst) hwatch hlater
  | verified | channelGone => exact owner_apply channels_keep hchannel hlater
  | valueSet settingId value => exact owner_apply settings_keep hsetting hlater

/-- Neither are the writes of a session, one after another. -/
theorem rowsOf_shown {test : Option Nat → Bool} (htest : test (some userId) = false)
    {work : List ApiWrite} (howned : ∀ write ∈ work, Owned userId db write) :
    rowsOf test (shown db work) = rowsOf test db := by
  induction work generalizing db with
  | nil => rfl
  | cons write later ih =>
      have hwrite := howned write List.mem_cons_self
      have hlater : ∀ other ∈ later, Owned userId (write.apply db) other :=
        fun other hother => hwrite.apply (howned other (List.mem_cons_of_mem _ hother))
      exact (ih hlater).trans (rowsOf_of_owned htest hwrite)

end Spared

section Moves

variable {system next : RestSystem} {index : Nat} {session : RestSession}

/-- What a session has written is still on rows of its user. -/
theorem owned_of_informed (hinformed : Informed tie system) (hsession : session ∈ system.sessions) :
    ∀ write ∈ session.work, Owned session.key.userId system.committed write := by
  intro write hwrite
  have hjustified := (hinformed.responsible session hsession).justified write hwrite
  cases write with
  | product | channel | setting => exact hjustified
  | watchTarget | intervalSet => trivial
  | watch row => exact hjustified.1
  | productGone productId =>
      obtain ⟨keyword, htold⟩ := hjustified
      have hknown := hinformed.product session hsession _ _ (learned_of_told htold)
      intro row hrow hid
      exact congrArg Prod.fst (hknown.2.2 row hrow hid)
  | deactivated watchId =>
      exact (hinformed.watch session hsession _ _ (learned_of_told hjustified)).2.2
  | verified | channelGone =>
      exact (hinformed.channel session hsession _ _ (learned_of_told hjustified)).2.2
  | valueSet settingId value =>
      exact (hinformed.setting session hsession _ _ (learned_of_told hjustified)).2.2

/-- Drawing keys is not seen among the rows. -/
theorem rowsOf_reserves (test : Option Nat → Bool) (db : Database) (writes : List ApiWrite) :
    rowsOf test (writes.foldl ApiWrite.reserve db) = rowsOf test db := by
  have hreserve : ∀ other (write : ApiWrite), rowsOf test other = rowsOf test db →
      rowsOf test (write.reserve other) = rowsOf test db := by
    intro other write hother
    rw [← hother]
    cases write <;> rfl
  exact reserves_invariant hreserve writes rfl

/-- A commit is the only move that changes rows, and these are of the session's user. -/
theorem rowsOf_step {move : RestMove} (hinformed : Informed tie system)
    (hstep : (restSessions tie).step system move = some next) {test : Option Nat → Bool}
    (htest : ∀ index session, move = .finish index → system.sessions[index]? = some session →
      test (some session.key.userId) = false) :
    rowsOf test next.committed = rowsOf test system.committed := by
  cases move with
  | outside change => cases change
  | start key =>
      cases hstep
      rfl
  | call index turn =>
      obtain ⟨session, _, hcall⟩ := Option.bind_eq_some_iff.mp hstep
      obtain ⟨⟨committed, after⟩, hcalled, rfl⟩ := Option.map_eq_some_iff.mp hcall
      obtain ⟨writes, rfl⟩ := called_reserves hcalled
      exact rowsOf_reserves test _ writes
  | finish index =>
      obtain ⟨session, hsession, hfinish⟩ := Option.bind_eq_some_iff.mp hstep
      obtain ⟨⟨committed, after⟩, hfinished, rfl⟩ := Option.map_eq_some_iff.mp hfinish
      obtain ⟨_, ⟨value, _, hcommit, _⟩ | ⟨error, _, rfl, _⟩⟩ :=
        SessionSpec.finished_cases hfinished
      · simp only [restSessions, apiSessions] at hcommit
        split at hcommit
        · cases hcommit
          exact rowsOf_shown (htest index session rfl hsession)
            (owned_of_informed hinformed (List.mem_of_getElem? hsession))
        · cases hcommit
      · rfl

end Moves

/-- What a move does to the rows that have an owner: the end of a request leaves those of
all other users, and every other move leaves all. -/
def SparesOthers (tie : Nat → Nat) (system : RestSystem) : RestMove → Prop
  | .finish index => ∀ session next, system.sessions[index]? = some session →
      (restSessions tie).step system (.finish index) = some next →
        othersRows next.committed session.key.userId =
          othersRows system.committed session.key.userId
  | move => ∀ next, (restSessions tie).step system move = some next →
      ∀ userId, ownRows next.committed userId = ownRows system.committed userId

/-- In every interleaving of any requests, only the end of a request changes rows that have
an owner, and only those of the user who made the request. -/
theorem requests_spare_others (tie : Nat → Nat) (db : Database) (moves : List RestMove) :
    Along (restSessions tie).step (SparesOthers tie) ⟨db, []⟩ moves := by
  refine (along_informed tie db moves).imp fun system move hinformed => ?_
  cases move with
  | outside change => cases change
  | start key | call index turn =>
      intro next hstep userId
      exact rowsOf_step hinformed hstep fun _ _ hmove => by cases hmove
  | finish index =>
      intro session next hsession hstep
      refine rowsOf_step hinformed hstep ?_
      rintro position other ⟨⟩ hother
      obtain rfl := Option.some.inj (hsession.symm.trans hother)
      simp

/-! ## The links of the watches -/

/-- Every watch, active or not, is linked, and the constraints of the schema are met. -/
structure AllLinked (db : Database) : Prop where
  keys : ForeignKeys db
  targetKeys : UniqueTargets db
  watch : ∀ watch ∈ db.watches.rows, LinkedWatch db watch

section Links

variable {db : Database}

/-- A target stays, and keeps its key and its keyword. -/
theorem target_stays {work : List ApiWrite} {target : WatchTargetModel}
    (hmem : target ∈ db.watchTargets.rows) :
    ∃ kept ∈ (shown db work).watchTargets.rows, kept.id = target.id ∧
      kept.keyword = target.keyword := by
  induction work generalizing db target with
  | nil => exact ⟨target, hmem, rfl, rfl⟩
  | cons write later ih =>
      have hstep : ∃ kept ∈ (write.apply db).watchTargets.rows, kept.id = target.id ∧
          kept.keyword = target.keyword := by
        cases write with
        | watchTarget row => exact ⟨target, Table.mem_place hmem, rfl, rfl⟩
        | intervalSet watchTargetId intervalSeconds =>
            refine ⟨_, List.mem_map_of_mem hmem, ?_⟩
            split <;> exact ⟨rfl, rfl⟩
        | _ => exact ⟨target, hmem, rfl, rfl⟩
      obtain ⟨kept, hkept, hid, hkeyword⟩ := hstep
      obtain ⟨last, hlast, hlastId, hlastKeyword⟩ := ih hkept
      exact ⟨last, hlast, hlastId.trans hid, hlastKeyword.trans hkeyword⟩

/-- A target that a session adds is there when its writes fit. -/
theorem added_target_stays {work : List ApiWrite} {target : WatchTargetModel}
    (hfits : AllFits db work) (hmem : .watchTarget target ∈ work) :
    ∃ kept ∈ (shown db work).watchTargets.rows, kept.id = target.id ∧
      kept.keyword = target.keyword := by
  induction work generalizing db with
  | nil => cases hmem
  | cons write later ih =>
      obtain ⟨hfree, hlater⟩ := hfits
      rcases List.mem_cons.mp hmem with rfl | hmem
      · have hplaced : target ∈ (ApiWrite.apply db (.watchTarget target)).watchTargets.rows := by
          change target ∈ (db.watchTargets.place target).rows
          rw [rows_place_of_free hfree]
          exact List.mem_append_right _ (List.mem_singleton_self _)
        change ∃ kept ∈ (shown (ApiWrite.apply db (.watchTarget target)) later).watchTargets.rows, _
        exact target_stays hplaced
      · exact ih hlater hmem

/-- A row that a session sees under a key that it has not drawn has the committed value. -/
theorem value_of_shown {Row A : Type} [Keyed Row] {table : Database → Table Row}
    {added : ApiWrite → Option Row} {value : Row → A} (hkeeps : KeepsValue table added value)
    {work : List ApiWrite} {key : Nat} {said : A} (hdrawn : key ∉ TableOf.drawn added work)
    (hsaid : Says table value db key said) : Says table value (shown db work) key said := by
  intro row hrow hkey
  rcases row_of_shown hkeeps hrow with ⟨write, hwrite, new, hadded, hnewKey, _⟩ |
    ⟨old, hold, holdKey, hvalue⟩
  · exact absurd (TableOf.mem_drawn.mpr ⟨write, hwrite, new, hadded, hnewKey.trans hkey⟩) hdrawn
  · exact hvalue.symm.trans (hsaid old hold (holdKey.trans hkey))

/-- A watch is linked when what is said of its product and its target agrees. -/
theorem linkedWatch_of_values {watch : WatchModel} {keyword : String} (hkeys : ForeignKeys db)
    (hwatch : watch ∈ db.watches.rows)
    (hproduct : Says Database.products (fun row => (row.userId, row.keyword)) db watch.productId
      (watch.userId, keyword))
    (htarget : Says Database.watchTargets WatchTargetModel.keyword db watch.watchTargetId
      keyword) : LinkedWatch db watch := by
  obtain ⟨product, hmem, hid⟩ := exists_of_refers (hkeys.watchProduct watch hwatch)
  obtain ⟨target, htargetMem, htargetId⟩ := exists_of_refers (hkeys.watchTarget watch hwatch)
  obtain ⟨howner, hkeyword⟩ := Prod.mk.inj (hproduct product hmem hid)
  refine ⟨product, hmem, hid, howner, target, htargetMem, htargetId, ?_⟩
  exact (htarget target htargetMem htargetId).trans hkeyword.symm

/-- What a linked watch says of its product and its target. -/
theorem LinkedWatch.values {watch : WatchModel} (hlinked : LinkedWatch db watch) :
    ∃ keyword, Says Database.products (fun row => (row.userId, row.keyword)) db watch.productId
        (watch.userId, keyword) ∧
      Says Database.watchTargets WatchTargetModel.keyword db watch.watchTargetId keyword := by
  obtain ⟨product, hproduct, hid, howner, target, htarget, htargetId, hkeyword⟩ := hlinked
  refine ⟨product.keyword, ?_, ?_⟩
  · rw [← hid, ← howner]
    exact says_of_mem hproduct
  · rw [← htargetId, ← hkeyword]
    exact says_of_mem htarget

variable {system next : RestSystem} {session : RestSession} {after : Database}

/-- The watch that a session adds will be linked. -/
theorem values_of_added (hinformed : Informed tie system) (hsession : session ∈ system.sessions)
    (hfits : AllFits system.committed session.work) {watch : WatchModel}
    (hwrite : .watch watch ∈ session.work) :
    ∃ keyword, Says Database.products (fun row => (row.userId, row.keyword))
        (shown system.committed session.work) watch.productId (watch.userId, keyword) ∧
      Says Database.watchTargets WatchTargetModel.keyword (shown system.committed session.work)
        watch.watchTargetId keyword := by
  obtain ⟨howner, keyword, hproduct, htarget⟩ :=
    (hinformed.responsible session hsession).justified _ hwrite
  obtain ⟨_, hdrawn, hproductSaid⟩ :=
    hinformed.product session hsession _ _ (learned_of_told hproduct)
  refine ⟨keyword, ?_, ?_⟩
  · rw [howner]
    exact value_of_shown products_keep hdrawn hproductSaid
  · rcases htarget with hread | ⟨target, hmem, hid, hkeyword⟩
    · obtain ⟨_, htargetDrawn, htargetSaid⟩ :=
        hinformed.target session hsession _ _ (learned_of_told hread)
      exact value_of_shown targets_keep htargetDrawn htargetSaid
    · obtain ⟨kept, hkept, hkeptId, hkeptKeyword⟩ := added_target_stays hfits hmem
      rw [← hid, ← hkeyword, ← hkeptId, ← hkeptKeyword]
      exact says_of_mem hkept

/-- A watch that is there stays linked: the keys it refers to are not drawn anew. -/
theorem values_of_old (hinformed : Informed tie system) (hlinked : AllLinked system.committed)
    (hsession : session ∈ system.sessions) (hprogress : session.InProgress) {watch : WatchModel}
    (hwatch : watch ∈ system.committed.watches.rows) :
    ∃ keyword, Says Database.products (fun row => (row.userId, row.keyword))
        (shown system.committed session.work) watch.productId (watch.userId, keyword) ∧
      Says Database.watchTargets WatchTargetModel.keyword (shown system.committed session.work)
        watch.watchTargetId keyword := by
  obtain ⟨keyword, hproduct, htarget⟩ := (hlinked.watch watch hwatch).values
  refine ⟨keyword, value_of_shown products_keep ?_ hproduct,
    value_of_shown targets_keep ?_ htarget⟩
  · exact fun hdrawn => hinformed.productFree session hsession hprogress _ hdrawn
      (hlinked.keys.watchProduct watch hwatch)
  · exact fun hdrawn => hinformed.targetFree session hsession hprogress _ hdrawn
      (hlinked.keys.watchTarget watch hwatch)

/-- A commit keeps every watch linked. -/
theorem allLinked_commit (hinformed : Informed tie system) (hlinked : AllLinked system.committed)
    (hsession : session ∈ system.sessions) (hprogress : session.InProgress)
    (hcommit : (restSessions tie).commit system.committed session.work = .ok after) :
    AllLinked after := by
  simp only [restSessions, apiSessions] at hcommit
  split at hcommit
  · rename_i hchecked
    obtain ⟨hfits, hunique, hkeys⟩ := hchecked
    cases hcommit
    refine ⟨hkeys, hunique, fun watch hwatch => ?_⟩
    rcases row_of_shown watches_keep hwatch with ⟨write, hwrite, new, hadded, _, hvalue⟩ |
      ⟨old, hold, _, hvalue⟩
    · cases write <;> cases hadded
      obtain ⟨keyword, hproduct, htarget⟩ := values_of_added hinformed hsession hfits hwrite
      simp only [Prod.mk.injEq] at hvalue
      obtain ⟨howner, hproductId, htargetId⟩ := hvalue
      rw [howner, hproductId] at hproduct
      rw [htargetId] at htarget
      exact linkedWatch_of_values hkeys hwatch hproduct htarget
    · obtain ⟨keyword, hproduct, htarget⟩ :=
        values_of_old hinformed hlinked hsession hprogress hold
      simp only [Prod.mk.injEq] at hvalue
      obtain ⟨howner, hproductId, htargetId⟩ := hvalue
      rw [howner, hproductId] at hproduct
      rw [htargetId] at htarget
      exact linkedWatch_of_values hkeys hwatch hproduct htarget
  · cases hcommit

/-- Drawing a key links nothing anew. -/
theorem allLinked_reserve {db : Database} (write : ApiWrite) (hlinked : AllLinked db) :
    AllLinked (write.reserve db) := by
  have hkeys := foreignKeys_reserve write hlinked.keys
  cases write <;> exact ⟨hkeys, hlinked.targetKeys, hlinked.watch⟩

/-- Every move keeps every watch linked. -/
theorem allLinked_step {move : RestMove} (hinformed : Informed tie system)
    (hlinked : AllLinked system.committed)
    (hstep : (restSessions tie).step system move = some next) : AllLinked next.committed := by
  cases move with
  | outside change => cases change
  | start key =>
      cases hstep
      exact hlinked
  | call index turn =>
      obtain ⟨session, _, hcall⟩ := Option.bind_eq_some_iff.mp hstep
      obtain ⟨⟨committed, after⟩, hcalled, rfl⟩ := Option.map_eq_some_iff.mp hcall
      obtain ⟨writes, rfl⟩ := called_reserves hcalled
      exact reserves_invariant (fun _ write => allLinked_reserve write) writes hlinked
  | finish index =>
      obtain ⟨session, hsession, hfinish⟩ := Option.bind_eq_some_iff.mp hstep
      obtain ⟨⟨committed, after⟩, hfinished, rfl⟩ := Option.map_eq_some_iff.mp hfinish
      obtain ⟨hprogress, ⟨value, _, hcommit, _⟩ | ⟨error, _, rfl, _⟩⟩ :=
        SessionSpec.finished_cases hfinished
      · exact allLinked_commit hinformed hlinked (List.mem_of_getElem? hsession) hprogress hcommit
      · exact hlinked

end Links

/-- In every interleaving of any requests, from a database in which every watch is on a
product of its own user and on a target with the product's keyword, every committed database
is such a one, and meets the foreign keys and `uq_watch_target`. -/
theorem watches_stay_linked_concurrently (tie : Nat → Nat) (db : Database)
    (hlinked : AllLinked db) (moves : List RestMove) :
    Throughout (restSessions tie).step (fun system => AllLinked system.committed)
      ⟨db, []⟩ moves := by
  intro earlier later reached _ hrun
  exact along_invariant (fun system : RestSystem => AllLinked system.committed)
    (fun _ _ _ hlinked hinformed hstep => allLinked_step hinformed hlinked hstep)
    (along_informed tie db earlier) hrun hlinked

/-- A product that is deleted beside a request that subscribes it. -/
def deletedBeside : List RestMove :=
  [.start ⟨1, .createWatch ⟨1, "blinkit", "Pune", "411001", 300⟩⟩,
    .start ⟨1, .deleteProduct 1⟩] ++ List.replicate 4 (.call 0 ⟨0, none⟩) ++
      List.replicate 3 (.call 1 ⟨0, none⟩) ++ [.finish 0, .finish 1]

/-- The deletion has not seen the watch and does not commit. -/
theorem deletion_beside_stays_linked :
    ∃ last, runFrom (restSessions fun key => key).step ⟨pantryDb, []⟩ deletedBeside = some last ∧
      last.committed.watches.rows = [⟨1, 1, 1, 1, 300, true⟩] ∧ AllLinked last.committed := by
  have hreached : ((runFrom (restSessions fun key => key).step ⟨pantryDb, []⟩ deletedBeside).map
      fun last => last.committed.watches.rows) = some [⟨1, 1, 1, 1, 300, true⟩] := by
    decide +kernel
  obtain ⟨last, hrun, hwatches⟩ := Option.map_eq_some_iff.mp hreached
  have hstart : AllLinked pantryDb :=
    ⟨by decide, by decide, fun watch hwatch => by cases hwatch⟩
  exact ⟨last, hrun, hwatches, watches_stay_linked_concurrently (fun key => key) pantryDb hstart
    deletedBeside deletedBeside [] last (List.append_nil _).symm hrun⟩

end StockMonitoring.Api
