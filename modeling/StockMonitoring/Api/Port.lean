import StockMonitoring.Foundation.Pool
import StockMonitoring.Infrastructure.Db.ApiRepositories
import StockMonitoring.Infrastructure.Db.ForeignKeys
import StockMonitoring.Infrastructure.Db.Session

set_option autoImplicit false

/-!
# Api: the calls of the REST handlers

The handlers of `app/api/routers/` reach the database through the repositories of
their session.  The repository methods of several statements, `get_or_create` and
`set_for_user`, are programs over their statements; every other method is one call.
Reading the clock and assigning an attribute of a loaded row are not awaited.
-/

namespace StockMonitoring.Api

open StockMonitoring.Foundation StockMonitoring.Domain StockMonitoring.Infrastructure.Db

/-- The calls of the handlers. -/
inductive ApiOp where
  /-- `ProductRepository.create` -/
  | createProduct (userId : Nat) (name keyword : String) (canonicalImageUrl : Option String)
  /-- `ProductRepository.list_for_user` -/
  | listProducts (userId : Nat)
  /-- `ProductRepository.get_by_id` -/
  | getProduct (productId : Nat)
  /-- `ProductRepository.delete` -/
  | deleteProduct (productId : Nat)
  /-- the `SELECT` of `WatchTargetRepository.get_or_create` -/
  | selectWatchTarget (retailerSlug city pincode keyword : String)
  /-- its assignment to `existing.interval_seconds` -/
  | setInterval (watchTargetId : Nat) (intervalSeconds : Int)
  /-- its `INSERT` -/
  | insertWatchTarget (retailerSlug city pincode keyword : String) (intervalSeconds : Int)
  /-- `WatchRepository.create` -/
  | createWatch (userId productId watchTargetId : Nat) (intervalSeconds : Int)
  /-- `WatchRepository.list_by_product` -/
  | listByProduct (productId : Nat)
  /-- `WatchRepository.list_for_user` -/
  | listWatches (userId : Nat)
  /-- `WatchRepository.get_by_id` -/
  | getWatch (watchId : Nat)
  /-- `WatchRepository.deactivate` -/
  | deactivate (watchId : Nat)
  /-- `NotificationChannelRepository.create` -/
  | createChannel (userId : Nat) (type : NotificationChannelType)
      (config : List (String × String))
  /-- `NotificationChannelRepository.list_for_user` -/
  | listChannels (userId : Nat)
  /-- `NotificationChannelRepository.get_by_id` -/
  | getChannel (channelId : Nat)
  /-- `NotificationChannelRepository.delete` -/
  | deleteChannel (channelId : Nat)
  /-- `NotificationChannelRepository.mark_verified` -/
  | markVerified (channelId : Nat)
  /-- `NotificationLogRepository.list_for_user` -/
  | listLog (userId limit : Nat)
  /-- `SettingsRepository.get_for_user` -/
  | getSettings (userId : Nat)
  /-- the `SELECT` of `SettingsRepository.set_for_user` -/
  | selectSetting (userId : Nat) (key : String)
  /-- its assignment to `existing.value_json` -/
  | setValue (settingId : Nat) (value : String)
  /-- its `INSERT` -/
  | insertSetting (userId : Nat) (key value : String)
  /-- `SnapshotRepository.list_since` -/
  | listSince (watchTargetId : Nat) (since : Datetime)
  /-- `SnapshotRepository.get_by_id` -/
  | getSnapshot (snapshotId : Nat)
  /-- `DetectionEventRepository.list_for_watch_target` -/
  | listEvents (watchTargetId limit : Nat) (since : Option Datetime)
  /-- `datetime.now(timezone.utc)` -/
  | now
  deriving DecidableEq

/-- What each call answers with. -/
abbrev ApiOp.Answer : ApiOp → Type
  | .createProduct _ _ _ _ => Product
  | .listProducts _ => List Product
  | .getProduct _ => Option Product
  | .selectWatchTarget _ _ _ _ => Option WatchTargetModel
  | .insertWatchTarget _ _ _ _ _ => WatchTarget
  | .createWatch _ _ _ _ => Watch
  | .listByProduct _ | .listWatches _ => List Watch
  | .getWatch _ => Option Watch
  | .createChannel _ _ _ => NotificationChannel
  | .listChannels _ => List NotificationChannel
  | .getChannel _ => Option NotificationChannel
  | .listLog _ _ => List NotificationLog
  | .getSettings _ => List (String × String)
  | .selectSetting _ _ => Option SettingsModel
  | .listSince _ _ => List Snapshot
  | .getSnapshot _ => Option Snapshot
  | .listEvents _ _ _ => List DetectionEvent
  | .now => Datetime
  | .deleteProduct _ | .setInterval _ _ | .deactivate _ | .deleteChannel _ | .markVerified _
  | .setValue _ _ | .insertSetting _ _ _ => Unit

/-- The handlers' calls. -/
abbrev apiPort : Signature := ⟨ApiOp, ApiOp.Answer⟩

/-- A part of a handler. -/
abbrev Endpoint (α : Type) : Type := Co apiPort Raised α

/-- One call of a handler. -/
abbrev askApi (op : ApiOp) : Endpoint op.Answer := @Co.perform apiPort Raised op

/-! ## Repository methods of several statements -/

/-- `WatchTargetRepository.get_or_create`. -/
def getOrCreate (retailerSlug city pincode keyword : String) (intervalSeconds : Int) :
    Endpoint WatchTarget := do
  match ← askApi (.selectWatchTarget retailerSlug city pincode keyword) with
  | some existing =>
      if intervalSeconds < existing.intervalSeconds then do
        askApi (.setInterval existing.id intervalSeconds)
        pure (toWatchTarget { existing with intervalSeconds := intervalSeconds })
      else pure (toWatchTarget existing)
  | none => askApi (.insertWatchTarget retailerSlug city pincode keyword intervalSeconds)

/-- `SettingsRepository.set_for_user`. -/
def setForUser (userId : Nat) (key value : String) : Endpoint Unit := do
  match ← askApi (.selectSetting userId key) with
  | some existing => askApi (.setValue existing.id value)
  | none => askApi (.insertSetting userId key value)

/-! ## What the calls do -/

/-- What the outside chooses at a call. -/
structure ApiTurn where
  /-- what the clock says -/
  now : Datetime
  /-- what the call raises if it is awaited -/
  failure : Option Raised

/-- Whether the handlers await the call. -/
def ApiOp.awaits : ApiOp → Bool
  | .now | .setInterval _ _ | .setValue _ _ => false
  | _ => true

/-- The work of a call; `tie` is the engine's choice among rows with one timestamp. -/
def apiWork (tie : Nat → Nat) (turn : ApiTurn) :
    (op : ApiOp) → Database → Reply apiPort Raised op × Database
  | .createProduct userId name keyword canonicalImageUrl, db =>
      let (product, next) := SqlAlchemyProductRepository.create db userId name keyword
        canonicalImageUrl
      (.ok product, next)
  | .listProducts userId, db => (.ok (SqlAlchemyProductRepository.listForUser db userId), db)
  | .getProduct productId, db => (SqlAlchemyProductRepository.getById db productId, db)
  | .deleteProduct productId, db => SqlAlchemyProductRepository.delete db productId
  | .selectWatchTarget retailerSlug city pincode keyword, db =>
      (SqlAlchemyWatchTargetRepository.select db retailerSlug city pincode keyword, db)
  | .setInterval watchTargetId intervalSeconds, db =>
      (.ok (), SqlAlchemyWatchTargetRepository.setInterval db watchTargetId intervalSeconds)
  | .insertWatchTarget retailerSlug city pincode keyword intervalSeconds, db =>
      let (watchTarget, next) := SqlAlchemyWatchTargetRepository.insert db retailerSlug city
        pincode keyword intervalSeconds
      (.ok watchTarget, next)
  | .createWatch userId productId watchTargetId intervalSeconds, db =>
      let (watch, next) := SqlAlchemyWatchRepository.create db userId productId watchTargetId
        intervalSeconds
      (.ok watch, next)
  | .listByProduct productId, db =>
      (.ok (SqlAlchemyWatchRepository.listByProduct db productId), db)
  | .listWatches userId, db => (.ok (SqlAlchemyWatchRepository.listForUser db userId), db)
  | .getWatch watchId, db => (SqlAlchemyWatchRepository.getById db watchId, db)
  | .deactivate watchId, db => SqlAlchemyWatchRepository.deactivate db watchId
  | .createChannel userId type config, db =>
      let (channel, next) := SqlAlchemyNotificationChannelRepository.create db userId type config
        false
      (.ok channel, next)
  | .listChannels userId, db =>
      (.ok (SqlAlchemyNotificationChannelRepository.listForUser db userId), db)
  | .getChannel channelId, db =>
      (SqlAlchemyNotificationChannelRepository.getById db channelId, db)
  | .deleteChannel channelId, db => SqlAlchemyNotificationChannelRepository.delete db channelId
  | .markVerified channelId, db =>
      SqlAlchemyNotificationChannelRepository.markVerified db channelId
  | .listLog userId limit, db =>
      (.ok (SqlAlchemyNotificationLogRepository.listForUser tie db userId limit), db)
  | .getSettings userId, db => (.ok (SqlAlchemySettingsRepository.getForUser db userId), db)
  | .selectSetting userId key, db => (SqlAlchemySettingsRepository.select db userId key, db)
  | .setValue settingId value, db =>
      (.ok (), SqlAlchemySettingsRepository.setValue db settingId value)
  | .insertSetting userId key value, db =>
      (.ok (), SqlAlchemySettingsRepository.insert db userId key value)
  | .listSince watchTargetId since, db =>
      (.ok (SqlAlchemySnapshotRepository.listSince tie db watchTargetId since), db)
  | .getSnapshot snapshotId, db => (SqlAlchemySnapshotRepository.getById db snapshotId, db)
  | .listEvents watchTargetId limit since, db =>
      (.ok (SqlAlchemyDetectionEventRepository.listForWatchTarget tie db watchTargetId limit
        since), db)
  | .now, db => (.ok turn.now, db)

/-- A call with the outside's choice. -/
def apiRespond (tie : Nat → Nat) (op : ApiOp) (turn : ApiTurn) (db : Database) :
    Reply apiPort Raised op × Database :=
  match turn.failure with
  | some error => if op.awaits then (.error error, db) else apiWork tie turn op db
  | none => apiWork tie turn op db

/-- The handlers' calls as the event loop sees them. -/
def apiEffects (tie : Nat → Nat) : Effects apiPort Raised Database ApiTurn :=
  ⟨ApiOp.awaits, apiRespond tie⟩

/-- A handler on its session, with what the outside chooses at each of its calls. -/
def runHandler {α : Type} (tie : Nat → Nat) (turns : Nat → ApiTurn) (handler : Endpoint α)
    (db : Database) : Outcome apiPort Raised (Nat × Database) α :=
  handler.exec ((apiEffects tie).scripted turns) (0, db)

section Calls

variable {α : Type} {tie : Nat → Nat} {turns : Nat → ApiTurn} {op : ApiOp} {turn : Nat}
  {db next : Database}

/-- A call that answers, and what the handler does next. -/
theorem exec_askApi {answer : op.Answer}
    (hrespond : apiRespond tie op (turns turn) db = (.ok answer, next))
    (rest : op.Answer → Endpoint α) :
    (askApi op >>= rest).exec ((apiEffects tie).scripted turns) (turn, db) =
      ((rest answer).exec ((apiEffects tie).scripted turns) (turn + 1, next)).after
        ⟨op, .ok answer⟩ := by
  have hreply : (apiEffects tie).scripted turns op (turn, db) = (.ok answer, (turn + 1, next)) := by
    simp only [Effects.scripted, apiEffects, hrespond]
  exact Co.exec_perform_ok (σ := apiPort) (ε := Raised) hreply rest

/-- A call that raises ends the handler. -/
theorem exec_askApi_raises {error : Raised}
    (hrespond : apiRespond tie op (turns turn) db = (.error error, next))
    (rest : op.Answer → Endpoint α) :
    (askApi op >>= rest).exec ((apiEffects tie).scripted turns) (turn, db) =
      ⟨[⟨op, .error error⟩], .error error, (turn + 1, next)⟩ := by
  have hreply : (apiEffects tie).scripted turns op (turn, db) =
      (.error error, (turn + 1, next)) := by
    simp only [Effects.scripted, apiEffects, hrespond]
  exact Co.exec_perform_error (σ := apiPort) (ε := Raised) hreply rest

/-- A call the outside lets return. -/
theorem apiRespond_of_none {choice : ApiTurn} (hfailure : choice.failure = none) :
    apiRespond tie op choice db = apiWork tie choice op db := by
  unfold apiRespond
  rw [hfailure]

/-- A call the outside lets raise. -/
theorem apiRespond_of_some {choice : ApiTurn} {error : Raised}
    (hfailure : choice.failure = some error) (hawaits : op.awaits = true) :
    apiRespond tie op choice db = (.error error, db) := by
  unfold apiRespond
  rw [hfailure]
  exact if_pos hawaits

end Calls

/-! ## Handlers whose calls return -/

/-- The outside with the same clock that lets every call return. -/
def calm (turns : Nat → ApiTurn) : Nat → ApiTurn := fun turn => { turns turn with failure := none }

/-- What a part of a handler comes to when its calls return: its result and the database
its session shows. -/
def settle {α : Type} (tie : Nat → Nat) (turns : Nat → ApiTurn) (program : Endpoint α) (turn : Nat)
    (db : Database) : Except Raised α × Database :=
  let outcome := program.exec ((apiEffects tie).scripted (calm turns)) (turn, db)
  (outcome.result, outcome.state.2)

section Settle

variable {α : Type} {tie : Nat → Nat} {turns : Nat → ApiTurn} {turn : Nat} {db : Database}

@[simp] theorem settle_pure (value : α) :
    settle tie turns (pure value : Endpoint α) turn db = (.ok value, db) := rfl

@[simp] theorem settle_raise (error : Raised) :
    settle tie turns (.raise error : Endpoint α) turn db = (.error error, db) := rfl

theorem apiRespond_calm (op : ApiOp) (turn : Nat) :
    apiRespond tie op (calm turns turn) db = apiWork tie (turns turn) op db := by
  rw [apiRespond_of_none (by rfl)]
  cases op <;> rfl

/-- One call and the rest. -/
theorem settle_askApi (op : ApiOp) (rest : op.Answer → Endpoint α) :
    settle tie turns (askApi op >>= rest) turn db =
      match apiWork tie (turns turn) op db with
      | (.ok answer, next) => settle tie turns (rest answer) (turn + 1) next
      | (.error error, next) => (.error error, next) := by
  have hwork : apiRespond tie op (calm turns turn) db = apiWork tie (turns turn) op db :=
    apiRespond_calm op turn
  unfold settle
  cases hreply : apiWork tie (turns turn) op db with
  | mk reply next =>
      rw [hreply] at hwork
      cases reply with
      | ok answer => rw [exec_askApi hwork]; rfl
      | error error => rw [exec_askApi_raises hwork]

/-- A call at the end of a handler. -/
theorem settle_askApi_last (op : ApiOp) :
    settle tie turns (askApi op) turn db = apiWork tie (turns turn) op db := by
  have hlast : askApi op = askApi op >>= fun answer => pure answer := (Co.bind_ret (askApi op)).symm
  rw [hlast, settle_askApi]
  cases apiWork tie (turns turn) op db with
  | mk reply next => cases reply <;> rfl

/-- A handler that returns has seen no call fail. -/
theorem settle_of_ok {program : Endpoint α} (hpropagates : program.Propagates) {value : α}
    (hok : (program.exec ((apiEffects tie).scripted turns) (turn, db)).result = .ok value) :
    settle tie turns program turn db =
      (.ok value, (program.exec ((apiEffects tie).scripted turns) (turn, db)).state.2) := by
  have hagree : ∀ op state answer next,
      (apiEffects tie).scripted turns op state = (.ok answer, next) →
      (apiEffects tie).scripted (calm turns) op state = (.ok answer, next) := by
    intro op state answer next hreply
    have hwork : apiRespond tie op (calm turns state.1) state.2 =
        apiWork tie (turns state.1) op state.2 := apiRespond_calm op state.1
    simp only [Effects.scripted, apiEffects] at hreply ⊢
    rw [hwork]
    unfold apiRespond at hreply
    cases hfailure : (turns state.1).failure with
    | none =>
        rw [hfailure] at hreply
        exact hreply
    | some error =>
        rw [hfailure] at hreply
        cases hawaits : op.awaits with
        | true => simp [hawaits] at hreply
        | false => simpa [hawaits] using hreply
  unfold settle
  rw [Co.exec_eq_of_ok hagree hpropagates hok]
  exact congrArg (·, _) hok

end Settle

/-! ## The end of a request -/

/-- `get_session` after the handler: commit what a returned handler has left, unless
that breaks a foreign key; discard what a raising handler has left. -/
def commit {S α : Type} (view : S → Database) (committed : Database)
    (outcome : Outcome apiPort Raised S α) : Except Raised α × Database :=
  match outcome.result with
  | .error error => (.error error, committed)
  | .ok value =>
      if ForeignKeys (view outcome.state) then (.ok value, view outcome.state)
      else (.error .integrityError, committed)

section Commit

variable {S α : Type} {view : S → Database} {committed : Database}
  {outcome : Outcome apiPort Raised S α}

theorem commit_of_error {error : Raised} (hresult : outcome.result = .error error) :
    commit view committed outcome = (.error error, committed) := by
  unfold commit
  rw [hresult]

theorem commit_of_ok {value : α} (hresult : outcome.result = .ok value) :
    commit view committed outcome =
      if ForeignKeys (view outcome.state) then (.ok value, view outcome.state)
      else (.error .integrityError, committed) := by
  unfold commit
  rw [hresult]

end Commit

end StockMonitoring.Api
