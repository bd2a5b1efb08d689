import StockMonitoring.Api.TokenProvenance
import StockMonitoring.Api.WatchLinks

set_option autoImplicit false

/-!
# Api: the live stream

`app/api/websocket.py` with the Redis publisher and subscriber, and the dependencies of the
endpoint.  `get_auth_service` goes back to `get_session`, which takes a `Request`; FastAPI has
none for a WebSocket, so in the application as it is wired every connection raises.  Where the
dependency is overridden, as the tests of the endpoint do it, the endpoint subscribes to the
targets of `list_for_user`, which lists the deactivated watches too, although it promises the
active ones.  So it streams the active watches exactly where every deactivated watch of the
user is on a target that the user still watches (`stream_covers_active_watches`).
-/

namespace StockMonitoring.Api

open StockMonitoring.Foundation StockMonitoring.Domain StockMonitoring.Application
  StockMonitoring.Infrastructure.Db

/-! ## Redis -/

/-- The payload of `RedisEventPublisher.publish`; it is read back as it was written. -/
structure EventPayload where
  eventId : Option Nat
  watchTargetId : Nat
  eventType : EventType
  snapshotId : Nat
  createdAt : Datetime
  deriving DecidableEq

/-- A message on a channel. -/
structure RedisMessage where
  channel : String
  data : EventPayload
  deriving DecidableEq

/-- The channel of a watch target. -/
def eventsChannel (watchTargetId : Nat) : String := s!"events:{watchTargetId}"

/-- `RedisEventPublisher.publish`. -/
def RedisEventPublisher.publish (watchTargetId : Nat) (event : DetectionEvent) : RedisMessage :=
  ⟨eventsChannel watchTargetId,
    ⟨event.id, watchTargetId, event.eventType, event.snapshotId, event.createdAt⟩⟩

/-- `RedisSubscriber.listen`: of the messages published meanwhile, those on its channels. -/
def RedisSubscriber.listen (channels : List String) (published : List RedisMessage) :
    List EventPayload :=
  (published.filter fun message => message.channel ∈ channels).map RedisMessage.data

/-! ## The endpoint -/

/-- What becomes of a connection. -/
inductive Connection where
  | closed (code : Nat)
  | streaming (channels : List String)
  deriving DecidableEq

/-- The watches of a token's user. -/
def watchesOf (db : Database) : Int → List Watch
  | .ofNat userId => SqlAlchemyWatchRepository.listForUser db userId
  | .negSucc _ => []

/-- `websocket_endpoint`, up to the streaming; `lookup` is what its `SELECT` raises. -/
def websocketEndpoint (config : TokenConfig) (token : String) (now : Datetime)
    (lookup : Option Raised) (db : Database) : Except Raised Connection :=
  match verifyAccessToken config token now with
  | .error (.invalidToken _) => .ok (.closed 4401)
  | .error error => .error error
  | .ok userId =>
      match lookup with
      | some error => .error error
      | none =>
          let watches := watchesOf db userId
          if watches = [] then .ok (.closed 4404)
          else .ok (.streaming (watches.map fun watch => eventsChannel watch.watchTargetId))

/-! ## Its dependencies -/

/-- What FastAPI resolves dependencies for. -/
inductive Scope where
  | http
  | websocket
  deriving DecidableEq

/-- The parameters of a dependency that FastAPI fills with the connection itself. -/
inductive ConnectionParameter where
  | request
  | websocket
  deriving DecidableEq

/-- A `Request` is there for a request only, and a `WebSocket` for a WebSocket only. -/
def Scope.fills : Scope → ConnectionParameter → Bool
  | .http, .request | .websocket, .websocket => true
  | .http, .websocket | .websocket, .request => false

/-- FastAPI calls a dependency, without the argument if it has none for it. -/
def callDependency (function name : String) (parameter : ConnectionParameter) (scope : Scope) :
    Except Raised Unit :=
  if scope.fills parameter then .ok ()
  else .error (.typeError
    (function ++ "() missing 1 required positional argument: '" ++ name ++ "'"))

/-- `deps.get_session(request: Request)`. -/
def getSession : Scope → Except Raised Unit := callDependency "get_session" "request" .request

/-- `get_redis_subscriber(websocket: WebSocket)`. -/
def getRedisSubscriber : Scope → Except Raised Unit :=
  callDependency "get_redis_subscriber" "websocket" .websocket

/-- Where an application takes the endpoint's `auth_service` from. -/
inductive AuthDependency where
  /-- `Depends(get_auth_service)`, as the source has it -/
  | wired
  /-- `app.dependency_overrides[get_auth_service]`, as the tests of the endpoint set it -/
  | overridden
  deriving DecidableEq

/-- `get_auth_service`, which needs a session. -/
def AuthDependency.getAuthService : AuthDependency → Scope → Except Raised Unit
  | .wired, scope => getSession scope
  | .overridden, _ => .ok ()

/-- A connection to `/ws`: the dependencies are resolved before the endpoint is called. -/
def connect (dependency : AuthDependency) (config : TokenConfig) (token : String) (now : Datetime)
    (lookup : Option Raised) (db : Database) : Except Raised Connection := do
  dependency.getAuthService .websocket
  getRedisSubscriber .websocket
  websocketEndpoint config token now lookup db

/-! ## What it covers -/

/-- What is sent to the client. -/
def Connection.sent : Connection → List RedisMessage → List EventPayload
  | .closed _, _ => []
  | .streaming channels, published => RedisSubscriber.listen channels published

/-- The user has an active watch on the target. -/
def ActivelyWatches (db : Database) (userId watchTargetId : Nat) : Prop :=
  ∃ watch ∈ db.watches.rows, watch.userId = userId ∧ watch.isActive = true ∧
    watch.watchTargetId = watchTargetId

/-- The stream covers the active watches of the user and nothing else. -/
structure CoversActive (db : Database) (userId : Nat) (connection : Except Raised Connection) :
    Prop where
  accepted : (∃ channels, connection = .ok (.streaming channels)) ↔
    ∃ watchTargetId, ActivelyWatches db userId watchTargetId
  closed : (¬ ∃ watchTargetId, ActivelyWatches db userId watchTargetId) →
    connection = .ok (.closed 4404)
  channels : ∀ channels, connection = .ok (.streaming channels) → ∀ channel,
    channel ∈ channels ↔
      ∃ watchTargetId, ActivelyWatches db userId watchTargetId ∧
        channel = eventsChannel watchTargetId
  /-- no event of another target is sent -/
  silent : ∀ accepted watchTargetId event published, connection = .ok accepted →
    published = RedisEventPublisher.publish watchTargetId event →
      accepted.sent [published] ≠ [] → ActivelyWatches db userId watchTargetId

/-- Each deactivated watch of the user is on a target that the user still watches. -/
def StillWatched (db : Database) (userId : Nat) : Prop :=
  ∀ watch ∈ db.watches.rows, watch.userId = userId → watch.isActive = false →
    ActivelyWatches db userId watch.watchTargetId

instance (db : Database) (userId watchTargetId : Nat) :
    Decidable (ActivelyWatches db userId watchTargetId) :=
  inferInstanceAs (Decidable (∃ watch ∈ db.watches.rows, _))

instance (db : Database) (userId : Nat) : Decidable (StillWatched db userId) :=
  inferInstanceAs (Decidable (∀ watch ∈ db.watches.rows, _ → _ → _))

/-! ## The channels -/

/-- Each target has a channel of its own. -/
theorem eventsChannel_injective {watchTargetId other : Nat}
    (hchannel : eventsChannel watchTargetId = eventsChannel other) : watchTargetId = other := by
  have hrepr : toString watchTargetId = toString other := by
    simpa [eventsChannel, String.append_right_inj] using hchannel
  exact Nat.repr_injective hrepr

section Stream

variable {config : TokenConfig} {token : String} {now : Datetime} {db : Database} {userId : Nat}

/-- The endpoint lists all watches of the user. -/
theorem websocketEndpoint_eq (hvalid : verifyAccessToken config token now = .ok (userId : Int)) :
    websocketEndpoint config token now none db =
      if SqlAlchemyWatchRepository.listForUser db userId = [] then .ok (.closed 4404)
      else .ok (.streaming ((SqlAlchemyWatchRepository.listForUser db userId).map fun watch =>
        eventsChannel watch.watchTargetId)) := by
  unfold websocketEndpoint
  rw [hvalid]
  rfl

/-- The listed targets are those of all watches of the user, active or not. -/
theorem mem_channels_iff {channel : String} :
    channel ∈ (SqlAlchemyWatchRepository.listForUser db userId).map
        (fun watch => eventsChannel watch.watchTargetId) ↔
      ∃ watch ∈ db.watches.rows, watch.userId = userId ∧
        channel = eventsChannel watch.watchTargetId := by
  simp only [SqlAlchemyWatchRepository.listForUser, List.mem_map, List.mem_filter, beq_iff_eq]
  constructor
  · rintro ⟨_, ⟨watch, ⟨hmem, huser⟩, rfl⟩, rfl⟩
    exact ⟨watch, hmem, huser, rfl⟩
  · rintro ⟨watch, hmem, huser, rfl⟩
    exact ⟨toWatch watch, ⟨watch, ⟨hmem, huser⟩, rfl⟩, rfl⟩

theorem listForUser_eq_nil_iff :
    SqlAlchemyWatchRepository.listForUser db userId = [] ↔
      ∀ watch ∈ db.watches.rows, watch.userId ≠ userId := by
  simp [SqlAlchemyWatchRepository.listForUser]

/-- Where the deactivated watches are on watched targets, a target of a watch is watched. -/
theorem StillWatched.watches (hstill : StillWatched db userId) {watch : WatchModel}
    (hmem : watch ∈ db.watches.rows) (huser : watch.userId = userId) :
    ActivelyWatches db userId watch.watchTargetId := by
  cases hactive : watch.isActive with
  | true => exact ⟨watch, hmem, huser, hactive, rfl⟩
  | false => exact hstill watch hmem huser hactive

/-- A message is sent when its channel is subscribed to. -/
theorem sent_ne_nil_iff {channels : List String} {watchTargetId : Nat} {event : DetectionEvent} :
    (Connection.streaming channels).sent [RedisEventPublisher.publish watchTargetId event] ≠ [] ↔
      eventsChannel watchTargetId ∈ channels := by
  simp [Connection.sent, RedisSubscriber.listen, RedisEventPublisher.publish]

/-- The endpoint, once it is called. -/
theorem coversActive_iff (hvalid : verifyAccessToken config token now = .ok (userId : Int)) :
    CoversActive db userId (websocketEndpoint config token now none db) ↔
      StillWatched db userId := by
  rw [websocketEndpoint_eq hvalid]
  constructor
  · intro hcovers watch hmem huser hinactive
    -- the list is not empty, so the connection streams, and the target's channel is in it
    have hsome : SqlAlchemyWatchRepository.listForUser db userId ≠ [] := fun hnil =>
      listForUser_eq_nil_iff.mp hnil watch hmem huser
    rw [if_neg hsome] at hcovers
    have hchannel := mem_channels_iff.mpr ⟨watch, hmem, huser, rfl⟩
    obtain ⟨watchTargetId, hwatches, hsame⟩ := (hcovers.channels _ rfl _).mp hchannel
    rw [eventsChannel_injective hsame]
    exact hwatches
  · intro hstill
    split
    · rename_i hnil
      have hnone := listForUser_eq_nil_iff.mp hnil
      have hunwatched : ¬ ∃ watchTargetId, ActivelyWatches db userId watchTargetId := by
        rintro ⟨_, watch, hmem, huser, _⟩
        exact hnone watch hmem huser
      refine ⟨⟨?_, fun hwatched => absurd hwatched hunwatched⟩, fun _ => rfl, ?_, ?_⟩
      · rintro ⟨channels, hstreaming⟩
        cases hstreaming
      · intro channels hstreaming
        cases hstreaming
      · intro accepted watchTargetId event published hconnection _ hsent
        cases hconnection
        exact absurd rfl hsent
    · rename_i hsome
      have hexists : ∃ watchTargetId, ActivelyWatches db userId watchTargetId := by
        by_contra hnone
        refine hsome (listForUser_eq_nil_iff.mpr fun watch hmem huser => hnone ?_)
        exact ⟨_, hstill.watches hmem huser⟩
      have hchannels : ∀ channel, channel ∈ (SqlAlchemyWatchRepository.listForUser db userId).map
          (fun watch => eventsChannel watch.watchTargetId) ↔
            ∃ watchTargetId, ActivelyWatches db userId watchTargetId ∧
              channel = eventsChannel watchTargetId := by
        intro channel
        rw [mem_channels_iff]
        constructor
        · rintro ⟨watch, hmem, huser, rfl⟩
          exact ⟨_, hstill.watches hmem huser, rfl⟩
        · rintro ⟨_, ⟨watch, hmem, huser, _, rfl⟩, rfl⟩
          exact ⟨watch, hmem, huser, rfl⟩
      refine ⟨⟨fun _ => hexists, fun _ => ⟨_, rfl⟩⟩, fun hnone => absurd hexists hnone, ?_, ?_⟩
      · intro channels hstreaming channel
        cases hstreaming
        exact hchannels channel
      · rintro accepted watchTargetId event published hconnection rfl hsent
        cases hconnection
        obtain ⟨target, hwatches, hsame⟩ := (hchannels _).mp (sent_ne_nil_iff.mp hsent)
        rw [eventsChannel_injective hsame]
        exact hwatches

/-- A connection that raises is neither accepted nor closed with 4404. -/
theorem not_coversActive_error (error : Raised) : ¬ CoversActive db userId (.error error) := by
  intro hcovers
  by_cases hwatched : ∃ watchTargetId, ActivelyWatches db userId watchTargetId
  · obtain ⟨channels, hstreaming⟩ := hcovers.accepted.mpr hwatched
    cases hstreaming
  · cases hcovers.closed hwatched

/-- A WebSocket has no session. -/
theorem getSession_websocket : getSession .websocket =
    .error (.typeError "get_session() missing 1 required positional argument: 'request'") := by
  have hmessage : "get_session" ++ "() missing 1 required positional argument: '" ++ "request" ++
      "'" = "get_session() missing 1 required positional argument: 'request'" := by decide +kernel
  rw [getSession, callDependency, hmessage]
  rfl

/-- As the application is wired no connection gets as far as the endpoint. -/
theorem connect_wired (lookup : Option Raised) :
    connect .wired config token now lookup db =
      .error (.typeError "get_session() missing 1 required positional argument: 'request'") := by
  rw [connect, AuthDependency.getAuthService, getSession_websocket]
  rfl

theorem not_coversActive_wired (lookup : Option Raised) :
    ¬ CoversActive db userId (connect .wired config token now lookup db) := by
  rw [connect_wired]
  exact not_coversActive_error _

theorem connect_overridden (lookup : Option Raised) :
    connect .overridden config token now lookup db =
      websocketEndpoint config token now lookup db := rfl

/-- One connection. -/
theorem coversActive_connect_iff {dependency : AuthDependency}
    (hvalid : verifyAccessToken config token now = .ok (userId : Int)) :
    CoversActive db userId (connect dependency config token now none db) ↔
      dependency = .overridden ∧ StillWatched db userId := by
  cases dependency with
  | wired =>
      constructor
      · intro hcovers
        exact absurd hcovers (not_coversActive_wired none)
      · rintro ⟨hoverridden, _⟩
        cases hoverridden
  | overridden =>
      rw [connect_overridden, coversActive_iff hvalid]
      exact (and_iff_right rfl).symm

end Stream

/-- In every state that a run of requests reaches, a connection of a user covers the active
watches exactly if `get_auth_service` is overridden and each deactivated watch of the user is on
a target that the user still watches. -/
theorem stream_covers_active_watches (dependency : AuthDependency) (config : TokenConfig)
    (tie : Nat → Nat) (start : Database) (arrivals : List ApiArrival) :
    Throughout (apiStep tie) (fun reached => ∀ token now (userId : Nat),
      verifyAccessToken config token now = .ok (userId : Int) →
        (CoversActive reached userId (connect dependency config token now none reached) ↔
          dependency = .overridden ∧ StillWatched reached userId)) start arrivals :=
  fun _ _ _ _ _ _ _ _ hvalid => coversActive_connect_iff hvalid

/-- A user with a product. -/
def kitchenDb : Database :=
  { Database.empty with
    users := Table.empty.insert fun id => ⟨id, "+15550008888", none, 0⟩
    products := Table.empty.insert fun id => ⟨id, 1, "clarified butter", "ghee", none⟩ }

/-- The user watches the product in a city. -/
def watchIn (city pincode : String) : ApiArrival :=
  ⟨1, .createWatch ⟨1, "zepto", city, pincode, 600⟩, fun _ => ⟨0, none⟩⟩

/-- The user deletes a watch. -/
def unwatch (watchId : Nat) : ApiArrival := ⟨1, .deleteWatch watchId, fun _ => ⟨0, none⟩⟩

/-- The user's access token. -/
def kitchenToken : String := (accessIssue signedConfig.toAuthConfig 1 0).token

theorem verify_kitchenToken :
    verifyAccessToken signedConfig kitchenToken 60 = .ok ((1 : Nat) : Int) :=
  verifyToken_signed (by decide) (by decide)

/-- A watch that is deleted and created again, beside one in another city. -/
theorem recreated_watch_is_covered :
    ∃ reached, runFrom (apiStep fun key => key) kitchenDb
        [watchIn "Pune" "411001", watchIn "Delhi" "110001", unwatch 1, watchIn "Pune" "411001"] =
          some reached ∧ StillWatched reached 1 ∧
      CoversActive reached 1 (connect .overridden signedConfig kitchenToken 60 none reached) ∧
      ¬ CoversActive reached 1 (connect .wired signedConfig kitchenToken 60 none reached) := by
  let arrivals := [watchIn "Pune" "411001", watchIn "Delhi" "110001", unwatch 1,
    watchIn "Pune" "411001"]
  have hreached : ((runFrom (apiStep fun key => key) kitchenDb arrivals).map fun reached =>
      decide (StillWatched reached 1)) = some true := by
    decide +kernel
  obtain ⟨reached, hrun, hlast⟩ := Option.map_eq_some_iff.mp hreached
  have hstill := of_decide_eq_true hlast
  have hcovers := fun dependency => stream_covers_active_watches dependency signedConfig
    (fun key => key) kitchenDb arrivals arrivals [] reached (List.append_nil _).symm hrun
    kitchenToken 60 1 verify_kitchenToken
  refine ⟨reached, hrun, hstill, (hcovers .overridden).mpr ⟨rfl, hstill⟩, ?_⟩
  intro hwired
  cases ((hcovers .wired).mp hwired).1

/-- A watch is created, and deleted.  Before the deletion a connection to the wired application
raises instead of being accepted.  After it, it raises instead of being closed with 4404, and
with the dependency overridden it is accepted, with the channel of the deleted watch. -/
theorem deleted_watch_is_streamed :
    (∃ reached, runFrom (apiStep fun key => key) kitchenDb [watchIn "Pune" "411001"] =
        some reached ∧ ActivelyWatches reached 1 1 ∧
      connect .wired signedConfig kitchenToken 60 none reached =
        .error (.typeError "get_session() missing 1 required positional argument: 'request'") ∧
      ¬ CoversActive reached 1 (connect .wired signedConfig kitchenToken 60 none reached)) ∧
    ∃ reached, runFrom (apiStep fun key => key) kitchenDb [watchIn "Pune" "411001", unwatch 1] =
        some reached ∧
      ¬ CoversActive reached 1 (connect .wired signedConfig kitchenToken 60 none reached) ∧
      connect .overridden signedConfig kitchenToken 60 none reached =
        .ok (.streaming [eventsChannel 1]) ∧
      ¬ CoversActive reached 1 (connect .overridden signedConfig kitchenToken 60 none reached) := by
  constructor
  · have hreached : ((runFrom (apiStep fun key => key) kitchenDb [watchIn "Pune" "411001"]).map
        fun reached => decide (ActivelyWatches reached 1 1)) = some true := by
      decide +kernel
    obtain ⟨reached, hrun, hlast⟩ := Option.map_eq_some_iff.mp hreached
    exact ⟨reached, hrun, of_decide_eq_true hlast, connect_wired none,
      not_coversActive_wired none⟩
  · have hreached : ((runFrom (apiStep fun key => key) kitchenDb
        [watchIn "Pune" "411001", unwatch 1]).map fun reached =>
          decide (¬ StillWatched reached 1 ∧
            (SqlAlchemyWatchRepository.listForUser reached 1).map Watch.watchTargetId = [1])) =
              some true := by
      decide +kernel
    obtain ⟨reached, hrun, hlast⟩ := Option.map_eq_some_iff.mp hreached
    obtain ⟨hnot, htargets⟩ := of_decide_eq_true hlast
    refine ⟨reached, hrun, not_coversActive_wired none, ?_, fun hcovers => hnot ?_⟩
    · rw [connect_overridden, websocketEndpoint_eq verify_kitchenToken, if_neg]
      · have hchannels := congrArg (List.map eventsChannel) htargets
        rw [List.map_map] at hchannels
        exact congrArg (fun channels => Except.ok (Connection.streaming channels)) hchannels
      · intro hnil
        rw [hnil] at htargets
        cases htargets
    · exact ((coversActive_connect_iff verify_kitchenToken).mp hcovers).2

end StockMonitoring.Api
