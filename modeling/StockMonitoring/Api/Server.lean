import StockMonitoring.Api.RequestEffects
import StockMonitoring.Api.TokenProvenance
import StockMonitoring.Infrastructure.Db.RetailersAndLogs

set_option autoImplicit false

/-!
# Api: the application

`create_app` of `app/api/main.py`, one request after another: the authentication routes,
the routes behind `get_current_user_id`, the exception handlers, and
`ErrorLoggingMiddleware` round them.  What FastAPI refuses by itself (a body that does not
fit its schema, a path without a route) does not reach them.

What a request leaves in the tables of the service is said once for all routes
(`kept_serveHttp`), and so is what it leaves of the rows that have an owner
(`rowsOf_serveHttp`).
-/

namespace StockMonitoring.Api

open StockMonitoring.Foundation StockMonitoring.Domain StockMonitoring.Application
  StockMonitoring.Infrastructure.Db

/-! ## Requests -/

/-- The routes behind `get_current_user_id`. -/
inductive GuardedRoute where
  | api (request : ApiRequest)
  /-- `GET /retailers` -/
  | listRetailers
  /-- `GET /logs` -/
  | listLogs

/-- The routes of the application. -/
inductive Route where
  /-- `POST /auth/otp/request` -/
  | otpRequest (phoneNumber : String)
  /-- `POST /auth/otp/verify` -/
  | otpVerify (phoneNumber code : String)
  /-- `POST /auth/refresh` -/
  | refresh (refreshToken : String)
  | guarded (route : GuardedRoute)
  /-- `GET /health` -/
  | health

/-- The `status_code` of a route. -/
def Route.statusCode : Route → Nat
  | .otpRequest _ => 202
  | .guarded (.api (.createProduct _)) | .guarded (.api (.createWatch _))
  | .guarded (.api (.createChannel _)) => 201
  | .guarded (.api (.deleteProduct _)) | .guarded (.api (.deleteWatch _))
  | .guarded (.api (.deleteChannel _)) => 204
  | _ => 200

/-- A request, with what the outside chooses while it is served. -/
structure HttpArrival where
  /-- `request.url.path`, as the client has written it -/
  path : String
  /-- the `Authorization` header -/
  authorization : Option String
  route : Route
  /-- at each call of the authentication service -/
  authTurns : Nat → AuthTurn
  /-- at each call of the handler -/
  apiTurns : Nat → ApiTurn
  /-- what the clock says when an exception is logged -/
  logNow : Datetime
  /-- what logging an exception raises -/
  logFailure : Option Raised

/-! ## Responses -/

/-- A retailer of `GET /retailers`. -/
structure RetailerSchema where
  slug : String
  name : String
  isActive : Bool
  deriving DecidableEq

/-- An entry of `GET /logs`. -/
structure SystemLogSchema where
  id : Option Nat
  level : String
  message : String
  context : List (String × String)
  createdAt : Datetime
  deriving DecidableEq

/-- The body of a response. -/
inductive Body where
  | detail (text : String)
  | auth (answer : TokenAnswer)
  | api (request : ApiRequest) (response : request.Response)
  | retailers (retailers : List RetailerSchema)
  | logs (logs : List SystemLogSchema)
  | ok

/-- What a request comes to: a response, or an exception that the server answers with 500. -/
inductive HttpAnswer where
  | response (statusCode : Nat) (body : Body)
  | raised (error : Raised)

/-! ## The application -/

/-- The tables behind the application. -/
structure Store where
  db : Database
  retailers : Retailers
  systemLogs : Table SystemLogModel

/-- What is fixed while the application runs. -/
structure ServerConfig extends TokenConfig where
  /-- `str` of an exception -/
  str : Raised → String
  /-- whether FastAPI leaves `get_session` before it sends the response -/
  commitsFirst : Bool
  /-- the result for a user id below zero: no row refers to one, so nothing is committed -/
  stranger : (request : ApiRequest) → Database → Except Raised request.Response

/-- The token of an `Authorization` header. -/
def bearerToken : Option String → Option String
  | none => none
  | some authorization =>
      if "Bearer ".toList <+: authorization.toList then
        some (String.ofList (authorization.toList.drop "Bearer ".length))
      else none

/-- `get_current_user_id`. -/
def getCurrentUserId (config : TokenConfig) (authorization : Option String) (now : Datetime) :
    Except Raised Int :=
  match bearerToken authorization with
  | none => .error (.httpException 401 "Missing bearer token")
  | some token =>
      match verifyAccessToken config token now with
      | .error (.invalidToken _) => .error (.httpException 401 "Invalid or expired token")
      | .error error => .error error
      | .ok userId => .ok userId

/-- `list_retailers`. -/
def listRetailers (store : Store) : List RetailerSchema :=
  (SqlAlchemyRetailerRepository.listAll store.retailers).map fun retailer =>
    ⟨retailer.slug, retailer.name, retailer.isActive⟩

/-- `list_logs`. -/
def listLogs (tie : Nat → Nat) (store : Store) : List SystemLogSchema :=
  (SqlAlchemySystemLogRepository.listRecent tie store.systemLogs 100).map fun log =>
    ⟨log.id, log.level, log.message, log.context, log.createdAt⟩

/-- A handler of one query. -/
def queried (turn : ApiTurn) (body : Body) : Except Raised Body :=
  match turn.failure with
  | some error => .error error
  | none => .ok body

/-- A guarded route for a user, and the committed database it leaves. -/
def serveGuarded (config : ServerConfig) (store : Store) (arrival : HttpArrival) (userId : Int) :
    GuardedRoute → Except Raised Body × Database
  | .api request =>
      match userId with
      | .ofNat userId =>
          let outcome := runHandler config.tie arrival.apiTurns (request.handler userId) store.db
          let committed := commit Prod.snd store.db outcome
          ((if config.commitsFirst then committed.1 else outcome.result).map (Body.api request),
            committed.2)
      | .negSucc _ => ((config.stranger request store.db).map (Body.api request), store.db)
  | .listRetailers => (queried (arrival.apiTurns 0) (.retailers (listRetailers store)), store.db)
  | .listLogs => (queried (arrival.apiTurns 0) (.logs (listLogs config.tie store)), store.db)

/-- What the application makes of a request, before the exception handlers. -/
def routed (config : ServerConfig) (store : Store) (arrival : HttpArrival) :
    Except Raised Body × Database :=
  let called (call : TokenCall) : Except Raised Body × Database :=
    let served := serveCall config.toTokenConfig store.db ⟨call, arrival.authTurns⟩
    (served.result.map .auth, served.after)
  match arrival.route with
  | .otpRequest phoneNumber => called (.requestOtp phoneNumber)
  | .otpVerify phoneNumber code => called (.verifyOtp phoneNumber code)
  | .refresh refreshToken => called (.refresh refreshToken)
  | .guarded route =>
      match getCurrentUserId config.toTokenConfig arrival.authorization
          (arrival.authTurns 0).now with
      | .error error => (.error error, store.db)
      | .ok userId => serveGuarded config store arrival userId route
  | .health => (.ok .ok, store.db)

/-- The exception handlers of `create_app`, and FastAPI's own for an `HTTPException`. -/
def exceptionHandler : Raised → Option (Nat × String)
  | .invalidOtp message => some (400, message)
  | .invalidToken message => some (401, message)
  | .rateLimitExceeded message => some (429, message)
  | .httpException statusCode detail => some (statusCode, detail)
  | .valueError _ | .typeError _ | .keyError _ | .overflowError _ | .assertionError
  | .noResultFound | .multipleResultsFound | .integrityError | .external _ => none

/-- `ErrorLoggingMiddleware.dispatch` round the exception handlers. -/
def dispatch (config : ServerConfig) (store : Store) (arrival : HttpArrival) :
    Except Raised Body → HttpAnswer × Table SystemLogModel
  | .ok body => (.response arrival.route.statusCode body, store.systemLogs)
  | .error error =>
      match exceptionHandler error with
      | some (statusCode, detail) => (.response statusCode (.detail detail), store.systemLogs)
      | none =>
          match arrival.logFailure with
          | some failure => (.raised failure, store.systemLogs)
          | none =>
              (.raised error, (SqlAlchemySystemLogRepository.create store.systemLogs "error"
                (config.str error) [("path", arrival.path)] arrival.logNow).2)

/-- The end of a request that the application has made this of. -/
def finish (config : ServerConfig) (store : Store) (arrival : HttpArrival)
    (outcome : Except Raised Body × Database) : HttpAnswer × Store :=
  let (answer, systemLogs) := dispatch config store arrival outcome.1
  (answer, { store with db := outcome.2, systemLogs := systemLogs })

/-- Serve one request. -/
def serveHttp (config : ServerConfig) (store : Store) (arrival : HttpArrival) :
    HttpAnswer × Store :=
  finish config store arrival (routed config store arrival)

/-- What is stored after requests. -/
def storeAfter (config : ServerConfig) (store : Store) (arrivals : List HttpArrival) : Store :=
  arrivals.foldl (fun store arrival => (serveHttp config store arrival).2) store

/-- The call on the authentication service that a request makes. -/
def HttpArrival.serviceCall (arrival : HttpArrival) : Option TokenArrival :=
  match arrival.route with
  | .otpRequest phoneNumber => some ⟨.requestOtp phoneNumber, arrival.authTurns⟩
  | .otpVerify phoneNumber code => some ⟨.verifyOtp phoneNumber code, arrival.authTurns⟩
  | .refresh refreshToken => some ⟨.refresh refreshToken, arrival.authTurns⟩
  | .guarded _ => (bearerToken arrival.authorization).map fun token =>
      ⟨.verifyAccessToken token, arrival.authTurns⟩
  | .health => none

/-- The calls on the authentication service that requests make, with what became of them. -/
def serviceCalls (config : ServerConfig) : Store → List HttpArrival → List TokenServed
  | _, [] => []
  | store, arrival :: later =>
      (arrival.serviceCall.map (serveCall config.toTokenConfig store.db)).toList ++
        serviceCalls config (serveHttp config store arrival).2 later

/-! ## What a request leaves -/

section Leaves

variable {config : ServerConfig} {store : Store} {arrival : HttpArrival}

/-- A request of a user leaves the tables of the authentication service alone. -/
theorem service_of_effect {userId : Nat} {db next : Database} (heffect : Effect userId db next) :
    next.users = db.users ∧ next.otpChallenges = db.otpChallenges := by
  cases heffect with
  | watchCreated product _ _ _ _ _ _ _ mid htarget =>
      obtain ⟨table, rfl⟩ := exists_targetFor_eq htarget
      exact ⟨rfl, rfl⟩
  | settingSet key value _ hset =>
      rcases withSetting_cases hset with ⟨_, _, _, _, rfl⟩ | rfl
      · exact ⟨rfl, rfl⟩
      · exact ⟨rfl, rfl⟩
  | nothing | productCreated | productDeleted | watchDeactivated | channelCreated
  | channelVerified | channelDeleted => exact ⟨rfl, rfl⟩

/-- The user that `get_or_create_by_phone` answers with is the only other thing it leaves. -/
theorem rowsOf_getOrCreateByPhone {test : Option Nat → Bool} {db next : Database}
    {phoneNumber : String} {now : Datetime} {user : User}
    (hreply : SqlAlchemyUserRepository.getOrCreateByPhone db phoneNumber now = (.ok user, next)) :
    rowsOf test next = rowsOf test db := by
  unfold SqlAlchemyUserRepository.getOrCreateByPhone at hreply
  split at hreply
  · cases hreply
  · cases hreply
    rfl
  · cases hreply
    rfl

/-- A call on the authentication service leaves the rows that have an owner alone. -/
theorem rowsOf_serveCall (config : TokenConfig) (test : Option Nat → Bool) (db : Database)
    (call : TokenArrival) : rowsOf test (serveCall config db call).after = rowsOf test db := by
  obtain ⟨call, turns⟩ := call
  cases call with
  | refresh refreshToken => rfl
  | verifyAccessToken token => rfl
  | requestOtp phoneNumber =>
      change rowsOf test (serve config.toAuthConfig db ⟨.otpRequest phoneNumber, turns⟩).after = _
      cases hresult : (serve config.toAuthConfig db ⟨.otpRequest phoneNumber, turns⟩).result with
      | error error => exact congrArg (rowsOf test) (afterSession_of_error hresult)
      | ok result =>
          obtain ⟨_, codeHash, expiresAt, hafter⟩ := serve_requested hresult
          rw [hafter]
          rfl
  | verifyOtp phoneNumber code =>
      change rowsOf test
        (serve config.toAuthConfig db ⟨.otpVerify phoneNumber code, turns⟩).after = _
      cases hresult :
        (serve config.toAuthConfig db ⟨.otpVerify phoneNumber code, turns⟩).result with
      | error error => exact congrArg (rowsOf test) (afterSession_of_error hresult)
      | ok result =>
          obtain ⟨row, user, _, _, _, _, huser, _⟩ := serve_verified hresult
          exact (rowsOf_getOrCreateByPhone huser).trans rfl

/-- A guarded route leaves what a request of its user may leave. -/
theorem effect_of_serveGuarded (config : ServerConfig) (store : Store) (arrival : HttpArrival)
    (userId : Nat) (route : GuardedRoute) :
    Effect userId store.db (serveGuarded config store arrival userId route).2 := by
  cases route with
  | api request => exact effect_of_serve config.tie ⟨userId, request, arrival.apiTurns⟩ store.db
  | listRetailers => exact .nothing
  | listLogs => exact .nothing

/-- A guarded route for the user that `get_current_user_id` has accepted. -/
theorem serveHttp_of_accepted {route : GuardedRoute} (hroute : arrival.route = .guarded route)
    {userId : Int}
    (hguard : getCurrentUserId config.toTokenConfig arrival.authorization
      (arrival.authTurns 0).now = .ok userId) :
    serveHttp config store arrival =
      finish config store arrival (serveGuarded config store arrival userId route) := by
  unfold serveHttp routed
  simp only [hroute, hguard]

/-- A guarded route whose caller `get_current_user_id` has not accepted. -/
theorem serveHttp_of_refused {route : GuardedRoute} (hroute : arrival.route = .guarded route)
    {error : Raised}
    (hguard : getCurrentUserId config.toTokenConfig arrival.authorization
      (arrival.authTurns 0).now = .error error) :
    serveHttp config store arrival = finish config store arrival (.error error, store.db) := by
  unfold serveHttp routed
  simp only [hroute, hguard]

/-- A request of a code, a verification and a refresh come to what their call comes to. -/
theorem routed_of_call {call : TokenArrival} (hcall : arrival.serviceCall = some call)
    (hverify : ∀ token, call.call ≠ .verifyAccessToken token) :
    routed config store arrival =
      ((serveCall config.toTokenConfig store.db call).result.map .auth,
        (serveCall config.toTokenConfig store.db call).after) := by
  unfold routed
  unfold HttpArrival.serviceCall at hcall
  cases hroute : arrival.route with
  | health => simp [hroute] at hcall
  | otpRequest phoneNumber | otpVerify phoneNumber code | refresh refreshToken =>
      rw [hroute] at hcall
      cases hcall
      rfl
  | guarded route =>
      simp only [hroute, Option.map_eq_some_iff] at hcall
      obtain ⟨token, _, rfl⟩ := hcall
      exact absurd rfl (hverify token)

/-- What a request leaves committed: nothing new, what its call on the service leaves, or what
a request of the user of its token leaves. -/
theorem serveHttp_db_cases (config : ServerConfig) (store : Store) (arrival : HttpArrival) :
    (serveHttp config store arrival).2.db = store.db ∨
      (∃ call, arrival.serviceCall = some call ∧
        (serveHttp config store arrival).2.db =
          (serveCall config.toTokenConfig store.db call).after) ∨
      ∃ (route : GuardedRoute) (userId : Nat), arrival.route = .guarded route ∧
        getCurrentUserId config.toTokenConfig arrival.authorization
          (arrival.authTurns 0).now = .ok userId ∧
        Effect userId store.db (serveHttp config store arrival).2.db := by
  change (routed config store arrival).2 = store.db ∨ (∃ call, arrival.serviceCall = some call ∧
    (routed config store arrival).2 = _) ∨ ∃ (route : GuardedRoute) (userId : Nat), _ ∧ _ ∧
      Effect userId store.db (routed config store arrival).2
  unfold routed HttpArrival.serviceCall
  cases hroute : arrival.route with
  | otpRequest phoneNumber => exact Or.inr (Or.inl ⟨_, rfl, rfl⟩)
  | otpVerify phoneNumber code => exact Or.inr (Or.inl ⟨_, rfl, rfl⟩)
  | refresh refreshToken => exact Or.inr (Or.inl ⟨_, rfl, rfl⟩)
  | health => exact Or.inl rfl
  | guarded route =>
      cases hguard : getCurrentUserId config.toTokenConfig arrival.authorization
          (arrival.authTurns 0).now with
      | error error => exact Or.inl rfl
      | ok accepted =>
          cases accepted with
          | ofNat userId =>
              exact Or.inr (Or.inr ⟨route, userId, rfl, rfl,
                effect_of_serveGuarded config store arrival userId route⟩)
          | negSucc below => cases route <;> exact Or.inl rfl

/-- A call that raises leaves the database as it was. -/
theorem after_of_error {config : TokenConfig} {db : Database} {call : TokenArrival}
    {error : Raised} (hresult : (serveCall config db call).result = .error error) :
    (serveCall config db call).after = db := by
  obtain ⟨call, turns⟩ := call
  cases call with
  | refresh refreshToken => rfl
  | verifyAccessToken token => rfl
  | requestOtp phoneNumber =>
      change (serve config.toAuthConfig db ⟨.otpRequest phoneNumber, turns⟩).result.map answerOf =
        .error error at hresult
      change (serve config.toAuthConfig db ⟨.otpRequest phoneNumber, turns⟩).after = db
      cases hserve : (serve config.toAuthConfig db ⟨.otpRequest phoneNumber, turns⟩).result with
      | ok result => rw [hserve] at hresult; cases hresult
      | error raised => exact afterSession_of_error hserve
  | verifyOtp phoneNumber code =>
      change (serve config.toAuthConfig db ⟨.otpVerify phoneNumber code, turns⟩).result.map
        answerOf = .error error at hresult
      change (serve config.toAuthConfig db ⟨.otpVerify phoneNumber code, turns⟩).after = db
      cases hserve : (serve config.toAuthConfig db ⟨.otpVerify phoneNumber code, turns⟩).result with
      | ok result => rw [hserve] at hresult; cases hresult
      | error raised => exact afterSession_of_error hserve

/-- A guarded route that raises leaves the database as it was. -/
theorem serveGuarded_of_error {userId : Int} {route : GuardedRoute} {error : Raised}
    (hresult : (serveGuarded config store arrival userId route).1 = .error error) :
    (serveGuarded config store arrival userId route).2 = store.db := by
  cases route with
  | listRetailers => rfl
  | listLogs => rfl
  | api request =>
      cases userId with
      | negSucc below => rfl
      | ofNat userId =>
          let outcome := runHandler config.tie arrival.apiTurns (request.handler userId) store.db
          change (commit Prod.snd store.db outcome).2 = store.db
          change ((if config.commitsFirst then (commit Prod.snd store.db outcome).1
            else outcome.result).map (Body.api request)) = .error error at hresult
          cases houtcome : outcome.result with
          | error raised => rw [commit_of_error houtcome]
          | ok value =>
              rw [houtcome, commit_of_ok houtcome] at hresult
              rw [commit_of_ok houtcome]
              split
              · rename_i hkeys
                simp [hkeys, Except.map] at hresult
              · rfl

/-- A request that raises leaves the database as it was. -/
theorem routed_of_error {error : Raised}
    (hresult : (routed config store arrival).1 = .error error) :
    (routed config store arrival).2 = store.db := by
  have hcalled : ∀ {call : TokenCall}, (serveCall config.toTokenConfig store.db
      ⟨call, arrival.authTurns⟩).result.map Body.auth = .error error →
      (serveCall config.toTokenConfig store.db ⟨call, arrival.authTurns⟩).after = store.db := by
    intro call hmap
    cases hcall : (serveCall config.toTokenConfig store.db ⟨call, arrival.authTurns⟩).result with
    | ok answer => rw [hcall] at hmap; cases hmap
    | error raised => exact after_of_error hcall
  unfold routed at hresult ⊢
  cases hroute : arrival.route with
  | health => rfl
  | otpRequest phoneNumber | otpVerify phoneNumber code | refresh refreshToken =>
      simp only [hroute] at hresult ⊢
      exact hcalled hresult
  | guarded route =>
      simp only [hroute] at hresult ⊢
      cases hguard : getCurrentUserId config.toTokenConfig arrival.authorization
          (arrival.authTurns 0).now with
      | error raised => rfl
      | ok userId =>
          simp only [hguard] at hresult ⊢
          exact serveGuarded_of_error hresult

end Leaves

end StockMonitoring.Api
