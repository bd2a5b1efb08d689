import StockMonitoring.Api.Server

set_option autoImplicit false

/-!
# Api: the log of unhandled exceptions

`ErrorLoggingMiddleware` over a run of the application.  The log has one entry for each
request whose exception no handler took, in the order of the requests, except where logging
it failed too; such a request has changed nothing else, and `GET /logs` lists the newest
hundred entries (`failures_are_logged_and_listed`).
-/

namespace StockMonitoring.Api

open StockMonitoring.Foundation StockMonitoring.Domain StockMonitoring.Application
  StockMonitoring.Infrastructure.Db

/-! ## Entries -/

/-- What an entry of the log says. -/
structure LogEntry where
  level : String
  message : String
  context : List (String × String)
  createdAt : Datetime
  deriving DecidableEq

/-- What a row says. -/
def entryOf (model : SystemLogModel) : LogEntry :=
  ⟨model.level, model.message, model.context, model.createdAt⟩

/-- What an entry of a response says. -/
def SystemLogSchema.entry (schema : SystemLogSchema) : LogEntry :=
  ⟨schema.level, schema.message, schema.context, schema.createdAt⟩

/-- What the log says. -/
def Store.log (store : Store) : List LogEntry := store.systemLogs.rows.map entryOf

/-- The exception of a request that no exception handler takes. -/
def unhandled (config : ServerConfig) (store : Store) (arrival : HttpArrival) : Option Raised :=
  match (routed config store arrival).1 with
  | .ok _ => none
  | .error error => if exceptionHandler error = none then some error else none

/-- The entry of a request: that of its unhandled exception, unless logging it fails. -/
def logged (config : ServerConfig) (store : Store) (arrival : HttpArrival) : Option LogEntry :=
  match arrival.logFailure with
  | some _ => none
  | none => (unhandled config store arrival).map fun error =>
      ⟨"error", config.str error, [("path", arrival.path)], arrival.logNow⟩

/-- The entries of requests, in their order. -/
def loggedAll (config : ServerConfig) : Store → List HttpArrival → List LogEntry
  | _, [] => []
  | store, arrival :: later =>
      (logged config store arrival).toList ++
        loggedAll config (serveHttp config store arrival).2 later

/-! ## What the log promises -/

/-- The newest hundred entries of a log, newest first. -/
structure ListsNewest (log shown : List LogEntry) : Prop where
  length : shown.length = min 100 log.length
  ordered : shown.Pairwise fun entry other => other.createdAt ≤ entry.createdAt
  /-- none is newer among the entries that are left out -/
  newest : ∃ rest, (shown ++ rest).Perm log ∧
    ∀ entry ∈ shown, ∀ other ∈ rest, other.createdAt ≤ entry.createdAt

/-- A request that fails leaves its entry in the log and nothing else, one that does not fail
leaves no entry, and one that reads the log is shown its newest entries. -/
structure KeepsLog (config : ServerConfig) (found : Store) (arrival : HttpArrival) : Prop where
  raised : (∃ error, (serveHttp config found arrival).1 = .raised error) ↔
    unhandled config found arrival ≠ none
  entry : (serveHttp config found arrival).2.log =
    found.log ++ (logged config found arrival).toList
  unchanged : ∀ error, (routed config found arrival).1 = .error error →
    (serveHttp config found arrival).2.db = found.db
  listed : ∀ statusCode shown, (serveHttp config found arrival).1 =
    .response statusCode (.logs shown) → ListsNewest found.log (shown.map SystemLogSchema.entry)
  readable : arrival.route = .guarded .listLogs → (arrival.apiTurns 0).failure = none →
    ∀ userId, getCurrentUserId config.toTokenConfig arrival.authorization
      (arrival.authTurns 0).now = .ok userId →
    ∃ shown, serveHttp config found arrival = (.response 200 (.logs shown), found)

section KeepsLog

variable {config : ServerConfig} {found : Store} {arrival : HttpArrival}

/-! ## One request -/

theorem entry_create (logs : Table SystemLogModel) (level message : String)
    (context : List (String × String)) (createdAt : Datetime) :
    (SqlAlchemySystemLogRepository.create logs level message context createdAt).2.rows.map entryOf =
      logs.rows.map entryOf ++ [⟨level, message, context, createdAt⟩] :=
  List.map_append

/-- The end of a request in each of the three cases. -/
theorem finish_cases (config : ServerConfig) (store : Store) (arrival : HttpArrival)
    (outcome : Except Raised Body × Database) :
    (∃ body, outcome.1 = .ok body ∧ finish config store arrival outcome =
        (.response arrival.route.statusCode body, { store with db := outcome.2 })) ∨
      (∃ error statusCode detail, outcome.1 = .error error ∧
        exceptionHandler error = some (statusCode, detail) ∧
        finish config store arrival outcome =
          (.response statusCode (.detail detail), { store with db := outcome.2 })) ∨
      ∃ error raised, outcome.1 = .error error ∧ exceptionHandler error = none ∧
        (finish config store arrival outcome).1 = .raised raised ∧
        (finish config store arrival outcome).2.log = store.log ++
          match arrival.logFailure with
          | some _ => []
          | none => [⟨"error", config.str error, [("path", arrival.path)], arrival.logNow⟩] := by
  obtain ⟨result, db⟩ := outcome
  cases result with
  | ok body => exact Or.inl ⟨body, rfl, rfl⟩
  | error error =>
      unfold finish dispatch
      cases hhandler : exceptionHandler error with
      | some handled =>
          obtain ⟨statusCode, detail⟩ := handled
          refine Or.inr (Or.inl ⟨error, statusCode, detail, rfl, hhandler, ?_⟩)
          simp only [hhandler]
      | none =>
          refine Or.inr (Or.inr ?_)
          cases hfailure : arrival.logFailure with
          | some failure =>
              refine ⟨error, failure, rfl, hhandler, ?_, ?_⟩
              · simp only [hhandler]
              · simp only [hhandler, List.append_nil]
                rfl
          | none =>
              refine ⟨error, error, rfl, hhandler, ?_, ?_⟩
              · simp only [hhandler]
              · simp only [hhandler]
                exact entry_create ..

/-- A query that answers. -/
theorem queried_ok {turn : ApiTurn} {body answer : Body} (hok : queried turn body = .ok answer) :
    body = answer := by
  unfold queried at hok
  split at hok
  · cases hok
  · exact Except.ok.inj hok

/-- Only `GET /logs` answers with the log. -/
theorem routed_logs {shown : List SystemLogSchema}
    (hresult : (routed config found arrival).1 = .ok (.logs shown)) :
    shown = listLogs config.tie found := by
  have hother : ∀ {α : Type} {result : Except Raised α} {wrap : α → Body},
      (∀ value, wrap value ≠ .logs shown) → result.map wrap ≠ .ok (.logs shown) := by
    intro α result wrap hwrap hmap
    cases result with
    | error error => cases hmap
    | ok value => exact hwrap value (Except.ok.inj hmap)
  unfold routed at hresult
  cases hroute : arrival.route with
  | health => simp [hroute] at hresult
  | otpRequest phoneNumber | otpVerify phoneNumber code | refresh refreshToken =>
      simp only [hroute] at hresult
      exact absurd hresult (hother (by intro _ h; cases h))
  | guarded route =>
      simp only [hroute] at hresult
      cases hguard : getCurrentUserId config.toTokenConfig arrival.authorization
          (arrival.authTurns 0).now with
      | error raised => simp [hguard] at hresult
      | ok userId =>
          simp only [hguard] at hresult
          cases route with
          | listRetailers => cases queried_ok hresult
          | listLogs =>
              cases queried_ok hresult
              rfl
          | api request =>
              cases userId <;> exact absurd hresult (hother (by intro _ h; cases h))

theorem listsNewest_listLogs (tie : Nat → Nat) (store : Store) :
    ListsNewest store.log ((listLogs tie store).map SystemLogSchema.entry) := by
  let rows := orderDesc tie SystemLogModel.createdAt store.systemLogs.rows
  have hshown : (listLogs tie store).map SystemLogSchema.entry = (rows.take 100).map entryOf := by
    unfold listLogs SqlAlchemySystemLogRepository.listRecent SqlAlchemySystemLogRepository.recent
    rw [List.map_map, List.map_map]
    rfl
  have hordered : rows.Pairwise fun row other => other.createdAt ≤ row.createdAt := by
    refine (orderDesc_pairwise tie SystemLogModel.createdAt store.systemLogs.rows).imp ?_
    intro row other hnot
    by_contra hlt
    exact hnot (Or.inl (Int.not_le.mp hlt))
  have hperm : rows.Perm store.systemLogs.rows := orderDesc_perm ..
  rw [hshown]
  refine ⟨?_, ?_, (rows.drop 100).map entryOf, ?_, ?_⟩
  · rw [List.length_map, List.length_take, hperm.length_eq]
    exact congrArg (min 100) (List.length_map _).symm
  · exact List.pairwise_map.mpr (hordered.sublist (List.take_sublist 100 rows))
  · rw [← List.map_append, List.take_append_drop]
    exact hperm.map entryOf
  · intro entry hentry other hother
    obtain ⟨row, hrow, rfl⟩ := List.mem_map.mp hentry
    obtain ⟨last, hlast, rfl⟩ := List.mem_map.mp hother
    rw [← List.take_append_drop 100 rows] at hordered
    exact (List.pairwise_append.mp hordered).2.2 row hrow last hlast

theorem keepsLog_serveHttp (config : ServerConfig) (found : Store) (arrival : HttpArrival) :
    KeepsLog config found arrival := by
  have hcases := finish_cases config found arrival (routed config found arrival)
  refine ⟨?_, ?_, fun _ herror => routed_of_error herror, ?_, ?_⟩
  · unfold serveHttp unhandled
    rcases hcases with ⟨body, hok, hfinish⟩ |
      ⟨error, statusCode, detail, herror, hhandler, hfinish⟩ |
      ⟨error, raised, herror, hhandler, hanswer, _⟩
    · simp [hok, hfinish]
    · simp [herror, hhandler, hfinish]
    · simp [herror, hhandler, hanswer]
  · unfold serveHttp logged unhandled
    rcases hcases with ⟨body, hok, hfinish⟩ |
      ⟨error, statusCode, detail, herror, hhandler, hfinish⟩ |
      ⟨error, raised, herror, hhandler, _, hlog⟩
    · rw [hfinish, hok]
      cases arrival.logFailure <;> exact (List.append_nil _).symm
    · rw [hfinish, herror]
      simp only [hhandler, reduceCtorEq, if_false]
      cases arrival.logFailure <;> exact (List.append_nil _).symm
    · rw [hlog, herror]
      simp only [hhandler, if_true]
      cases arrival.logFailure <;> rfl
  · intro statusCode shown hanswer
    unfold serveHttp at hanswer
    rcases hcases with ⟨body, hok, hfinish⟩ | ⟨_, _, _, _, _, hfinish⟩ | ⟨_, _, _, _, hraised, _⟩
    · rw [hfinish] at hanswer
      cases hanswer
      rw [routed_logs hok]
      exact listsNewest_listLogs config.tie found
    · rw [hfinish] at hanswer
      cases hanswer
    · rw [hraised] at hanswer
      cases hanswer
  · intro hroute hfailure userId hguard
    refine ⟨listLogs config.tie found, ?_⟩
    rw [serveHttp_of_accepted hroute hguard]
    unfold finish serveGuarded queried dispatch
    rw [hfailure, hroute]
    rfl

end KeepsLog

/-- Over a run of the application the log has exactly the entries of the failed requests that
could be logged, in their order, and every reader of the log is shown the newest of those
before it. -/
theorem failures_are_logged_and_listed (config : ServerConfig) (store : Store)
    (arrivals : List HttpArrival) :
    (storeAfter config store arrivals).log = store.log ++ loggedAll config store arrivals ∧
      ∀ first arrival second, arrivals = first ++ arrival :: second →
        KeepsLog config (storeAfter config store first) arrival := by
  refine ⟨?_, fun first arrival _ _ => keepsLog_serveHttp config _ arrival⟩
  induction arrivals generalizing store with
  | nil => exact (List.append_nil _).symm
  | cons arrival later ih =>
      change (storeAfter config (serveHttp config store arrival).2 later).log = _
      rw [ih, (keepsLog_serveHttp config store arrival).entry, List.append_assoc]
      rfl

end StockMonitoring.Api
