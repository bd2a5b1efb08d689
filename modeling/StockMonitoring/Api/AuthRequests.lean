import StockMonitoring.Application.AuthService
import StockMonitoring.Infrastructure.Db.Session

set_option autoImplicit false

/-!
# Api: the authentication requests, one after another

`app/api/routers/auth.py` on the session of `app/api/deps.py`: each request runs its
handler on its own session, which is committed when the handler returns.  FastAPI
throws an exception of the handler into `get_session` at its `yield`.
-/

namespace StockMonitoring.Api

open StockMonitoring.Foundation StockMonitoring.Domain StockMonitoring.Application
  StockMonitoring.Infrastructure.Db

/-- The requests that create and use OTP challenges. -/
inductive AuthRequest where
  /-- `POST /auth/otp/request` -/
  | otpRequest (phoneNumber : String)
  /-- `POST /auth/otp/verify` -/
  | otpVerify (phoneNumber code : String)

/-- The handler of a request. -/
def handle (policy : AuthPolicy) : AuthRequest → Auth (Option TokenPair)
  | .otpRequest phoneNumber => do
      requestOtp policy phoneNumber
      pure none
  | .otpVerify phoneNumber code => do
      let tokens ← verifyOtp policy phoneNumber code
      pure (some tokens)

/-- A request, with what the outside chooses at each call of its handler. -/
structure AuthArrival where
  request : AuthRequest
  turns : Nat → AuthTurn

/-- A request that has been served. -/
structure AuthServed where
  arrival : AuthArrival
  /-- the committed database it found -/
  before : Database
  /-- the calls of its handler -/
  trace : List (Event authPort Raised)
  result : Except Raised (Option TokenPair)
  /-- the committed database it left -/
  after : Database

/-- Serve one request. -/
def serve (config : AuthConfig) (db : Database) (arrival : AuthArrival) : AuthServed :=
  let outcome := Co.exec ((authEffects config).scripted arrival.turns)
    (handle config.policy arrival.request) (0, db)
  ⟨arrival, db, outcome.trace, outcome.result, afterSession Prod.snd db outcome⟩

/-- Serve requests one after another. -/
def serveAll (config : AuthConfig) : Database → List AuthArrival → List AuthServed
  | _, [] => []
  | db, arrival :: later =>
      serve config db arrival :: serveAll config (serve config db arrival).after later

/-- What every served request preserves of the committed database holds before each. -/
theorem serveAll_invariant {config : AuthConfig} {holds : Database → Prop}
    (hserve : ∀ db arrival, holds db → holds (serve config db arrival).after)
    {arrivals : List AuthArrival} {db : Database} (hdb : holds db) :
    ∀ served ∈ serveAll config db arrivals,
      served = serve config served.before served.arrival ∧ holds served.before := by
  induction arrivals generalizing db with
  | nil =>
      intro served hserved
      cases hserved
  | cons arrival later ih =>
      intro served hserved
      rcases List.mem_cons.mp hserved with rfl | hlater
      · exact ⟨rfl, hdb⟩
      · exact ih (hserve db arrival hdb) served hlater

end StockMonitoring.Api
