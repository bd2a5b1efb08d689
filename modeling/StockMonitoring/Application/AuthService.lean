import StockMonitoring.Core.Security
import StockMonitoring.Foundation.Pool
import StockMonitoring.Infrastructure.Db.Repositories

set_option autoImplicit false

/-!
# Application: phone and OTP authentication

`app/application/auth_service.py`: requesting a one-time code and verifying it.
Reading the clock, drawing a code, comparing a code with a hash and encoding a token
are calls too, so that a run shows them; they are not awaited and do not raise.
-/

namespace StockMonitoring.Application

open StockMonitoring.Foundation StockMonitoring.Domain StockMonitoring.Infrastructure.Db

/-- The claims of an issued token. -/
structure TokenPayload where
  sub : String
  type : String
  iat : Datetime
  exp : Datetime
  deriving DecidableEq

/-- The calls of the service. -/
inductive AuthOp where
  /-- `OtpChallengeRepository.count_recent` -/
  | countRecent (phoneNumber : String) (windowSeconds : Int)
  /-- `datetime.now(timezone.utc)` -/
  | now
  /-- `generate_otp_code` -/
  | generateOtpCode
  /-- `OtpChallengeRepository.create` -/
  | createChallenge (phoneNumber codeHash : String) (expiresAt createdAt : Datetime)
  /-- `OtpProvider.send_otp` -/
  | sendOtp (phoneNumber code : String)
  /-- `OtpChallengeRepository.get_latest` -/
  | getLatest (phoneNumber : String)
  /-- `verify_otp_code` -/
  | verifyOtpCode (code codeHash : String)
  /-- `OtpChallengeRepository.increment_attempt` -/
  | incrementAttempt (challengeId : Nat)
  /-- `OtpChallengeRepository.mark_consumed` -/
  | markConsumed (challengeId : Nat)
  /-- `UserRepository.get_or_create_by_phone` -/
  | getOrCreateByPhone (phoneNumber : String)
  /-- `jwt.encode` -/
  | encodeToken (payload : TokenPayload) (secret algorithm : String)
  deriving DecidableEq

/-- What each call answers with. -/
abbrev AuthOp.Answer : AuthOp → Type
  | .countRecent _ _ => Nat
  | .now => Datetime
  | .generateOtpCode => String
  | .createChallenge _ _ _ _ => OtpChallenge
  | .getLatest _ => Option OtpChallenge
  | .verifyOtpCode _ _ => Bool
  | .getOrCreateByPhone _ => User
  | .encodeToken _ _ _ => String
  | .sendOtp _ _ | .incrementAttempt _ | .markConsumed _ => Unit

/-- The service's calls. -/
abbrev authPort : Signature := ⟨AuthOp, AuthOp.Answer⟩

/-- A part of the service. -/
abbrev Auth (α : Type) : Type := Co authPort Raised α

/-- One call of the service. -/
abbrev askAuth (op : AuthOp) : Auth op.Answer := @Co.perform authPort Raised op

/-- The policy knobs of the service. -/
structure AuthPolicy where
  jwtSecret : String
  jwtAlgorithm : String
  accessTokenExpireMinutes : Int
  refreshTokenExpireDays : Int
  otpTtlSeconds : Int
  otpMaxPerHour : Nat
  otpMaxAttempts : Nat

/-! ## The service -/

/-- `request_otp`. -/
def requestOtp (policy : AuthPolicy) (phoneNumber : String) : Auth Unit := do
  let recentCount ← askAuth (.countRecent phoneNumber 3600)
  if policy.otpMaxPerHour ≤ recentCount then
    .raise (.rateLimitExceeded s!"Too many OTP requests for {phoneNumber}")
  else
    let now ← askAuth .now
    let code ← askAuth .generateOtpCode
    let _ ← askAuth (.createChallenge phoneNumber (Core.hashOtpCode code)
      (now + seconds policy.otpTtlSeconds) now)
    askAuth (.sendOtp phoneNumber code)

/-- `_issue_token`. -/
def issueToken (policy : AuthPolicy) (userId : Nat) (expiresDelta : Timedelta)
    (tokenType : String) : Auth String := do
  let now ← askAuth .now
  askAuth (.encodeToken ⟨toString userId, tokenType, now, now + expiresDelta⟩ policy.jwtSecret
    policy.jwtAlgorithm)

/-- What `verify_otp` does with the right code. -/
def acceptOtp (policy : AuthPolicy) (phoneNumber : String) (challengeId : Nat) :
    Auth TokenPair := do
  askAuth (.markConsumed challengeId)
  let user ← askAuth (.getOrCreateByPhone phoneNumber)
  match user.id with
  | none => .raise .assertionError
  | some userId =>
      let accessToken ← issueToken policy userId (seconds (policy.accessTokenExpireMinutes * 60))
        "access"
      let refreshToken ← issueToken policy userId (seconds (policy.refreshTokenExpireDays * 86400))
        "refresh"
      pure ⟨accessToken, refreshToken⟩

/-- Whether `verify_otp` turns a challenge away before it looks at the code. -/
def isSpent (policy : AuthPolicy) (challenge : OtpChallenge) (now : Datetime) : Bool :=
  challenge.consumed || decide (challenge.expiresAt < now) ||
    decide (policy.otpMaxAttempts ≤ challenge.attemptCount)

/-- What `verify_otp` does with the challenge it has found. -/
def verifyChallenge (policy : AuthPolicy) (phoneNumber code : String) :
    Option OtpChallenge → Datetime → Auth TokenPair
  | none, _ => .raise (.invalidOtp "OTP is invalid, expired, or exhausted")
  | some challenge, now =>
      if isSpent policy challenge now then
        .raise (.invalidOtp "OTP is invalid, expired, or exhausted")
      else
        match challenge.id with
        | none => .raise .assertionError
        | some challengeId => do
            let isRight ← askAuth (.verifyOtpCode code challenge.codeHash)
            if isRight then
              acceptOtp policy phoneNumber challengeId
            else
              askAuth (.incrementAttempt challengeId)
              .raise (.invalidOtp "Incorrect OTP code")

theorem verifyChallenge_of_spent {policy : AuthPolicy} {phoneNumber code : String}
    {challenge : OtpChallenge} {now : Datetime} (hspent : isSpent policy challenge now = true) :
    verifyChallenge policy phoneNumber code (some challenge) now =
      .raise (.invalidOtp "OTP is invalid, expired, or exhausted") := by
  simp only [verifyChallenge, hspent, if_true]

theorem verifyChallenge_of_not_spent {policy : AuthPolicy} {phoneNumber code : String}
    {challenge : OtpChallenge} {now : Datetime} {id : Nat}
    (hspent : ¬ isSpent policy challenge now = true) (hid : challenge.id = some id) :
    verifyChallenge policy phoneNumber code (some challenge) now =
      (askAuth (.verifyOtpCode code challenge.codeHash) >>= fun isRight =>
        if isRight then acceptOtp policy phoneNumber id
        else askAuth (.incrementAttempt id) >>= fun _ =>
          .raise (.invalidOtp "Incorrect OTP code")) := by
  simp only [verifyChallenge, hspent, hid]
  rfl

/-- `verify_otp`. -/
def verifyOtp (policy : AuthPolicy) (phoneNumber code : String) : Auth TokenPair := do
  let challenge ← askAuth (.getLatest phoneNumber)
  let now ← askAuth .now
  verifyChallenge policy phoneNumber code challenge now

/-! ## What the calls do -/

/-- What is fixed while the API runs. -/
structure AuthConfig where
  policy : AuthPolicy
  /-- the engine's choice among challenges with one timestamp -/
  tie : Nat → Nat
  /-- `jwt.encode` -/
  jwtEncode : TokenPayload → String → String → String

/-- What the outside chooses at a call. -/
structure AuthTurn where
  /-- what the clock says -/
  now : Datetime
  /-- what `secrets.randbelow(1000000)` draws -/
  draw : Fin 1000000
  /-- what the call raises if it is awaited -/
  failure : Option Raised

/-- Whether the service awaits the call. -/
def AuthOp.awaits : AuthOp → Bool
  | .now | .generateOtpCode | .verifyOtpCode _ _ | .encodeToken _ _ _ => false
  | _ => true

/-- The work of a call. -/
def authWork (config : AuthConfig) (turn : AuthTurn) :
    (op : AuthOp) → Database → Reply authPort Raised op × Database
  | .countRecent phoneNumber windowSeconds, db =>
      (.ok (SqlAlchemyOtpChallengeRepository.countRecent db phoneNumber windowSeconds turn.now), db)
  | .now, db => (.ok turn.now, db)
  | .generateOtpCode, db => (.ok (Core.generateOtpCode turn.draw), db)
  | .createChallenge phoneNumber codeHash expiresAt createdAt, db =>
      let (challenge, next) := SqlAlchemyOtpChallengeRepository.create db phoneNumber codeHash
        expiresAt createdAt
      (.ok challenge, next)
  | .sendOtp _ _, db => (.ok (), db)
  | .getLatest phoneNumber, db =>
      (.ok (SqlAlchemyOtpChallengeRepository.getLatest config.tie db phoneNumber), db)
  | .verifyOtpCode code codeHash, db => (.ok (Core.verifyOtpCode code codeHash), db)
  | .incrementAttempt challengeId, db =>
      SqlAlchemyOtpChallengeRepository.incrementAttempt db challengeId
  | .markConsumed challengeId, db => SqlAlchemyOtpChallengeRepository.markConsumed db challengeId
  | .getOrCreateByPhone phoneNumber, db =>
      SqlAlchemyUserRepository.getOrCreateByPhone db phoneNumber turn.now
  | .encodeToken payload secret algorithm, db =>
      (.ok (config.jwtEncode payload secret algorithm), db)

/-- A call with the outside's choice. -/
def authRespond (config : AuthConfig) (op : AuthOp) (turn : AuthTurn) (db : Database) :
    Reply authPort Raised op × Database :=
  match turn.failure with
  | some error => if op.awaits then (.error error, db) else authWork config turn op db
  | none => authWork config turn op db

/-- The service's calls as the event loop sees them. -/
def authEffects (config : AuthConfig) : Effects authPort Raised Database AuthTurn :=
  ⟨AuthOp.awaits, authRespond config⟩

end StockMonitoring.Application
