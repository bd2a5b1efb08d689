import StockMonitoring.Api.AuthRequests

set_option autoImplicit false

/-!
# Api: what an authentication request shows

A served request is looked at through two of its calls: the challenge `get_latest` has
given it, and the comparison of its code with a hash.  Both are read off the
committed database the request finds (`resolved_eq`, `serve_otpVerify`).
-/

namespace StockMonitoring.Api

open StockMonitoring.Foundation StockMonitoring.Domain StockMonitoring.Application
  StockMonitoring.Infrastructure.Db

/-! ## What a served request has done -/

/-- The challenge a call has found. -/
def foundBy (event : Event authPort Raised) : Option Nat :=
  match event with
  | ⟨.getLatest _, .ok (some challenge)⟩ => challenge.id
  | _ => none

/-- What a comparison with a hash has given. -/
def comparedBy (event : Event authPort Raised) : Option Bool :=
  match event with
  | ⟨.verifyOtpCode _ _, .ok isRight⟩ => some isRight
  | _ => none

/-- The challenge a request has resolved to. -/
def AuthServed.resolved (served : AuthServed) : Option Nat :=
  served.trace.findSome? foundBy

/-- What the request's comparison has given, if it made one. -/
def AuthServed.compared (served : AuthServed) : Option Bool :=
  served.trace.findSome? comparedBy

/-- The challenge the request's `get_latest` finds. -/
def target (config : AuthConfig) (db : Database) (arrival : AuthArrival) : Option OtpChallenge :=
  match arrival.request, (arrival.turns 0).failure with
  | .otpVerify phoneNumber _, none =>
      SqlAlchemyOtpChallengeRepository.getLatest config.tie db phoneNumber
  | _, _ => none

/-! ## Calls that a part of the service does not make -/

/-- The calls `foundBy` and `comparedBy` look at. -/
def shows : AuthOp → Bool
  | .getLatest _ | .verifyOtpCode _ _ => true
  | _ => false

/-- Those and the call that counts a wrong code. -/
def guards : AuthOp → Bool
  | .getLatest _ | .verifyOtpCode _ _ | .incrementAttempt _ => true
  | _ => false

/-- The protocol of a program that makes none of some calls. -/
def avoiding (avoided : AuthOp → Bool) (α : Type) : Protocol authPort Raised α Unit where
  pre op _ := avoided op = false
  answers _ _ _ := True
  next _ _ _ := ()
  post _ _ := True

theorem avoiding_askAuth {α : Type} {avoided : AuthOp → Bool} {op : AuthOp}
    {rest : op.Answer → Auth α} (hop : avoided op = false)
    (hrest : ∀ answer, (rest answer).Obeys (avoiding avoided α) ()) :
    (askAuth op >>= rest).Obeys (avoiding avoided α) () :=
  Co.obeys_perform hop (fun answer _ => hrest answer) fun _ _ => trivial

theorem avoiding_shows {α : Type} {program : Auth α}
    (hguards : program.Obeys (avoiding guards α) ()) :
    program.Obeys (avoiding shows α) () := by
  refine Co.obeys_of_obeys (fun _ _ => True) ?_ (fun _ _ _ _ _ _ => trivial)
    (fun _ _ _ _ _ _ => trivial) (fun _ _ _ _ _ => trivial) trivial hguards
  intro op _ _ _ hop
  cases op <;> first | rfl | cases hop

/-- A program that makes no call that shows shows nothing. -/
theorem shows_nothing {α : Type} {program : Auth α} (havoids : program.Obeys (avoiding shows α) ())
    (handler : Handler authPort Raised (Nat × Database)) (state : Nat × Database) :
    (program.exec handler state).trace.findSome? foundBy = none ∧
      (program.exec handler state).trace.findSome? comparedBy = none := by
  have hevents : ∀ event ∈ (program.exec handler state).trace, shows event.op = false := by
    intro event hevent
    obtain ⟨_, hshows⟩ := Co.pre_of_mem_trace (fun _ _ _ => trivial) havoids hevent
    exact hshows
  refine ⟨List.findSome?_eq_none_iff.mpr ?_, List.findSome?_eq_none_iff.mpr ?_⟩
  · intro event hevent
    have hshows := hevents event hevent
    obtain ⟨op, reply⟩ := event
    cases op <;> first | rfl | cases hshows
  · intro event hevent
    have hshows := hevents event hevent
    obtain ⟨op, reply⟩ := event
    cases op <;> first | rfl | cases hshows

theorem handle_otpRequest_avoids (policy : AuthPolicy) (phoneNumber : String) :
    (handle policy (.otpRequest phoneNumber)).Obeys (avoiding guards _) () := by
  change (requestOtp policy phoneNumber >>= fun _ => pure none).Obeys _ _
  unfold requestOtp
  rw [bind_assoc]
  refine avoiding_askAuth rfl fun recentCount => ?_
  by_cases hlimit : policy.otpMaxPerHour ≤ recentCount
  · simp only [hlimit, if_true]
    trivial
  · simp only [hlimit, if_false, bind_assoc]
    refine avoiding_askAuth rfl fun now => ?_
    refine avoiding_askAuth rfl fun code => ?_
    refine avoiding_askAuth rfl fun challenge => ?_
    exact avoiding_askAuth rfl fun _ => trivial

theorem acceptOtp_avoids {α : Type} (policy : AuthPolicy) (phoneNumber : String)
    (challengeId : Nat) {rest : TokenPair → Auth α}
    (hrest : ∀ tokens, (rest tokens).Obeys (avoiding guards α) ()) :
    (acceptOtp policy phoneNumber challengeId >>= rest).Obeys (avoiding guards α) () := by
  unfold acceptOtp issueToken
  rw [bind_assoc]
  refine avoiding_askAuth rfl fun _ => ?_
  rw [bind_assoc]
  refine avoiding_askAuth rfl fun user => ?_
  cases user.id with
  | none => trivial
  | some userId =>
      simp only [bind_assoc]
      refine avoiding_askAuth rfl fun _ => ?_
      refine avoiding_askAuth rfl fun accessToken => ?_
      refine avoiding_askAuth rfl fun _ => ?_
      exact avoiding_askAuth rfl fun refreshToken => hrest _

/-! ## Serving a request -/

section Serve

variable {config : AuthConfig} {db : Database} {arrival : AuthArrival} {phoneNumber code : String}

/-- A call the outside lets return. -/
theorem scripted_of_none {script : Nat → AuthTurn} {turn : Nat}
    (hfailure : (script turn).failure = none) (op : AuthOp) (db : Database) :
    (authEffects config).scripted script op (turn, db) =
      ((authWork config (script turn) op db).1,
        (turn + 1, (authWork config (script turn) op db).2)) := by
  simp only [Effects.scripted, authEffects, authRespond, hfailure]

/-- A call that is not awaited. -/
theorem scripted_of_not_awaits {op : AuthOp} (hawaits : op.awaits = false)
    (script : Nat → AuthTurn) (turn : Nat) (db : Database) :
    (authEffects config).scripted script op (turn, db) =
      ((authWork config (script turn) op db).1,
        (turn + 1, (authWork config (script turn) op db).2)) := by
  simp only [Effects.scripted, authEffects, authRespond, hawaits]
  split <;> rfl

/-- What the handler does once `get_latest` has found `challenge`. -/
theorem exec_verifyChallenge {policy : AuthPolicy} {challenge : OtpChallenge} {id : Nat}
    (hid : challenge.id = some id) (script : Nat → AuthTurn) (turn : Nat) (db : Database)
    (now : Datetime) :
    let outcome := Co.exec ((authEffects config).scripted script)
      (verifyChallenge policy phoneNumber code (some challenge) now >>= fun tokens =>
        pure (some tokens))
      (turn, db)
    outcome.trace.findSome? foundBy = none ∧
      outcome.trace.findSome? comparedBy =
        (if isSpent policy challenge now then none
          else some (Core.verifyOtpCode code challenge.codeHash)) ∧
      (isSpent policy challenge now = true →
        outcome.result = .error (.invalidOtp "OTP is invalid, expired, or exhausted")) := by
  intro outcome
  by_cases hspent : isSpent policy challenge now = true
  · have houtcome : outcome =
        ⟨[], .error (.invalidOtp "OTP is invalid, expired, or exhausted"), (turn, db)⟩ := by
      simp only [outcome]
      rw [verifyChallenge_of_spent hspent]
      rfl
    rw [houtcome, if_pos hspent]
    exact ⟨rfl, rfl, fun _ => rfl⟩
  · let right := Core.verifyOtpCode code challenge.codeHash
    let tail : Auth (Option TokenPair) :=
      (if right then acceptOtp policy phoneNumber id
        else askAuth (.incrementAttempt id) >>= fun _ =>
          .raise (.invalidOtp "Incorrect OTP code")) >>= fun tokens => pure (some tokens)
    have havoids : tail.Obeys (avoiding shows _) () := by
      simp only [tail]
      split
      · exact avoiding_shows (acceptOtp_avoids policy phoneNumber id fun _ => trivial)
      · rw [bind_assoc]
        exact avoiding_askAuth rfl fun _ => trivial
    have houtcome : outcome =
        (tail.exec ((authEffects config).scripted script) (turn + 1, db)).after
        ⟨.verifyOtpCode code challenge.codeHash, .ok right⟩ := by
      have hcall : (authEffects config).scripted script
          (.verifyOtpCode code challenge.codeHash) (turn, db) = (.ok right, (turn + 1, db)) :=
        scripted_of_not_awaits rfl script turn db
      simp only [outcome]
      rw [verifyChallenge_of_not_spent hspent hid, bind_assoc]
      exact Co.exec_perform_ok hcall _
    obtain ⟨hfound, hcompared⟩ := shows_nothing havoids ((authEffects config).scripted script)
      (turn + 1, db)
    rw [houtcome, if_neg hspent, Outcome.after_trace]
    refine ⟨?_, rfl, fun h => absurd h hspent⟩
    rw [List.findSome?_cons]
    exact hfound

/-- The challenge that is found is a row. -/
theorem row_of_getLatest {tie : Nat → Nat} {db : Database} {challenge : OtpChallenge}
    (hlatest : SqlAlchemyOtpChallengeRepository.getLatest tie db phoneNumber = some challenge) :
    ∃ row ∈ db.otpChallenges.rows, challenge = toOtpChallenge row := by
  obtain ⟨row, hrow, rfl⟩ := Option.map_eq_some_iff.mp hlatest
  exact ⟨row, (List.mem_filter.mp (mem_of_newest hrow)).1, rfl⟩

/-- What a verification shows: the challenge it finds, and the comparison of the code
unless the challenge is spent. -/
theorem serve_otpVerify (config : AuthConfig) (db : Database) (arrival : AuthArrival)
    (hrequest : arrival.request = .otpVerify phoneNumber code) :
    (serve config db arrival).resolved =
        (target config db arrival).bind OtpChallenge.id ∧
      (serve config db arrival).compared =
        ((target config db arrival).filter fun challenge =>
          !isSpent config.policy challenge (arrival.turns 1).now).map
            (fun challenge => Core.verifyOtpCode code challenge.codeHash) ∧
      (∀ challenge, target config db arrival = some challenge →
        isSpent config.policy challenge (arrival.turns 1).now = true →
        ∃ message, (serve config db arrival).result = .error (.invalidOtp message)) := by
  obtain ⟨request, turns⟩ := arrival
  cases hrequest
  let handler := (authEffects config).scripted turns
  have hhandle : handle config.policy (.otpVerify phoneNumber code) =
      (askAuth (.getLatest phoneNumber) >>= fun latest => askAuth .now >>= fun now =>
        verifyChallenge config.policy phoneNumber code latest now >>=
          fun tokens => pure (some tokens)) := by
    simp only [handle, verifyOtp, bind_assoc]
  unfold AuthServed.resolved AuthServed.compared serve
  simp only [hhandle]
  cases hfailure : (turns 0).failure with
  | some error =>
      have hcall : handler (.getLatest phoneNumber) (0, db) = (.error error, (1, db)) := by
        simp only [handler, Effects.scripted, authEffects, authRespond, hfailure]
        rfl
      have htarget : target config db ⟨.otpVerify phoneNumber code, turns⟩ = none := by
        simp only [target, hfailure]
      rw [Co.exec_perform_error hcall, htarget]
      exact ⟨rfl, rfl, fun _ h => (by cases h)⟩
  | none =>
      let latest := SqlAlchemyOtpChallengeRepository.getLatest config.tie db phoneNumber
      have hcall : handler (.getLatest phoneNumber) (0, db) = (.ok latest, (1, db)) :=
        scripted_of_none hfailure _ db
      have hnow : handler .now (1, db) = (.ok (turns 1).now, (2, db)) :=
        scripted_of_not_awaits rfl turns 1 db
      have htarget : target config db ⟨.otpVerify phoneNumber code, turns⟩ = latest := by
        simp only [target, hfailure, latest]
      rw [Co.exec_perform_ok hcall, Co.exec_perform_ok hnow, htarget]
      cases hlatest : latest with
      | none => exact ⟨rfl, rfl, fun _ h => (by cases h)⟩
      | some challenge =>
          obtain ⟨row, _, rfl⟩ := row_of_getLatest hlatest
          have hid : (toOtpChallenge row).id = some row.id := rfl
          obtain ⟨hfound, hcompared, hresult⟩ := exec_verifyChallenge hid turns 2 db (turns 1).now
          refine ⟨rfl, ?_, ?_⟩
          · apply Eq.trans hcompared
            rw [Option.filter_some]
            cases isSpent config.policy (toOtpChallenge row) (turns 1).now <;> rfl
          · intro challenge hchallenge hspent
            cases hchallenge
            exact ⟨_, hresult hspent⟩

/-- A request for a code shows nothing. -/
theorem serve_otpRequest (config : AuthConfig) (db : Database) (arrival : AuthArrival)
    (hrequest : arrival.request = .otpRequest phoneNumber) :
    (serve config db arrival).resolved = none ∧ (serve config db arrival).compared = none ∧
      target config db arrival = none := by
  obtain ⟨request, turns⟩ := arrival
  cases hrequest
  obtain ⟨hfound, hcompared⟩ := shows_nothing
    (avoiding_shows (handle_otpRequest_avoids config.policy phoneNumber))
    ((authEffects config).scripted turns)
    (0, db)
  exact ⟨hfound, hcompared, rfl⟩

theorem resolved_eq (config : AuthConfig) (db : Database) (arrival : AuthArrival) :
    (serve config db arrival).resolved = (target config db arrival).bind OtpChallenge.id := by
  obtain ⟨request, turns⟩ := arrival
  cases request with
  | otpRequest phoneNumber =>
      obtain ⟨hresolved, _, htarget⟩ := serve_otpRequest config db
        ⟨.otpRequest phoneNumber, turns⟩ rfl
      rw [hresolved, htarget]
      rfl
  | otpVerify phoneNumber code =>
      exact (serve_otpVerify config db ⟨.otpVerify phoneNumber code, turns⟩ rfl).1

/-- A request that resolves to a spent challenge is turned away. -/
theorem invalidOtp_of_spent {challenge : OtpChallenge}
    (htarget : target config db arrival = some challenge)
    (hspent : isSpent config.policy challenge (arrival.turns 1).now = true) :
    (∃ message, (serve config db arrival).result = .error (.invalidOtp message)) ∧
      (serve config db arrival).compared = none := by
  obtain ⟨request, turns⟩ := arrival
  cases request with
  | otpRequest phoneNumber => cases htarget
  | otpVerify phoneNumber code =>
      obtain ⟨_, hcompared, hresult⟩ := serve_otpVerify config db
        ⟨.otpVerify phoneNumber code, turns⟩ rfl
      refine ⟨hresult challenge htarget hspent, ?_⟩
      rw [hcompared, htarget, Option.filter_some, hspent]
      rfl

end Serve

end StockMonitoring.Api
