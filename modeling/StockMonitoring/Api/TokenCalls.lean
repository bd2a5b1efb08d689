import StockMonitoring.Api.AuthTrace
import StockMonitoring.Application.TokenService

set_option autoImplicit false

/-!
# Api: calls on the authentication service, one after another

Requests for a code and verifications run as `AuthRequests` has them, each on its own
session; `refresh` and `verify_access_token` do not touch the database.  A call that
returns has issued the tokens it returns.

What a verification that returns has done is `serve_verified`: the challenge it has
accepted, the user, and the two tokens.
-/

namespace StockMonitoring.Api

open StockMonitoring.Foundation StockMonitoring.Domain StockMonitoring.Application
  StockMonitoring.Infrastructure.Db

/-! ## The calls -/

/-- The calls on the service. -/
inductive TokenCall where
  | requestOtp (phoneNumber : String)
  | verifyOtp (phoneNumber code : String)
  | refresh (refreshToken : String)
  | verifyAccessToken (token : String)

/-- What a call returns. -/
inductive TokenAnswer where
  | done
  | tokens (pair : TokenPair)
  | user (userId : Int)
  deriving DecidableEq

/-- A call, with what the outside chooses at each clock reading and each call it makes. -/
structure TokenArrival where
  call : TokenCall
  turns : Nat → AuthTurn

/-- A call that has been served. -/
structure TokenServed where
  arrival : TokenArrival
  /-- the committed database it found -/
  before : Database
  /-- the tokens it has returned -/
  issued : List Issue
  result : Except Raised TokenAnswer
  /-- the committed database it left -/
  after : Database

/-- The token that a call has encoded. -/
def issueOf : Event authPort Raised → Option Issue
  | ⟨.encodeToken payload _ _, .ok token⟩ => some ⟨payload, token⟩
  | _ => none

/-- What the tokens of a verification say. -/
def AuthServed.issues (served : AuthServed) : List Issue :=
  match served.result with
  | .ok _ => served.trace.filterMap issueOf
  | .error _ => []

/-- What a verification returns. -/
def answerOf : Option TokenPair → TokenAnswer
  | some pair => .tokens pair
  | none => .done

/-- Serve one call. -/
def serveCall (config : TokenConfig) (db : Database) (arrival : TokenArrival) : TokenServed :=
  match arrival.call with
  | .requestOtp phoneNumber =>
      let served := serve config.toAuthConfig db ⟨.otpRequest phoneNumber, arrival.turns⟩
      ⟨arrival, db, [], served.result.map answerOf, served.after⟩
  | .verifyOtp phoneNumber code =>
      let served := serve config.toAuthConfig db ⟨.otpVerify phoneNumber code, arrival.turns⟩
      ⟨arrival, db, served.issues, served.result.map answerOf, served.after⟩
  | .refresh refreshToken =>
      let issues := refreshIssues config refreshToken (arrival.turns 0).now (arrival.turns 1).now
        (arrival.turns 2).now
      ⟨arrival, db, issues.toOption.elim [] fun issues => [issues.1, issues.2],
        (refresh config refreshToken (arrival.turns 0).now (arrival.turns 1).now
          (arrival.turns 2).now).map .tokens, db⟩
  | .verifyAccessToken token =>
      ⟨arrival, db, [], (verifyAccessToken config token (arrival.turns 0).now).map .user, db⟩

/-- Serve calls one after another. -/
def serveCalls (config : TokenConfig) : Database → List TokenArrival → List TokenServed
  | _, [] => []
  | db, arrival :: later =>
      serveCall config db arrival :: serveCalls config (serveCall config db arrival).after later

/-- The committed database after calls. -/
def databaseAfter (config : TokenConfig) (db : Database) (arrivals : List TokenArrival) :
    Database :=
  arrivals.foldl (fun db arrival => (serveCall config db arrival).after) db

/-! ## Runs -/

section Runs

variable {config : TokenConfig} {db : Database}

theorem serveCalls_append (arrivals later : List TokenArrival) :
    serveCalls config db (arrivals ++ later) =
      serveCalls config db arrivals ++
        serveCalls config (databaseAfter config db arrivals) later := by
  induction arrivals generalizing db with
  | nil => rfl
  | cons arrival rest ih => exact congrArg (serveCall config db arrival :: ·) ih

theorem databaseAfter_append (arrivals later : List TokenArrival) :
    databaseAfter config db (arrivals ++ later) =
      databaseAfter config (databaseAfter config db arrivals) later :=
  List.foldl_append

theorem arrival_serveCall (db : Database) (arrival : TokenArrival) :
    (serveCall config db arrival).arrival = arrival ∧
      (serveCall config db arrival).before = db := by
  unfold serveCall
  split <;> exact ⟨rfl, rfl⟩

/-- A served call and those before it are a run of their own. -/
theorem serveCalls_split {arrivals : List TokenArrival} {earlier later : List TokenServed}
    {served : TokenServed} (hsplit : serveCalls config db arrivals = earlier ++ served :: later) :
    ∃ first second, arrivals = first ++ served.arrival :: second ∧
      earlier = serveCalls config db first ∧
      served = serveCall config (databaseAfter config db first) served.arrival := by
  induction arrivals generalizing db earlier with
  | nil => cases earlier <;> cases hsplit
  | cons arrival rest ih =>
      cases earlier with
      | nil =>
          obtain ⟨rfl, _⟩ := List.cons.inj hsplit
          rw [(arrival_serveCall db arrival).1]
          exact ⟨[], rest, rfl, rfl, rfl⟩
      | cons first earlier =>
          obtain ⟨rfl, hrest⟩ := List.cons.inj hsplit
          obtain ⟨left, right, rfl, rfl, hserved⟩ := ih hrest
          exact ⟨arrival :: left, right, rfl, rfl, hserved⟩

/-- What every call keeps of the committed database, a run keeps. -/
theorem databaseAfter_invariant {holds : Database → Prop}
    (hserve : ∀ db arrival, holds db → holds (serveCall config db arrival).after)
    (arrivals : List TokenArrival) (hdb : holds db) : holds (databaseAfter config db arrivals) := by
  induction arrivals generalizing db with
  | nil => exact hdb
  | cons arrival later ih => exact ih (hserve db arrival hdb)

end Runs

/-! ## Calls that return -/

section Serve

variable {config : AuthConfig} {db : Database} {phoneNumber code : String} {turns : Nat → AuthTurn}

/-- A call that answers has done its work. -/
theorem authWork_of_answer {op : AuthOp} {turn : Nat} {answer : op.Answer} {next : Nat × Database}
    (hreply : (authEffects config).scripted turns op (turn, db) = (.ok answer, next)) :
    ∃ left, authWork config (turns turn) op db = (.ok answer, left) ∧ next = (turn + 1, left) := by
  have hwork : ((authWork config (turns turn) op db).1,
      (turn + 1, (authWork config (turns turn) op db).2)) = (Except.ok answer, next) := by
    simp only [Effects.scripted, authEffects, authRespond] at hreply
    split at hreply
    · split at hreply
      · cases hreply
      · exact hreply
    · exact hreply
  obtain ⟨hfirst, rfl⟩ := Prod.ext_iff.mp hwork
  exact ⟨_, Prod.ext hfirst rfl, rfl⟩

/-- A call of a handler that returns has done its work, and the handler goes on. -/
theorem exec_askAuth_of_ok {α : Type} {op : AuthOp} {rest : op.Answer → Auth α} {turn : Nat}
    {value : α}
    (hok : (Co.exec ((authEffects config).scripted turns) (askAuth op >>= rest)
      (turn, db)).result = .ok value) :
    ∃ answer left, authWork config (turns turn) op db = (.ok answer, left) ∧
      Co.exec ((authEffects config).scripted turns) (askAuth op >>= rest) (turn, db) =
        (Co.exec ((authEffects config).scripted turns) (rest answer) (turn + 1, left)).after
          ⟨op, .ok answer⟩ ∧
      (Co.exec ((authEffects config).scripted turns) (rest answer) (turn + 1, left)).result =
        .ok value := by
  obtain ⟨answer, next, hreply, hexec, hresult⟩ := Co.exec_perform_of_ok hok
  obtain ⟨left, hwork, rfl⟩ := authWork_of_answer hreply
  exact ⟨answer, left, hwork, hexec, hresult⟩

/-- A request for a code that returns has found few recent challenges and inserted one with the
code it has sent. -/
theorem serve_requested_code {result : Option TokenPair}
    (hresult : (serve config db ⟨.otpRequest phoneNumber, turns⟩).result = .ok result) :
    SqlAlchemyOtpChallengeRepository.countRecent db phoneNumber 3600 (turns 0).now <
        config.policy.otpMaxPerHour ∧
      (serve config db ⟨.otpRequest phoneNumber, turns⟩).after =
        (SqlAlchemyOtpChallengeRepository.create db phoneNumber
          (Core.hashOtpCode (Core.generateOtpCode (turns 2).draw))
          ((turns 1).now + seconds config.policy.otpTtlSeconds) (turns 1).now).2 := by
  let handler := (authEffects config).scripted turns
  change (Co.exec handler (requestOtp config.policy phoneNumber >>= fun _ => pure none)
    (0, db)).result = .ok result at hresult
  have hafter : (serve config db ⟨.otpRequest phoneNumber, turns⟩).after =
      (Co.exec handler (requestOtp config.policy phoneNumber >>= fun _ => pure none)
        (0, db)).state.2 := afterSession_of_ok hresult
  unfold requestOtp at hresult hafter
  rw [bind_assoc] at hresult hafter
  obtain ⟨recentCount, _, hcount, hexec, hresult⟩ := exec_askAuth_of_ok hresult
  rw [hexec, Outcome.after_state] at hafter
  obtain ⟨hcounted, rfl⟩ := Prod.mk.inj hcount
  obtain rfl := Except.ok.inj hcounted
  split at hresult
  · cases hresult
  · rename_i hlimit
    simp only [hlimit, if_false, bind_assoc] at hresult hafter
    obtain ⟨now, _, hnow, hexec, hresult⟩ := exec_askAuth_of_ok hresult
    cases hnow
    rw [hexec, Outcome.after_state] at hafter
    obtain ⟨drawn, _, hdrawn, hexec, hresult⟩ := exec_askAuth_of_ok hresult
    cases hdrawn
    rw [hexec, Outcome.after_state] at hafter
    obtain ⟨challenge, _, hcreate, hexec, hresult⟩ := exec_askAuth_of_ok hresult
    rw [hexec, Outcome.after_state] at hafter
    obtain ⟨_, _, hsent, hexec, hresult⟩ := exec_askAuth_of_ok hresult
    cases hsent
    rw [hexec, Outcome.after_state] at hafter
    exact ⟨Nat.lt_of_not_le hlimit, hafter.trans (congrArg Prod.snd hcreate).symm⟩

/-- It has inserted one. -/
theorem serve_requested {result : Option TokenPair}
    (hresult : (serve config db ⟨.otpRequest phoneNumber, turns⟩).result = .ok result) :
    SqlAlchemyOtpChallengeRepository.countRecent db phoneNumber 3600 (turns 0).now <
        config.policy.otpMaxPerHour ∧
      ∃ codeHash expiresAt, (serve config db ⟨.otpRequest phoneNumber, turns⟩).after =
        (SqlAlchemyOtpChallengeRepository.create db phoneNumber codeHash expiresAt
          (turns 1).now).2 := by
  obtain ⟨hlimit, hafter⟩ := serve_requested_code hresult
  exact ⟨hlimit, _, _, hafter⟩

/-- Issuing a token reads the clock once. -/
theorem exec_issueToken {α : Type} {userId : Nat} {expiresDelta : Timedelta} {tokenType : String}
    {rest : String → Auth α} {turn : Nat} :
    Co.exec ((authEffects config).scripted turns)
        (issueToken config.policy userId expiresDelta tokenType >>= rest) (turn, db) =
      ((Co.exec ((authEffects config).scripted turns)
          (rest (issueAt config userId expiresDelta tokenType (turns turn).now).token)
          (turn + 2, db)).after
        ⟨.encodeToken (issueAt config userId expiresDelta tokenType (turns turn).now).payload
          config.policy.jwtSecret config.policy.jwtAlgorithm,
          .ok (issueAt config userId expiresDelta tokenType (turns turn).now).token⟩).after
        ⟨.now, .ok (turns turn).now⟩ := by
  unfold issueToken
  simp only [bind_assoc]
  have hnow : (authEffects config).scripted turns .now (turn, db) =
      (.ok (turns turn).now, (turn + 1, db)) := scripted_of_not_awaits rfl turns turn db
  rw [Co.exec_perform_ok hnow]
  have hencode : (authEffects config).scripted turns
      (.encodeToken (issueAt config userId expiresDelta tokenType (turns turn).now).payload
        config.policy.jwtSecret config.policy.jwtAlgorithm) (turn + 1, db) =
      (.ok (issueAt config userId expiresDelta tokenType (turns turn).now).token,
        (turn + 2, db)) := scripted_of_not_awaits rfl turns (turn + 1) db
  exact congrArg (Outcome.after · _) (Co.exec_perform_ok hencode _)

/-- What follows the right code: the challenge is marked, the user found or created, and two
tokens are issued. -/
theorem exec_acceptOtp_of_ok {challengeId turn : Nat} {result : Option TokenPair}
    (hresult : (Co.exec ((authEffects config).scripted turns)
      (acceptOtp config.policy phoneNumber challengeId >>= fun tokens => pure (some tokens))
      (turn, db)).result = .ok result) :
    ∃ user userId left,
      SqlAlchemyUserRepository.getOrCreateByPhone
          (SqlAlchemyOtpChallengeRepository.markConsumed db challengeId).2 phoneNumber
          (turns (turn + 1)).now = (.ok user, left) ∧
      user.id = some userId ∧
      (Co.exec ((authEffects config).scripted turns)
        (acceptOtp config.policy phoneNumber challengeId >>= fun tokens => pure (some tokens))
        (turn, db)).state.2 = left ∧
      (Co.exec ((authEffects config).scripted turns)
        (acceptOtp config.policy phoneNumber challengeId >>= fun tokens => pure (some tokens))
        (turn, db)).trace.filterMap issueOf =
          [accessIssue config userId (turns (turn + 2)).now,
            refreshIssue config userId (turns (turn + 4)).now] ∧
      result = some ⟨(accessIssue config userId (turns (turn + 2)).now).token,
        (refreshIssue config userId (turns (turn + 4)).now).token⟩ := by
  unfold acceptOtp at *
  simp only [bind_assoc] at *
  obtain ⟨_, marked, hmarked, hmarkExec, hresult⟩ := exec_askAuth_of_ok hresult
  obtain ⟨user, left, huser, huserExec, hresult⟩ := exec_askAuth_of_ok hresult
  rw [hmarkExec, huserExec]
  have hleft : (SqlAlchemyOtpChallengeRepository.markConsumed db challengeId).2 = marked :=
    congrArg Prod.snd hmarked
  cases hid : user.id with
  | none =>
      rw [hid] at hresult
      cases hresult
  | some userId =>
      rw [hid] at hresult
      simp only [bind_assoc] at hresult ⊢
      rw [exec_issueToken, exec_issueToken] at hresult ⊢
      refine ⟨user, userId, left, ?_, hid, rfl, rfl, (Except.ok.inj hresult).symm⟩
      rw [hleft]
      exact huser

/-- What a verification that returns has done: it has read an unspent challenge with the hash
of the code, marked it, found or created the user, and issued two tokens. -/
theorem serve_verified {result : Option TokenPair}
    (hresult : (serve config db ⟨.otpVerify phoneNumber code, turns⟩).result = .ok result) :
    ∃ row user userId,
      SqlAlchemyOtpChallengeRepository.getLatest config.tie db phoneNumber =
        some (toOtpChallenge row) ∧
      isSpent config.policy (toOtpChallenge row) (turns 1).now = false ∧
      Core.verifyOtpCode code row.codeHash = true ∧
      SqlAlchemyUserRepository.getOrCreateByPhone
          (SqlAlchemyOtpChallengeRepository.markConsumed db row.id).2 phoneNumber (turns 4).now =
        (.ok user, (serve config db ⟨.otpVerify phoneNumber code, turns⟩).after) ∧
      user.id = some userId ∧
      (serve config db ⟨.otpVerify phoneNumber code, turns⟩).issues =
        [accessIssue config userId (turns 5).now, refreshIssue config userId (turns 7).now] ∧
      result = some ⟨(accessIssue config userId (turns 5).now).token,
        (refreshIssue config userId (turns 7).now).token⟩ := by
  let handler := (authEffects config).scripted turns
  change (Co.exec handler (verifyOtp config.policy phoneNumber code >>= fun tokens =>
    pure (some tokens)) (0, db)).result = .ok result at hresult
  have hafter : (serve config db ⟨.otpVerify phoneNumber code, turns⟩).after =
      (Co.exec handler (verifyOtp config.policy phoneNumber code >>= fun tokens =>
        pure (some tokens)) (0, db)).state.2 := afterSession_of_ok hresult
  have hissues : (serve config db ⟨.otpVerify phoneNumber code, turns⟩).issues =
      (Co.exec handler (verifyOtp config.policy phoneNumber code >>= fun tokens =>
        pure (some tokens)) (0, db)).trace.filterMap issueOf := by
    unfold AuthServed.issues
    change (match (Co.exec handler (verifyOtp config.policy phoneNumber code >>= fun tokens =>
      pure (some tokens)) (0, db)).result with | .ok _ => _ | .error _ => _) = _
    rw [hresult]
    rfl
  unfold verifyOtp at hresult hafter hissues
  simp only [bind_assoc] at hresult hafter hissues
  obtain ⟨latest, _, hlatest, hexec, hresult⟩ := exec_askAuth_of_ok hresult
  rw [hexec, Outcome.after_state] at hafter
  rw [hexec, Outcome.after_trace] at hissues
  obtain ⟨hfound, rfl⟩ := Prod.mk.inj hlatest
  obtain ⟨now, _, hnow, hexec, hresult⟩ := exec_askAuth_of_ok hresult
  cases hnow
  rw [hexec, Outcome.after_state] at hafter
  rw [hexec, Outcome.after_trace] at hissues
  cases latest with
  | none => cases hresult
  | some challenge =>
      obtain ⟨row, _, rfl⟩ := row_of_getLatest (Except.ok.inj hfound)
      by_cases hspent : isSpent config.policy (toOtpChallenge row) (turns 1).now = true
      · rw [verifyChallenge_of_spent hspent] at hresult
        cases hresult
      · have hid : (toOtpChallenge row).id = some row.id := rfl
        rw [verifyChallenge_of_not_spent hspent hid, bind_assoc] at hresult hafter hissues
        obtain ⟨isRight, _, hcompared, hexec, hresult⟩ := exec_askAuth_of_ok hresult
        rw [hexec, Outcome.after_state] at hafter
        rw [hexec, Outcome.after_trace] at hissues
        obtain ⟨hright, rfl⟩ := Prod.mk.inj hcompared
        cases isRight with
        | false =>
            simp only [Bool.false_eq_true, if_false, bind_assoc] at hresult
            obtain ⟨_, _, _, _, hraised⟩ := exec_askAuth_of_ok hresult
            cases hraised
        | true =>
            obtain ⟨user, userId, left, huser, huserId, hstate, htokens, hpair⟩ :=
              exec_acceptOtp_of_ok hresult
            refine ⟨row, user, userId, Except.ok.inj hfound, Bool.not_eq_true _ ▸ hspent,
              Except.ok.inj hright, ?_, huserId, hissues.trans htokens, hpair⟩
            rw [hafter.trans hstate]
            exact huser

end Serve

end StockMonitoring.Api
