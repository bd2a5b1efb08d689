import StockMonitoring.Api.Authorization
import StockMonitoring.Api.BruteForce

set_option autoImplicit false

/-!
# Api: logging in

The code that was sent last for a phone number, entered in time, is answered with tokens of
the number's only user, and the tokens are good for that user until they expire
(`right_code_logs_in`).  The invariant is that the newest challenge of the number is the one
that was created with the code, and is open.
-/

namespace StockMonitoring.Api

open StockMonitoring.Foundation StockMonitoring.Domain StockMonitoring.Application
  StockMonitoring.Infrastructure.Db

/-! ## Tokens that are accepted -/

/-- A token that the service encodes for a user decodes to its claims: from the time it was
issued until a second before it expires, since a token keeps whole seconds. -/
def JwtAccepts (config : TokenConfig) : Prop :=
  ∀ (userId : Nat) tokenType issuedAt expiresAt now,
    tokenType = "access" ∨ tokenType = "refresh" → issuedAt ≤ now → now + seconds 1 ≤ expiresAt →
    config.jwtDecode (config.jwtEncode ⟨toString userId, tokenType, issuedAt, expiresAt⟩
        config.policy.jwtSecret config.policy.jwtAlgorithm)
      config.policy.jwtSecret config.policy.jwtAlgorithm now =
        .ok ⟨some (toString userId), some tokenType⟩

/-- The lifetime of an access token. -/
def accessLifetime (policy : AuthPolicy) : Timedelta :=
  seconds (policy.accessTokenExpireMinutes * 60)

/-- The lifetime of a refresh token. -/
def refreshLifetime (policy : AuthPolicy) : Timedelta :=
  seconds (policy.refreshTokenExpireDays * 86400)

/-- The tokens issued to a user, each at its clock reading. -/
def issuedPair (config : AuthConfig) (userId : Nat) (accessNow refreshNow : Datetime) : TokenPair :=
  ⟨(accessIssue config userId accessNow).token, (refreshIssue config userId refreshNow).token⟩

/-- A time at which a token is good. -/
def During (issuedAt : Datetime) (lifetime : Timedelta) (now : Datetime) : Prop :=
  issuedAt ≤ now ∧ now + seconds 1 ≤ issuedAt + lifetime

/-- The tokens of a pair are good for a user until they expire. -/
structure Opens (config : ServerConfig) (userId : Nat) (accessNow refreshNow : Datetime) :
    Prop where
  /-- a guarded request with the access token is served as the user's -/
  access : ∀ store arrival route, arrival.route = .guarded route →
    arrival.authorization =
      some ("Bearer " ++ (issuedPair config.toAuthConfig userId accessNow refreshNow).accessToken) →
    During accessNow (accessLifetime config.policy) (arrival.authTurns 0).now →
      serveHttp config store arrival =
        finish config store arrival (serveGuarded config store arrival userId route)
  /-- the refresh token is exchanged for the next pair of the user -/
  refresh : ∀ store arrival,
    arrival.route =
      .refresh (issuedPair config.toAuthConfig userId accessNow refreshNow).refreshToken →
    During refreshNow (refreshLifetime config.policy) (arrival.authTurns 0).now →
      serveHttp config store arrival =
        (.response 200 (.auth (.tokens (issuedPair config.toAuthConfig userId
          (arrival.authTurns 1).now (arrival.authTurns 2).now))), store)

section Opens

variable {config : ServerConfig} {userId : Nat}

/-- The service accepts what it has issued while it is good. -/
theorem verifyToken_issueAt {config : TokenConfig} (haccepts : JwtAccepts config)
    {lifetime : Timedelta} {tokenType : String} {issuedAt now : Datetime}
    (htype : tokenType = "access" ∨ tokenType = "refresh")
    (hduring : During issuedAt lifetime now) :
    verifyToken config (issueAt config.toAuthConfig userId lifetime tokenType issuedAt).token
      tokenType now = .ok userId :=
  verifyToken_eq_ok_iff.mpr ⟨userId.repr,
    haccepts userId tokenType issuedAt (issuedAt + lifetime) now htype hduring.1 hduring.2,
    intOf_repr userId⟩

/-- Every pair that is issued to a user is good for the user. -/
theorem opens_issuedPair (haccepts : JwtAccepts config.toTokenConfig) (userId : Nat)
    (accessNow refreshNow : Datetime) : Opens config userId accessNow refreshNow where
  access store arrival route hroute htoken hduring := by
    have hverify : verifyToken config.toTokenConfig
        (issuedPair config.toAuthConfig userId accessNow refreshNow).accessToken "access"
        (arrival.authTurns 0).now = .ok userId := verifyToken_issueAt haccepts (Or.inl rfl) hduring
    refine serveHttp_of_accepted hroute ?_
    unfold getCurrentUserId verifyAccessToken
    rw [htoken]
    simp only [bearerToken_append, hverify]
  refresh store arrival hroute hduring := by
    have hverify : verifyToken config.toTokenConfig
        (issuedPair config.toAuthConfig userId accessNow refreshNow).refreshToken "refresh"
        (arrival.authTurns 0).now = .ok userId := verifyToken_issueAt haccepts (Or.inr rfl) hduring
    unfold serveHttp routed
    simp only [hroute, serveCall, Application.refresh, refreshIssues, hverify]
    unfold finish dispatch Route.statusCode
    rw [hroute]
    rfl

end Opens

/-! ## A code that is entered -/

/-- The phone number that a route is about. -/
def Route.phoneNumber : Route → Option String
  | .otpRequest phoneNumber => some phoneNumber
  | .otpVerify phoneNumber _ => some phoneNumber
  | .refresh _ | .guarded _ | .health => none

/-- The phone number that a call is about. -/
def TokenCall.phoneNumber : TokenCall → Option String
  | .requestOtp phoneNumber => some phoneNumber
  | .verifyOtp phoneNumber _ => some phoneNumber
  | .refresh _ | .verifyAccessToken _ => none

/-- An authentication route has done what it was asked. -/
def Answered (config : ServerConfig) (found : Store) (arrival : HttpArrival) : Prop :=
  ∃ answer, (serveHttp config found arrival).1 = .response arrival.route.statusCode (.auth answer)

/-- A code was sent, and is entered in time, as long as no later code was sent and the code was
not used before. -/
structure CodeEntered (config : ServerConfig) (store : Store) (first : List HttpArrival)
    (request : HttpArrival) (between : List HttpArrival) (verify : HttpArrival)
    (phoneNumber : String) : Prop where
  requested : request.route = .otpRequest phoneNumber
  sent : Answered config (storeAfter config store first) request
  newest : ∀ before other after, between = before ++ other :: after →
    other.route.phoneNumber = some phoneNumber →
      ¬ Answered config (storeAfter config store (first ++ request :: before)) other
  entered : verify.route =
    .otpVerify phoneNumber (Core.generateOtpCode (request.authTurns 2).draw)
  inTime : (verify.authTurns 1).now ≤
    (request.authTurns 1).now + seconds config.policy.otpTtlSeconds
  /-- no call of the verification is made to raise -/
  calm : ∀ turn, (verify.authTurns turn).failure = none

/-! ## What every request keeps -/

/-- No wrong code is counted, and no two users have one phone number. -/
structure Tidy (db : Database) : Prop where
  uncounted : Uncounted db
  phones : (db.users.rows.map UserModel.phoneNumber).Nodup

/-- The newest challenge of a number is open, with the hash and the end it was created with. -/
def Awaits (tie : Nat → Nat) (db : Database) (phoneNumber codeHash : String)
    (expiresAt : Datetime) : Prop :=
  ∃ row, newest tie OtpChallengeModel.createdAt
      (db.otpChallenges.rows.filter fun row => row.phoneNumber == phoneNumber) = some row ∧
    row.codeHash = codeHash ∧ row.expiresAt = expiresAt ∧ row.consumed = false

section Keeps

variable {config : ServerConfig} {store : Store} {arrival : HttpArrival} {db next : Database}
  {phoneNumber other codeHash : String} {expiresAt now : Datetime}

/-- A new user has a new phone number. -/
theorem phones_getOrCreateByPhone {user : User}
    (hphones : (db.users.rows.map UserModel.phoneNumber).Nodup)
    (hreply : SqlAlchemyUserRepository.getOrCreateByPhone db phoneNumber now = (.ok user, next)) :
    (next.users.rows.map UserModel.phoneNumber).Nodup := by
  unfold SqlAlchemyUserRepository.getOrCreateByPhone at hreply
  match hrows : db.users.rows.filter fun row => row.phoneNumber == phoneNumber with
  | [] =>
      simp only [hrows, scalarOneOrNone, Prod.mk.injEq, Except.ok.injEq] at hreply
      obtain ⟨_, rfl⟩ := hreply
      change ((db.users.rows ++ [_]).map UserModel.phoneNumber).Nodup
      rw [List.map_append, List.map_singleton]
      refine hphones.append (List.nodup_singleton _) (List.disjoint_singleton.mpr fun hmem => ?_)
      obtain ⟨row, hrow, hsame⟩ := List.mem_map.mp hmem
      have hnone := List.filter_eq_nil_iff.mp hrows row hrow
      exact hnone (beq_iff_eq.mpr hsame)
  | [row] =>
      simp only [hrows, scalarOneOrNone, Prod.mk.injEq] at hreply
      exact hreply.2 ▸ hphones
  | _ :: _ :: _ =>
      simp only [hrows, scalarOneOrNone, Prod.mk.injEq] at hreply
      cases hreply.1

/-- With different phone numbers `get_or_create_by_phone` answers. -/
theorem exists_getOrCreateByPhone (hphones : (db.users.rows.map UserModel.phoneNumber).Nodup)
    (phoneNumber : String) (now : Datetime) :
    ∃ user userId left, SqlAlchemyUserRepository.getOrCreateByPhone db phoneNumber now =
      (.ok user, left) ∧ user.id = some userId := by
  have hone : (db.users.rows.filter fun row => row.phoneNumber == phoneNumber).length ≤ 1 := by
    rw [← List.countP_eq_length_filter]
    refine Nat.le_trans (List.countP_mono_left ?_)
      (nodup_map_iff_countP_le_one.mp hphones phoneNumber)
    intro row _ htest
    exact decide_eq_true (beq_iff_eq.mp htest)
  obtain ⟨found, hfound⟩ := scalarOneOrNone_eq_ok_iff.mpr hone
  unfold SqlAlchemyUserRepository.getOrCreateByPhone
  rw [hfound]
  cases found with
  | none => exact ⟨_, _, _, rfl, rfl⟩
  | some row => exact ⟨_, _, _, rfl, rfl⟩

theorem tidy_serveCall (config : TokenConfig) (call : TokenArrival) (htidy : Tidy db) :
    Tidy (serveCall config db call).after := by
  obtain ⟨call, turns⟩ := call
  cases call with
  | refresh refreshToken => exact htidy
  | verifyAccessToken token => exact htidy
  | requestOtp phoneNumber =>
      refine ⟨serve_uncounted config.toAuthConfig db ⟨.otpRequest phoneNumber, turns⟩
        htidy.uncounted, ?_⟩
      change ((serve config.toAuthConfig db ⟨.otpRequest phoneNumber,
        turns⟩).after.users.rows.map _).Nodup
      cases hresult : (serve config.toAuthConfig db ⟨.otpRequest phoneNumber, turns⟩).result with
      | error error =>
          rw [show (serve config.toAuthConfig db ⟨.otpRequest phoneNumber, turns⟩).after = db from
            afterSession_of_error hresult]
          exact htidy.phones
      | ok result =>
          rw [(serve_requested_code hresult).2]
          exact htidy.phones
  | verifyOtp phoneNumber code =>
      refine ⟨serve_uncounted config.toAuthConfig db ⟨.otpVerify phoneNumber code, turns⟩
        htidy.uncounted, ?_⟩
      change ((serve config.toAuthConfig db ⟨.otpVerify phoneNumber code,
        turns⟩).after.users.rows.map _).Nodup
      cases hresult :
        (serve config.toAuthConfig db ⟨.otpVerify phoneNumber code, turns⟩).result with
      | error error =>
          rw [show (serve config.toAuthConfig db ⟨.otpVerify phoneNumber code, turns⟩).after = db
            from afterSession_of_error hresult]
          exact htidy.phones
      | ok result =>
          obtain ⟨row, user, _, _, _, _, huser, _⟩ := serve_verified hresult
          refine phones_getOrCreateByPhone ?_ huser
          rw [(stamps_markConsumed db row.id).2]
          exact htidy.phones

theorem tidy_serveHttp (htidy : Tidy store.db) : Tidy (serveHttp config store arrival).2.db := by
  rcases serveHttp_db_cases config store arrival with hsame | ⟨call, _, hafter⟩ |
    ⟨_, userId, _, _, heffect⟩
  · exact hsame ▸ htidy
  · exact hafter ▸ tidy_serveCall config.toTokenConfig call htidy
  · obtain ⟨husers, hchallenges⟩ := service_of_effect heffect
    refine ⟨?_, husers ▸ htidy.phones⟩
    unfold Uncounted
    rw [hchallenges]
    exact htidy.uncounted

/-- An open challenge depends on the challenges of its number alone. -/
theorem Awaits.congr {tie : Nat → Nat} (hawaits : Awaits tie db phoneNumber codeHash expiresAt)
    (hsame : (next.otpChallenges.rows.filter fun row => row.phoneNumber == phoneNumber) =
      db.otpChallenges.rows.filter fun row => row.phoneNumber == phoneNumber) :
    Awaits tie next phoneNumber codeHash expiresAt := by
  unfold Awaits
  rw [hsame]
  exact hawaits

/-- `get_latest` gives a row. -/
theorem newest_of_getLatest {tie : Nat → Nat} {row : OtpChallengeModel}
    (hlatest : SqlAlchemyOtpChallengeRepository.getLatest tie db phoneNumber =
      some (toOtpChallenge row)) :
    newest tie OtpChallengeModel.createdAt
      (db.otpChallenges.rows.filter fun row => row.phoneNumber == phoneNumber) = some row := by
  obtain ⟨found, hnewest, hsame⟩ := Option.map_eq_some_iff.mp hlatest
  obtain ⟨⟩ := found
  obtain ⟨⟩ := row
  simp only [toOtpChallenge, OtpChallenge.mk.injEq, Option.some.injEq] at hsame
  obtain ⟨rfl, rfl, rfl, rfl, rfl, rfl, rfl⟩ := hsame
  exact hnewest

theorem phoneNumber_serviceCall {call : TokenArrival} (hcall : arrival.serviceCall = some call) :
    call.call.phoneNumber = arrival.route.phoneNumber := by
  unfold HttpArrival.serviceCall at hcall
  cases hroute : arrival.route with
  | health => simp [hroute] at hcall
  | otpRequest phoneNumber | otpVerify phoneNumber code | refresh refreshToken =>
      rw [hroute] at hcall
      cases hcall
      rfl
  | guarded route =>
      simp only [hroute, Option.map_eq_some_iff] at hcall
      obtain ⟨token, _, rfl⟩ := hcall
      rfl

/-- A call about another number leaves the challenges of a number alone. -/
theorem challenges_serveCall (config : TokenConfig) {call : TokenArrival}
    (hother : call.call.phoneNumber ≠ some phoneNumber) :
    ((serveCall config db call).after.otpChallenges.rows.filter
        fun row => row.phoneNumber == phoneNumber) =
      db.otpChallenges.rows.filter fun row => row.phoneNumber == phoneNumber := by
  obtain ⟨call, turns⟩ := call
  cases call with
  | refresh refreshToken => rfl
  | verifyAccessToken token => rfl
  | requestOtp number =>
      have hne : (number == phoneNumber) = false :=
        beq_eq_false_iff_ne.mpr fun hsame => hother (congrArg some hsame)
      cases hresult : (serve config.toAuthConfig db ⟨.otpRequest number, turns⟩).result with
      | error error =>
          have hafter : (serveCall config db ⟨.requestOtp number, turns⟩).after = db :=
            afterSession_of_error hresult
          rw [hafter]
      | ok result =>
          have hafter := (serve_requested_code hresult).2
          change ((serve config.toAuthConfig db ⟨.otpRequest number,
            turns⟩).after.otpChallenges.rows.filter _) = _
          rw [hafter]
          exact Table.filter_insert hne
  | verifyOtp number code =>
      have hne : (number == phoneNumber) = false :=
        beq_eq_false_iff_ne.mpr fun hsame => hother (congrArg some hsame)
      cases hresult : (serve config.toAuthConfig db ⟨.otpVerify number code, turns⟩).result with
      | error error =>
          have hafter : (serveCall config db ⟨.verifyOtp number code, turns⟩).after = db :=
            afterSession_of_error hresult
          rw [hafter]
      | ok result =>
          obtain ⟨row, user, _, hlatest, _, _, huser, _⟩ := serve_verified hresult
          obtain ⟨_, _, hchallenges⟩ := getOrCreateByPhone_onlyUser huser
          obtain ⟨hmem, hnumber⟩ := List.mem_filter.mp (mem_of_newest (newest_of_getLatest hlatest))
          have hunseen : (row.phoneNumber == phoneNumber) = false := beq_iff_eq.mp hnumber ▸ hne
          change ((serve config.toAuthConfig db ⟨.otpVerify number code,
            turns⟩).after.otpChallenges.rows.filter _) = _
          rw [hchallenges]
          unfold SqlAlchemyOtpChallengeRepository.markConsumed
          simp only [updateOne_snd]
          exact Table.filter_modify (by intro _; rfl) hmem hunseen hunseen

theorem answer_of_map {result : Except Raised TokenAnswer} {body : Body}
    (hbody : result.map Body.auth = .ok body) : ∃ answer, body = .auth answer := by
  cases result with
  | error error => cases hbody
  | ok answer => exact ⟨answer, (Except.ok.inj hbody).symm⟩

/-- A request about a number that comes to a body is answered. -/
theorem answered_of_ok {body : Body} (hphone : arrival.route.phoneNumber = some phoneNumber)
    (hok : (routed config store arrival).1 = .ok body) : Answered config store arrival := by
  have hauth : ∃ answer, body = .auth answer := by
    unfold routed at hok
    cases hroute : arrival.route with
    | health | refresh refreshToken | guarded route =>
        rw [hroute] at hphone
        cases hphone
    | otpRequest number | otpVerify number code =>
        simp only [hroute] at hok
        exact answer_of_map hok
  obtain ⟨answer, rfl⟩ := hauth
  refine ⟨answer, ?_⟩
  unfold serveHttp finish
  rw [hok]
  rfl

/-- A code or a verification that is not answered changes nothing. -/
theorem serveHttp_db_of_not_answered (hphone : arrival.route.phoneNumber = some phoneNumber)
    (hnot : ¬ Answered config store arrival) :
    (serveHttp config store arrival).2.db = store.db := by
  cases hresult : (routed config store arrival).1 with
  | error error => exact routed_of_error hresult
  | ok body => exact absurd (answered_of_ok hphone hresult) hnot

/-- A request keeps a challenge open unless it is about the number and is answered. -/
theorem awaits_serveHttp {tie : Nat → Nat}
    (hawaits : Awaits tie store.db phoneNumber codeHash expiresAt)
    (hother : arrival.route.phoneNumber = some phoneNumber → ¬ Answered config store arrival) :
    Awaits tie (serveHttp config store arrival).2.db phoneNumber codeHash expiresAt := by
  by_cases hphone : arrival.route.phoneNumber = some phoneNumber
  · rw [serveHttp_db_of_not_answered hphone (hother hphone)]
    exact hawaits
  · rcases serveHttp_db_cases config store arrival with hsame | ⟨call, hcall, hafter⟩ |
      ⟨_, userId, _, _, heffect⟩
    · rw [hsame]
      exact hawaits
    · rw [hafter]
      refine hawaits.congr (challenges_serveCall config.toTokenConfig ?_)
      rw [phoneNumber_serviceCall hcall]
      exact hphone
    · refine hawaits.congr ?_
      rw [(service_of_effect heffect).2]

end Keeps

/-! ## The code that was sent -/

section Sent

variable {config : ServerConfig} {store : Store} {arrivals first between second : List HttpArrival}
  {request verify : HttpArrival} {phoneNumber codeHash : String} {expiresAt : Datetime}

/-- A request that is answered has come to its answer before the exception handlers. -/
theorem routed_of_answered (hanswered : Answered config store request) :
    ∃ answer, (routed config store request).1 = .ok (.auth answer) := by
  obtain ⟨answer, hresponse⟩ := hanswered
  unfold serveHttp finish dispatch at hresponse
  cases hresult : (routed config store request).1 with
  | ok body =>
      rw [hresult] at hresponse
      cases hresponse
      exact ⟨answer, rfl⟩
  | error error =>
      rw [hresult] at hresponse
      simp only at hresponse
      split at hresponse
      · cases hresponse
      · split at hresponse <;> cases hresponse

/-- What an answered request for a code has left. -/
theorem serveHttp_db_of_sent (hroute : request.route = .otpRequest phoneNumber)
    (hsent : Answered config store request) :
    (serveHttp config store request).2.db =
      (SqlAlchemyOtpChallengeRepository.create store.db phoneNumber
        (Core.hashOtpCode (Core.generateOtpCode (request.authTurns 2).draw))
        ((request.authTurns 1).now + seconds config.policy.otpTtlSeconds)
        (request.authTurns 1).now).2 := by
  let call : TokenArrival := ⟨.requestOtp phoneNumber, request.authTurns⟩
  have hcall : request.serviceCall = some call := by
    unfold HttpArrival.serviceCall
    rw [hroute]
  have hverify : ∀ token, call.call ≠ .verifyAccessToken token := fun token h => by cases h
  obtain ⟨answer, hanswer⟩ := routed_of_answered hsent
  rw [routed_of_call hcall hverify] at hanswer
  rw [serveHttp_db_of_call hcall hverify]
  cases hresult : (serve config.toAuthConfig store.db
      ⟨.otpRequest phoneNumber, request.authTurns⟩).result with
  | ok result => exact (serve_requested_code hresult).2
  | error error =>
      have herror : (serveCall config.toTokenConfig store.db call).result = .error error := by
        change (serve config.toAuthConfig store.db
          ⟨.otpRequest phoneNumber, request.authTurns⟩).result.map answerOf = _
        rw [hresult]
        rfl
      rw [herror] at hanswer
      cases hanswer

/-- After a code was sent, its challenge is the newest of the number. -/
theorem TrustedRun.awaits_sent (hrun : TrustedRun config store arrivals)
    (hsplit : arrivals = first ++ request :: second)
    (hroute : request.route = .otpRequest phoneNumber)
    (hsent : Answered config (storeAfter config store first) request) :
    Awaits config.tie (storeAfter config store (first ++ [request])).db phoneNumber
      (Core.hashOtpCode (Core.generateOtpCode (request.authTurns 2).draw))
      ((request.authTurns 1).now + seconds config.policy.otpTtlSeconds) := by
  let found := (storeAfter config store first).db
  let row : OtpChallengeModel := ⟨found.otpChallenges.nextId, phoneNumber,
    Core.hashOtpCode (Core.generateOtpCode (request.authTurns 2).draw),
    (request.authTurns 1).now + seconds config.policy.otpTtlSeconds,
    (request.authTurns 1).now, false, 0⟩
  have hdb := serveHttp_db_of_sent hroute hsent
  have hrows : (storeAfter config store (first ++ [request])).db.otpChallenges.rows =
      found.otpChallenges.rows ++ [row] := by
    rw [storeAfter_append]
    exact congrArg (fun db : Database => db.otpChallenges.rows) hdb
  -- the new challenge is not older than the others, and no two are of one time
  have hlater : ∀ old ∈ found.otpChallenges.rows, old.createdAt < row.createdAt := by
    intro old hold
    have hparts : arrivals = (first ++ [request]) ++ second := by
      rw [hsplit, List.append_assoc]
      rfl
    have horder := (@stamps_ordered config store (first ++ [request]) hrun.start
      (List.pairwise_append.mp (hparts ▸ hrun.clock)).1).1
    have hdistinct : (creationTimes (storeAfter config store (first ++ [request])).db).Nodup := by
      have hall := hrun.distinct
      rw [hparts, storeAfter_append, creationTimes_eq] at hall
      rw [creationTimes_eq]
      exact hall.sublist ((stamps_storeAfter _ _).sublist.map Prod.snd)
    unfold stamps at horder
    unfold creationTimes at hdistinct
    rw [hrows, List.map_append] at horder hdistinct
    have hbefore := (List.pairwise_append.mp horder).2.2 _ (List.mem_map_of_mem hold) _
      (List.mem_singleton_self _)
    have hne := (List.nodup_append.mp hdistinct).2.2 _ (List.mem_map_of_mem hold) _
      (List.mem_singleton_self _)
    exact lt_of_le_of_ne hbefore.2 hne
  refine ⟨row, ?_, rfl, rfl, rfl⟩
  rw [hrows, List.filter_append, List.filter_singleton, beq_self_eq_true]
  exact newest_concat_of_lt fun old hold => hlater old (List.mem_filter.mp hold).1

/-- The run lemma: the challenge stays open until it is used or a newer code is sent. -/
theorem awaits_storeAfter {tie : Nat → Nat}
    (hawaits : Awaits tie store.db phoneNumber codeHash expiresAt)
    (hquiet : ∀ before other after, between = before ++ other :: after →
      other.route.phoneNumber = some phoneNumber →
        ¬ Answered config (storeAfter config store before) other) :
    Awaits tie (storeAfter config store between).db phoneNumber codeHash expiresAt := by
  induction between using List.reverseRecOn with
  | nil => exact hawaits
  | append_singleton between other ih =>
      rw [storeAfter_append]
      refine awaits_serveHttp (ih fun before arrival after hbetween => ?_)
        (hquiet between other [] rfl)
      refine hquiet before arrival (after ++ [other]) ?_
      rw [hbetween, List.append_assoc]
      rfl

theorem tidy_storeAfter (hstart : store.db = .empty) (arrivals : List HttpArrival) :
    Tidy (storeAfter config store arrivals).db := by
  refine @storeAfter_invariant config store (fun next => Tidy next.db)
    (fun _ _ => tidy_serveHttp) arrivals ?_
  rw [hstart]
  exact ⟨fun _ hrow => (by cases hrow), List.nodup_nil⟩

/-- The right code is accepted when the challenge is not spent and no call fails. -/
theorem serve_right_code {config : AuthConfig} {db : Database} {code : String}
    {turns : Nat → AuthTurn} {row : OtpChallengeModel} (hcalm : ∀ turn, (turns turn).failure = none)
    (hlatest : SqlAlchemyOtpChallengeRepository.getLatest config.tie db phoneNumber =
      some (toOtpChallenge row))
    (hspent : isSpent config.policy (toOtpChallenge row) (turns 1).now = false)
    (hright : Core.verifyOtpCode code row.codeHash = true)
    (hphones : (db.users.rows.map UserModel.phoneNumber).Nodup) :
    ∃ pair, (serve config db ⟨.otpVerify phoneNumber code, turns⟩).result = .ok (some pair) := by
  let handler := (authEffects config).scripted turns
  have hreply : ∀ op turn db, handler op (turn, db) = ((authWork config (turns turn) op db).1,
      (turn + 1, (authWork config (turns turn) op db).2)) :=
    fun op turn db => scripted_of_none (hcalm turn) op db
  have hid : (toOtpChallenge row).id = some row.id := rfl
  change ∃ pair, (Co.exec handler (verifyOtp config.policy phoneNumber code >>= fun tokens =>
    pure (some tokens)) (0, db)).result = .ok (some pair)
  unfold verifyOtp
  simp only [bind_assoc]
  have hfound : handler (.getLatest phoneNumber) (0, db) =
      (.ok (some (toOtpChallenge row)), 1, db) := by
    rw [hreply]
    exact congrArg (fun latest => (Except.ok latest, 1, db)) hlatest
  rw [Co.exec_perform_ok hfound, Outcome.after_result, Co.exec_perform_ok (hreply .now 1 db),
    Outcome.after_result, verifyChallenge_of_not_spent (Bool.not_eq_true _ ▸ hspent) hid,
    bind_assoc]
  have hcompared : handler (.verifyOtpCode code (toOtpChallenge row).codeHash) (2, db) =
      (.ok true, 3, db) := by
    rw [hreply]
    exact congrArg (fun right => (Except.ok right, 3, db)) hright
  rw [Co.exec_perform_ok hcompared, Outcome.after_result]
  simp only [if_true]
  unfold acceptOtp
  simp only [bind_assoc]
  have hrow : db.otpChallenges.find? row.id = some row :=
    Table.find?_eq_some_iff.mpr
      ⟨(List.mem_filter.mp (mem_of_newest (newest_of_getLatest hlatest))).1, rfl⟩
  let marked := (SqlAlchemyOtpChallengeRepository.markConsumed db row.id).2
  have hmarked : handler (.markConsumed row.id) (3, db) = (.ok (), 4, marked) := by
    have hok : (SqlAlchemyOtpChallengeRepository.markConsumed db row.id).1 = .ok () :=
      congrArg Prod.fst (updateOne_of_some hrow (fun row => { row with consumed := true })
        (by intro _; rfl))
    rw [hreply]
    exact congrArg (fun reply => (reply, 4, marked)) hok
  rw [Co.exec_perform_ok hmarked, Outcome.after_result]
  obtain ⟨user, userId, left, huser, huserId⟩ :=
    @exists_getOrCreateByPhone marked hphones phoneNumber (turns 4).now
  have hmade : handler (.getOrCreateByPhone phoneNumber) (4, marked) = (.ok user, 5, left) := by
    rw [hreply]
    exact congrArg (fun reply : Except Raised User × Database => (reply.1, 5, reply.2)) huser
  rw [Co.exec_perform_ok hmade, Outcome.after_result, huserId]
  simp only [bind_assoc]
  rw [exec_issueToken, exec_issueToken]
  exact ⟨_, rfl⟩

/-- A code that is entered in time finds its challenge open. -/
theorem TrustedRun.awaits_entered (hrun : TrustedRun config store arrivals)
    (hsplit : arrivals = first ++ request :: (between ++ verify :: second))
    (hentered : CodeEntered config store first request between verify phoneNumber) :
    Awaits config.tie (storeAfter config store (first ++ request :: between)).db phoneNumber
      (Core.hashOtpCode (Core.generateOtpCode (request.authTurns 2).draw))
      ((request.authTurns 1).now + seconds config.policy.otpTtlSeconds) := by
  have hjoin : ∀ later, first ++ request :: later = (first ++ [request]) ++ later := by
    intro later
    rw [List.append_assoc]
    rfl
  rw [hjoin, storeAfter_append]
  refine awaits_storeAfter (hrun.awaits_sent hsplit hentered.requested hentered.sent) ?_
  intro before other after hbetween hphone
  have hquiet := hentered.newest before other after hbetween hphone
  rw [hjoin, storeAfter_append] at hquiet
  exact hquiet

/-- The verification is accepted. -/
theorem TrustedRun.serve_entered (hrun : TrustedRun config store arrivals)
    (hattempts : 0 < config.policy.otpMaxAttempts)
    (hsplit : arrivals = first ++ request :: (between ++ verify :: second))
    (hentered : CodeEntered config store first request between verify phoneNumber) :
    ∃ pair, (serve config.toAuthConfig (storeAfter config store (first ++ request :: between)).db
      ⟨.otpVerify phoneNumber (Core.generateOtpCode (request.authTurns 2).draw),
        verify.authTurns⟩).result = .ok (some pair) := by
  let found := storeAfter config store (first ++ request :: between)
  obtain ⟨row, hnewest, hhash, hexpires, hopen⟩ := hrun.awaits_entered hsplit hentered
  have htidy : Tidy found.db := tidy_storeAfter hrun.start _
  have hcount : row.attemptCount = 0 :=
    htidy.uncounted row (List.mem_filter.mp (mem_of_newest hnewest)).1
  refine serve_right_code hentered.calm (congrArg (Option.map toOtpChallenge) hnewest) ?_ ?_
    htidy.phones
  · have htime := hentered.inTime
    simp only [isSpent, toOtpChallenge, hopen, hexpires, hcount, Bool.false_or,
      Bool.or_eq_false_iff, decide_eq_false_iff_not]
    exact ⟨Int.not_lt.mpr htime, Nat.not_le.mpr hattempts⟩
  · exact beq_iff_eq.mpr hhash.symm

end Sent

/-- The code that was sent last for a phone number, entered in time, is answered with tokens
of the number's only user, however many wrong codes came before it, and every pair that is
issued to the user is good. -/
theorem right_code_logs_in (config : ServerConfig) (store : Store) (arrivals : List HttpArrival)
    (hrun : TrustedRun config store arrivals) (haccepts : JwtAccepts config.toTokenConfig)
    (hattempts : 0 < config.policy.otpMaxAttempts) :
    ∀ first request between verify second phoneNumber,
      arrivals = first ++ request :: (between ++ verify :: second) →
      CodeEntered config store first request between verify phoneNumber →
      ∃ userId,
        (serveHttp config (storeAfter config store (first ++ request :: between)) verify).1 =
          .response 200 (.auth (.tokens (issuedPair config.toAuthConfig userId
            (verify.authTurns 5).now (verify.authTurns 7).now))) ∧
        OnlyUser (storeAfter config store arrivals).db phoneNumber userId ∧
        ∀ accessNow refreshNow, Opens config userId accessNow refreshNow := by
  intro first request between verify second phoneNumber hsplit hentered
  let found := storeAfter config store (first ++ request :: between)
  let code := Core.generateOtpCode (request.authTurns 2).draw
  let call : TokenArrival := ⟨.verifyOtp phoneNumber code, verify.authTurns⟩
  have hcall : verify.serviceCall = some call := by
    unfold HttpArrival.serviceCall
    rw [hentered.entered]
  have hverify : ∀ token, call.call ≠ .verifyAccessToken token := fun token h => by cases h
  obtain ⟨pair, hresult⟩ := hrun.serve_entered hattempts hsplit hentered
  obtain ⟨row, user, userId, _, _, _, huser, huserId, _, hpair⟩ := serve_verified hresult
  refine ⟨userId, ?_, ?_, fun _ _ => opens_issuedPair haccepts userId _ _⟩
  · have hanswer : (serveCall config.toTokenConfig found.db call).result = .ok (.tokens pair) := by
      change (serve config.toAuthConfig found.db
        ⟨.otpVerify phoneNumber code, verify.authTurns⟩).result.map answerOf = _
      rw [hresult]
      rfl
    unfold serveHttp
    rw [routed_of_call hcall hverify, hanswer]
    unfold finish dispatch Route.statusCode
    rw [hentered.entered, Option.some.inj hpair]
    rfl
  · have honly := (getOrCreateByPhone_onlyUser huser).1 userId huserId
    have hafter : OnlyUser (serveHttp config found verify).2.db phoneNumber userId := by
      rw [serveHttp_db_of_call hcall hverify]
      exact honly
    have hparts : arrivals = (first ++ request :: between) ++ verify :: second := by
      rw [hsplit, List.append_assoc]
      rfl
    rw [hparts, storeAfter_append]
    exact @storeAfter_invariant config (serveHttp config found verify).2
      (fun next => OnlyUser next.db phoneNumber userId)
      (fun next arrival hnext => (kept_serveHttp config next arrival).users _ _ hnext) second hafter

/-! ## A login after a wrong code -/

/-- A code is requested, a wrong one entered, and then the right one. -/
def secondTry : List HttpArrival :=
  [httpAt 0 none (.otpRequest "+15550001111"), httpAt 1 none (.otpVerify "+15550001111" "000000"),
    httpAt 2 none (.otpVerify "+15550001111" "123456")]

theorem jwtAccepts_signedConfig : JwtAccepts signedConfig := by
  intro userId tokenType issuedAt expiresAt now htype _ hlast
  let payload : TokenPayload := ⟨userId.repr, tokenType, issuedAt, expiresAt⟩
  have hdots : '.' ∉ tokenType.toList := by
    rcases htype with rfl | rfl <;> decide
  have hlate : ¬ expiresAt ≤ now :=
    Int.not_le.mpr (Int.lt_of_lt_of_le (Int.lt_add_of_pos_right now (by decide)) hlast)
  have hdecode := @signedDecode_encode payload signedConfig.policy.jwtSecret
    signedConfig.policy.jwtAlgorithm now (dot_not_mem_natRepr userId) hdots
  rw [if_neg hlate, ← jwtDecode_signedConfig, ← jwtEncode_signedConfig] at hdecode
  exact hdecode

theorem trustedRun_secondTry : TrustedRun signedServer .empty secondTry where
  start := rfl
  jwt := jwtLaw_signedConfig
  clock := by simp [secondTry, httpAt, callAt]
  distinct := by decide +kernel
  unforgeable := by
    intro first arrival second hsplit call hcall token htoken decoded _
    have hmem : arrival ∈ secondTry := hsplit ▸ List.mem_append_right _ List.mem_cons_self
    simp only [secondTry, List.mem_cons, List.not_mem_nil, or_false] at hmem
    rcases hmem with rfl | rfl | rfl <;> cases hcall <;> cases htoken

/-- The right code logs its user in, also after a wrong one. -/
theorem second_try_logs_in :
    ∃ userId,
      (serveHttp signedServer (storeAfter signedServer .empty (secondTry.take 2))
          (httpAt 2 none (.otpVerify "+15550001111" "123456"))).1 =
        .response 200 (.auth (.tokens (issuedPair signedConfig.toAuthConfig userId 2 2))) ∧
      OnlyUser (storeAfter signedServer .empty secondTry).db "+15550001111" userId ∧
      ∀ accessNow refreshNow, Opens signedServer userId accessNow refreshNow := by
  let wrong := httpAt 1 none (.otpVerify "+15550001111" "000000")
  have hrefused : ¬ Answered signedServer
      (storeAfter signedServer .empty [httpAt 0 none (.otpRequest "+15550001111")]) wrong := by
    intro hanswered
    obtain ⟨answer, hanswer⟩ := routed_of_answered hanswered
    have hnone : (routed signedServer (storeAfter signedServer .empty
        [httpAt 0 none (.otpRequest "+15550001111")]) wrong).1.toOption.isNone = true := by
      decide +kernel
    rw [hanswer] at hnone
    cases hnone
  refine right_code_logs_in signedServer .empty secondTry trustedRun_secondTry
    jwtAccepts_signedConfig (by decide) [] _ [wrong] _ [] "+15550001111" rfl ?_
  refine ⟨rfl, ?_, ?_, rfl, by decide, fun _ => rfl⟩
  · have hsome : (routed signedServer .empty (httpAt 0 none
        (.otpRequest "+15550001111"))).1.toOption.isSome = true := by decide +kernel
    cases hresult : (routed signedServer .empty (httpAt 0 none (.otpRequest "+15550001111"))).1 with
    | error error =>
        rw [hresult] at hsome
        cases hsome
    | ok body => exact @answered_of_ok _ _ _ "+15550001111" body rfl hresult
  · intro before other after hbetween _
    match before, hbetween with
    | [], hbetween =>
        cases hbetween
        exact hrefused
    | _ :: rest, hbetween =>
        have hlength := congrArg List.length hbetween
        simp at hlength

end StockMonitoring.Api
