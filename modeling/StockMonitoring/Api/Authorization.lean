import StockMonitoring.Api.Server

set_option autoImplicit false

/-!
# Api: on whose behalf a request acts

Over a run of the whole application, a request changes rows that have an owner, or is
answered by a guarded route, only on behalf of the user that its bearer token goes back to:
the only user of a phone number whose newest code was verified (`requests_act_for_their_user`).
-/

namespace StockMonitoring.Api

open StockMonitoring.Foundation StockMonitoring.Domain StockMonitoring.Application
  StockMonitoring.Infrastructure.Db

/-! ## Runs of the application -/

/-- What is assumed of a run from an empty database: tokens decode to what they were encoded
from and are not forged, the clock does not go back, and no two challenges are created at
one time. -/
structure TrustedRun (config : ServerConfig) (store : Store) (arrivals : List HttpArrival) :
    Prop where
  start : store.db = .empty
  jwt : JwtLaw config.toTokenConfig
  clock : arrivals.Pairwise fun first second => ∀ turn later,
    (first.authTurns turn).now ≤ (second.authTurns later).now
  distinct : (creationTimes (storeAfter config store arrivals).db).Nodup
  unforgeable : ∀ first arrival second, arrivals = first ++ arrival :: second →
    ∀ call ∈ arrival.serviceCall, ∀ token ∈ call.call.presented, ∀ decoded,
      config.jwtDecode token config.policy.jwtSecret config.policy.jwtAlgorithm
        (call.turns 0).now = .ok decoded →
      Issued (serviceCalls config store first) token

section Runs

variable {config : ServerConfig} {store : Store} {arrival : HttpArrival}

theorem storeAfter_append (arrivals later : List HttpArrival) :
    storeAfter config store (arrivals ++ later) =
      storeAfter config (storeAfter config store arrivals) later :=
  List.foldl_append

theorem serviceCalls_append (arrivals later : List HttpArrival) :
    serviceCalls config store (arrivals ++ later) =
      serviceCalls config store arrivals ++
        serviceCalls config (storeAfter config store arrivals) later := by
  induction arrivals generalizing store with
  | nil => rfl
  | cons arrival rest ih =>
      change _ ++ serviceCalls config (serveHttp config store arrival).2 (rest ++ later) =
        (_ ++ serviceCalls config (serveHttp config store arrival).2 rest) ++ _
      rw [ih, List.append_assoc]
      rfl

/-- The calls of one request. -/
theorem serviceCalls_singleton :
    serviceCalls config store [arrival] =
      (arrival.serviceCall.map (serveCall config.toTokenConfig store.db)).toList :=
  List.append_nil _

/-- What every request keeps of what is stored, a run keeps. -/
theorem storeAfter_invariant {holds : Store → Prop}
    (hserve : ∀ store arrival, holds store → holds (serveHttp config store arrival).2)
    (arrivals : List HttpArrival) (hstore : holds store) :
    holds (storeAfter config store arrivals) := by
  induction arrivals generalizing store with
  | nil => exact hstore
  | cons arrival later ih => exact ih (hserve store arrival hstore)

theorem turns_serviceCall {call : TokenArrival} (hcall : arrival.serviceCall = some call) :
    call.turns = arrival.authTurns := by
  unfold HttpArrival.serviceCall at hcall
  cases hroute : arrival.route with
  | health => simp [hroute] at hcall
  | otpRequest phoneNumber | otpVerify phoneNumber code | refresh refreshToken =>
      rw [hroute] at hcall
      cases hcall
      rfl
  | guarded route =>
      simp only [hroute, Option.map_eq_some_iff] at hcall
      obtain ⟨token, _, rfl⟩ := hcall
      rfl

/-- A request of a code, a verification and a refresh leave what their call leaves. -/
theorem serveHttp_db_of_call {call : TokenArrival} (hcall : arrival.serviceCall = some call)
    (hverify : ∀ token, call.call ≠ .verifyAccessToken token) :
    (serveHttp config store arrival).2.db =
      (serveCall config.toTokenConfig store.db call).after :=
  congrArg Prod.snd (routed_of_call hcall hverify)

/-- At most one challenge is new after a request, and a number with one user keeps that one. -/
theorem kept_serveHttp (config : ServerConfig) (store : Store) (arrival : HttpArrival) :
    Kept store.db (serveHttp config store arrival).2.db (arrival.authTurns 1).now := by
  rcases serveHttp_db_cases config store arrival with hsame | ⟨call, hcall, hafter⟩ |
    ⟨_, userId, _, _, heffect⟩
  · exact kept_of_eq hsame
  · rw [hafter, ← turns_serviceCall hcall]
    exact kept_serveCall config.toTokenConfig store.db call
  · obtain ⟨husers, hchallenges⟩ := service_of_effect heffect
    refine ⟨Or.inl ?_, fun phoneNumber userId honly => ?_⟩
    · unfold stamps
      rw [hchallenges]
    · unfold OnlyUser at honly ⊢
      rw [husers]
      exact honly

theorem stamps_storeAfter (store : Store) (arrivals : List HttpArrival) :
    stamps store.db <+: stamps (storeAfter config store arrivals).db := by
  refine @storeAfter_invariant config store (fun next => stamps store.db <+: stamps next.db) ?_
    arrivals List.prefix_rfl
  intro next arrival hkept
  rcases (kept_serveHttp config next arrival).stamped with hsame | hnew
  · rw [hsame]
    exact hkept
  · rw [hnew]
    exact hkept.trans (List.prefix_append _ _)

/-- Challenges are inserted in the order of their creation. -/
theorem stamps_ordered {arrivals : List HttpArrival} (hstart : store.db = .empty)
    (hclock : arrivals.Pairwise fun first second => ∀ turn later,
      (first.authTurns turn).now ≤ (second.authTurns later).now) :
    (stamps (storeAfter config store arrivals).db).Pairwise Before ∧
      ∀ stamp ∈ stamps (storeAfter config store arrivals).db,
        ∃ arrival ∈ arrivals, ∃ turn, stamp.2 = (arrival.authTurns turn).now := by
  induction arrivals using List.reverseRecOn with
  | nil =>
      change (stamps store.db).Pairwise Before ∧ ∀ stamp ∈ stamps store.db, _
      rw [hstart]
      exact ⟨List.Pairwise.nil, fun stamp hstamp => by cases hstamp⟩
  | append_singleton arrivals arrival ih =>
      obtain ⟨hearlier, _, hlast⟩ := List.pairwise_append.mp hclock
      obtain ⟨horder, hread⟩ := ih hearlier
      have hread' : ∀ stamp ∈ stamps (storeAfter config store arrivals).db,
          ∃ before ∈ arrivals ++ [arrival], ∃ turn, stamp.2 = (before.authTurns turn).now := by
        intro stamp hstamp
        obtain ⟨before, hbefore, turn, htime⟩ := hread stamp hstamp
        exact ⟨before, List.mem_append_left _ hbefore, turn, htime⟩
      rw [storeAfter_append]
      change (stamps (serveHttp config (storeAfter config store arrivals) arrival).2.db).Pairwise
        Before ∧ ∀ stamp ∈ stamps (serveHttp config (storeAfter config store arrivals)
          arrival).2.db, _
      rcases (kept_serveHttp config (storeAfter config store arrivals) arrival).stamped with
        hsame | hnew
      · rw [hsame]
        exact ⟨horder, hread'⟩
      · rw [hnew]
        refine ⟨List.pairwise_append.mpr ⟨horder, List.pairwise_singleton _ _, ?_⟩, ?_⟩
        · intro stamp hstamp last hmem
          rw [List.mem_singleton.mp hmem]
          obtain ⟨before, hbefore, turn, htime⟩ := hread stamp hstamp
          refine ⟨lt_nextId_of_mem_stamps hstamp, ?_⟩
          rw [htime]
          exact hlast before hbefore arrival (List.mem_singleton_self _) turn 1
        · intro stamp hstamp
          rcases List.mem_append.mp hstamp with hold | hlatest
          · exact hread' stamp hold
          · rw [List.mem_singleton.mp hlatest]
            exact ⟨arrival, List.mem_append_right _ (List.mem_singleton_self _), 1, rfl⟩

end Runs

/-! ## Tokens -/

section Tokens

variable {config : ServerConfig} {store : Store} {arrivals first second : List HttpArrival}
  {arrival : HttpArrival}

/-- A token that a request presents and the service accepts has been issued. -/
theorem TrustedRun.issued (hrun : TrustedRun config store arrivals)
    (hsplit : arrivals = first ++ arrival :: second) {call : TokenArrival}
    (hcall : arrival.serviceCall = some call) {token tokenType : String} {accepted : Int}
    (hpresented : call.call.presented = some token)
    (hverify : verifyToken config.toTokenConfig token tokenType (call.turns 0).now =
      .ok accepted) :
    Issued (serviceCalls config store first) token := by
  obtain ⟨sub, hdecode, _⟩ := verifyToken_eq_ok_iff.mp hverify
  exact hrun.unforgeable first arrival second hsplit call hcall token hpresented _ hdecode

/-- The run lemma: every token issued in a run goes back to a verification. -/
theorem TrustedRun.grounded (hrun : TrustedRun config store arrivals)
    (hsplit : arrivals = first ++ second) :
    Grounded config.toTokenConfig (storeAfter config store arrivals).db
      (serviceCalls config store first) := by
  induction first using List.reverseRecOn generalizing second with
  | nil => exact grounded_nil
  | append_singleton first arrival ih =>
      have hrest : arrivals = first ++ arrival :: second := by
        rw [hsplit, List.append_assoc]
        rfl
      have hgrounded := ih hrest
      rw [serviceCalls_append, serviceCalls_singleton]
      cases hcall : arrival.serviceCall with
      | none =>
          rw [Option.map_none, Option.toList_none, List.append_nil]
          exact hgrounded
      | some call =>
          refine hgrounded.concat ?_
          cases hservice : call.call with
          | requestOtp phoneNumber | verifyAccessToken token =>
              intro issue hissue
              unfold serveCall at hissue
              rw [hservice] at hissue
              cases hissue
          | refresh refreshToken =>
              exact descends_refresh hgrounded hrun.jwt hservice fun accepted hverify =>
                hrun.issued hrest hcall (by rw [hservice]; rfl) hverify
          | verifyOtp phoneNumber code =>
              have horder := (@stamps_ordered config store first hrun.start
                (List.pairwise_append.mp (hrest ▸ hrun.clock)).1).1
              have htimes : (creationTimes (storeAfter config store first).db).Nodup := by
                have hdistinct := hrun.distinct
                rw [hrest, storeAfter_append, creationTimes_eq] at hdistinct
                rw [creationTimes_eq]
                exact hdistinct.sublist ((stamps_storeAfter _ _).sublist.map Prod.snd)
              refine descends_verifyOtp horder htimes hservice ?_
              intro userId honly
              rw [← serveHttp_db_of_call hcall (by simp [hservice])] at honly
              have hkept : ∀ next later, OnlyUser next.db phoneNumber userId →
                  OnlyUser (serveHttp config next later).2.db phoneNumber userId :=
                fun next later hnext => (kept_serveHttp config next later).users _ _ hnext
              rw [hrest, storeAfter_append]
              exact @storeAfter_invariant config
                (serveHttp config (storeAfter config store first) arrival).2
                (fun next => OnlyUser next.db phoneNumber userId) hkept second honly

/-- A token that was issued is refused with an `InvalidTokenError` or not at all. -/
theorem TrustedRun.refused (hrun : TrustedRun config store arrivals)
    (hsplit : arrivals = first ++ arrival :: second) {call : TokenArrival}
    (hcall : arrival.serviceCall = some call) {token tokenType : String} {error : Raised}
    (hpresented : call.call.presented = some token)
    (hverify : verifyToken config.toTokenConfig token tokenType (call.turns 0).now =
      .error error) :
    ∃ message, error = .invalidToken message := by
  cases hdecode : config.jwtDecode token config.policy.jwtSecret config.policy.jwtAlgorithm
      (call.turns 0).now with
  | error message =>
      unfold verifyToken at hverify
      rw [hdecode] at hverify
      cases hverify
      exact ⟨message, rfl⟩
  | ok decoded =>
      obtain ⟨source, hsource, issue, hissue, htoken⟩ :=
        hrun.unforgeable first arrival second hsplit call hcall token hpresented _ hdecode
      obtain ⟨before, after, hcalls⟩ := List.append_of_mem hsource
      obtain ⟨userId, hto, _⟩ := hrun.grounded hsplit before source after hcalls issue hissue
      obtain ⟨sub, _⟩ := decoded
      have hencoded := hdecode
      rw [← htoken, ← hto.token] at hencoded
      obtain ⟨hsub, _, _⟩ := hrun.jwt _ _ _ _ _ hencoded
      obtain rfl : sub = some userId.repr := hsub.trans (congrArg some hto.sub)
      unfold verifyToken at hverify
      rw [hdecode] at hverify
      simp only [intOf_repr] at hverify
      split at hverify
      · cases hverify
        exact ⟨_, rfl⟩
      · cases hverify

end Tokens

/-! ## Authorization -/

/-- The request carries an access token that goes back to a verification for the user. -/
def ActsFor (final : Database) (earlier : List TokenServed) (arrival : HttpArrival)
    (userId : Nat) : Prop :=
  ∃ token, bearerToken arrival.authorization = some token ∧
    Provenance final userId earlier token "access" (arrival.authTurns 0).now

/-- A request acts on behalf of the user of its token, or of nobody. -/
structure OnBehalf (config : ServerConfig) (found : Store) (final : Database)
    (earlier : List TokenServed) (arrival : HttpArrival) : Prop where
  /-- whose rows it changes -/
  rows : ∀ userId, ownRows (serveHttp config found arrival).2.db userId ≠
    ownRows found.db userId → ActsFor final earlier arrival userId
  /-- a guarded route answers its user, or refuses and changes nothing -/
  guarded : ∀ route, arrival.route = .guarded route →
    (∃ userId, ActsFor final earlier arrival userId ∧ serveHttp config found arrival =
      finish config found arrival (serveGuarded config found arrival userId route)) ∨
    ∃ detail, serveHttp config found arrival = (.response 401 (.detail detail), found)
  one : ∀ userId other, ActsFor final earlier arrival userId →
    ActsFor final earlier arrival other → userId = other

/-- A phone number has at most one only user. -/
theorem onlyUser_unique {db : Database} {phoneNumber : String} {userId other : Nat}
    (honly : OnlyUser db phoneNumber userId) (hother : OnlyUser db phoneNumber other) :
    userId = other := by
  obtain ⟨row, hrows, rfl⟩ := honly
  obtain ⟨otherRow, hotherRows, rfl⟩ := hother
  rw [hrows] at hotherRows
  obtain ⟨rfl, _⟩ := List.cons.inj hotherRows
  rfl

/-- A call goes back to a verification for one user only. -/
theorem Descends.unique {db : Database} {userId other : Nat} {earlier : List TokenServed}
    {served : TokenServed} (hdescends : Descends db userId earlier served)
    (hother : Descends db other earlier served) : userId = other := by
  induction hdescends with
  | verified hcall _ _ _ hstill =>
      cases hother with
      | verified hcall' _ _ _ hstill' =>
          cases hcall.symm.trans hcall'
          exact onlyUser_unique hstill hstill'
      | refreshed hcall' _ _ _ _ => cases hcall.symm.trans hcall'
  | refreshed hcall _ hissued _ _ ih =>
      cases hother with
      | verified hcall' _ _ _ _ => cases hcall.symm.trans hcall'
      | refreshed hcall' _ _ _ hsources' =>
          cases hcall.symm.trans hcall'
          obtain ⟨source, hsource, issue, hissue, htoken⟩ := hissued
          obtain ⟨before, after, hsplit⟩ := List.append_of_mem hsource
          exact ih before source after hsplit ⟨issue, hissue, htoken⟩
            (hsources' before source after hsplit ⟨issue, hissue, htoken⟩)

section Authorization

variable {config : ServerConfig} {store : Store} {arrivals first second : List HttpArrival}
  {arrival : HttpArrival}

/-- A request acts for one user at most. -/
theorem actsFor_unique {final : Database} {earlier : List TokenServed} {userId other : Nat}
    (hacts : ActsFor final earlier arrival userId) (hother : ActsFor final earlier arrival other) :
    userId = other := by
  obtain ⟨token, htoken, hprovenance⟩ := hacts
  obtain ⟨token', htoken', hprovenance'⟩ := hother
  obtain rfl := Option.some.inj (htoken.symm.trans htoken')
  obtain ⟨source, hsource, issue, hissue, hsame⟩ := hprovenance.issued
  obtain ⟨before, after, hsplit⟩ := List.append_of_mem hsource
  exact (hprovenance.descends before source after hsplit ⟨issue, hissue, hsame⟩).unique
    (hprovenance'.descends before source after hsplit ⟨issue, hissue, hsame⟩)

/-- The call of a guarded request with a token. -/
theorem serviceCall_guarded {route : GuardedRoute} (hroute : arrival.route = .guarded route)
    {token : String} (htoken : bearerToken arrival.authorization = some token) :
    arrival.serviceCall = some ⟨.verifyAccessToken token, arrival.authTurns⟩ := by
  unfold HttpArrival.serviceCall
  simp only [hroute, htoken, Option.map_some]

/-- What `get_current_user_id` has accepted. -/
theorem getCurrentUserId_ok {config : TokenConfig} {authorization : Option String}
    {now : Datetime} {accepted : Int}
    (hguard : getCurrentUserId config authorization now = .ok accepted) :
    ∃ token, bearerToken authorization = some token ∧
      verifyToken config token "access" now = .ok accepted := by
  unfold getCurrentUserId verifyAccessToken at hguard
  cases htoken : bearerToken authorization with
  | none => simp [htoken] at hguard
  | some token =>
      simp only [htoken] at hguard
      split at hguard
      · cases hguard
      · cases hguard
      · rename_i userId hverify
        cases hguard
        exact ⟨token, rfl, hverify⟩

/-- Whom `get_current_user_id` accepts, the request acts for. -/
theorem TrustedRun.actsFor (hrun : TrustedRun config store arrivals)
    (hsplit : arrivals = first ++ arrival :: second) {route : GuardedRoute}
    (hroute : arrival.route = .guarded route) {accepted : Int}
    (hguard : getCurrentUserId config.toTokenConfig arrival.authorization
      (arrival.authTurns 0).now = .ok accepted) :
    ∃ userId : Nat, accepted = userId ∧
      ActsFor (storeAfter config store arrivals).db (serviceCalls config store first) arrival
        userId := by
  obtain ⟨token, htoken, hverify⟩ := getCurrentUserId_ok hguard
  have hissued := hrun.issued hsplit (serviceCall_guarded hroute htoken) rfl hverify
  obtain ⟨userId, haccepted, hprovenance⟩ :=
    (hrun.grounded hsplit).provenance hrun.jwt hissued hverify
  exact ⟨userId, haccepted, token, htoken, hprovenance⟩

/-- Whom `get_current_user_id` does not accept, it refuses with a 401. -/
theorem TrustedRun.refusal (hrun : TrustedRun config store arrivals)
    (hsplit : arrivals = first ++ arrival :: second) {route : GuardedRoute}
    (hroute : arrival.route = .guarded route) {error : Raised}
    (hguard : getCurrentUserId config.toTokenConfig arrival.authorization
      (arrival.authTurns 0).now = .error error) :
    ∃ detail, error = .httpException 401 detail := by
  unfold getCurrentUserId verifyAccessToken at hguard
  cases htoken : bearerToken arrival.authorization with
  | none =>
      simp only [htoken] at hguard
      cases hguard
      exact ⟨_, rfl⟩
  | some token =>
      simp only [htoken] at hguard
      cases hverify : verifyToken config.toTokenConfig token "access"
          (arrival.authTurns 0).now with
      | ok accepted => simp [hverify] at hguard
      | error raised =>
          obtain ⟨message, rfl⟩ :=
            hrun.refused hsplit (serviceCall_guarded hroute htoken) rfl hverify
          rw [hverify] at hguard
          cases hguard
          exact ⟨_, rfl⟩

/-- What a guarded request comes to. -/
theorem TrustedRun.guarded (hrun : TrustedRun config store arrivals)
    (hsplit : arrivals = first ++ arrival :: second) {route : GuardedRoute}
    (hroute : arrival.route = .guarded route) (found : Store) :
    (∃ userId, ActsFor (storeAfter config store arrivals).db (serviceCalls config store first)
        arrival userId ∧ serveHttp config found arrival =
          finish config found arrival (serveGuarded config found arrival userId route)) ∨
      ∃ detail, serveHttp config found arrival = (.response 401 (.detail detail), found) := by
  cases hguard : getCurrentUserId config.toTokenConfig arrival.authorization
      (arrival.authTurns 0).now with
  | error error =>
      obtain ⟨detail, rfl⟩ := hrun.refusal hsplit hroute hguard
      exact Or.inr ⟨detail, serveHttp_of_refused hroute hguard⟩
  | ok accepted =>
      obtain ⟨userId, rfl, hacts⟩ := hrun.actsFor hsplit hroute hguard
      exact Or.inl ⟨userId, hacts, serveHttp_of_accepted hroute hguard⟩

end Authorization

/-- In a run of the application every request acts on behalf of the user of its access
token, which goes back to a verification of the newest code of that user's phone number. -/
theorem requests_act_for_their_user (config : ServerConfig) (store : Store)
    (arrivals : List HttpArrival) (hrun : TrustedRun config store arrivals) :
    ∀ first arrival second, arrivals = first ++ arrival :: second →
      OnBehalf config (storeAfter config store first) (storeAfter config store arrivals).db
        (serviceCalls config store first) arrival := by
  intro first arrival second hsplit
  refine ⟨?_, fun route hroute => hrun.guarded hsplit hroute _, fun _ _ => actsFor_unique⟩
  intro userId hchanged
  rcases serveHttp_db_cases config (storeAfter config store first) arrival with hsame |
    ⟨call, _, hafter⟩ | ⟨route, other, hroute, hguard, heffect⟩
  · exact absurd (congrArg (ownRows · userId) hsame) hchanged
  · rw [hafter] at hchanged
    exact absurd (rowsOf_serveCall _ _ _ call) hchanged
  · obtain ⟨actor, hactor, hacts⟩ := hrun.actsFor hsplit hroute hguard
    obtain rfl : other = actor := Int.ofNat.inj hactor
    by_cases hsame : userId = other
    · exact hsame ▸ hacts
    · exact absurd (rowsOf_of_effect (by simpa using Ne.symm hsame) heffect) hchanged

/-! ## A first product -/

/-- The default application with signed tokens. -/
def signedServer : ServerConfig where
  toTokenConfig := signedConfig
  str _ := "error"
  commitsFirst := true
  stranger _ _ := .error .integrityError

/-- A request during which the clock stands still and no call fails. -/
def httpAt (now : Datetime) (authorization : Option String) (route : Route) : HttpArrival where
  path := "/"
  authorization := authorization
  route := route
  authTurns := (callAt now (.refresh "")).turns
  apiTurns _ := ⟨now, none⟩
  logNow := now
  logFailure := none

/-- Nothing is stored. -/
def Store.empty : Store := ⟨.empty, ⟨.empty, List.nodup_nil⟩, .empty⟩

/-- A user requests a code and verifies it. -/
def loggedIn : List HttpArrival :=
  [httpAt 0 none (.otpRequest "+15550001111"), httpAt 1 none (.otpVerify "+15550001111" "123456")]

/-- The access token of the verification. -/
def loginToken : String := (accessIssue signedConfig.toAuthConfig 1 1).token

/-- The user creates a product. -/
def createMilk : HttpArrival :=
  httpAt 2 (some ("Bearer " ++ loginToken))
    (.guarded (.api (.createProduct ⟨"Milk", "milk", none⟩)))

theorem bearerToken_append (token : String) :
    bearerToken (some ("Bearer " ++ token)) = some token := by
  have hstart : "Bearer ".toList <+: ("Bearer " ++ token).toList := by
    rw [String.toList_append]
    exact List.prefix_append _ _
  have hdrop : ("Bearer " ++ token).toList.drop "Bearer ".length = token.toList := by
    rw [String.toList_append]
    exact List.drop_left
  unfold bearerToken
  simp only [hstart, if_true, hdrop, String.ofList_toList]

/-- The token is that of the verification. -/
theorem issued_loginToken : Issued (serviceCalls signedServer .empty loggedIn) loginToken := by
  let found := (serveHttp signedServer .empty (httpAt 0 none (.otpRequest "+15550001111"))).2.db
  let arrival : AuthArrival :=
    ⟨.otpVerify "+15550001111" "123456", fun _ => ⟨1, ⟨123456, by decide⟩, none⟩⟩
  have hsubs : (serve signedConfig.toAuthConfig found arrival).issues.map
      (fun issue => issue.payload.sub) = ["1", "1"] := by decide +kernel
  have hissued : accessIssue signedConfig.toAuthConfig 1 1 ∈
      (serve signedConfig.toAuthConfig found arrival).issues := by
    cases hresult : (serve signedConfig.toAuthConfig found arrival).result with
    | error error =>
        unfold AuthServed.issues at hsubs
        rw [hresult] at hsubs
        cases hsubs
    | ok result =>
        obtain ⟨_, _, userId, _, _, _, _, _, hissues, _⟩ := serve_verified hresult
        rw [hissues] at hsubs ⊢
        have hsub : userId.repr = (1 : Nat).repr := (List.cons.inj hsubs).1
        obtain rfl := Nat.repr_injective hsub
        exact List.mem_cons_self
  exact ⟨_, List.mem_cons_of_mem _ List.mem_cons_self, _, hissued, rfl⟩

/-- The product is created for the user of the token. -/
theorem serveHttp_createMilk (found : Store) :
    serveHttp signedServer found createMilk = finish signedServer found createMilk
      (serveGuarded signedServer found createMilk 1
        (.api (.createProduct ⟨"Milk", "milk", none⟩))) := by
  have hverify : verifyToken signedConfig loginToken "access" 2 = .ok (1 : Nat) :=
    verifyToken_signed (by decide) (by decide)
  have hguard : getCurrentUserId signedServer.toTokenConfig createMilk.authorization
      (createMilk.authTurns 0).now = .ok (1 : Nat) := by
    change getCurrentUserId signedConfig (some ("Bearer " ++ loginToken)) 2 = _
    unfold getCurrentUserId verifyAccessToken
    simp only [bearerToken_append, hverify]
  exact serveHttp_of_accepted rfl hguard

theorem trustedRun_firstProduct : TrustedRun signedServer .empty (loggedIn ++ [createMilk]) where
  start := rfl
  jwt := jwtLaw_signedConfig
  clock := by simp [loggedIn, createMilk, httpAt, callAt]
  distinct := by
    rw [storeAfter_append]
    change (creationTimes (serveHttp signedServer (storeAfter signedServer .empty loggedIn)
      createMilk).2.db).Nodup
    rw [serveHttp_createMilk]
    decide +kernel
  unforgeable := by
    intro first arrival second hsplit call hcall token htoken decoded _
    rcases first with _ | ⟨_, _ | ⟨_, _ | ⟨_, rest⟩⟩⟩
    · cases hsplit
      cases hcall
      cases htoken
    · cases hsplit
      cases hcall
      cases htoken
    · cases hsplit
      rw [serviceCall_guarded rfl (bearerToken_append loginToken)] at hcall
      cases hcall
      cases htoken
      exact issued_loginToken
    · have hlength := congrArg List.length hsplit
      simp [loggedIn] at hlength

/-- The product is among the rows of the user whose code was verified. -/
theorem first_product_acts_for_its_user :
    ActsFor (storeAfter signedServer .empty (loggedIn ++ [createMilk])).db
        (serviceCalls signedServer .empty loggedIn) createMilk 1 ∧
      (ownRows (storeAfter signedServer .empty (loggedIn ++ [createMilk])).db 1).products =
        [⟨1, 1, "Milk", "milk", none⟩] := by
  have hrows : (ownRows (serveHttp signedServer (storeAfter signedServer .empty loggedIn)
      createMilk).2.db 1).products = [⟨1, 1, "Milk", "milk", none⟩] := by
    rw [serveHttp_createMilk]
    decide +kernel
  have hbefore : (ownRows (storeAfter signedServer .empty loggedIn).db 1).products = [] := by
    decide +kernel
  refine ⟨(requests_act_for_their_user signedServer .empty _ trustedRun_firstProduct loggedIn
    createMilk [] rfl).rows 1 ?_, ?_⟩
  · intro hsame
    have hproducts := hrows.symm.trans ((congrArg UserRows.products hsame).trans hbefore)
    cases hproducts
  · rw [storeAfter_append]
    exact hrows

end StockMonitoring.Api
