import StockMonitoring.Api.Login
import StockMonitoring.Frontend.Traces

set_option autoImplicit false

/-!
# Frontend: a page and its server

The page over the application that serves it, between a login and the user's next login or
logout.  What the server has answered travels on its own, so other requests of the page and
of other clients come in between.  As long as no refresh is lost or served late, the page
keeps tokens of its user and never logs out, and the server serves its requests as the
user's or answers 401 (`session_survives`).
-/

namespace StockMonitoring.Frontend

open StockMonitoring.Foundation StockMonitoring.Domain StockMonitoring.Application
  StockMonitoring.Api

/-! ## The page and the server -/

/-- A token with the clock reading it was issued at; `Browser String` is the page without. -/
structure IssuedToken where
  text : String
  issuedAt : Datetime

instance : JsString IssuedToken := ⟨IssuedToken.text, fun word => ⟨word, 0⟩⟩

/-- What is on its way to a request of the page. -/
inductive Incoming where
  | nothing
  | response (answered : Response)
  /-- new tokens, for the refresh it awaits -/
  | tokens (data : Tokens IssuedToken)
  /-- the failure of the refresh it awaits -/
  | refused

/-- What the page does when it arrives. -/
def Incoming.move : Incoming → Option (RequestMove IssuedToken)
  | .nothing => none
  | .response answered => some (.respond answered)
  | .tokens data => some (.refreshSucceeded data)
  | .refused => some .refreshFailed

/-- What a request of the page is for, and what is on its way to it. -/
structure Wire where
  route : Route
  incoming : Incoming

/-- A page, the wires of its requests, and what the server has stored. -/
structure WebSession where
  page : Browser IssuedToken
  wires : List Wire
  store : Store

/-- What can happen. -/
inductive WebMove where
  /-- a component makes a request -/
  | call (route : Route)
  /-- the request interceptor runs -/
  | send (index : Nat)
  /-- the server serves a request, or the refresh it awaits; its choices are those of
  `outside` -/
  | serve (index : Nat) (outside : HttpArrival)
  /-- a request, or the answer to it, is lost on the way -/
  | lost (index : Nat)
  /-- what was answered arrives -/
  | arrive (index : Nat)
  /-- the server serves another client -/
  | other (arrival : HttpArrival)

/-- The request of a page at the server. -/
def Wire.arrival (wire : Wire) (request : Request IssuedToken) (outside : HttpArrival) :
    HttpArrival :=
  { outside with
    authorization := request.authorization
    route := wire.route }

/-- The refresh of a page at the server. -/
def refreshArrival (token : IssuedToken) (outside : HttpArrival) : HttpArrival :=
  { outside with
    authorization := none
    route := .refresh token.text }

/-- `validateStatus` of `axios`. -/
def resolves (statusCode : Nat) : Bool := decide (200 ≤ statusCode ∧ statusCode < 300)

/-- An answer to a request. -/
def responseOf : HttpAnswer → Response
  | .response statusCode _ =>
      if resolves statusCode then .success
      else if statusCode = 401 then .unauthorized else .failure
  | .raised _ => .failure

/-- An answer to a refresh, with the clock readings its tokens were issued at. -/
def refreshOf (outside : HttpArrival) : HttpAnswer → Incoming
  | .response statusCode (.auth (.tokens pair)) =>
      if resolves statusCode then
        .tokens ⟨⟨pair.accessToken, (outside.authTurns 1).now⟩,
          ⟨pair.refreshToken, (outside.authTurns 2).now⟩⟩
      else .refused
  | _ => .refused

/-- The session with something on its way to a request. -/
def WebSession.bringing (session : WebSession) (index : Nat) (wire : Wire) (incoming : Incoming) :
    WebSession :=
  { session with
    wires := session.wires.set index ⟨wire.route, incoming⟩ }

/-- A request of the page with its wire. -/
def WebSession.at? (session : WebSession) (index : Nat) : Option (Request IssuedToken × Wire) :=
  (session.page.requests[index]?).bind fun request =>
    (session.wires[index]?).map fun wire => (request, wire)

/-- One step; `none` when it is not possible. -/
def WebSession.step (config : ServerConfig) (session : WebSession) : WebMove → Option WebSession
  | .call route =>
      (session.page.step .call).map fun page =>
        { session with
          page := page
          wires := session.wires ++ [⟨route, .nothing⟩] }
  | .send index =>
      (session.page.step (.request index .send)).map fun page => { session with page := page }
  | .serve index outside =>
      (session.at? index).bind fun (request, wire) =>
        match request.stage, wire.incoming with
        | .sent, .nothing =>
            let (answer, store) := serveHttp config session.store (wire.arrival request outside)
            some { session.bringing index wire (.response (responseOf answer)) with
              store := store }
        | .refreshing token, .nothing =>
            let (answer, store) := serveHttp config session.store (refreshArrival token outside)
            some { session.bringing index wire (refreshOf outside answer) with
              store := store }
        | _, _ => none
  | .lost index =>
      (session.at? index).bind fun (request, wire) =>
        match request.stage with
        | .sent => some (session.bringing index wire (.response .failure))
        | .refreshing _ => some (session.bringing index wire .refused)
        | _ => none
  | .arrive index =>
      (session.wires[index]?).bind fun wire =>
        wire.incoming.move.bind fun move =>
          (session.page.step (.request index move)).map fun page =>
            { session.bringing index wire .nothing with
              page := page }
  | .other arrival =>
      some { session with
        store := (serveHttp config session.store arrival).2 }

/-- The page after a login: its tokens and its phone number, and no request yet. -/
def WebSession.opened (tokens : Tokens IssuedToken) (phoneNumber : IssuedToken) (store : Store) :
    WebSession :=
  ⟨⟨(StoreCall.login tokens phoneNumber).result, []⟩, [], store⟩

/-! ## What the session relies on, and what it keeps -/

/-- No refresh is lost, and each is served while its token is good. -/
def InTime (config : ServerConfig) (session : WebSession) : WebMove → Prop
  | .serve index outside => ∀ token ∈ session.page.refreshing index,
      During token.issuedAt (refreshLifetime config.policy) (outside.authTurns 0).now
  | .lost index => session.page.refreshing index = none
  | .call _ | .send _ | .arrive _ | .other _ => True

instance decidableInTime (config : ServerConfig) (session : WebSession) :
    ∀ move, Decidable (InTime config session move)
  | .serve index outside => inferInstanceAs (Decidable (∀ token ∈ session.page.refreshing index,
      token.issuedAt ≤ (outside.authTurns 0).now ∧ (outside.authTurns 0).now + seconds 1 ≤
        token.issuedAt + refreshLifetime config.policy))
  | .lost index => inferInstanceAs (Decidable (session.page.refreshing index = none))
  | .call _ | .send _ | .arrive _ | .other _ => isTrue trivial

/-- An access token that was issued to a user. -/
def IsAccess (config : ServerConfig) (userId : Nat) (token : IssuedToken) : Prop :=
  token.text = (accessIssue config.toAuthConfig userId token.issuedAt).token

/-- A refresh token that was issued to a user. -/
def IsRefresh (config : ServerConfig) (userId : Nat) (token : IssuedToken) : Prop :=
  token.text = (refreshIssue config.toAuthConfig userId token.issuedAt).token

/-- The store holds tokens issued to a user, and a phone number. -/
def LoggedIn (config : ServerConfig) (userId : Nat) (phoneNumber : IssuedToken)
    (store : AuthState IssuedToken) : Prop :=
  ∃ access refresh, store = ⟨some access, some refresh, some phoneNumber⟩ ∧
    IsAccess config userId access ∧ IsRefresh config userId refresh

/-- What a request carries was issued to the user. -/
def CarriesOwn (config : ServerConfig) (userId : Nat) (request : Request IssuedToken) : Prop :=
  match request.stage with
  | .sent => ∃ access, IsAccess config userId access ∧
      request.authorization = some ("Bearer " ++ access.text)
  | .refreshing token => IsRefresh config userId token
  | .called | .settled _ => True

/-- What is on its way is not the end of the login. -/
def BringsOwn (config : ServerConfig) (userId : Nat) : Incoming → Prop
  | .tokens data => IsAccess config userId data.accessToken ∧
      IsRefresh config userId data.refreshToken
  | .refused => False
  | .nothing | .response _ => True

/-- The invariant of a session. -/
structure OwnSession (config : ServerConfig) (userId : Nat) (phoneNumber : IssuedToken)
    (session : WebSession) : Prop where
  store : LoggedIn config userId phoneNumber session.page.store
  requests : ∀ request ∈ session.page.requests, CarriesOwn config userId request
  wires : ∀ wire ∈ session.wires, BringsOwn config userId wire.incoming

/-- The server serves a guarded request of the page as the user's, or its token has expired
and it answers 401. -/
def ActsAs (config : ServerConfig) (userId : Nat) (session : WebSession) : WebMove → Prop
  | .serve index outside => ∀ request wire, session.at? index = some (request, wire) →
      request.stage = .sent → ∀ route, wire.route = .guarded route →
        let arrival := wire.arrival request outside
        serveHttp config session.store arrival =
            finish config session.store arrival
              (serveGuarded config session.store arrival userId route) ∨
          serveHttp config session.store arrival =
            (.response 401 (.detail "Invalid or expired token"), session.store)
  | .call _ | .send _ | .lost _ | .arrive _ | .other _ => True

/-- A token that the service encodes for a user is not the empty text. -/
def JwtTexts (config : TokenConfig) : Prop :=
  ∀ (userId : Nat) tokenType issuedAt expiresAt, tokenType = "access" ∨ tokenType = "refresh" →
    config.jwtEncode ⟨toString userId, tokenType, issuedAt, expiresAt⟩ config.policy.jwtSecret
      config.policy.jwtAlgorithm ≠ ""

/-! ## One step -/

section Steps

variable {config : ServerConfig} {userId : Nat} {phoneNumber : IssuedToken}
  {session next : WebSession} {index : Nat} {request : Request IssuedToken} {wire : Wire}

theorem at?_eq_some (hat : session.at? index = some (request, wire)) :
    session.page.requests[index]? = some request ∧ session.wires[index]? = some wire := by
  obtain ⟨found, hrequest, hwire⟩ := Option.bind_eq_some_iff.mp hat
  obtain ⟨other, hother, heq⟩ := Option.map_eq_some_iff.mp hwire
  cases heq
  exact ⟨hrequest, hother⟩

/-- Something else comes to a request. -/
theorem OwnSession.bringing (hkept : OwnSession config userId phoneNumber session) (index : Nat)
    (wire : Wire) {incoming : Incoming} (hbrings : BringsOwn config userId incoming) :
    OwnSession config userId phoneNumber (session.bringing index wire incoming) := by
  refine ⟨hkept.store, hkept.requests, ?_⟩
  intro other hother
  rcases List.mem_or_eq_of_mem_set hother with hold | rfl
  · exact hkept.wires other hold
  · exact hbrings

/-- The next pair of the user answers a refresh with a good token of the user. -/
theorem refreshOf_serveHttp (haccepts : JwtAccepts config.toTokenConfig) {token : IssuedToken}
    (htoken : IsRefresh config userId token) {outside : HttpArrival}
    (hduring : During token.issuedAt (refreshLifetime config.policy) (outside.authTurns 0).now)
    (store : Store) :
    ∃ data, refreshOf outside (serveHttp config store (refreshArrival token outside)).1 =
        .tokens data ∧ IsAccess config userId data.accessToken ∧
      IsRefresh config userId data.refreshToken := by
  have hroute : (refreshArrival token outside).route =
      .refresh (issuedPair config.toAuthConfig userId 0 token.issuedAt).refreshToken :=
    congrArg Route.refresh htoken
  have hopens := (opens_issuedPair haccepts userId 0 token.issuedAt).refresh store
    (refreshArrival token outside) hroute hduring
  rw [hopens]
  exact ⟨_, rfl, rfl, rfl⟩

/-- The token of an `Authorization` header that the interceptor sets. -/
theorem authorize_of_loggedIn (htexts : JwtTexts config.toTokenConfig)
    (hstore : LoggedIn config userId phoneNumber session.page.store)
    (authorization : Option String) :
    ∃ access, IsAccess config userId access ∧
      authorize session.page.store authorization = some ("Bearer " ++ access.text) := by
  obtain ⟨access, refresh, hsame, haccess, _⟩ := hstore
  have htruthy : truthy access = true := by
    have hne : access.text ≠ "" := by
      rw [haccess]
      exact htexts userId "access" _ _ (Or.inl rfl)
    exact bne_iff_ne.mpr hne
  refine ⟨access, haccess, ?_⟩
  rw [hsame]
  simp only [authorize, htruthy, if_true]
  rfl

/-- A refresh that has succeeded has given tokens of the user, and none has failed. -/
def GivesOwn (config : ServerConfig) (userId : Nat) : RequestMove IssuedToken → Prop
  | .refreshSucceeded data => IsAccess config userId data.accessToken ∧
      IsRefresh config userId data.refreshToken
  | .refreshFailed => False
  | .send | .respond _ => True

theorem givesOwn_of_bringsOwn {incoming : Incoming} {move : RequestMove IssuedToken}
    (hbrings : BringsOwn config userId incoming) (hmove : incoming.move = some move) :
    GivesOwn config userId move := by
  cases incoming with
  | nothing => cases hmove
  | response answered =>
      cases hmove
      trivial
  | tokens data =>
      cases hmove
      exact hbrings
  | refused => exact hbrings.elim

/-- At a 401 the page refreshes or gives up; it does not log out. -/
theorem onUnauthorized_of_loggedIn (htexts : JwtTexts config.toTokenConfig)
    {store : AuthState IssuedToken} (hstore : LoggedIn config userId phoneNumber store)
    (request : Request IssuedToken) :
    (onUnauthorized store request).1 = none ∧
      CarriesOwn config userId (onUnauthorized store request).2 := by
  obtain ⟨access, refresh, rfl, _, hrefresh⟩ := hstore
  have htruthy : truthy refresh = true := by
    have hne : refresh.text ≠ "" := by
      rw [hrefresh]
      exact htexts userId "refresh" _ _ (Or.inr rfl)
    exact bne_iff_ne.mpr hne
  have hsome : (some refresh).filter truthy = some refresh := by
    rw [Option.filter_some, if_pos htruthy]
  unfold onUnauthorized
  cases hretry : request.retry with
  | true => exact ⟨rfl, trivial⟩
  | false =>
      simp only [Bool.false_eq_true, if_false, hsome]
      exact ⟨trivial, hrefresh⟩

/-- What a request does to the store and to itself. -/
theorem handle_of_loggedIn (htexts : JwtTexts config.toTokenConfig)
    (hstore : LoggedIn config userId phoneNumber session.page.store)
    {move : RequestMove IssuedToken} (hmove : GivesOwn config userId move)
    {action : Option (StoreCall IssuedToken)} {after : Request IssuedToken}
    (hhandle : request.handle session.page.store move = some (action, after)) :
    LoggedIn config userId phoneNumber (session.page.calling action).store ∧
      CarriesOwn config userId after := by
  unfold Request.handle at hhandle
  split at hhandle
  case h_1 =>
    cases hhandle
    exact ⟨hstore, authorize_of_loggedIn htexts hstore request.authorization⟩
  case h_2 | h_3 =>
    cases hhandle
    exact ⟨hstore, trivial⟩
  case h_4 =>
    obtain ⟨hnone, hcarries⟩ := onUnauthorized_of_loggedIn htexts hstore request
    have hpair : onUnauthorized session.page.store request = (action, after) :=
      Option.some.inj hhandle
    rw [hpair] at hnone hcarries
    cases hnone
    exact ⟨hstore, hcarries⟩
  case h_5 token data _ =>
    cases hhandle
    obtain ⟨access, refresh, hsame, _, _⟩ := hstore
    refine ⟨⟨data.accessToken, data.refreshToken, ?_, hmove.1, hmove.2⟩, trivial⟩
    rw [hsame]
    rfl
  case h_6 => exact hmove.elim
  case h_7 => cases hhandle

/-- What a request of the page does keeps the page logged in. -/
theorem OwnSession.goesOn (htexts : JwtTexts config.toTokenConfig)
    (hkept : OwnSession config userId phoneNumber session) {move : RequestMove IssuedToken}
    (hmove : GivesOwn config userId move) {page : Browser IssuedToken}
    (hstep : session.page.step (.request index move) = some page) :
    OwnSession config userId phoneNumber { session with page := page } := by
  obtain ⟨⟨action, reached⟩, hreact, rfl⟩ := Option.map_eq_some_iff.mp hstep
  obtain ⟨request, hrequest, hhandled⟩ := Option.bind_eq_some_iff.mp hreact
  obtain ⟨⟨called, after⟩, hhandle, heq⟩ := Option.map_eq_some_iff.mp hhandled
  obtain ⟨rfl, rfl⟩ := Prod.mk.inj heq
  obtain ⟨hstore, hcarries⟩ := handle_of_loggedIn htexts hkept.store hmove hhandle
  refine ⟨hstore, ?_, hkept.wires⟩
  intro other hother
  rcases List.mem_or_eq_of_mem_set hother with hold | rfl
  · exact hkept.requests other hold
  · exact hcarries

/-- The step lemma of a session. -/
theorem OwnSession.step (haccepts : JwtAccepts config.toTokenConfig)
    (htexts : JwtTexts config.toTokenConfig) (hkept : OwnSession config userId phoneNumber session)
    {move : WebMove} (hintime : InTime config session move)
    (hstep : session.step config move = some next) : OwnSession config userId phoneNumber next := by
  cases move with
  | call route =>
      cases hstep
      refine ⟨hkept.store, ?_, ?_⟩
      · intro request hrequest
        rcases List.mem_append.mp hrequest with hold | hnew
        · exact hkept.requests request hold
        · rw [List.mem_singleton.mp hnew]
          trivial
      · intro wire hwire
        rcases List.mem_append.mp hwire with hold | hnew
        · exact hkept.wires wire hold
        · rw [List.mem_singleton.mp hnew]
          trivial
  | send index =>
      obtain ⟨page, hpage, rfl⟩ := Option.map_eq_some_iff.mp hstep
      have hgives : GivesOwn config userId (.send : RequestMove IssuedToken) := trivial
      exact hkept.goesOn htexts hgives hpage
  | serve index outside =>
      obtain ⟨⟨request, wire⟩, hat, hserve⟩ := Option.bind_eq_some_iff.mp hstep
      obtain ⟨hrequest, hwire⟩ := at?_eq_some hat
      simp only at hserve
      split at hserve
      · cases hserve
        have hbringing : OwnSession config userId phoneNumber (session.bringing index wire
            (.response (responseOf (serveHttp config session.store
              (wire.arrival request outside)).1))) := hkept.bringing index wire trivial
        exact ⟨hbringing.store, hbringing.requests, hbringing.wires⟩
      · rename_i token hstage hnothing
        cases hserve
        have hcarries := hkept.requests request (List.mem_of_getElem? hrequest)
        simp only [CarriesOwn, hstage] at hcarries
        have hrefreshing : session.page.refreshing index = some token := by
          simp only [Browser.refreshing, hrequest, Option.bind_some, hstage]
        obtain ⟨data, hdata, hgiven⟩ := refreshOf_serveHttp haccepts hcarries
          (hintime token hrefreshing) session.store
        have hbringing : OwnSession config userId phoneNumber
            (session.bringing index wire (.tokens data)) := hkept.bringing index wire hgiven
        rw [hdata]
        exact ⟨hbringing.store, hbringing.requests, hbringing.wires⟩
      · cases hserve
  | lost index =>
      obtain ⟨⟨request, wire⟩, hat, hlost⟩ := Option.bind_eq_some_iff.mp hstep
      obtain ⟨hrequest, hwire⟩ := at?_eq_some hat
      simp only at hlost
      split at hlost
      · cases hlost
        exact hkept.bringing index wire trivial
      · rename_i token hstage
        have hrefreshing : session.page.refreshing index = some token := by
          simp only [Browser.refreshing, hrequest, Option.bind_some, hstage]
        cases hrefreshing.symm.trans hintime
      · cases hlost
  | arrive index =>
      obtain ⟨wire, hwire, hmoved⟩ := Option.bind_eq_some_iff.mp hstep
      obtain ⟨move, hmove, hpaged⟩ := Option.bind_eq_some_iff.mp hmoved
      obtain ⟨page, hpage, rfl⟩ := Option.map_eq_some_iff.mp hpaged
      have hgives := givesOwn_of_bringsOwn (hkept.wires wire (List.mem_of_getElem? hwire)) hmove
      have hafter := hkept.goesOn htexts hgives hpage
      have hbringing : OwnSession config userId phoneNumber
          (session.bringing index wire .nothing) :=
        hkept.bringing index wire trivial
      exact ⟨hafter.store, hafter.requests, hbringing.wires⟩
  | other arrival =>
      cases hstep
      exact ⟨hkept.store, hkept.requests, hkept.wires⟩

/-- The service refuses an issued token as an invalid one, in no other way. -/
theorem verifyToken_issued_cases {config : TokenConfig} (hjwt : JwtLaw config) (issue : Issue)
    (userId : Nat)
    (htoken : config.jwtEncode issue.payload config.policy.jwtSecret config.policy.jwtAlgorithm =
      issue.token) (hsub : issue.payload.sub = toString userId) (expectedType : String)
    (now : Datetime) :
    verifyToken config issue.token expectedType now = .ok userId ∨
      ∃ message, verifyToken config issue.token expectedType now =
        .error (.invalidToken message) := by
  cases hverify : verifyToken config issue.token expectedType now with
  | ok other =>
      have hsame := (verifyToken_issued hjwt htoken hsub hverify).1
      exact Or.inl (congrArg Except.ok hsame)
  | error error =>
      refine Or.inr ?_
      unfold verifyToken at hverify
      split at hverify
      · cases hverify
        exact ⟨_, rfl⟩
      · rename_i payload hdecode
        rw [← htoken] at hdecode
        obtain ⟨hpayload, _, _⟩ := hjwt _ _ _ _ _ hdecode
        have hint : intOf issue.payload.sub = some (userId : Int) := by
          rw [hsub]
          exact intOf_repr userId
        split at hverify
        · cases hverify
          exact ⟨_, rfl⟩
        · simp only [hpayload, hint] at hverify
          cases hverify

/-- A guarded request with an access token of the user. -/
theorem serveHttp_own (hjwt : JwtLaw config.toTokenConfig) {access : IssuedToken}
    (haccess : IsAccess config userId access) (arrival : HttpArrival)
    (htoken : arrival.authorization = some ("Bearer " ++ access.text)) {route : GuardedRoute}
    (hroute : arrival.route = .guarded route) (store : Store) :
    serveHttp config store arrival =
        finish config store arrival (serveGuarded config store arrival userId route) ∨
      serveHttp config store arrival =
        (.response 401 (.detail "Invalid or expired token"), store) := by
  have hverified := verifyToken_issued_cases hjwt
    (accessIssue config.toAuthConfig userId access.issuedAt) userId rfl rfl "access"
    (arrival.authTurns 0).now
  rcases hverified with hok | ⟨message, hrefused⟩
  · have hguard : getCurrentUserId config.toTokenConfig arrival.authorization
        (arrival.authTurns 0).now = .ok userId := by
      unfold getCurrentUserId verifyAccessToken
      rw [htoken]
      simp only [bearerToken_append]
      rw [haccess, hok]
    exact Or.inl (serveHttp_of_accepted hroute hguard)
  · have hguard : getCurrentUserId config.toTokenConfig arrival.authorization
        (arrival.authTurns 0).now =
          .error (.httpException 401 "Invalid or expired token") := by
      unfold getCurrentUserId verifyAccessToken
      rw [htoken]
      simp only [bearerToken_append]
      rw [haccess, hrefused]
    exact Or.inr (serveHttp_of_refused hroute hguard)

theorem OwnSession.actsAs (hjwt : JwtLaw config.toTokenConfig)
    (hkept : OwnSession config userId phoneNumber session) (move : WebMove) :
    ActsAs config userId session move := by
  cases move with
  | serve index outside =>
      intro request wire hat hstage route hroute
      obtain ⟨hrequest, _⟩ := at?_eq_some hat
      have hcarries := hkept.requests request (List.mem_of_getElem? hrequest)
      simp only [CarriesOwn, hstage] at hcarries
      obtain ⟨access, haccess, htoken⟩ := hcarries
      exact serveHttp_own hjwt haccess (wire.arrival request outside) htoken hroute session.store
  | call | send | lost | arrive | other => trivial

end Steps

/-! ## The session -/

/-- Between a login and the next login or logout of the user, in every interleaving of the
page's requests, their answers, and other clients of the server: as long as no refresh is
lost or served after its token has expired, the page holds tokens of its user and the phone
number they were given with, and the server serves its guarded requests as the user's or
answers that the token has expired. -/
theorem session_survives (config : ServerConfig) (hjwt : JwtLaw config.toTokenConfig)
    (haccepts : JwtAccepts config.toTokenConfig) (htexts : JwtTexts config.toTokenConfig)
    (userId : Nat) (accessNow refreshNow : Datetime) (phoneNumber : IssuedToken) (store : Store)
    (moves : List WebMove)
    (hintime : let pair := issuedPair config.toAuthConfig userId accessNow refreshNow
      Along (WebSession.step config) (InTime config)
        (.opened ⟨⟨pair.accessToken, accessNow⟩, ⟨pair.refreshToken, refreshNow⟩⟩ phoneNumber store)
        moves) :
    let pair := issuedPair config.toAuthConfig userId accessNow refreshNow
    let opened := WebSession.opened ⟨⟨pair.accessToken, accessNow⟩, ⟨pair.refreshToken, refreshNow⟩⟩
      phoneNumber store
    Along (WebSession.step config) (ActsAs config userId) opened moves ∧
      ∀ session, runFrom (WebSession.step config) opened moves = some session →
        LoggedIn config userId phoneNumber session.page.store := by
  intro pair opened
  have hopened : OwnSession config userId phoneNumber opened :=
    ⟨⟨_, _, rfl, rfl, rfl⟩, fun _ h => (by cases h), fun _ h => (by cases h)⟩
  refine ⟨?_, ?_⟩
  · refine hintime.of_invariant (OwnSession config userId phoneNumber) ?_ ?_ hopened
    · exact fun _ _ _ hkept hmove hstep => hkept.step haccepts htexts hmove hstep
    · exact fun _ move hkept _ => hkept.actsAs hjwt move
  · intro session hrun
    refine (along_invariant (OwnSession config userId phoneNumber) ?_ hintime hrun hopened).store
    exact fun _ _ _ hkept hmove hstep => hkept.step haccepts htexts hmove hstep

/-! ## A session that outlives its access token -/

theorem jwtTexts_signedConfig : JwtTexts signedConfig := by
  intro userId tokenType issuedAt expiresAt htype hempty
  have hdots : '.' ∉ tokenType.toList := by
    rcases htype with rfl | rfl <;> decide
  have hnone : ¬ ('.' ∈ (toString userId).toList ∨ '.' ∈ tokenType.toList) :=
    not_or.mpr ⟨dot_not_mem_natRepr userId, hdots⟩
  rw [jwtEncode_signedConfig, signedEncode, if_neg hnone] at hempty
  have hparts := congrArg String.toList hempty
  rw [String.toList_ofList] at hparts
  simp [signedParts, List.intercalate, List.intersperse] at hparts

/-- An access token and a refresh token of user 1, issued at a clock reading. -/
def accessAt (now : Datetime) : IssuedToken :=
  ⟨(issuedPair signedConfig.toAuthConfig 1 now now).accessToken, now⟩

def refreshAt (now : Datetime) : IssuedToken :=
  ⟨(issuedPair signedConfig.toAuthConfig 1 now now).refreshToken, now⟩

/-- A page of user 1 with tokens of a clock reading, and one request. -/
def pageAt (now : Datetime) (retry : Bool) (authorization : Option String)
    (stage : Stage IssuedToken) (incoming : Incoming) : WebSession :=
  ⟨⟨(StoreCall.login ⟨accessAt now, refreshAt now⟩ ⟨"+15550001111", 0⟩).result,
    [⟨retry, authorization, stage⟩]⟩, [⟨.guarded .listLogs, incoming⟩], .empty⟩

/-- The page after the login. -/
def openedPage : WebSession :=
  .opened ⟨accessAt 0, refreshAt 0⟩ ⟨"+15550001111", 0⟩ .empty

/-- An hour after the login. -/
def hour : Datetime := 3600000000

/-- A request an hour later, when the access token has expired: it is refused, the page
refreshes, and it is sent again. -/
def laterRequest : List WebMove :=
  let outside := httpAt hour none .health
  [.call (.guarded .listLogs), .send 0, .serve 0 outside, .arrive 0, .serve 0 outside, .arrive 0,
    .send 0, .serve 0 outside, .arrive 0]

/-- The header with the token of a clock reading. -/
def headerAt (now : Datetime) : Option String := some ("Bearer " ++ (accessAt now).text)

theorem authorize_accessAt (now : Datetime) (authorization : Option String) :
    authorize (StoreCall.login ⟨accessAt now, refreshAt now⟩ ⟨"+15550001111", 0⟩).result
      authorization = headerAt now := by
  have htruthy : truthy (accessAt now) = true :=
    bne_iff_ne.mpr (jwtTexts_signedConfig 1 "access" _ _ (Or.inl rfl))
  simp only [authorize, StoreCall.result, htruthy, if_true]
  rfl

/-- The request interceptor sets the token of the store. -/
theorem step_send_pageAt (now : Datetime) (retry : Bool) (authorization : Option String) :
    (pageAt now retry authorization .called .nothing).step signedServer (.send 0) =
      some (pageAt now retry (headerAt now) .sent .nothing) := by
  rw [← authorize_accessAt now authorization]
  rfl

/-- The request of the page at the server. -/
def logsAt (now : Datetime) (authorization : Option String) : HttpArrival :=
  httpAt now authorization (.guarded .listLogs)

/-- The server answers the request. -/
theorem step_serve_pageAt {now later : Datetime} (retry : Bool) {answer : HttpAnswer}
    (hserve : serveHttp signedServer .empty (logsAt later (headerAt now)) = (answer, .empty)) :
    (pageAt now retry (headerAt now) .sent .nothing).step signedServer
        (.serve 0 (httpAt later none .health)) =
      some (pageAt now retry (headerAt now) .sent (.response (responseOf answer))) := by
  have hstep : (pageAt now retry (headerAt now) .sent .nothing).step signedServer
      (.serve 0 (httpAt later none .health)) =
      some { pageAt now retry (headerAt now) .sent (.response (responseOf
          (serveHttp signedServer .empty (logsAt later (headerAt now))).1)) with
        store := (serveHttp signedServer .empty (logsAt later (headerAt now))).2 } := rfl
  rw [hstep, hserve]
  rfl

theorem verifyToken_expired {userId : Nat} {expiresDelta : Timedelta} {tokenType : String}
    {now later : Datetime} (htype : '.' ∉ tokenType.toList) (hlater : now + expiresDelta ≤ later) :
    verifyToken signedConfig
      (issueAt signedConfig.toAuthConfig userId expiresDelta tokenType now).token tokenType later =
        .error (.invalidToken "Signature has expired") := by
  let payload : TokenPayload := ⟨userId.repr, tokenType, now, now + expiresDelta⟩
  have htoken : (issueAt signedConfig.toAuthConfig userId expiresDelta tokenType now).token =
      signedEncode payload signedConfig.policy.jwtSecret signedConfig.policy.jwtAlgorithm := rfl
  have hdecode : signedDecode
      (signedEncode payload signedConfig.policy.jwtSecret signedConfig.policy.jwtAlgorithm)
      signedConfig.policy.jwtSecret signedConfig.policy.jwtAlgorithm later =
        .error "Signature has expired" := by
    rw [@signedDecode_encode payload _ _ later (dot_not_mem_natRepr userId) htype, if_pos hlater]
  rw [← htoken, ← jwtDecode_signedConfig] at hdecode
  unfold verifyToken
  rw [hdecode]

theorem serve_expired : serveHttp signedServer .empty (logsAt hour (headerAt 0)) =
    (.response 401 (.detail "Invalid or expired token"), .empty) := by
  have hverify : verifyToken signedConfig (accessAt 0).text "access" hour =
      .error (.invalidToken "Signature has expired") :=
    @verifyToken_expired 1 (seconds (15 * 60)) "access" 0 hour (by decide) (by decide)
  have hguard : getCurrentUserId signedConfig (headerAt 0) hour =
      .error (.httpException 401 "Invalid or expired token") := by
    unfold getCurrentUserId verifyAccessToken headerAt
    simp only [bearerToken_append]
    rw [hverify]
  exact @serveHttp_of_refused signedServer .empty (logsAt hour (headerAt 0)) .listLogs rfl _ hguard

theorem serve_fresh : serveHttp signedServer .empty (logsAt hour (headerAt hour)) =
    (.response 200 (.logs []), .empty) := by
  have hopens := (@opens_issuedPair signedServer jwtAccepts_signedConfig 1 hour hour).access .empty
    (logsAt hour (headerAt hour)) .listLogs rfl rfl ⟨by decide, by decide⟩
  rw [hopens]
  rfl

theorem serve_refresh : serveHttp signedServer .empty
    (refreshArrival (refreshAt 0) (httpAt hour none .health)) =
      (.response 200 (.auth (.tokens ⟨(accessAt hour).text, (refreshAt hour).text⟩)), .empty) :=
  (@opens_issuedPair signedServer jwtAccepts_signedConfig 1 0 0).refresh .empty
    (refreshArrival (refreshAt 0) (httpAt hour none .health)) rfl ⟨by decide, by decide⟩

theorem truthy_refreshAt (now : Datetime) : truthy (refreshAt now) = true :=
  bne_iff_ne.mpr (jwtTexts_signedConfig 1 "refresh" _ _ (Or.inr rfl))

/-- At the 401 the page sends its refresh token. -/
theorem step_arrive_expired :
    (pageAt 0 false (headerAt 0) .sent (.response .unauthorized)).step signedServer (.arrive 0) =
      some (pageAt 0 true (headerAt 0) (.refreshing (refreshAt 0)) .nothing) := by
  have htruthy := truthy_refreshAt 0
  let store := (StoreCall.login ⟨accessAt 0, refreshAt 0⟩ ⟨"+15550001111", 0⟩).result
  let request : Request IssuedToken := ⟨false, headerAt 0, .sent⟩
  have hrefreshing : onUnauthorized store request =
      (none, ⟨true, headerAt 0, .refreshing (refreshAt 0)⟩) := by
    simp [onUnauthorized, store, request, StoreCall.result, Option.filter, htruthy]
  have hstep : (pageAt 0 false (headerAt 0) .sent (.response .unauthorized)).step signedServer
      (.arrive 0) = some ⟨⟨((⟨store, [request]⟩ : Browser IssuedToken).calling
          (onUnauthorized store request).1).store, [(onUnauthorized store request).2]⟩,
        [⟨.guarded .listLogs, .nothing⟩], .empty⟩ := rfl
  rw [hstep, hrefreshing]
  rfl

/-- The server exchanges the refresh token. -/
theorem step_serve_refresh :
    (pageAt 0 true (headerAt 0) (.refreshing (refreshAt 0)) .nothing).step signedServer
        (.serve 0 (httpAt hour none .health)) =
      some (pageAt 0 true (headerAt 0) (.refreshing (refreshAt 0))
        (.tokens ⟨accessAt hour, refreshAt hour⟩)) := by
  let outside := httpAt hour none .health
  have hstep : (pageAt 0 true (headerAt 0) (.refreshing (refreshAt 0)) .nothing).step signedServer
      (.serve 0 outside) =
      some { pageAt 0 true (headerAt 0) (.refreshing (refreshAt 0)) (refreshOf outside
          (serveHttp signedServer .empty (refreshArrival (refreshAt 0) outside)).1) with
        store := (serveHttp signedServer .empty (refreshArrival (refreshAt 0) outside)).2 } := rfl
  rw [hstep, serve_refresh]
  rfl

theorem laterRequest_inTime :
    Along (WebSession.step signedServer) (InTime signedServer) openedPage laterRequest ∧
      runFrom (WebSession.step signedServer) openedPage laterRequest =
        some (pageAt hour true (headerAt hour) (.settled true) .nothing) := by
  refine along_and_runFrom_cons trivial rfl ?_
  refine along_and_runFrom_cons trivial (step_send_pageAt 0 false none) ?_
  refine along_and_runFrom_cons ?_ (step_serve_pageAt false serve_expired) ?_
  · intro token htoken
    cases htoken
  refine along_and_runFrom_cons trivial step_arrive_expired ?_
  refine along_and_runFrom_cons ?_ step_serve_refresh ?_
  · intro token htoken
    cases htoken
    exact ⟨by decide, by decide⟩
  refine along_and_runFrom_cons trivial rfl ?_
  refine along_and_runFrom_cons trivial (step_send_pageAt hour true (headerAt 0)) ?_
  refine along_and_runFrom_cons ?_ (step_serve_pageAt true serve_fresh) ?_
  · intro token htoken
    cases htoken
  exact along_and_runFrom_cons trivial rfl ⟨trivial, rfl⟩

/-- The request is answered in the end, and the page is still logged in. -/
theorem later_request_survives :
    ∃ session, runFrom (WebSession.step signedServer) openedPage laterRequest = some session ∧
      session.page.requests.map Request.stage = [.settled true] ∧
      Along (WebSession.step signedServer) (ActsAs signedServer 1) openedPage laterRequest ∧
      LoggedIn signedServer 1 ⟨"+15550001111", 0⟩ session.page.store := by
  obtain ⟨hintime, hrun⟩ := laterRequest_inTime
  obtain ⟨hacts, hkept⟩ := session_survives signedServer jwtLaw_signedConfig
    jwtAccepts_signedConfig jwtTexts_signedConfig 1 0 0 ⟨"+15550001111", 0⟩ .empty laterRequest
    hintime
  exact ⟨_, hrun, rfl, hacts, hkept _ hrun⟩

end StockMonitoring.Frontend
