import StockMonitoring.Foundation.Run

set_option autoImplicit false

/-!
# Frontend: the auth store and the interceptors of apiClient

`src/store/authStore.ts` and `src/api/client.ts`.  The code treats its strings alike, so
it is written over a type `V` of them (`JsString`); `Browser String` is the page itself.

The event loop runs one handler at a time.  A request is cut where the code waits: for
its request interceptor, for the response, and for the refresh that the response
interceptor awaits.
-/

namespace StockMonitoring.Frontend

open StockMonitoring.Foundation

/-- A type of strings: what the code can ask of a value, and its literals. -/
class JsString (V : Type) where
  text : V → String
  literal : String → V

instance : JsString String := ⟨id, id⟩

variable {V : Type} [JsString V]

/-- `if (value)`. -/
def truthy (value : V) : Bool := JsString.text value != ""

/-! ## The store -/

/-- `Tokens`. -/
structure Tokens (V : Type) where
  accessToken : V
  refreshToken : V
  deriving DecidableEq

/-- The data of `AuthState`; `none` is `null`. -/
structure AuthState (V : Type) where
  accessToken : Option V
  refreshToken : Option V
  phoneNumber : Option V
  deriving DecidableEq

/-- The store's actions. -/
inductive StoreCall (V : Type) where
  | login (tokens : Tokens V) (phoneNumber : V)
  | logout

/-- The store after an action: `set` gives all three fields. -/
def StoreCall.result : StoreCall V → AuthState V
  | .login tokens phoneNumber =>
      ⟨some tokens.accessToken, some tokens.refreshToken, some phoneNumber⟩
  | .logout => ⟨none, none, none⟩

/-- The store before anyone has logged in. -/
def AuthState.empty : AuthState V := ⟨none, none, none⟩

/-! ## A request -/

/-- Where a request of `apiClient` stands. -/
inductive Stage (V : Type) where
  /-- its request interceptor has not run yet -/
  | called
  /-- it waits for the server's response -/
  | sent
  /-- its response interceptor awaits the refresh it sent with this token -/
  | refreshing (refreshToken : V)
  /-- its promise is resolved or rejected -/
  | settled (resolved : Bool)
  deriving DecidableEq

/-- A request with the part of its config that the interceptors use. -/
structure Request (V : Type) where
  retry : Bool
  authorization : Option String
  stage : Stage V
  deriving DecidableEq

/-- What the server, or the lack of one, makes of a request. -/
inductive Response where
  /-- a response that `axios` resolves with -/
  | success
  /-- a 401 -/
  | unauthorized
  /-- any other error -/
  | failure
  deriving DecidableEq

/-- What can happen to a request. -/
inductive RequestMove (V : Type) where
  /-- its request interceptor runs -/
  | send
  /-- the server has responded -/
  | respond (response : Response)
  /-- the refresh it awaits has given new tokens -/
  | refreshSucceeded (data : Tokens V)
  /-- the refresh it awaits has failed -/
  | refreshFailed

/-- The request interceptor. -/
def authorize (store : AuthState V) (authorization : Option String) : Option String :=
  match store.accessToken with
  | some token =>
      if truthy token then some s!"Bearer {JsString.text token}" else authorization
  | none => authorization

/-- The response interceptor at a 401: the action it calls, and the request after it. -/
def onUnauthorized (store : AuthState V) (request : Request V) :
    Option (StoreCall V) × Request V :=
  if request.retry then (none, { request with stage := .settled false })
  else
    match store.refreshToken.filter truthy with
    | some refreshToken => (none, { request with retry := true, stage := .refreshing refreshToken })
    | none => (some .logout, { request with retry := true, stage := .settled false })

/-- What happens to a request at a move: the store's action that its interceptor calls, and
the request after it. -/
def Request.handle (store : AuthState V) (request : Request V) (move : RequestMove V) :
    Option (Option (StoreCall V) × Request V) :=
  match request.stage, move with
  | .called, .send =>
      some (none, { request with
        authorization := authorize store request.authorization, stage := .sent })
  | .sent, .respond .success => some (none, { request with stage := .settled true })
  | .sent, .respond .failure => some (none, { request with stage := .settled false })
  | .sent, .respond .unauthorized => some (onUnauthorized store request)
  -- the new tokens go beside the phone number that the store holds now; then the request
  -- is sent again
  | .refreshing _, .refreshSucceeded data =>
      some (some (.login data (store.phoneNumber.getD (JsString.literal ""))),
        { request with stage := .called })
  | .refreshing _, .refreshFailed => some (some .logout, { request with stage := .settled false })
  | _, _ => none

/-! ## The page -/

/-- The store and the requests that were made. -/
structure Browser (V : Type) where
  store : AuthState V
  requests : List (Request V)

/-- What can happen on the page. -/
inductive Move (V : Type) where
  /-- the login page calls `login` -/
  | userLogin (tokens : Tokens V) (phoneNumber : V)
  /-- the user calls `logout` -/
  | userLogout
  /-- a component makes a request -/
  | call
  /-- a request goes on -/
  | request (index : Nat) (move : RequestMove V)

/-- Call an action of the store, or none. -/
def Browser.calling (browser : Browser V) : Option (StoreCall V) → Browser V
  | some action => { browser with store := action.result }
  | none => browser

/-- What a move does: the store's action it calls, and the page after it. -/
def Browser.react (browser : Browser V) : Move V → Option (Option (StoreCall V) × Browser V)
  | .userLogin tokens phoneNumber =>
      some (some (.login tokens phoneNumber), browser.calling (some (.login tokens phoneNumber)))
  | .userLogout => some (some .logout, browser.calling (some .logout))
  | .call => some (none, { browser with requests := browser.requests ++ [⟨false, none, .called⟩] })
  | .request index move =>
      (browser.requests[index]?).bind fun request =>
        (request.handle browser.store move).map fun handled =>
          (handled.1, { browser.calling handled.1 with
            requests := browser.requests.set index handled.2 })

/-- One move of the page. -/
def Browser.step (browser : Browser V) (move : Move V) : Option (Browser V) :=
  (browser.react move).map Prod.snd

/-- The token with which a request's refresh was sent, while it is awaited. -/
def Browser.refreshing (browser : Browser V) (index : Nat) : Option V :=
  (browser.requests[index]?).bind fun request =>
    match request.stage with
    | .refreshing refreshToken => some refreshToken
    | _ => none

/-! ## What a request can do to the store -/

/-- A request's move logs in only where a refresh succeeds; else it calls nothing or logs
out. -/
theorem handle_cases {store : AuthState V} {request next : Request V} {move : RequestMove V}
    {action : Option (StoreCall V)} (hhandle : request.handle store move = some (action, next)) :
    (∃ refreshToken data, request.stage = .refreshing refreshToken ∧
      move = .refreshSucceeded data ∧
      action = some (.login data (store.phoneNumber.getD (JsString.literal "")))) ∨
    ((∀ data, move ≠ .refreshSucceeded data) ∧ (action = none ∨ action = some .logout)) := by
  unfold Request.handle at hhandle
  split at hhandle
  case h_1 | h_2 | h_3 =>
    cases hhandle
    exact .inr ⟨fun data h => (by cases h), .inl rfl⟩
  case h_4 =>
    refine .inr ⟨fun data h => (by cases h), ?_⟩
    unfold onUnauthorized at hhandle
    split at hhandle
    · cases hhandle
      exact .inl rfl
    · split at hhandle
      · cases hhandle
        exact .inl rfl
      · cases hhandle
        exact .inr rfl
  case h_5 refreshToken data hstage =>
    cases hhandle
    exact .inl ⟨refreshToken, data, hstage, rfl, rfl⟩
  case h_6 =>
    cases hhandle
    exact .inr ⟨fun data h => (by cases h), .inr rfl⟩
  case h_7 => cases hhandle

/-- The same on the page, with the store after it. -/
theorem react_request_cases {browser next : Browser V} {index : Nat} {move : RequestMove V}
    {action : Option (StoreCall V)}
    (hreact : browser.react (.request index move) = some (action, next)) :
    next.store = (browser.calling action).store ∧
      ((∃ refreshToken data, browser.refreshing index = some refreshToken ∧
        move = .refreshSucceeded data ∧
        action = some (.login data (browser.store.phoneNumber.getD (JsString.literal "")))) ∨
      ((∀ data, move ≠ .refreshSucceeded data) ∧ (action = none ∨ action = some .logout))) := by
  obtain ⟨request, hrequest, hhandled⟩ := Option.bind_eq_some_iff.mp hreact
  obtain ⟨⟨called, handled⟩, hhandle, heq⟩ := Option.map_eq_some_iff.mp hhandled
  obtain ⟨rfl, rfl⟩ := Prod.mk.inj heq
  refine ⟨rfl, ?_⟩
  obtain ⟨refreshToken, data, hstage, hmove, haction⟩ | hother := handle_cases hhandle
  · have hrefreshing : browser.refreshing index = some refreshToken := by
      simp only [Browser.refreshing, hrequest, Option.bind_some, hstage]
    exact .inl ⟨refreshToken, data, hrefreshing, hmove, haction⟩
  · exact .inr hother

/-- A refresh that is awaited can succeed. -/
theorem exists_react_of_refreshing {browser : Browser V} {index : Nat} {refreshToken : V}
    (hrefreshing : browser.refreshing index = some refreshToken) (data : Tokens V) :
    ∃ reaction, browser.react (.request index (.refreshSucceeded data)) = some reaction := by
  obtain ⟨request, hrequest, hstage⟩ := Option.bind_eq_some_iff.mp hrefreshing
  split at hstage
  · rename_i token hrefresh
    simp only [Browser.react, hrequest, Option.bind_some, Request.handle, hrefresh, Option.map_some]
    exact ⟨_, rfl⟩
  · cases hstage

end StockMonitoring.Frontend
