import StockMonitoring.Frontend.Traces

set_option autoImplicit false

/-!
# Frontend: one login at a time

What the store holds comes from the most recent user login and its refreshes, and is null
after a logout.  A run keeps this exactly when no refresh gives new tokens after the login
it was sent for has ended (`one_login_iff`).
-/

namespace StockMonitoring.Frontend

open StockMonitoring.Foundation

/-- The three fields of the store come from one user login and its refreshes. -/
def AuthState.ComesFrom (store : AuthState Traced) (login : Nat) : Prop :=
  store.accessToken.bind Traced.login = some login ∧
    store.refreshToken.bind Traced.login = some login ∧
    store.phoneNumber.bind Traced.login = some login

instance (store : AuthState Traced) (login : Nat) : Decidable (store.ComesFrom login) :=
  inferInstanceAs (Decidable (_ ∧ _ ∧ _))

/-- The store holds the most recent user login, or nothing after a logout. -/
def Observed.OneLogin (observed : Observed) : Prop :=
  if observed.signedIn then observed.browser.store.ComesFrom observed.logins
  else observed.browser.store = .empty

instance (observed : Observed) : Decidable observed.OneLogin :=
  inferInstanceAs (Decidable (if observed.signedIn then
    observed.browser.store.ComesFrom observed.logins else observed.browser.store = .empty))

/-- A refresh that gives new tokens was sent for the most recent user login, and there was no
logout since. -/
def Timely (observed : Observed) : Move String → Prop
  | .request index (.refreshSucceeded _) =>
      ∀ refreshToken, observed.browser.refreshing index = some refreshToken →
        observed.signedIn = true ∧ refreshToken.login = some observed.logins
  | _ => True

/-! ## One move -/

theorem not_empty_login (tokens : Tokens Traced) (phoneNumber : Traced) :
    (StoreCall.login tokens phoneNumber).result ≠ .empty := by
  intro hempty
  cases congrArg AuthState.accessToken hempty

/-- New tokens of a refresh leave one login in the store exactly when the refresh was sent
for it. -/
theorem comesFrom_refreshed {store : AuthState Traced} {logins : Nat} {origin : Option Nat}
    {data : Tokens String} (hstore : store.ComesFrom logins) :
    (StoreCall.login (data.map (tracedFrom origin))
      (store.phoneNumber.getD (JsString.literal ""))).result.ComesFrom logins ↔
      origin = some logins := by
  obtain ⟨-, -, hphone⟩ := hstore
  obtain ⟨phoneNumber, hsome, hlogin⟩ := Option.bind_eq_some_iff.mp hphone
  simp [AuthState.ComesFrom, StoreCall.result, Tokens.map, tracedFrom, hsome, hlogin]

/-- A refresh that gives new tokens keeps one login in the store exactly when it is timely. -/
theorem oneLogin_refreshed_iff {observed : Observed} {browser : Browser Traced} {index : Nat}
    {refreshToken : Traced} {data : Tokens String} {action : StoreCall Traced}
    (hholds : observed.OneLogin)
    (hrefreshing : observed.browser.refreshing index = some refreshToken)
    (haction : action = .login
      (data.map (tracedFrom (observed.origin (.request index (.refreshSucceeded data)))))
      (observed.browser.store.phoneNumber.getD (JsString.literal "")))
    (hstore : browser.store = action.result) :
    (observed.after browser (.request index (.refreshSucceeded data)) (some action)).OneLogin ↔
      Timely observed (.request index (.refreshSucceeded data)) := by
  have horigin : observed.origin (.request index (.refreshSucceeded data)) =
      refreshToken.login := by
    simp only [Observed.origin, hrefreshing, Option.bind_some]
  have htimely : Timely observed (.request index (.refreshSucceeded data)) ↔
      observed.signedIn = true ∧ refreshToken.login = some observed.logins := by
    simp [Timely, hrefreshing]
  rw [htimely]
  subst haction
  simp only [Observed.OneLogin, Observed.after, hstore]
  unfold Observed.OneLogin at hholds
  cases hsigned : observed.signedIn with
  | true =>
      rw [hsigned, if_pos rfl] at hholds
      simp [comesFrom_refreshed hholds, horigin]
  | false => simp [not_empty_login]

/-- A move keeps one login in the store exactly when it is timely. -/
theorem oneLogin_step_iff {observed next : Observed} {move : Move String}
    (hholds : observed.OneLogin) (hstep : observed.step move = some next) :
    next.OneLogin ↔ Timely observed move := by
  obtain ⟨⟨action, browser⟩, hreact, rfl⟩ := Option.map_eq_some_iff.mp hstep
  cases move with
  | userLogin tokens phoneNumber =>
      cases hreact
      exact iff_of_true ⟨rfl, rfl, rfl⟩ trivial
  | userLogout =>
      cases hreact
      exact iff_of_true rfl trivial
  | call =>
      cases hreact
      exact iff_of_true hholds trivial
  | request index move =>
      obtain ⟨hstore, ⟨refreshToken, data, hrefreshing, hmove, rfl⟩ | ⟨hother, haction⟩⟩ :=
        react_request_cases hreact
      · cases move with
        | refreshSucceeded fresh =>
            cases hmove
            exact oneLogin_refreshed_iff hholds hrefreshing rfl hstore
        | send => cases hmove
        | respond response => cases hmove
        | refreshFailed => cases hmove
      · have htimely : Timely observed (.request index move) := by
          cases move with
          | refreshSucceeded data => exact absurd rfl (hother (data.map _))
          | send => trivial
          | respond response => trivial
          | refreshFailed => trivial
        refine iff_of_true ?_ htimely
        obtain rfl | rfl := haction
        · unfold Observed.OneLogin
          rw [show (observed.after browser (.request index move) none).browser.store =
            observed.browser.store from hstore]
          exact hholds
        · exact hstore

/-- A move that is not possible brings no new tokens. -/
theorem timely_of_stuck {observed : Observed} {move : Move String}
    (hstuck : observed.step move = none) : Timely observed move := by
  cases move with
  | userLogin tokens phoneNumber => trivial
  | userLogout => trivial
  | call => trivial
  | request index move =>
      cases move with
      | send => trivial
      | respond response => trivial
      | refreshFailed => trivial
      | refreshSucceeded data =>
          intro refreshToken hrefreshing
          obtain ⟨reaction, hreact⟩ := exists_react_of_refreshing hrefreshing
            (data.map (tracedFrom (observed.origin (.request index (.refreshSucceeded data)))))
          have hnone := Option.map_eq_none_iff.mp hstuck
          cases hreact.symm.trans hnone

/-- Every run from an opened page keeps one login in the store exactly when all its moves
are timely. -/
theorem one_login_iff (persisted : Option (Tokens String × String))
    (moves : List (Move String)) :
    Throughout Observed.step Observed.OneLogin (.opened persisted) moves ↔
      Along Observed.step Timely (.opened persisted) moves := by
  have hopened : (Observed.opened persisted).OneLogin := by
    cases persisted with
    | none => rfl
    | some login => exact ⟨rfl, rfl, rfl⟩
  apply @throughout_iff_along _ _ _ Observed.OneLogin (fun _ => True)
  · intro state move next _ _
    trivial
  · intro state move next _ hholds hstep
    exact oneLogin_step_iff hholds hstep
  · intro state move hstuck
    exact timely_of_stuck hstuck
  · trivial
  · exact hopened

/-! ## Two refreshes at once -/

/-- A user logs in, two requests get a 401 and refresh with the same token, and the first
refresh fails, which logs out. -/
def signedOutMoves : List (Move String) :=
  [.userLogin ⟨"access-1", "refresh-1"⟩ "+15551110000", .call, .call, .request 0 .send,
    .request 1 .send, .request 0 (.respond .unauthorized), .request 1 (.respond .unauthorized),
    .request 0 .refreshFailed]

/-- The second refresh gives new tokens. -/
def lateTokens : Move String := .request 1 (.refreshSucceeded ⟨"access-2", "refresh-2"⟩)

/-- Another user logs in. -/
def secondLogin : Move String := .userLogin ⟨"access-3", "refresh-3"⟩ "+15552220000"

/-- The store after a run of the page. -/
def storeAfter (moves : List (Move String)) : Option (AuthState String) :=
  (runFrom Browser.step ⟨.empty, []⟩ moves).map Browser.store

theorem not_throughout_of_end {moves : List (Move String)}
    (hend : (runFrom Observed.step (.opened none) moves).map
      (fun observed => decide observed.OneLogin) = some false) :
    ¬ Throughout Observed.step Observed.OneLogin (.opened none) moves := by
  obtain ⟨reached, hrun, hmixed⟩ := Option.map_eq_some_iff.mp hend
  intro hthroughout
  have hholds := hthroughout moves [] reached (List.append_nil moves).symm hrun
  exact of_decide_eq_false hmixed hholds

/-- The late tokens bring the login back after the logout, and stand beside the phone number
of another user. -/
theorem late_refresh_resurrects_and_mixes :
    storeAfter signedOutMoves = some ⟨none, none, none⟩ ∧
      storeAfter (signedOutMoves ++ [lateTokens]) =
        some ⟨some "access-2", some "refresh-2", some ""⟩ ∧
      storeAfter (signedOutMoves ++ [secondLogin, lateTokens]) =
        some ⟨some "access-2", some "refresh-2", some "+15552220000"⟩ ∧
      ¬ Throughout Observed.step Observed.OneLogin (.opened none)
        (signedOutMoves ++ [lateTokens]) ∧
      ¬ Throughout Observed.step Observed.OneLogin (.opened none)
        (signedOutMoves ++ [secondLogin, lateTokens]) := by
  refine ⟨by decide, by decide, by decide, ?_, ?_⟩
  · apply not_throughout_of_end
    decide
  · apply not_throughout_of_end
    decide

end StockMonitoring.Frontend
