import StockMonitoring.Frontend.ApiClient

set_option autoImplicit false

/-!
# Frontend: where the store's values come from

A `Traced` value is a string with the number of the user login it comes from: the strings
of a login carry its number, the tokens of a refresh the number of the token the refresh was
sent with, and a literal of the code none.  `Observed` runs the page over such values and
counts the logins; without the numbers it is the page itself (`run_plain`).
-/

namespace StockMonitoring.Frontend

open StockMonitoring.Foundation

/-! ## The page over other strings -/

section Map

variable {V W : Type} (f : V → W)

def Tokens.map (tokens : Tokens V) : Tokens W := ⟨f tokens.accessToken, f tokens.refreshToken⟩

def AuthState.map (store : AuthState V) : AuthState W :=
  ⟨store.accessToken.map f, store.refreshToken.map f, store.phoneNumber.map f⟩

def StoreCall.map : StoreCall V → StoreCall W
  | .login tokens phoneNumber => .login (tokens.map f) (f phoneNumber)
  | .logout => .logout

def Stage.map : Stage V → Stage W
  | .called => .called
  | .sent => .sent
  | .refreshing refreshToken => .refreshing (f refreshToken)
  | .settled resolved => .settled resolved

def Request.map (request : Request V) : Request W :=
  ⟨request.retry, request.authorization, request.stage.map f⟩

def RequestMove.map : RequestMove V → RequestMove W
  | .send => .send
  | .respond response => .respond response
  | .refreshSucceeded data => .refreshSucceeded (data.map f)
  | .refreshFailed => .refreshFailed

def Browser.map (browser : Browser V) : Browser W :=
  ⟨browser.store.map f, browser.requests.map (Request.map f)⟩

def Move.map : Move V → Move W
  | .userLogin tokens phoneNumber => .userLogin (tokens.map f) (f phoneNumber)
  | .userLogout => .userLogout
  | .call => .call
  | .request index move => .request index (move.map f)

variable {f}

theorem calling_map (browser : Browser V) (action : Option (StoreCall V)) :
    (browser.map f).calling (action.map (StoreCall.map f)) = (browser.calling action).map f := by
  rcases action with - | (- | -) <;> rfl

variable [JsString V] [JsString W]

/-- A map that keeps the text of every value and every literal. -/
structure KeepsText (f : V → W) : Prop where
  text : ∀ value, JsString.text (f value) = JsString.text value
  literal : ∀ word, f (JsString.literal word) = JsString.literal word

theorem truthy_map (hf : KeepsText f) (value : V) : truthy (f value) = truthy value := by
  rw [truthy, truthy, hf.text]

theorem authorize_map (hf : KeepsText f) (store : AuthState V) (authorization : Option String) :
    authorize (store.map f) authorization = authorize store authorization := by
  cases htoken : store.accessToken <;>
    simp [authorize, AuthState.map, htoken, truthy_map hf, hf.text]

theorem onUnauthorized_map (hf : KeepsText f) (store : AuthState V) (request : Request V) :
    onUnauthorized (store.map f) (request.map f) =
      ((onUnauthorized store request).1.map (StoreCall.map f),
        (onUnauthorized store request).2.map f) := by
  cases hretry : request.retry with
  | true => simp [onUnauthorized, Request.map, hretry, Stage.map]
  | false =>
      cases htoken : store.refreshToken with
      | none => simp [onUnauthorized, Request.map, AuthState.map, hretry, htoken, Stage.map,
          StoreCall.map]
      | some token =>
          cases htruthy : truthy token <;>
            simp [onUnauthorized, Request.map, AuthState.map, hretry, htoken, htruthy,
              truthy_map hf, Option.filter, Stage.map, StoreCall.map]

theorem handle_map (hf : KeepsText f) (store : AuthState V) (request : Request V)
    (move : RequestMove V) : (request.map f).handle (store.map f) (move.map f) =
      (request.handle store move).map fun handled =>
        (handled.1.map (StoreCall.map f), handled.2.map f) := by
  obtain ⟨retry, authorization, stage⟩ := request
  cases stage with
  | called => cases move <;> simp [Request.handle, Request.map, RequestMove.map, Stage.map,
      authorize_map hf]
  | sent =>
      cases move with
      | respond response =>
          cases response with
          | unauthorized =>
              exact congrArg some (onUnauthorized_map hf store ⟨retry, authorization, .sent⟩)
          | success => rfl
          | failure => rfl
      | send => rfl
      | refreshSucceeded data => rfl
      | refreshFailed => rfl
  | refreshing refreshToken =>
      cases move with
      | refreshSucceeded data =>
          cases hphone : store.phoneNumber <;>
            simp [Request.handle, Request.map, RequestMove.map, Stage.map, StoreCall.map,
              AuthState.map, hphone, hf.literal]
      | send => rfl
      | respond response => cases response <;> rfl
      | refreshFailed => rfl
  | settled resolved => cases move <;> rfl

theorem react_map (hf : KeepsText f) (browser : Browser V) (move : Move V) :
    (browser.map f).react (move.map f) =
      (browser.react move).map fun reaction =>
        (reaction.1.map (StoreCall.map f), reaction.2.map f) := by
  cases move with
  | userLogin tokens phoneNumber => rfl
  | userLogout => rfl
  | call =>
      simp only [Browser.react, Move.map, Browser.map, Option.map_some, Option.map_none,
        List.map_append, List.map_cons, List.map_nil]
      rfl
  | request index move =>
      simp only [Browser.react, Move.map]
      rw [show (browser.map f).requests[index]? = (browser.requests[index]?).map (Request.map f)
        from List.getElem?_map, Option.bind_map, Option.map_bind]
      congr 1
      funext request
      have hhandle := handle_map hf browser.store request move
      simp only [Function.comp_apply, show (browser.map f).store = browser.store.map f from rfl,
        hhandle, Option.map_map]
      congr 1
      funext handled
      simp only [Function.comp_apply, calling_map]
      exact congrArg (fun requests => (handled.1.map (StoreCall.map f),
        (⟨(browser.calling handled.1).store.map f, requests⟩ : Browser W))) List.map_set.symm

/-- A step over other strings is the step over these. -/
theorem step_map (hf : KeepsText f) (browser : Browser V) (move : Move V) :
    (browser.map f).step (move.map f) = (browser.step move).map (Browser.map f) := by
  rw [Browser.step, Browser.step, react_map hf, Option.map_map, Option.map_map]
  rfl

end Map

/-! ## Traced values -/

/-- A string and the number of the user login it comes from. -/
structure Traced where
  text : String
  login : Option Nat
  deriving DecidableEq

instance : JsString Traced := ⟨Traced.text, fun word => ⟨word, none⟩⟩

theorem keepsText_text : KeepsText Traced.text := ⟨fun _ => rfl, fun _ => rfl⟩

/-- The strings of one origin. -/
def tracedFrom (login : Option Nat) (word : String) : Traced := ⟨word, login⟩

/-- The page over traced values, with what has been done to it. -/
structure Observed where
  browser : Browser Traced
  /-- the user logins so far -/
  logins : Nat
  /-- whether there was one, and no logout since -/
  signedIn : Bool

/-- Where the strings of a move come from. -/
def Observed.origin (observed : Observed) : Move String → Option Nat
  | .request index _ => (observed.browser.refreshing index).bind Traced.login
  | _ => some (observed.logins + 1)

/-- A move with the origin of its strings. -/
def Observed.trace (observed : Observed) (move : Move String) : Move Traced :=
  move.map (tracedFrom (observed.origin move))

/-- What a move and the action it calls make of the count and of the login. -/
def Observed.after (observed : Observed) (browser : Browser Traced) (move : Move String)
    (action : Option (StoreCall Traced)) : Observed where
  browser := browser
  logins :=
    match move with
    | .userLogin _ _ => observed.logins + 1
    | _ => observed.logins
  signedIn :=
    match move, action with
    | .userLogin _ _, _ => true
    | _, some .logout => false
    | _, _ => observed.signedIn

/-- One move. -/
def Observed.step (observed : Observed) (move : Move String) : Option Observed :=
  (observed.browser.react (observed.trace move)).map fun reaction =>
    observed.after reaction.2 move reaction.1

/-- The page opens with what `persist` has kept: nothing, or one login. -/
def Observed.opened : Option (Tokens String × String) → Observed
  | none => ⟨⟨.empty, []⟩, 0, false⟩
  | some (tokens, phoneNumber) =>
      ⟨⟨(StoreCall.login (tokens.map (tracedFrom (some 1))) ⟨phoneNumber, some 1⟩).result, []⟩, 1,
        true⟩

/-- The page without the origins. -/
def Observed.plain (observed : Observed) : Browser String := observed.browser.map Traced.text

theorem trace_map_text (observed : Observed) (move : Move String) :
    (observed.trace move).map Traced.text = move := by
  rcases move with _ | _ | _ | ⟨index, _ | _ | _ | _⟩ <;> rfl

/-- The origins do not touch what the page does. -/
theorem run_plain (observed : Observed) (moves : List (Move String)) :
    (runFrom Observed.step observed moves).map Observed.plain =
      runFrom Browser.step observed.plain moves := by
  apply runFrom_map
  intro state move
  have hstep := step_map keepsText_text state.browser (state.trace move)
  rw [trace_map_text] at hstep
  rw [Observed.plain, hstep, Observed.step, Browser.step, Option.map_map, Option.map_map]
  rfl

end StockMonitoring.Frontend
