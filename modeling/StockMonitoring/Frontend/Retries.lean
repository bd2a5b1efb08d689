import StockMonitoring.Frontend.ApiClient

set_option autoImplicit false

/-!
# Frontend: requests come to an end

The response interceptor sends a request again from within its own handling.  Its `_retry`
keeps that from going round: whatever the server answers and whoever logs in or out
meanwhile, a request is sent at most twice and refreshes at most once, and it goes on until
its promise is settled (`requests_end`).
-/

namespace StockMonitoring.Frontend

open StockMonitoring.Foundation

variable {V : Type} [JsString V]

/-! ## What a request can still do -/

/-- The moves that a request can still make, if none is cut short. -/
def Request.remaining (request : Request V) : Nat :=
  match request.stage with
  | .refreshing _ => if request.retry then 3 else 6
  | .called => if request.retry then 2 else 5
  | .sent => if request.retry then 1 else 4
  | .settled _ => 0

/-- How often it can still be sent. -/
def Request.sendings (request : Request V) : Nat :=
  match request.stage with
  | .refreshing _ | .called => if request.retry then 1 else 2
  | .sent => if request.retry then 0 else 1
  | .settled _ => 0

/-- How often it can still refresh. -/
def Request.refreshes (request : Request V) : Nat :=
  match request.stage with
  | .refreshing _ => if request.retry then 1 else 2
  | .called | .sent => if request.retry then 0 else 1
  | .settled _ => 0

/-- A move that sends a request. -/
def RequestMove.isSend : RequestMove V → Bool
  | .send => true
  | .respond _ | .refreshSucceeded _ | .refreshFailed => false

/-- A move that ends a refresh. -/
def RequestMove.isRefresh : RequestMove V → Bool
  | .refreshSucceeded _ | .refreshFailed => true
  | .send | .respond _ => false

/-- What a move takes from the three. -/
structure Spends (request next : Request V) (move : RequestMove V) : Prop where
  remaining : next.remaining + 1 ≤ request.remaining
  sendings : next.sendings + (if move.isSend then 1 else 0) ≤ request.sendings
  refreshes : next.refreshes + (if move.isRefresh then 1 else 0) ≤ request.refreshes

/-- A 401 makes a request refresh once, or ends it. -/
theorem spends_onUnauthorized (store : AuthState V) {request : Request V}
    (hsent : request.stage = .sent) :
    Spends request (onUnauthorized store request).2 (.respond .unauthorized) := by
  obtain ⟨retry, authorization, stage⟩ := request
  cases hsent
  unfold onUnauthorized
  cases retry with
  | true => exact ⟨Nat.le_refl _, Nat.le_refl _, Nat.le_refl _⟩
  | false =>
      cases store.refreshToken.filter truthy with
      | none => exact ⟨Nat.le_add_left 1 3, Nat.zero_le _, Nat.zero_le _⟩
      | some refreshToken => exact ⟨Nat.le_refl _, Nat.le_refl _, Nat.le_refl _⟩

/-- Every move of a request spends. -/
theorem spends_handle {store : AuthState V} {request next : Request V} {move : RequestMove V}
    {action : Option (StoreCall V)} (hhandle : request.handle store move = some (action, next)) :
    Spends request next move := by
  unfold Request.handle at hhandle
  split at hhandle
  case h_1 hstage =>
    obtain ⟨retry, authorization, stage⟩ := request
    cases hstage
    cases hhandle
    cases retry <;> exact ⟨Nat.le_refl _, Nat.le_refl _, Nat.le_refl _⟩
  case h_2 hstage | h_3 hstage =>
    obtain ⟨retry, authorization, stage⟩ := request
    cases hstage
    cases hhandle
    cases retry <;> exact ⟨Nat.le_add_left 1 _, Nat.zero_le _, Nat.zero_le _⟩
  case h_4 hstage =>
    have hpair : onUnauthorized store request = (action, next) := Option.some.inj hhandle
    have hspends := spends_onUnauthorized store hstage
    rw [hpair] at hspends
    exact hspends
  case h_5 hstage =>
    obtain ⟨retry, authorization, stage⟩ := request
    cases hstage
    cases hhandle
    cases retry <;> exact ⟨Nat.le_refl _, Nat.le_refl _, Nat.le_refl _⟩
  case h_6 hstage =>
    obtain ⟨retry, authorization, stage⟩ := request
    cases hstage
    cases hhandle
    cases retry <;> exact ⟨Nat.le_add_left 1 _, Nat.zero_le _, Nat.le_add_left 1 _⟩
  case h_7 => cases hhandle

/-- A request goes on until it is settled. -/
theorem handle_eq_none_iff (store : AuthState V) (request : Request V) :
    (∀ move, request.handle store move = none) ↔ ∃ resolved, request.stage = .settled resolved := by
  obtain ⟨retry, authorization, stage⟩ := request
  constructor
  · intro hnone
    cases stage with
    | called => cases hnone .send
    | sent => cases hnone (.respond .success)
    | refreshing token => cases hnone .refreshFailed
    | settled resolved => exact ⟨resolved, rfl⟩
  · rintro ⟨resolved, hsettled⟩ move
    cases hsettled
    cases move <;> rfl

/-! ## Along a run of the page -/

/-- A number of a request, or that of a request that is still to be made. -/
def Browser.budget (measure : Request V → Nat) (index : Nat) (browser : Browser V) : Nat :=
  measure ((browser.requests[index]?).getD ⟨false, none, .called⟩)

/-- The move is one of this request and passes the test. -/
def Move.counts (test : RequestMove V → Bool) (index : Nat) : Move V → Bool
  | .request other move => decide (other = index) && test move
  | .userLogin _ _ | .userLogout | .call => false

/-- A number that the counted moves of a request take from is never added to. -/
theorem budget_step {measure : Request V → Nat} {test : RequestMove V → Bool}
    (hspends : ∀ store request move action next, Request.handle store request move =
      some (action, next) → measure next + (if test move then 1 else 0) ≤ measure request)
    (index : Nat) (browser : Browser V) (move : Move V) (next : Browser V)
    (hstep : browser.step move = some next) :
    next.budget measure index + (if move.counts test index then 1 else 0) ≤
      browser.budget measure index := by
  cases move with
  | userLogin tokens phoneNumber =>
      cases hstep
      exact Nat.le_refl _
  | userLogout =>
      cases hstep
      exact Nat.le_refl _
  | call =>
      cases hstep
      -- the new request takes the place of the one to be made
      have hsame : ((browser.requests ++ [(⟨false, none, .called⟩ : Request V)])[index]?).getD
          ⟨false, none, .called⟩ = (browser.requests[index]?).getD ⟨false, none, .called⟩ := by
        rw [List.getElem?_append]
        split
        · rfl
        · rename_i hle
          rw [List.getElem?_eq_none (Nat.le_of_not_lt hle)]
          cases index - browser.requests.length <;> rfl
      exact Nat.le_of_eq (congrArg measure hsame)
  | request other move =>
      obtain ⟨⟨action, reached⟩, hreact, rfl⟩ := Option.map_eq_some_iff.mp hstep
      obtain ⟨request, hrequest, hhandled⟩ := Option.bind_eq_some_iff.mp hreact
      obtain ⟨⟨called, after⟩, hhandle, heq⟩ := Option.map_eq_some_iff.mp hhandled
      obtain ⟨rfl, rfl⟩ := Prod.mk.inj heq
      have hspent := hspends _ _ _ _ _ hhandle
      obtain ⟨hlt, _⟩ := List.getElem?_eq_some_iff.mp hrequest
      by_cases hother : other = index
      · subst hother
        simp only [Browser.budget, List.getElem?_set_self hlt, hrequest, Option.getD_some,
          Move.counts, decide_true, Bool.true_and]
        exact hspent
      · simp only [Browser.budget, List.getElem?_set_ne hother, Move.counts, hother, decide_false,
          Bool.false_and, Bool.false_eq_true, if_false]
        exact Nat.le_refl _

/-- In every run of a page, whatever the server answers and whoever logs in or out: a request
makes at most five moves, of which at most two send it and at most one ends a refresh, and it
can always go on until it is settled. -/
theorem requests_end {store : AuthState V} {moves : List (Move V)} {browser : Browser V}
    (hrun : runFrom Browser.step ⟨store, []⟩ moves = some browser) (index : Nat) :
    moves.countP (Move.counts (fun _ => true) index) ≤ 5 ∧
      moves.countP (Move.counts RequestMove.isSend index) ≤ 2 ∧
      moves.countP (Move.counts RequestMove.isRefresh index) ≤ 1 ∧
      ∀ request, browser.requests[index]? = some request →
        ((∀ move, browser.step (.request index move) = none) ↔
          ∃ resolved, request.stage = .settled resolved) := by
  refine ⟨?_, ?_, ?_, ?_⟩
  · have hcount := countP_le_budget (Browser.budget Request.remaining index)
      (Move.counts (fun _ => true) index)
      (budget_step (fun _ _ _ _ _ h => (spends_handle h).remaining) index) hrun
    exact Nat.le_trans (Nat.le_add_left _ _) hcount
  · have hcount := countP_le_budget (Browser.budget Request.sendings index)
      (Move.counts RequestMove.isSend index)
      (budget_step (fun _ _ _ _ _ h => (spends_handle h).sendings) index) hrun
    exact Nat.le_trans (Nat.le_add_left _ _) hcount
  · have hcount := countP_le_budget (Browser.budget Request.refreshes index)
      (Move.counts RequestMove.isRefresh index)
      (budget_step (fun _ _ _ _ _ h => (spends_handle h).refreshes) index) hrun
    exact Nat.le_trans (Nat.le_add_left _ _) hcount
  · intro request hrequest
    rw [← handle_eq_none_iff browser.store request]
    simp only [Browser.step, Browser.react, hrequest, Option.bind_some, Option.map_eq_none_iff]

/-- A request gets a 401, refreshes, is sent again and gets a 401 again. -/
def refusedTwice : List (Move String) :=
  [.userLogin ⟨"access-1", "refresh-1"⟩ "+15551110000", .call, .request 0 .send,
    .request 0 (.respond .unauthorized),
    .request 0 (.refreshSucceeded ⟨"access-2", "refresh-2"⟩), .request 0 .send,
    .request 0 (.respond .unauthorized)]

/-- It takes the five moves and the two sendings, and is settled then. -/
theorem refusedTwice_ends :
    ∃ browser, runFrom Browser.step ⟨AuthState.empty, []⟩ refusedTwice = some browser ∧
      (refusedTwice.countP (Move.counts (fun _ => true) 0) ≤ 5 ∧
        refusedTwice.countP (Move.counts RequestMove.isSend 0) ≤ 2 ∧
        refusedTwice.countP (Move.counts RequestMove.isRefresh 0) ≤ 1 ∧
        ∀ request, browser.requests[0]? = some request →
          ((∀ move, browser.step (.request 0 move) = none) ↔
            ∃ resolved, request.stage = .settled resolved)) ∧
      (browser.requests[0]?).map Request.stage = some (.settled false) := by
  refine ⟨_, rfl, ?_, ?_⟩
  · exact requests_end rfl 0
  · decide

end StockMonitoring.Frontend
