import StockMonitoring.Foundation.Coroutine
import StockMonitoring.Infrastructure.Db.Repositories

set_option autoImplicit false

/-!
# Infrastructure: a unit of work in its own session

`get_session` of the API and the task of the notification worker open a session,
run their work on it and commit when the work has returned.  An exception leaves the
`async with` block before the commit, and closing a session discards what it has not
committed.
-/

namespace StockMonitoring.Infrastructure.Db

open StockMonitoring.Foundation

variable {σ : Signature} {ε S α : Type}

/-- The committed database after a unit of work that found `committed` and left its
session with `view`. -/
def afterSession (view : S → Database) (committed : Database) (outcome : Outcome σ ε S α) :
    Database :=
  match outcome.result with
  | .ok _ => view outcome.state
  | .error _ => committed

theorem afterSession_of_ok {view : S → Database} {committed : Database} {outcome : Outcome σ ε S α}
    {value : α} (hresult : outcome.result = .ok value) :
    afterSession view committed outcome = view outcome.state := by
  unfold afterSession
  rw [hresult]

theorem afterSession_of_error {view : S → Database} {committed : Database}
    {outcome : Outcome σ ε S α} {error : ε} (hresult : outcome.result = .error error) :
    afterSession view committed outcome = committed := by
  unfold afterSession
  rw [hresult]

end StockMonitoring.Infrastructure.Db
