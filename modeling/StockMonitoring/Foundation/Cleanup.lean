import StockMonitoring.Foundation.Tasks
import Mathlib.Data.List.Basic

set_option autoImplicit false

/-!
# Foundation: what a program opens and closes

A ledger says by how much each reply changes a number of open things.  A program is balanced if
it leaves the number as it was, however its calls are answered and however it ends.  Balance is
kept by sequencing, by `try`/`finally` around what was opened, by iteration and by retrying.
-/

namespace StockMonitoring.Foundation

variable {σ : Signature} {ε α β γ S : Type}

/-! ## Postconditions -/

/-- The protocol with another postcondition. -/
def Protocol.ending (protocol : Protocol σ ε α γ) (post : Except ε β → γ → Prop) :
    Protocol σ ε β γ :=
  ⟨protocol.pre, protocol.answers, protocol.next, post⟩

namespace Co

/-- What follows an attempt starts where the attempted program has ended. -/
theorem obeys_attempt {protocol : Protocol σ ε β γ} {program : Co σ ε α}
    {next : Except ε α → Co σ ε β} {ghost : γ}
    (hprogram : program.Obeys
      (protocol.ending fun result reached => (next result).Obeys protocol reached) ghost) :
    (program.attempt next).Obeys protocol ghost := by
  induction program generalizing ghost with
  | ret value => exact hprogram
  | raise error => exact hprogram
  | call op resume ih =>
      obtain ⟨hpre, hresume⟩ := hprogram
      exact ⟨hpre, fun reply hreply => ih reply (hresume reply hreply)⟩

/-- Sequencing lets exceptions through. -/
theorem bind_eq_attempt (program : Co σ ε α) (next : α → Co σ ε β) :
    (program >>= next) = program.attempt fun
      | .ok value => next value
      | .error error => .raise error := by
  induction program with
  | ret value => rfl
  | raise error => rfl
  | call op resume ih =>
      rw [call_bind, attempt]
      congr 1
      funext reply
      exact ih reply

theorem obeys_post {protocol : Protocol σ ε α γ} {post : Except ε α → γ → Prop}
    (hpost : ∀ result reached, protocol.post result reached → post result reached)
    {program : Co σ ε α} {ghost : γ} (hprogram : program.Obeys protocol ghost) :
    program.Obeys (protocol.ending post) ghost := by
  induction program generalizing ghost with
  | ret value => exact hpost _ _ hprogram
  | raise error => exact hpost _ _ hprogram
  | call op resume ih =>
      obtain ⟨hpre, hresume⟩ := hprogram
      exact ⟨hpre, fun reply hreply => ih reply (hresume reply hreply)⟩

/-- The ghost state at the end of a run is what its calls have made of the one at the start. -/
theorem post_of_exec {protocol : Protocol σ ε α γ} {handler : Handler σ ε S}
    (hanswers : ∀ op ghost state, protocol.answers op (handler op state).1 ghost)
    {program : Co σ ε α} {ghost : γ} {state : S} (hobeys : program.Obeys protocol ghost) :
    protocol.post (exec handler program state).result
      ((exec handler program state).trace.foldl
        (fun reached event => protocol.next event.op event.reply reached) ghost) := by
  induction program generalizing ghost state with
  | ret value => exact hobeys
  | raise error => exact hobeys
  | call op resume ih =>
      rw [exec_call, Outcome.after_result, Outcome.after_trace, List.foldl_cons]
      exact ih _ (hobeys.2 _ (hanswers op ghost state))

end Co

/-! ## Ledgers -/

/-- Which replies can come, and what they change. -/
structure Ledger (σ : Signature) (ε : Type) where
  possible : (op : σ.Op) → Reply σ ε op → Prop
  change : (op : σ.Op) → Reply σ ε op → Int

/-- What the calls of a run have changed. -/
def Ledger.total (ledger : Ledger σ ε) (trace : List (Event σ ε)) : Int :=
  trace.foldl (fun reached event => reached + ledger.change event.op event.reply) 0

/-- To end with as many open things as before. -/
def Ledger.protocol (ledger : Ledger σ ε) (α : Type) (before : Int) : Protocol σ ε α Int where
  pre := fun _ _ => True
  answers := fun op reply _ => ledger.possible op reply
  next := fun op reply reached => reached + ledger.change op reply
  post := fun _ reached => reached = before

/-- The program opens as many things as it closes. -/
def Ledger.Balances (ledger : Ledger σ ε) (program : Co σ ε α) : Prop :=
  ∀ before, program.Obeys (ledger.protocol α before) before

namespace Ledger

variable {ledger : Ledger σ ε}

/-- The runs of a balanced program change nothing. -/
theorem Balances.total_eq_zero {program : Co σ ε α} (hprogram : ledger.Balances program)
    {handler : Handler σ ε S} (hpossible : ∀ op state, ledger.possible op (handler op state).1)
    (state : S) : ledger.total (Co.exec handler program state).trace = 0 :=
  Co.post_of_exec (fun op _ state => hpossible op state) (hprogram 0)

theorem balances_ret (value : α) : ledger.Balances (.ret value : Co σ ε α) := fun _ => rfl

theorem balances_raise (error : ε) : ledger.Balances (.raise error : Co σ ε α) := fun _ => rfl

theorem Balances.attempt {program : Co σ ε α} {next : Except ε α → Co σ ε β}
    (hprogram : ledger.Balances program) (hnext : ∀ result, ledger.Balances (next result)) :
    ledger.Balances (program.attempt next) := by
  intro before
  refine Co.obeys_attempt (Co.obeys_post ?_ (hprogram before))
  intro result reached hreached
  change reached = before at hreached
  rw [hreached]
  exact hnext result before

theorem Balances.bind {program : Co σ ε α} {next : α → Co σ ε β}
    (hprogram : ledger.Balances program) (hnext : ∀ value, ledger.Balances (next value)) :
    ledger.Balances (program >>= next) := by
  rw [Co.bind_eq_attempt]
  refine hprogram.attempt fun result => ?_
  cases result with
  | ok value => exact hnext value
  | error error => exact balances_raise error

theorem Balances.map {program : Co σ ε α} (hprogram : ledger.Balances program) (f : α → β) :
    ledger.Balances (f <$> program) := by
  rw [map_eq_pure_bind]
  exact hprogram.bind fun value => balances_ret (f value)

theorem balances_perform {op : σ.Op}
    (hchange : ∀ reply, ledger.possible op reply → ledger.change op reply = 0) :
    ledger.Balances (Co.perform op : Co σ ε (σ.Answer op)) := by
  intro before
  refine ⟨trivial, fun reply hreply => ?_⟩
  have hzero := hchange reply hreply
  have hnext : (ledger.protocol (σ.Answer op) before).next op reply before = before := by
    change before + ledger.change op reply = before
    omega
  rw [hnext]
  cases reply <;> rfl

/-- What is opened is closed after use, whatever happens in between: the closing call is answered,
and what comes after it is balanced. -/
theorem balances_using {acquire : σ.Op} {body : σ.Answer acquire → Co σ ε α}
    {release : σ.Answer acquire → σ.Op}
    {next : (held : σ.Answer acquire) → Except ε α → σ.Answer (release held) → Co σ ε β}
    (hopens : ∀ held, ledger.change acquire (.ok held) = 1)
    (hfails : ∀ error, ledger.change acquire (.error error) = 0)
    (hcloses : ∀ held reply, ledger.possible (release held) reply →
      (∃ answer, reply = .ok answer) ∧ ledger.change (release held) reply = -1)
    (hbody : ∀ held, ledger.Balances (body held))
    (hnext : ∀ held result answer, ledger.Balances (next held result answer)) :
    ledger.Balances (Co.perform acquire >>= fun held =>
      (body held).attempt fun result =>
        Co.perform (release held) >>= fun answer => next held result answer) := by
  intro before
  refine Co.obeys_perform trivial ?_ ?_
  · intro held _
    have hopened : (ledger.protocol β before).next acquire (.ok held) before = before + 1 :=
      congrArg (before + ·) (hopens held)
    rw [hopened]
    refine Co.obeys_attempt (Co.obeys_post ?_ (hbody held (before + 1)))
    intro result reached hreached
    change reached = before + 1 at hreached
    rw [hreached]
    refine ⟨trivial, fun reply hreply => ?_⟩
    obtain ⟨⟨answer, rfl⟩, hchange⟩ := hcloses held reply hreply
    have hclosed : (ledger.protocol β before).next (release held) (.ok answer) (before + 1) =
        before := by
      change before + 1 + ledger.change (release held) (.ok answer) = before
      omega
    rw [hclosed]
    exact hnext held result answer before
  · intro error _
    change before + ledger.change acquire (.error error) = before
    have hzero := hfails error
    omega

theorem balances_mapM {item : α → Co σ ε β} (hitem : ∀ value, ledger.Balances (item value))
    (values : List α) : ledger.Balances (values.mapM item) := by
  induction values with
  | nil =>
      rw [List.mapM_nil]
      exact balances_ret []
  | cons value values ih =>
      rw [List.mapM_cons]
      exact (hitem value).bind fun _ => ih.bind fun _ => balances_ret _

end Ledger

/-! ## Retrying -/

/-- How a call is tried again: after which errors, what is done before the next attempt, and what
is raised after the last. -/
structure RetryPolicy (σ : Signature) (ε : Type) where
  retries : ε → Bool
  pause : Nat → Co σ ε Unit
  gaveUp : ε

namespace Co

/-- Attempt number `attempt`, with `left` more to come. -/
def retryFrom (policy : RetryPolicy σ ε) (program : Co σ ε α) : Nat → Nat → Co σ ε α
  | attempt, left => program.attempt fun
      | .ok value => .ret value
      | .error error =>
          if policy.retries error then
            match left with
            | 0 => .raise policy.gaveUp
            | left + 1 => policy.pause attempt >>= fun _ =>
                retryFrom policy program (attempt + 1) left
          else .raise error

/-- The program, attempted at most `attempts + 1` times. -/
def retry (policy : RetryPolicy σ ε) (attempts : Nat) (program : Co σ ε α) : Co σ ε α :=
  retryFrom policy program 1 attempts

end Co

theorem Ledger.Balances.retry {ledger : Ledger σ ε} {policy : RetryPolicy σ ε}
    {program : Co σ ε α} (hprogram : ledger.Balances program)
    (hpause : ∀ attempt, ledger.Balances (policy.pause attempt)) (attempts : Nat) :
    ledger.Balances (Co.retry policy attempts program) := by
  have hfrom : ∀ left attempt, ledger.Balances (Co.retryFrom policy program attempt left) := by
    intro left
    induction left with
    | zero =>
        intro attempt
        rw [Co.retryFrom]
        refine hprogram.attempt fun result => ?_
        cases result with
        | ok value => exact balances_ret value
        | error error =>
            dsimp only
            split
            · exact balances_raise policy.gaveUp
            · exact balances_raise error
    | succ left ih =>
        intro attempt
        rw [Co.retryFrom]
        refine hprogram.attempt fun result => ?_
        cases result with
        | ok value => exact balances_ret value
        | error error =>
            dsimp only
            split
            · exact (hpause attempt).bind fun _ => ih (attempt + 1)
            · exact balances_raise error
  exact hfrom attempts 1

/-! ## Replies given in advance -/

/-- The replies of a run given in advance, by the number of the call; some calls have one answer
only. -/
def replay (certain : (op : σ.Op) → Option (σ.Answer op))
    (outcomes : Nat → (op : σ.Op) → Reply σ ε op) : Handler σ ε Nat :=
  fun op index => (((certain op).map Except.ok).getD (outcomes index op), index + 1)

end StockMonitoring.Foundation
