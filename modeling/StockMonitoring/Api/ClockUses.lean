import StockMonitoring.Api.Routers
import StockMonitoring.Application.StoredTimes
import StockMonitoring.Infrastructure.Db.ApiRepositories

set_option autoImplicit false

/-!
# API: every use of the clock

The three places where a stored time meets the current time, at what they read from the
database: the latest challenge of a phone number, the rows of the watch targets, and the
events of a trailing window.  They are safe on every database content exactly on
PostgreSQL (`clock_uses_safe_iff`).
-/

namespace StockMonitoring.Api

open StockMonitoring.Domain StockMonitoring.Foundation StockMonitoring.Application
  StockMonitoring.Infrastructure.Db

/-! ## The uses -/

/-- Where the application sets a stored time against the current time. -/
inductive ClockUse where
  /-- `verify_otp` for a phone number -/
  | verifyOtp (phoneNumber : String)
  /-- a tick of the monitor -/
  | listDue
  /-- the endpoint of the availability summary, over a trailing window of days -/
  | availabilitySummary (watchTargetId : Nat) (days : Int)

/-- What a use gives. -/
def ClockUse.Answer : ClockUse → Type
  | .verifyOtp _ => Bool
  | .listDue => List WatchTarget
  | .availabilitySummary _ _ => Except Raised AvailabilitySummary

/-- The events the endpoint summarises. -/
def eventsOf (tie : Nat → Nat) (db : Database) (watchTargetId : Nat) (since : Datetime) :
    List DetectionEvent :=
  SqlAlchemyDetectionEventRepository.listForWatchTarget tie db watchTargetId 1000 (some since)

/-- The summary of a window, unless the window starts before the first datetime. -/
def summariseIn (dialect : Dialect) (tie : Nat → Nat) (db : Database) (now : Datetime)
    (watchTargetId : Nat) (days : Int) : Timed (Except Raised AvailabilitySummary) :=
  match daysBefore now days with
  | .error error => pure (.error error)
  | .ok periodStart => do
      let summary ← computeAvailabilitySummaryIn dialect
        (eventsOf tie db watchTargetId periodStart) (utcNow periodStart) (utcNow now)
      pure (.ok summary)

/-- A use, in a session that wrote none of the rows it reads. -/
def ClockUse.run (dialect : Dialect) (policy : AuthPolicy) (tie : Nat → Nat) (db : Database)
    (now : Datetime) : (use : ClockUse) → Timed use.Answer
  | .verifyOtp phoneNumber =>
      verifyOtpGuard dialect policy (utcNow now)
        (SqlAlchemyOtpChallengeRepository.getLatest tie db phoneNumber)
  | .listDue => listDueIn dialect db (utcNow now)
  | .availabilitySummary watchTargetId days =>
      summariseIn dialect tie db now watchTargetId days

/-- The rows make the use order or subtract a stored time and the current time. -/
def ClockUse.MeetsStored (tie : Nat → Nat) (db : Database) (now : Datetime) : ClockUse → Prop
  | .verifyOtp phoneNumber =>
      ∃ challenge, SqlAlchemyOtpChallengeRepository.getLatest tie db phoneNumber =
        some challenge ∧ challenge.consumed = false
  | .listDue => ∃ model ∈ db.watchTargets.rows, model.lastCheckedAt ≠ none
  | .availabilitySummary watchTargetId days =>
      ∃ periodStart, daysBefore now days = .ok periodStart ∧
        EndsOut (sortBy DetectionEvent.createdAt (eventsOf tie db watchTargetId periodStart))

section Summary

variable {dialect : Dialect} {tie : Nat → Nat} {db : Database} {now : Datetime}
  {watchTargetId : Nat} {days : Int}

theorem summariseIn_result_eq_none :
    (summariseIn dialect tie db now watchTargetId days).result = none ↔
      dialect = .sqlite ∧ ∃ periodStart, daysBefore now days = .ok periodStart ∧
        EndsOut (sortBy DetectionEvent.createdAt (eventsOf tie db watchTargetId periodStart)) := by
  unfold summariseIn
  cases daysBefore now days with
  | error error => simp
  | ok periodStart =>
      have hsummary := @computeAvailabilitySummaryIn_eq_none dialect
        (eventsOf tie db watchTargetId periodStart) periodStart now
      simp only [Timed.bind_result, Timed.pure_result, Except.ok.injEq, exists_eq_left']
      rw [← hsummary]
      cases (computeAvailabilitySummaryIn dialect (eventsOf tie db watchTargetId periodStart)
        (utcNow periodStart) (utcNow now)).result <;> simp

theorem summariseIn_result_eq_some
    (hreads : ¬ (dialect = .sqlite ∧ ∃ periodStart, daysBefore now days = .ok periodStart ∧
      EndsOut (sortBy DetectionEvent.createdAt (eventsOf tie db watchTargetId periodStart)))) :
    (summariseIn dialect tie db now watchTargetId days).result =
      some ((daysBefore now days).map fun periodStart =>
        computeAvailabilitySummary
          (eventsOf tie db watchTargetId periodStart) periodStart now) := by
  unfold summariseIn
  cases hdate : daysBefore now days with
  | error error => rfl
  | ok periodStart =>
      have hsummary := @computeAvailabilitySummaryIn_eq_some dialect
        (eventsOf tie db watchTargetId periodStart) periodStart now
          fun hends => hreads ⟨hends.1, periodStart, hdate, hends.2⟩
      simp only [Timed.bind_result, hsummary, Option.bind_some, Timed.pure_result]
      rfl

end Summary

theorem run_result_eq_none {dialect : Dialect} {policy : AuthPolicy} {tie : Nat → Nat}
    {db : Database} {now : Datetime} {use : ClockUse} :
    (use.run dialect policy tie db now).result = none ↔
      dialect = .sqlite ∧ use.MeetsStored tie db now := by
  cases use with
  | verifyOtp phoneNumber => exact verifyOtpGuard_result_eq_none
  | listDue => exact listDueIn_result_eq_none
  | availabilitySummary watchTargetId days => exact summariseIn_result_eq_none

/-- What a use gives over microseconds. -/
def ClockUse.overMicroseconds (policy : AuthPolicy) (tie : Nat → Nat) (db : Database)
    (now : Datetime) : (use : ClockUse) → use.Answer
  | .verifyOtp phoneNumber =>
      (SqlAlchemyOtpChallengeRepository.getLatest tie db phoneNumber).elim true
        fun challenge => isSpent policy challenge now
  | .listDue => SqlAlchemyWatchTargetRepository.listDue db now
  | .availabilitySummary watchTargetId days =>
      (daysBefore now days).map fun periodStart =>
        computeAvailabilitySummary (eventsOf tie db watchTargetId periodStart) periodStart now

/-- A use that does not raise gives what it gives over microseconds. -/
theorem run_result_eq_some {dialect : Dialect} {policy : AuthPolicy} {tie : Nat → Nat}
    {db : Database} {now : Datetime} {use : ClockUse}
    (hreads : ¬ (dialect = .sqlite ∧ use.MeetsStored tie db now)) :
    (use.run dialect policy tie db now).result =
      some (use.overMicroseconds policy tie db now) := by
  cases use with
  | verifyOtp phoneNumber => exact verifyOtpGuard_result_eq_some hreads
  | listDue => exact listDueIn_result_eq_some hreads
  | availabilitySummary watchTargetId days => exact summariseIn_result_eq_some hreads

/-- A use orders and subtracts aware datetimes only, and raises nothing, exactly on
PostgreSQL, or when the rows bring no stored time to the clock. -/
theorem clock_uses_safe_iff (dialect : Dialect) (policy : AuthPolicy) (tie : Nat → Nat)
    (db : Database) (now : Datetime) (use : ClockUse) :
    (use.run dialect policy tie db now).ClockSafe (utcNow now) ↔
      dialect = .postgresql ∨ ¬ use.MeetsStored tie db now := by
  have haware : (utcNow now).isAware = true := rfl
  rw [Timed.clockSafe_iff haware, ne_eq, run_result_eq_none, not_and_or]
  cases dialect <;> simp

/-! ### A code that SQLite does not let anyone use -/

/-- A code for `+15550009999` is requested at 0 s and lives for five minutes. -/
def requestedDb : Database :=
  (SqlAlchemyOtpChallengeRepository.create Database.empty "+15550009999"
    (Core.hashOtpCode "271828") (seconds 300) 0).2

/-- Ten seconds later the code is verified on SQLite. -/
def sqliteVerification : Timed Bool :=
  (ClockUse.verifyOtp "+15550009999").run .sqlite ⟨"change-me", "HS256", 15, 30, 300, 5, 5⟩ id
    requestedDb (seconds 10)

/-- The stored expiry is naive, and its comparison with the clock raises. -/
theorem sqlite_verification_raises :
    sqliteVerification.used = [(.naive (seconds 300), utcNow (seconds 10))] ∧
      ¬ sqliteVerification.ClockSafe (utcNow (seconds 10)) := by
  have hused : sqliteVerification.used = [(.naive (seconds 300), utcNow (seconds 10))] := by rfl
  refine ⟨hused, ?_⟩
  intro hsafe
  have hraises : ∃ pair ∈ sqliteVerification.used, ¬ pair.1.Comparable pair.2 := by
    rw [hused]
    simp [utcNow, PyDatetime.Comparable, PyDatetime.isAware]
  exact hsafe.2 (sqliteVerification.raises_iff.mpr hraises)

end StockMonitoring.Api
