import StockMonitoring.Application.Analytics
import StockMonitoring.Application.AuthService
import StockMonitoring.Foundation.Awareness

set_option autoImplicit false

/-!
# Application: stored times against the clock

`app/infrastructure/db/models.py` maps every `datetime` to `DateTime(timezone=True)`, and
every time the application writes comes from `datetime.now(timezone.utc)`.  Here are the
three places where a time that a later session has read back meets the clock:
`verify_otp`, `list_due` and `compute_availability_summary`, over `PyDatetime` instead of
microseconds.  Where no `TypeError` is raised they give what the definitions over
microseconds give.
-/

namespace StockMonitoring.Application

open StockMonitoring.Domain StockMonitoring.Foundation StockMonitoring.Infrastructure.Db

/-! ## A write, a session boundary, a read -/

/-- The databases the application runs on. -/
inductive Dialect where
  /-- `postgresql+asyncpg`: `timestamptz` -/
  | postgresql
  /-- `sqlite+aiosqlite`: a text without an offset -/
  | sqlite
  deriving DecidableEq, Repr

/-- What a `DateTime(timezone=True)` column gives a later session for a value that was
written to it. -/
def Dialect.readBack : Dialect → PyDatetime → PyDatetime
  | .postgresql, written => .aware written.micros
  | .sqlite, written => .naive written.micros

/-- `datetime.now(timezone.utc)`. -/
def utcNow (now : Datetime) : PyDatetime := .aware now

/-- A time of a row, as a later session reads it: it was written from `utcNow`. -/
def Dialect.load (dialect : Dialect) (stored : Datetime) : PyDatetime :=
  dialect.readBack (utcNow stored)

@[simp] theorem load_micros (dialect : Dialect) (stored : Datetime) :
    (dialect.load stored).micros = stored := by
  cases dialect <;> rfl

/-- Two stored times are always of one kind. -/
theorem load_comparable (dialect : Dialect) (left right : Datetime) :
    (dialect.load left).Comparable (dialect.load right) := by
  cases dialect <;> rfl

/-- A stored time and the clock are of one kind on PostgreSQL only. -/
@[simp] theorem load_comparable_utcNow {dialect : Dialect} {stored now : Datetime} :
    (dialect.load stored).Comparable (utcNow now) ↔ dialect = .postgresql := by
  cases dialect <;> simp [Dialect.load, Dialect.readBack, utcNow, PyDatetime.Comparable,
    PyDatetime.isAware]

@[simp] theorem utcNow_comparable_load {dialect : Dialect} {stored now : Datetime} :
    (utcNow now).Comparable (dialect.load stored) ↔ dialect = .postgresql := by
  rw [← @load_comparable_utcNow dialect stored now]
  exact eq_comm

variable (dialect : Dialect)

/-! ## `verify_otp` -/

/-- The condition under which `verify_otp` turns a challenge away. -/
def verifyOtpGuard (policy : AuthPolicy) (now : PyDatetime) :
    Option OtpChallenge → Timed Bool
  | none => pure true
  | some challenge =>
      if challenge.consumed then pure true
      else do
        let expired ← (dialect.load challenge.expiresAt).lt now
        pure (expired || decide (policy.otpMaxAttempts ≤ challenge.attemptCount))

section Guard

variable {dialect} {policy : AuthPolicy} {now : Datetime} {found : Option OtpChallenge}

/-- The condition raises exactly at a challenge that is not consumed, on SQLite. -/
theorem verifyOtpGuard_result_eq_none :
    (verifyOtpGuard dialect policy (utcNow now) found).result = none ↔
      dialect = .sqlite ∧ ∃ challenge, found = some challenge ∧ challenge.consumed = false := by
  cases found with
  | none => simp [verifyOtpGuard]
  | some challenge =>
      cases hconsumed : challenge.consumed with
      | true => simp [verifyOtpGuard, hconsumed]
      | false => cases dialect <;> simp [verifyOtpGuard, hconsumed, PyDatetime.lt_result]

/-- Elsewhere it is what `verify_otp` over microseconds tests. -/
theorem verifyOtpGuard_result_eq_some
    (hreads : ¬ (dialect = .sqlite ∧
      ∃ challenge, found = some challenge ∧ challenge.consumed = false)) :
    (verifyOtpGuard dialect policy (utcNow now) found).result =
      some (found.elim true fun challenge => isSpent policy challenge now) := by
  cases found with
  | none => rfl
  | some challenge =>
      cases hconsumed : challenge.consumed with
      | true => simp [verifyOtpGuard, isSpent, hconsumed]
      | false =>
          cases dialect with
          | sqlite => exact absurd ⟨rfl, challenge, rfl, hconsumed⟩ hreads
          | postgresql =>
              simp only [verifyOtpGuard, hconsumed, Bool.false_eq_true, if_false,
                Timed.bind_result, PyDatetime.lt_result, load_comparable_utcNow, if_true,
                load_micros, Timed.pure_result, Option.bind_some, Option.elim_some, isSpent,
                Bool.false_or]
              rfl

end Guard

/-! ## `list_due` -/

/-- One turn of the loop of `list_due`: the row, if it is due. -/
def dueStep (now : PyDatetime) (model : WatchTargetModel) : Timed (List WatchTargetModel) :=
  match model.lastCheckedAt with
  | none => pure [model]
  | some lastCheckedAt => do
      let elapsed ← now.sub (dialect.load lastCheckedAt)
      pure (if seconds model.intervalSeconds ≤ elapsed then [model] else [])

/-- `list_due`. -/
def listDueIn (db : Database) (now : PyDatetime) : Timed (List WatchTarget) := do
  let due ← Timed.collect (dueStep dialect now) db.watchTargets.rows
  pure (due.map toWatchTarget)

variable {dialect}

/-- A row that was checked before makes the loop raise on SQLite. -/
theorem dueStep_result_eq_none {now : Datetime} {model : WatchTargetModel} :
    (dueStep dialect (utcNow now) model).result = none ↔
      dialect = .sqlite ∧ model.lastCheckedAt ≠ none := by
  cases hchecked : model.lastCheckedAt with
  | none => simp [dueStep, hchecked]
  | some lastCheckedAt => cases dialect <;> simp [dueStep, hchecked, PyDatetime.sub_result]

theorem dueStep_result_eq_some {now : Datetime} {model : WatchTargetModel}
    (hreads : ¬ (dialect = .sqlite ∧ model.lastCheckedAt ≠ none)) :
    (dueStep dialect (utcNow now) model).result =
      some (if SqlAlchemyWatchTargetRepository.isDue now model = true then [model] else []) := by
  cases hchecked : model.lastCheckedAt with
  | none => simp [dueStep, SqlAlchemyWatchTargetRepository.isDue, hchecked]
  | some lastCheckedAt =>
      cases dialect with
      | sqlite => simp [hchecked] at hreads
      | postgresql =>
          simp only [dueStep, SqlAlchemyWatchTargetRepository.isDue, hchecked, Timed.bind_result,
            PyDatetime.sub_result, utcNow_comparable_load, if_true, load_micros,
            Timed.pure_result, Option.bind_some, decide_eq_true_eq]
          rfl

/-- `list_due` raises exactly when a row has been checked before, on SQLite. -/
theorem listDueIn_result_eq_none {db : Database} {now : Datetime} :
    (listDueIn dialect db (utcNow now)).result = none ↔
      dialect = .sqlite ∧ ∃ model ∈ db.watchTargets.rows, model.lastCheckedAt ≠ none := by
  rw [listDueIn, Timed.bind_pure_result_eq_none, Timed.collect_result_eq_none]
  simp only [dueStep_result_eq_none]
  constructor
  · rintro ⟨model, hmodel, hdialect, hchecked⟩
    exact ⟨hdialect, model, hmodel, hchecked⟩
  · rintro ⟨hdialect, model, hmodel, hchecked⟩
    exact ⟨model, hmodel, hdialect, hchecked⟩

/-- Elsewhere it lists what it lists over microseconds. -/
theorem listDueIn_result_eq_some {db : Database} {now : Datetime}
    (hreads : ¬ (dialect = .sqlite ∧ ∃ model ∈ db.watchTargets.rows,
      model.lastCheckedAt ≠ none)) :
    (listDueIn dialect db (utcNow now)).result =
      some (SqlAlchemyWatchTargetRepository.listDue db now) := by
  have hloop := Timed.collect_result_filter fun model hmodel =>
    @dueStep_result_eq_some dialect now model fun hraises =>
      hreads ⟨hraises.1, model, hmodel, hraises.2⟩
  simp only [listDueIn, Timed.bind_result, Timed.pure_result, hloop, Option.bind_some]
  rfl

/-! ## `compute_availability_summary` -/

variable (dialect)

/-- The state of the walk over the sorted events. -/
structure OutageWalk where
  downtimePeriods : List (PyDatetime × PyDatetime)
  openOutageStart : Option PyDatetime

/-- One event of the walk. -/
def OutageWalk.visit (walk : OutageWalk) (event : DetectionEvent) : OutageWalk :=
  if event.eventType = .outOfStock then
    { walk with openOutageStart := some (dialect.load event.createdAt) }
  else
    match event.eventType, walk.openOutageStart with
    | .stockAvailable, some start =>
        ⟨walk.downtimePeriods ++ [(start, dialect.load event.createdAt)], none⟩
    | _, _ => walk

/-- The downtime windows after a walk; an open one ends with the period. -/
def OutageWalk.close (walk : OutageWalk) (periodEnd : PyDatetime) :
    List (PyDatetime × PyDatetime) :=
  match walk.openOutageStart with
  | some start => walk.downtimePeriods ++ [(start, periodEnd)]
  | none => walk.downtimePeriods

/-- `end - start` of one downtime window. -/
def spanOf (period : PyDatetime × PyDatetime) : Timed (List Timedelta) := do
  let span ← period.2.sub period.1
  pure [span]

/-- The figures of the summary, from the lengths of the downtime windows and of the
period. -/
def figuresOf (sortedEvents : List DetectionEvent) (spans : List Timedelta)
    (period : Timedelta) : AvailabilitySummary :=
  let totalDowntimeMinutes := minutes spans.sum
  let totalPeriodMinutes := minutes period
  { availabilityPct :=
      if totalPeriodMinutes ≤ 0 then 100
      else max 0 (100 * (1 - totalDowntimeMinutes / totalPeriodMinutes))
    restockCount := sortedEvents.countP fun event => event.eventType = .stockAvailable
    totalDowntimeMinutes := totalDowntimeMinutes
    averageDowntimeMinutes :=
      if spans = [] then 0 else totalDowntimeMinutes / spans.length }

/-- `compute_availability_summary`. -/
def computeAvailabilitySummaryIn (events : List DetectionEvent)
    (periodStart periodEnd : PyDatetime) : Timed AvailabilitySummary := do
  let sortedEvents ← Timed.sortedBy (fun event => dialect.load event.createdAt) events
  let downtimePeriods :=
    (sortedEvents.foldl (OutageWalk.visit dialect) ⟨[], none⟩).close periodEnd
  let spans ← Timed.collect spanOf downtimePeriods
  let period ← periodEnd.sub periodStart
  pure (figuresOf sortedEvents spans period).rounded

/-- The events end in an outage: after the last `OUT_OF_STOCK` there is no
`STOCK_AVAILABLE`. -/
def EndsOut (sortedEvents : List DetectionEvent) : Prop :=
  ∃ before outage after, sortedEvents = before ++ outage :: after ∧
    outage.eventType = .outOfStock ∧ ∀ event ∈ after, event.eventType ≠ .stockAvailable

theorem not_endsOut_nil : ¬ EndsOut [] := by
  rintro ⟨before, outage, after, heq, -⟩
  simp at heq

theorem endsOut_cons {event : DetectionEvent} {rest : List DetectionEvent} :
    EndsOut (event :: rest) ↔ (event.eventType = .outOfStock ∧
      ∀ later ∈ rest, later.eventType ≠ .stockAvailable) ∨ EndsOut rest := by
  constructor
  · rintro ⟨before, outage, after, heq, hout, hafter⟩
    cases before with
    | nil =>
        obtain ⟨rfl, rfl⟩ := List.cons.inj heq
        exact .inl ⟨hout, hafter⟩
    | cons first before =>
        obtain ⟨rfl, rfl⟩ := List.cons.inj heq
        exact .inr ⟨before, outage, after, rfl, hout, hafter⟩
  · rintro (⟨hout, hafter⟩ | ⟨before, outage, after, rfl, hout, hafter⟩)
    · exact ⟨[], event, rest, rfl, hout, hafter⟩
    · exact ⟨event :: before, outage, after, rfl, hout, hafter⟩

/-- An outage is open after a walk when the events end in one, or when it was open before
and no event closes it. -/
theorem foldl_visit_open (events : List DetectionEvent) (walk : DowntimeWalk) :
    (events.foldl DowntimeWalk.visit walk).openOutageStart ≠ none ↔
      EndsOut events ∨ (walk.openOutageStart ≠ none ∧
        ∀ event ∈ events, event.eventType ≠ .stockAvailable) := by
  induction events generalizing walk with
  | nil => simp [not_endsOut_nil]
  | cons event rest ih =>
      rw [List.foldl_cons, ih, endsOut_cons, List.forall_mem_cons]
      by_cases hout : event.eventType = .outOfStock
      · simp [DowntimeWalk.visit, hout]
        tauto
      · by_cases hstock : event.eventType = .stockAvailable
        · cases hopen : walk.openOutageStart <;> simp [DowntimeWalk.visit, hstock, hopen]
        · have hsame : walk.visit event = walk := by
            simp only [DowntimeWalk.visit, hout, if_false]
            split
            · contradiction
            · rfl
          simp [hsame, hout, hstock]

/-- An outage is open at the end exactly when the events end in one. -/
theorem downtimeWalk_open (sortedEvents : List DetectionEvent) :
    (downtimeWalk sortedEvents).openOutageStart ≠ none ↔ EndsOut sortedEvents := by
  simp [downtimeWalk, foldl_visit_open]

variable {dialect}

/-- The walk over microseconds, with its times as a later session reads them. -/
def OutageWalk.ofDowntime (dialect : Dialect) (walk : DowntimeWalk) : OutageWalk where
  downtimePeriods := walk.downtimePeriods.map fun period =>
    (dialect.load period.1, dialect.load period.2)
  openOutageStart := walk.openOutageStart.map dialect.load

theorem visit_ofDowntime (walk : DowntimeWalk) (event : DetectionEvent) :
    (OutageWalk.ofDowntime dialect walk).visit dialect event =
      .ofDowntime dialect (walk.visit event) := by
  simp only [OutageWalk.visit, DowntimeWalk.visit]
  by_cases hout : event.eventType = .outOfStock
  · simp [OutageWalk.ofDowntime, hout]
  · cases hopen : walk.openOutageStart <;> cases htype : event.eventType <;>
      simp_all [OutageWalk.ofDowntime]

theorem foldl_visit_ofDowntime (events : List DetectionEvent) (walk : DowntimeWalk) :
    events.foldl (OutageWalk.visit dialect) (.ofDowntime dialect walk) =
      .ofDowntime dialect (events.foldl DowntimeWalk.visit walk) := by
  induction events generalizing walk with
  | nil => rfl
  | cons event rest ih =>
      rw [List.foldl_cons, List.foldl_cons, visit_ofDowntime, ih]

theorem spanOf_result (period : PyDatetime × PyDatetime) : (spanOf period).result =
    if period.2.Comparable period.1 then some [period.2.micros - period.1.micros] else none := by
  simp only [spanOf, Timed.bind_result, PyDatetime.sub_result, Timed.pure_result]
  split <;> rfl

/-- A window between two stored times can be measured. -/
theorem ofDowntime_comparable (walk : DowntimeWalk) :
    ∀ period ∈ (OutageWalk.ofDowntime dialect walk).downtimePeriods,
      period.2.Comparable period.1 := by
  intro period hperiod
  obtain ⟨stored, -, rfl⟩ := List.mem_map.mp hperiod
  exact load_comparable dialect stored.2 stored.1

/-- One that ends with the clock can be measured on PostgreSQL only. -/
theorem close_comparable {walk : DowntimeWalk} {now : Datetime} :
    (∀ period ∈ (OutageWalk.ofDowntime dialect walk).close (utcNow now),
      period.2.Comparable period.1) ↔ ¬ (dialect = .sqlite ∧ walk.openOutageStart ≠ none) := by
  have hclosed := @ofDowntime_comparable dialect walk
  cases hopen : walk.openOutageStart with
  | none =>
      have hnone : (OutageWalk.ofDowntime dialect walk).openOutageStart = none := by
        simp [OutageWalk.ofDowntime, hopen]
      simpa [OutageWalk.close, hnone] using hclosed
  | some start =>
      have hsome : (OutageWalk.ofDowntime dialect walk).openOutageStart =
          some (dialect.load start) := by
        simp [OutageWalk.ofDowntime, hopen]
      simp only [OutageWalk.close, hsome, List.forall_mem_append, List.forall_mem_singleton,
        utcNow_comparable_load]
      constructor
      · rintro ⟨-, hpostgresql⟩ ⟨hsqlite, -⟩
        cases hpostgresql.symm.trans hsqlite
      · intro hreads
        refine ⟨hclosed, ?_⟩
        cases dialect with
        | postgresql => rfl
        | sqlite => exact absurd ⟨rfl, by simp⟩ hreads

theorem close_micros (walk : DowntimeWalk) (now : Datetime) :
    ((OutageWalk.ofDowntime dialect walk).close (utcNow now)).map
        (fun period => period.2.micros - period.1.micros) =
      (walk.close now).map fun period => period.2 - period.1 := by
  cases hopen : walk.openOutageStart with
  | none => simp [OutageWalk.close, DowntimeWalk.close, OutageWalk.ofDowntime, hopen]
  | some start =>
      simp [OutageWalk.close, DowntimeWalk.close, OutageWalk.ofDowntime, hopen]
      rfl

/-- Measuring the windows raises exactly when an outage is open, on SQLite. -/
theorem collect_spanOf_eq_none {walk : DowntimeWalk} {now : Datetime} :
    (Timed.collect spanOf ((OutageWalk.ofDowntime dialect walk).close (utcNow now))).result =
      none ↔ dialect = .sqlite ∧ walk.openOutageStart ≠ none := by
  rw [Timed.collect_result_eq_none, ← not_iff_not, ← @close_comparable dialect walk now,
    not_exists]
  apply forall_congr'
  intro period
  rw [spanOf_result, not_and]
  by_cases hcomparable : period.2.Comparable period.1 <;> simp [hcomparable]

theorem collect_spanOf_eq_some {walk : DowntimeWalk} {now : Datetime}
    (hreads : ¬ (dialect = .sqlite ∧ walk.openOutageStart ≠ none)) :
    (Timed.collect spanOf ((OutageWalk.ofDowntime dialect walk).close (utcNow now))).result =
      some ((walk.close now).map fun period => period.2 - period.1) := by
  have hspan : ∀ period ∈ (OutageWalk.ofDowntime dialect walk).close (utcNow now),
      (spanOf period).result = some [period.2.micros - period.1.micros] := by
    intro period hperiod
    rw [spanOf_result, if_pos (close_comparable.mpr hreads period hperiod)]
  rw [Timed.collect_result_eq_some hspan, ← @close_micros dialect,
    List.map_eq_flatMap]

/-! ### The summary -/

section Summary

variable {events : List DetectionEvent} {start now : Datetime}

theorem rounded_figuresOf : (figuresOf (sortBy DetectionEvent.createdAt events)
    (((downtimeWalk (sortBy DetectionEvent.createdAt events)).close now).map
      fun period => period.2 - period.1) (now - start)).rounded =
    computeAvailabilitySummary events start now := by
  simp only [figuresOf, computeAvailabilitySummary, availabilityFigures, totalDowntime,
    List.map_eq_nil_iff, List.length_map]

/-- What the summary does once its events are sorted: measure the windows, then the
period. -/
theorem computeAvailabilitySummaryIn_result :
    (computeAvailabilitySummaryIn dialect events (utcNow start) (utcNow now)).result =
      (Timed.collect spanOf ((OutageWalk.ofDowntime dialect
        (downtimeWalk (sortBy DetectionEvent.createdAt events))).close (utcNow now))).result.map
        fun spans => (figuresOf (sortBy DetectionEvent.createdAt events) spans
          (now - start)).rounded := by
  have hsorted := @Timed.sortedBy_result DetectionEvent (fun event => dialect.load event.createdAt)
    (fun event other => load_comparable dialect event.createdAt other.createdAt) events
  simp only [load_micros] at hsorted
  have hwalk := @foldl_visit_ofDowntime dialect (sortBy DetectionEvent.createdAt events) ⟨[], none⟩
  simp only [computeAvailabilitySummaryIn, Timed.bind_result, hsorted, Option.bind_some]
  rw [show (⟨[], none⟩ : OutageWalk) = .ofDowntime dialect ⟨[], none⟩ from rfl, hwalk]
  have hperiod : ((utcNow now).sub (utcNow start)).result = some (now - start) := rfl
  simp only [hperiod, Option.bind_some, Timed.pure_result, Option.map_eq_bind]
  rfl

/-- The summary raises exactly when its events end in an outage, on SQLite. -/
theorem computeAvailabilitySummaryIn_eq_none :
    (computeAvailabilitySummaryIn dialect events (utcNow start) (utcNow now)).result = none ↔
      dialect = .sqlite ∧ EndsOut (sortBy DetectionEvent.createdAt events) := by
  rw [computeAvailabilitySummaryIn_result, Option.map_eq_none_iff, collect_spanOf_eq_none,
    downtimeWalk_open]

/-- Elsewhere it is the summary over microseconds. -/
theorem computeAvailabilitySummaryIn_eq_some
    (hreads : ¬ (dialect = .sqlite ∧ EndsOut (sortBy DetectionEvent.createdAt events))) :
    (computeAvailabilitySummaryIn dialect events (utcNow start) (utcNow now)).result =
      some (computeAvailabilitySummary events start now) := by
  rw [← downtimeWalk_open] at hreads
  rw [computeAvailabilitySummaryIn_result, collect_spanOf_eq_some hreads, Option.map_some,
    rounded_figuresOf]

end Summary

end StockMonitoring.Application
