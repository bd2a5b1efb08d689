import StockMonitoring.Domain.Entities
import StockMonitoring.Foundation.Ordering
import Mathlib.Algebra.Order.Field.Rat
import Mathlib.Algebra.Order.Ring.Int

set_option autoImplicit false

/-!
# Application: availability and restock analytics

`app/application/analytics.py` in exact rational arithmetic.  The figures before the
final rounding are `availabilityFigures`; `computeAvailabilitySummary` rounds them.
-/

namespace StockMonitoring.Application

open StockMonitoring.Domain

/-- Aggregate availability and restock metrics for a watch over a period. -/
structure AvailabilitySummary where
  availabilityPct : Rat
  restockCount : Nat
  totalDowntimeMinutes : Rat
  averageDowntimeMinutes : Rat
  deriving DecidableEq

/-! ## The downtime windows -/

/-- The state of the walk over the sorted events. -/
structure DowntimeWalk where
  downtimePeriods : List (Datetime × Datetime)
  openOutageStart : Option Datetime

/-- One event of the walk. -/
def DowntimeWalk.visit (walk : DowntimeWalk) (event : DetectionEvent) : DowntimeWalk :=
  if event.eventType = .outOfStock then
    { walk with openOutageStart := some event.createdAt }
  else
    match event.eventType, walk.openOutageStart with
    | .stockAvailable, some start => ⟨walk.downtimePeriods ++ [(start, event.createdAt)], none⟩
    | _, _ => walk

/-- The walk over sorted events. -/
def downtimeWalk (sortedEvents : List DetectionEvent) : DowntimeWalk :=
  sortedEvents.foldl DowntimeWalk.visit ⟨[], none⟩

/-- The downtime windows after a walk; an open one ends with the period. -/
def DowntimeWalk.close (walk : DowntimeWalk) (periodEnd : Datetime) : List (Datetime × Datetime) :=
  match walk.openOutageStart with
  | some start => walk.downtimePeriods ++ [(start, periodEnd)]
  | none => walk.downtimePeriods

/-- The lengths of the downtime windows, added up. -/
def totalDowntime (downtimePeriods : List (Datetime × Datetime)) : Timedelta :=
  (downtimePeriods.map fun period => period.2 - period.1).sum

/-! ## The figures -/

/-- `timedelta.total_seconds() / 60`. -/
def minutes (span : Timedelta) : Rat := (span : Rat) / 1000000 / 60

/-- `round(value, 2)`: half to even. -/
def round2 (value : Rat) : Rat :=
  let scaled := value * 100
  let below := scaled.floor
  let rest := scaled - (below : Rat)
  if rest < 1 / 2 ∨ (rest = 1 / 2 ∧ below % 2 = 0) then (below : Rat) / 100
  else ((below : Rat) + 1) / 100

/-- The figures of `compute_availability_summary` before they are rounded. -/
def availabilityFigures (events : List DetectionEvent) (periodStart periodEnd : Datetime) :
    AvailabilitySummary :=
  let sortedEvents := Foundation.sortBy DetectionEvent.createdAt events
  let downtimePeriods := (downtimeWalk sortedEvents).close periodEnd
  let totalDowntimeMinutes := minutes (totalDowntime downtimePeriods)
  let totalPeriodMinutes := minutes (periodEnd - periodStart)
  { availabilityPct :=
      if totalPeriodMinutes ≤ 0 then 100
      else max 0 (100 * (1 - totalDowntimeMinutes / totalPeriodMinutes))
    restockCount := sortedEvents.countP fun event => event.eventType = .stockAvailable
    totalDowntimeMinutes := totalDowntimeMinutes
    averageDowntimeMinutes :=
      if downtimePeriods = [] then 0 else totalDowntimeMinutes / downtimePeriods.length }

/-- `round(..., 2)` on the figures that are floats. -/
def AvailabilitySummary.rounded (figures : AvailabilitySummary) : AvailabilitySummary :=
  { figures with
    availabilityPct := round2 figures.availabilityPct
    totalDowntimeMinutes := round2 figures.totalDowntimeMinutes
    averageDowntimeMinutes := round2 figures.averageDowntimeMinutes }

/-- `compute_availability_summary`. -/
def computeAvailabilitySummary (events : List DetectionEvent)
    (periodStart periodEnd : Datetime) : AvailabilitySummary :=
  (availabilityFigures events periodStart periodEnd).rounded

end StockMonitoring.Application
