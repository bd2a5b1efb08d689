import StockMonitoring.Application.Analytics
import StockMonitoring.Application.CheckHistory
import StockMonitoring.Foundation.Signal

set_option autoImplicit false

/-!
# Application: what the downtime walk measures

The stock events of a product are the changes of a signal that is off while the
product is out of stock.  On events that alternate, the windows of the walk are the
gaps of that signal (`totalDowntime_eq`); events of other types do not matter.
-/

namespace StockMonitoring.Application

open StockMonitoring.Domain StockMonitoring.Foundation

/-- Whether an event says that the product went out of stock. -/
def DetectionEvent.isOut (event : DetectionEvent) : Bool := event.eventType == .outOfStock

/-- STOCK_AVAILABLE and OUT_OF_STOCK events. -/
def DetectionEvent.isStock (event : DetectionEvent) : Bool := isStockEvent event.eventType

/-- Of two consecutive events one says available and the other out of stock. -/
def InTurns (events : List DetectionEvent) : Prop :=
  events.IsChain fun event next => event.eventType ≠ next.eventType

namespace DowntimeWalk

theorem visit_of_other {event : DetectionEvent} (hother : DetectionEvent.isStock event = false)
    (walk : DowntimeWalk) : walk.visit event = walk := by
  obtain ⟨id, watchTargetId, snapshotId, previousSnapshotId, eventType, createdAt⟩ := event
  cases eventType <;> first | rfl | cases hother

/-- The walk only looks at the stock events. -/
theorem foldl_visit_filter (events : List DetectionEvent) (walk : DowntimeWalk) :
    (events.filter DetectionEvent.isStock).foldl visit walk = events.foldl visit walk := by
  induction events generalizing walk with
  | nil => rfl
  | cons event rest ih =>
      cases hstock : DetectionEvent.isStock event with
      | false =>
          rw [List.filter_cons_of_neg (by simp [hstock]), List.foldl_cons, visit_of_other hstock]
          exact ih walk
      | true =>
          rw [List.filter_cons_of_pos hstock, List.foldl_cons, List.foldl_cons]
          exact ih (walk.visit event)

/-- The downtime up to an open outage's next event. -/
def openTime (walk : DowntimeWalk) (stop : Datetime) : Timedelta :=
  match walk.openOutageStart with
  | some start => stop - start
  | none => 0

theorem totalDowntime_close (walk : DowntimeWalk) (periodEnd : Datetime) :
    totalDowntime (walk.close periodEnd) =
      totalDowntime walk.downtimePeriods + walk.openTime periodEnd := by
  unfold close openTime totalDowntime
  cases walk.openOutageStart with
  | none => simp
  | some start => simp

end DowntimeWalk

/-- The windows that begin with an OUT_OF_STOCK event, each up to the next event. -/
def outages : List DetectionEvent → Datetime → List (Datetime × Datetime)
  | [], _ => []
  | event :: rest, stop =>
      (if DetectionEvent.isOut event then
        [(event.createdAt, firstTime DetectionEvent.createdAt rest stop)] else []) ++
        outages rest stop

theorem totalDowntime_append (first second : List (Datetime × Datetime)) :
    totalDowntime (first ++ second) = totalDowntime first + totalDowntime second := by
  simp [totalDowntime]

theorem totalDowntime_outages (events : List DetectionEvent) (stop : Datetime) :
    totalDowntime (outages events stop) =
      offGaps DetectionEvent.createdAt DetectionEvent.isOut events stop := by
  induction events with
  | nil => rfl
  | cons event rest ih =>
      rw [outages, totalDowntime_append, ih, offGaps]
      split <;> simp [totalDowntime]

/-- Each OUT_OF_STOCK event begins one window. -/
theorem length_outages (events : List DetectionEvent) (stop : Datetime) :
    (outages events stop).length = events.countP DetectionEvent.isOut := by
  induction events with
  | nil => rfl
  | cons event rest ih =>
      rw [outages, List.length_append, ih, List.countP_cons]
      split
      · simp [Nat.add_comm]
      · simp

namespace DowntimeWalk

/-- The windows after a walk over stock events in turns: those it began with, the open one up
to the first event, and the outages of the events. -/
theorem close_foldl {events : List DetectionEvent} (periodEnd : Datetime)
    (hstock : ∀ event ∈ events, DetectionEvent.isStock event = true) (hturns : InTurns events)
    {walk : DowntimeWalk}
    (hopen : walk.openOutageStart ≠ none → ∀ first ∈ events.head?,
      first.eventType = .stockAvailable) :
    (events.foldl visit walk).close periodEnd =
      walk.close (firstTime DetectionEvent.createdAt events periodEnd) ++
        outages events periodEnd := by
  induction events generalizing walk with
  | nil => simp [firstTime, outages]
  | cons event rest ih =>
      have hstock' : ∀ other ∈ rest, DetectionEvent.isStock other = true := fun other hother =>
        hstock other (List.mem_cons_of_mem _ hother)
      have hnext : ∀ next ∈ rest.head?, event.eventType ≠ next.eventType :=
        (List.isChain_cons.mp hturns).1
      have hturns' : InTurns rest := (List.isChain_cons.mp hturns).2
      rw [List.foldl_cons]
      cases htype : event.eventType with
      | outOfStock =>
          -- the walk has no open outage here, since two outages do not follow each other
          have hnone : walk.openOutageStart = none := by
            by_contra hsome
            have hfirst := hopen hsome event rfl
            rw [htype] at hfirst
            cases hfirst
          have hvisit : walk.visit event = ⟨walk.downtimePeriods, some event.createdAt⟩ := by
            simp [visit, htype]
          have havailable : ∀ next ∈ rest.head?, next.eventType = .stockAvailable := by
            intro next hmem
            have hne := hnext next hmem
            have hkind := hstock' next (List.mem_of_mem_head? hmem)
            rw [htype] at hne
            unfold DetectionEvent.isStock at hkind
            cases hnexttype : next.eventType <;> simp_all [isStockEvent]
          rw [hvisit, ih hstock' hturns' fun _ => havailable]
          simp [close, hnone, outages, DetectionEvent.isOut, htype]
      | stockAvailable =>
          have houtages : outages (event :: rest) periodEnd = outages rest periodEnd := by
            simp [outages, DetectionEvent.isOut, htype]
          cases hwalk : walk.openOutageStart with
          | none =>
              have hvisit : walk.visit event = walk := by simp [visit, htype, hwalk]
              rw [hvisit, ih hstock' hturns' fun hsome => absurd hwalk hsome, houtages]
              simp [close, hwalk]
          | some start =>
              have hvisit : walk.visit event =
                  ⟨walk.downtimePeriods ++ [(start, event.createdAt)], none⟩ := by
                simp [visit, htype, hwalk]
              rw [hvisit, ih hstock' hturns' fun hsome => absurd rfl hsome, houtages]
              simp [close, hwalk, firstTime]
      | lowStock | priceChanged | newVariant | etaChanged | storeChanged =>
          have hkind := hstock event List.mem_cons_self
          simp [DetectionEvent.isStock, htype, isStockEvent] at hkind

/-- What a walk over stock events in turns adds to the windows it has. -/
theorem totalDowntime_foldl {events : List DetectionEvent} (periodEnd : Datetime)
    (hstock : ∀ event ∈ events, DetectionEvent.isStock event = true) (hturns : InTurns events)
    {walk : DowntimeWalk}
    (hopen : walk.openOutageStart ≠ none → ∀ first ∈ events.head?,
      first.eventType = .stockAvailable) :
    totalDowntime ((events.foldl visit walk).close periodEnd) =
      totalDowntime walk.downtimePeriods +
        walk.openTime (firstTime DetectionEvent.createdAt events periodEnd) +
        offGaps DetectionEvent.createdAt DetectionEvent.isOut events periodEnd := by
  rw [close_foldl periodEnd hstock hturns hopen, totalDowntime_append, totalDowntime_close,
    totalDowntime_outages]

end DowntimeWalk

/-- Only the stock events count for the walk over all events, in the order of their times. -/
theorem downtimeWalk_sortBy {events increasing : List DetectionEvent}
    (horder : InOrder DetectionEvent.createdAt increasing)
    (hperm : (events.filter DetectionEvent.isStock).Perm increasing) :
    downtimeWalk (sortBy DetectionEvent.createdAt events) =
      increasing.foldl DowntimeWalk.visit ⟨[], none⟩ := by
  unfold downtimeWalk
  rw [← DowntimeWalk.foldl_visit_filter, filter_sortBy_eq horder hperm]

theorem isStock_of_perm {events increasing : List DetectionEvent}
    (hperm : (events.filter DetectionEvent.isStock).Perm increasing) :
    ∀ event ∈ increasing, DetectionEvent.isStock event = true := by
  intro event hevent
  exact (List.mem_filter.mp (hperm.mem_iff.mpr hevent)).2

/-- The windows of `compute_availability_summary` are the outages of its stock events. -/
theorem downtimePeriods_eq {events increasing : List DetectionEvent} (periodEnd : Datetime)
    (horder : InOrder DetectionEvent.createdAt increasing)
    (hperm : (events.filter DetectionEvent.isStock).Perm increasing)
    (hturns : InTurns increasing) :
    (downtimeWalk (sortBy DetectionEvent.createdAt events)).close periodEnd =
      outages increasing periodEnd := by
  rw [downtimeWalk_sortBy horder hperm, DowntimeWalk.close_foldl periodEnd (isStock_of_perm hperm)
    hturns fun hsome => absurd rfl hsome]
  rfl

/-- Added up, they are the gaps that begin with an OUT_OF_STOCK event. -/
theorem totalDowntime_eq {events increasing : List DetectionEvent} (periodEnd : Datetime)
    (horder : InOrder DetectionEvent.createdAt increasing)
    (hperm : (events.filter DetectionEvent.isStock).Perm increasing)
    (hturns : InTurns increasing) :
    totalDowntime ((downtimeWalk (sortBy DetectionEvent.createdAt events)).close periodEnd) =
      offGaps DetectionEvent.createdAt DetectionEvent.isOut increasing periodEnd := by
  rw [downtimeWalk_sortBy horder hperm, DowntimeWalk.totalDowntime_foldl periodEnd
    (isStock_of_perm hperm) hturns fun hsome => absurd rfl hsome]
  simp [totalDowntime, DowntimeWalk.openTime]

end StockMonitoring.Application
