import StockMonitoring.Application.Downtime
import Mathlib.Tactic.FieldSimp

set_option autoImplicit false

/-!
# Application: what an availability summary means

`compute_availability_summary` against the instants of its period.  An instant is down if the
most recent stock event in the list is an OUT_OF_STOCK event.  For stock events that alternate,
the figures before rounding are those of the down instants (`summary_is_pointwise`); neither
the order of the list nor the events of other types matter.
-/

namespace StockMonitoring.Application

open StockMonitoring.Domain StockMonitoring.Foundation

/-- The stock events of a list. -/
def stockEvents (events : List DetectionEvent) : List DetectionEvent :=
  events.filter DetectionEvent.isStock

/-- The stock events of the list lie in the period, at different times, and alternate in the
order of their times. -/
structure AlternatesIn (events : List DetectionEvent) (periodStart periodEnd : Datetime) :
    Prop where
  inside : ∀ event ∈ stockEvents events,
    periodStart ≤ event.createdAt ∧ event.createdAt ≤ periodEnd
  distinct : ((stockEvents events).map DetectionEvent.createdAt).Nodup
  inTurns : InTurns (sortBy DetectionEvent.createdAt (stockEvents events))

/-- The figures are those of the down instants of the period. -/
structure IsPointwise (events : List DetectionEvent) (periodStart periodEnd : Datetime)
    (figures : AvailabilitySummary) : Prop where
  downtime : (figures.totalDowntimeMinutes : ℝ) =
    offTime DetectionEvent.createdAt DetectionEvent.isOut (stockEvents events) periodStart
      periodEnd / 1000000 / 60
  /-- the clamp does not act -/
  availability : figures.availabilityPct =
    if periodStart = periodEnd then 100
    else 100 * (1 - figures.totalDowntimeMinutes / minutes (periodEnd - periodStart))
  bounded : 0 ≤ figures.availabilityPct ∧ figures.availabilityPct ≤ 100
  average : figures.averageDowntimeMinutes * events.countP DetectionEvent.isOut =
    figures.totalDowntimeMinutes
  restocks : figures.restockCount = events.countP fun event => event.eventType = .stockAvailable

instance (events : List DetectionEvent) : Decidable (InTurns events) :=
  inferInstanceAs (Decidable (List.IsChain _ _))

/-! ## The sorted stock events -/

section Sorted

variable {events : List DetectionEvent} {periodStart periodEnd : Datetime}

/-- The stock events in the order of their times. -/
def history (events : List DetectionEvent) : List DetectionEvent :=
  sortBy DetectionEvent.createdAt (stockEvents events)

theorem history_perm (events : List DetectionEvent) :
    (stockEvents events).Perm (history events) :=
  (sortBy_perm DetectionEvent.createdAt (stockEvents events)).symm

theorem AlternatesIn.inOrder (h : AlternatesIn events periodStart periodEnd) :
    InOrder DetectionEvent.createdAt (history events) := by
  have hnodup : ((history events).map DetectionEvent.createdAt).Nodup :=
    (((history_perm events).map _).nodup_iff).mp h.distinct
  have hdistinct : (history events).Pairwise fun event other =>
      event.createdAt ≠ other.createdAt := List.pairwise_map.mp hnodup
  have hsorted : (history events).Pairwise fun event other =>
      event.createdAt ≤ other.createdAt := sortBy_pairwise _ _
  exact (hsorted.and hdistinct).imp fun hpair => lt_of_le_of_ne hpair.1 hpair.2

theorem AlternatesIn.mem_history (h : AlternatesIn events periodStart periodEnd) :
    ∀ event ∈ history events, periodStart ≤ event.createdAt ∧ event.createdAt ≤ periodEnd :=
  fun event hevent => h.inside event ((history_perm events).mem_iff.mpr hevent)

/-- The downtime is the gaps of the sorted stock events that begin with an outage. -/
theorem AlternatesIn.totalDowntime (h : AlternatesIn events periodStart periodEnd) :
    totalDowntime ((downtimeWalk (sortBy DetectionEvent.createdAt events)).close periodEnd) =
      offGaps DetectionEvent.createdAt DetectionEvent.isOut (history events) periodEnd :=
  totalDowntime_eq periodEnd h.inOrder (history_perm events) h.inTurns

theorem AlternatesIn.downtimePeriods (h : AlternatesIn events periodStart periodEnd) :
    (downtimeWalk (sortBy DetectionEvent.createdAt events)).close periodEnd =
      outages (history events) periodEnd :=
  downtimePeriods_eq periodEnd h.inOrder (history_perm events) h.inTurns

/-- The gaps are the length of the down instants. -/
theorem AlternatesIn.offTime_eq (h : AlternatesIn events periodStart periodEnd)
    (hperiod : periodStart ≤ periodEnd) :
    offTime DetectionEvent.createdAt DetectionEvent.isOut (stockEvents events) periodStart
        periodEnd =
      (offGaps DetectionEvent.createdAt DetectionEvent.isOut (history events) periodEnd : ℝ) := by
  rw [offTime_of_perm (history_perm events), offTime_eq_offGaps h.inOrder hperiod h.mem_history]

theorem AlternatesIn.offGaps_nonneg (h : AlternatesIn events periodStart periodEnd) :
    0 ≤ offGaps DetectionEvent.createdAt DetectionEvent.isOut (history events) periodEnd :=
  Foundation.offGaps_nonneg h.inOrder fun event hevent => (h.mem_history event hevent).2

theorem AlternatesIn.offGaps_le (h : AlternatesIn events periodStart periodEnd)
    (hperiod : periodStart ≤ periodEnd) :
    offGaps DetectionEvent.createdAt DetectionEvent.isOut (history events) periodEnd ≤
      periodEnd - periodStart := by
  have hle := @offTime_le _ DetectionEvent.createdAt DetectionEvent.isOut (stockEvents events) _ _
    hperiod
  rw [h.offTime_eq hperiod] at hle
  exact_mod_cast hle

end Sorted

/-! ## The figures -/

section Figures

variable {events : List DetectionEvent} {periodStart periodEnd : Datetime}

theorem minutes_le_iff {span other : Timedelta} : minutes span ≤ minutes other ↔ span ≤ other := by
  unfold minutes
  rw [div_le_div_iff_of_pos_right (by norm_num), div_le_div_iff_of_pos_right (by norm_num)]
  exact Int.cast_le

@[simp] theorem minutes_zero : minutes 0 = 0 := by simp [minutes]

/-- Every outage is a stock event. -/
theorem countP_isOut_history (events : List DetectionEvent) :
    (history events).countP DetectionEvent.isOut = events.countP DetectionEvent.isOut := by
  have hstock : ∀ event : DetectionEvent,
      (DetectionEvent.isOut event && DetectionEvent.isStock event) =
        DetectionEvent.isOut event := by
    intro event
    unfold DetectionEvent.isOut DetectionEvent.isStock
    cases event.eventType <;> rfl
  rw [← (history_perm events).countP_eq, stockEvents, List.countP_filter]
  exact List.countP_congr fun event _ => by rw [hstock]

theorem totalDowntimeMinutes_eq (h : AlternatesIn events periodStart periodEnd) :
    (availabilityFigures events periodStart periodEnd).totalDowntimeMinutes =
      minutes (offGaps DetectionEvent.createdAt DetectionEvent.isOut (history events) periodEnd) :=
  congrArg minutes h.totalDowntime

/-- A share of the period between none and all of it. -/
theorem percentage_bounds {down period : Rat} (hperiod : 0 < period) (hdown : 0 ≤ down)
    (hle : down ≤ period) : 0 ≤ 100 * (1 - down / period) ∧ 100 * (1 - down / period) ≤ 100 := by
  have hshare : down / period ≤ 1 := (div_le_one hperiod).mpr hle
  have hnonneg : 0 ≤ down / period := div_nonneg hdown hperiod.le
  constructor <;> linarith

theorem totalDowntimeMinutes_bounds (h : AlternatesIn events periodStart periodEnd)
    (hperiod : periodStart ≤ periodEnd) :
    0 ≤ (availabilityFigures events periodStart periodEnd).totalDowntimeMinutes ∧
      (availabilityFigures events periodStart periodEnd).totalDowntimeMinutes ≤
        minutes (periodEnd - periodStart) := by
  rw [totalDowntimeMinutes_eq h]
  constructor
  · rw [← minutes_zero]
    exact minutes_le_iff.mpr h.offGaps_nonneg
  · exact minutes_le_iff.mpr (h.offGaps_le hperiod)

/-- The branch of the empty period. -/
theorem availabilityPct_of_empty (events : List DetectionEvent) (instant : Datetime) :
    (availabilityFigures events instant instant).availabilityPct = 100 := by
  have hempty : minutes (instant - instant) ≤ 0 := by rw [sub_self, minutes_zero]
  exact if_pos hempty

theorem minutes_pos (hlt : periodStart < periodEnd) : 0 < minutes (periodEnd - periodStart) := by
  have hspan : ¬ periodEnd - periodStart ≤ 0 := not_le.mpr (Int.sub_pos.mpr hlt)
  rw [← not_le, ← minutes_zero, minutes_le_iff]
  exact hspan

/-- In a longer period the maximum is its second argument. -/
theorem availabilityPct_of_lt (h : AlternatesIn events periodStart periodEnd)
    (hlt : periodStart < periodEnd) :
    (availabilityFigures events periodStart periodEnd).availabilityPct =
      100 * (1 - (availabilityFigures events periodStart periodEnd).totalDowntimeMinutes /
        minutes (periodEnd - periodStart)) := by
  obtain ⟨hnonneg, hle⟩ := totalDowntimeMinutes_bounds h hlt.le
  exact (if_neg (not_le.mpr (minutes_pos hlt))).trans
    (max_eq_right (percentage_bounds (minutes_pos hlt) hnonneg hle).1)

theorem averageDowntimeMinutes_mul (h : AlternatesIn events periodStart periodEnd) :
    (availabilityFigures events periodStart periodEnd).averageDowntimeMinutes *
        events.countP DetectionEvent.isOut =
      (availabilityFigures events periodStart periodEnd).totalDowntimeMinutes := by
  have hwindows := h.downtimePeriods
  have hcount : (outages (history events) periodEnd).length =
      events.countP DetectionEvent.isOut := by
    rw [length_outages, countP_isOut_history]
  have htotal : (availabilityFigures events periodStart periodEnd).totalDowntimeMinutes =
      minutes (totalDowntime (outages (history events) periodEnd)) := by
    rw [← hwindows]
    rfl
  have haverage : (availabilityFigures events periodStart periodEnd).averageDowntimeMinutes =
      if outages (history events) periodEnd = [] then 0
      else minutes (totalDowntime (outages (history events) periodEnd)) /
        (outages (history events) periodEnd).length := by
    rw [← hwindows]
    rfl
  rw [htotal, haverage, ← hcount]
  split
  · rename_i hnone
    rw [hnone]
    simp [totalDowntime]
  · rename_i hsome
    have hlength : ((outages (history events) periodEnd).length : Rat) ≠ 0 :=
      Nat.cast_ne_zero.mpr fun hzero => hsome (List.eq_nil_of_length_eq_zero hzero)
    exact div_mul_cancel₀ _ hlength

theorem isPointwise (h : AlternatesIn events periodStart periodEnd)
    (hperiod : periodStart ≤ periodEnd) :
    IsPointwise events periodStart periodEnd
      (availabilityFigures events periodStart periodEnd) := by
  refine ⟨?_, ?_, ?_, averageDowntimeMinutes_mul h, ?_⟩
  · rw [totalDowntimeMinutes_eq h, h.offTime_eq hperiod]
    simp [minutes]
  · split
    · rename_i hempty
      rw [hempty]
      exact availabilityPct_of_empty events periodEnd
    · rename_i hne
      exact availabilityPct_of_lt h (lt_of_le_of_ne hperiod hne)
  · rcases hperiod.eq_or_lt with rfl | hlt
    · rw [availabilityPct_of_empty]
      norm_num
    · obtain ⟨hnonneg, hle⟩ := totalDowntimeMinutes_bounds h hperiod
      rw [availabilityPct_of_lt h hlt]
      exact percentage_bounds (minutes_pos hlt) hnonneg hle
  · exact (sortBy_perm DetectionEvent.createdAt events).countP_eq _

/-! ## What does not matter -/

/-- Two lists with the same stock events, in any order and beside any other events, have the
same figures. -/
theorem availabilityFigures_congr {other : List DetectionEvent}
    (h : AlternatesIn events periodStart periodEnd)
    (hsame : (stockEvents other).Perm (stockEvents events)) :
    availabilityFigures other periodStart periodEnd =
      availabilityFigures events periodStart periodEnd := by
  have hwindows : (downtimeWalk (sortBy DetectionEvent.createdAt other)).close periodEnd =
      (downtimeWalk (sortBy DetectionEvent.createdAt events)).close periodEnd := by
    rw [h.downtimePeriods]
    exact downtimePeriods_eq periodEnd h.inOrder (hsame.trans (history_perm events)) h.inTurns
  have hrestocks : ∀ list : List DetectionEvent,
      (sortBy DetectionEvent.createdAt list).countP (fun event => event.eventType = .stockAvailable)
        = (stockEvents list).countP fun event => event.eventType = .stockAvailable := by
    intro list
    rw [(sortBy_perm DetectionEvent.createdAt list).countP_eq, stockEvents, List.countP_filter]
    refine List.countP_congr fun event _ => ?_
    unfold DetectionEvent.isStock
    cases event.eventType <;> simp [isStockEvent]
  unfold availabilityFigures
  simp only [hwindows, hrestocks, hsame.countP_eq]

end Figures

/-- For every list whose stock events lie in the period and alternate, the summary gives the
figures of the down instants, rounded, and it is that of any rearrangement of the list and that
of what remains when events of other types are removed. -/
theorem summary_is_pointwise (events : List DetectionEvent) {periodStart periodEnd : Datetime}
    (hperiod : periodStart ≤ periodEnd) (h : AlternatesIn events periodStart periodEnd) :
    (∃ figures, IsPointwise events periodStart periodEnd figures ∧
      availabilityFigures events periodStart periodEnd = figures ∧
      computeAvailabilitySummary events periodStart periodEnd =
        ⟨round2 figures.availabilityPct, figures.restockCount,
          round2 figures.totalDowntimeMinutes, round2 figures.averageDowntimeMinutes⟩) ∧
      (∀ other, other.Perm events →
        computeAvailabilitySummary other periodStart periodEnd =
          computeAvailabilitySummary events periodStart periodEnd) ∧
      ∀ kept : DetectionEvent → Bool, (∀ event, DetectionEvent.isStock event = true →
          kept event = true) →
        computeAvailabilitySummary (events.filter kept) periodStart periodEnd =
          computeAvailabilitySummary events periodStart periodEnd := by
  refine ⟨⟨_, isPointwise h hperiod, rfl, rfl⟩, ?_, ?_⟩
  · intro other hother
    exact congrArg AvailabilitySummary.rounded (availabilityFigures_congr h (hother.filter _))
  · intro kept hkept
    have hsame : stockEvents (events.filter kept) = stockEvents events := by
      rw [stockEvents, List.filter_filter]
      refine List.filter_congr fun event _ => ?_
      cases hstock : DetectionEvent.isStock event with
      | false => rfl
      | true => rw [hkept event hstock, Bool.and_self]
    exact congrArg AvailabilitySummary.rounded
      (availabilityFigures_congr h (List.Perm.of_eq hsame))

/-- An event of a product that is watched for an hour. -/
def hourEvent (snapshotId : Nat) (eventType : EventType) (minute : Int) : DetectionEvent :=
  ⟨none, 12, snapshotId, none, eventType, minute * 60000000⟩

/-- A restock, an outage, a restock and an outage that lasts; a price change at the time of the
first outage, and one before the period. -/
def hourEvents : List DetectionEvent :=
  [hourEvent 3 .outOfStock 50, hourEvent 2 .priceChanged 20, hourEvent 1 .stockAvailable 5,
    hourEvent 2 .outOfStock 20, hourEvent 3 .stockAvailable 35, hourEvent 0 .priceChanged (-10)]

theorem hour_is_pointwise :
    IsPointwise hourEvents 0 3600000000 (availabilityFigures hourEvents 0 3600000000) ∧
      availabilityFigures hourEvents 0 3600000000 = ⟨175 / 3, 2, 25, 25 / 2⟩ ∧
      computeAvailabilitySummary hourEvents 0 3600000000 = ⟨5833 / 100, 2, 25, 25 / 2⟩ ∧
      computeAvailabilitySummary (hourEvents.filter DetectionEvent.isStock) 0 3600000000 =
        computeAvailabilitySummary hourEvents 0 3600000000 := by
  have halternates : AlternatesIn hourEvents 0 3600000000 :=
    ⟨by decide, by decide, by decide⟩
  obtain ⟨⟨figures, hpointwise, hfigures, hsummary⟩, _, hkept⟩ :=
    summary_is_pointwise hourEvents (by decide) halternates
  have hvalues : availabilityFigures hourEvents 0 3600000000 = ⟨175 / 3, 2, 25, 25 / 2⟩ := by
    decide +kernel
  refine ⟨hfigures ▸ hpointwise, hvalues, ?_, hkept DetectionEvent.isStock fun _ h => h⟩
  rw [hsummary, ← hfigures, hvalues]
  decide +kernel

end StockMonitoring.Application
