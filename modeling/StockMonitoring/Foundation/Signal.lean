import Mathlib.MeasureTheory.Measure.Lebesgue.Basic

set_option autoImplicit false

/-!
# Foundation: a signal known by its changes

A finite list of changes, each at a time and each switching a signal on or off, fixes
the signal from the first change on.  `offTime` is the length of the instants of an
interval at which the signal is off, as a Lebesgue measure.  For changes listed in the
order of their times it is a sum of gaps (`offMeasure_append`), and it is zero only if
the signal is off at no instant (`offMeasure_eq_zero_iff`).
-/

namespace StockMonitoring.Foundation

open MeasureTheory

variable {E : Type} (time : E → Int) (off : E → Bool)

/-! ## The signal -/

/-- A latest change at or before `t` switches the signal off. -/
def OffAt (changes : List E) (t : ℝ) : Prop :=
  ∃ change ∈ changes, off change = true ∧ (time change : ℝ) ≤ t ∧
    ∀ other ∈ changes, (time other : ℝ) ≤ t → time other ≤ time change

/-- The length of the instants of `[start, stop]` at which the signal is off. -/
noncomputable def offTime (changes : List E) (start stop : Int) : ℝ :=
  (volume {t : ℝ | (start : ℝ) ≤ t ∧ t ≤ stop ∧ OffAt time off changes t}).toReal

/-- The measure of the instants of `[start, stop)` at which the signal is off. -/
noncomputable def offMeasure (changes : List E) (start stop : Int) : ENNReal :=
  volume {t : ℝ | (start : ℝ) ≤ t ∧ t < stop ∧ OffAt time off changes t}

/-- The end of an interval counts for nothing. -/
theorem offTime_eq (changes : List E) (start stop : Int) :
    offTime time off changes start stop = (offMeasure time off changes start stop).toReal := by
  unfold offTime offMeasure
  congr 1
  apply le_antisymm
  · have hsplit : {t : ℝ | (start : ℝ) ≤ t ∧ t ≤ stop ∧ OffAt time off changes t} ⊆
        {t : ℝ | (start : ℝ) ≤ t ∧ t < stop ∧ OffAt time off changes t} ∪ {(stop : ℝ)} := by
      rintro t ⟨hstart, hstop, hoff⟩
      rcases hstop.lt_or_eq with hlt | rfl
      · exact Or.inl ⟨hstart, hlt, hoff⟩
      · exact Or.inr rfl
    calc volume {t : ℝ | (start : ℝ) ≤ t ∧ t ≤ stop ∧ OffAt time off changes t}
        ≤ volume ({t : ℝ | (start : ℝ) ≤ t ∧ t < stop ∧ OffAt time off changes t} ∪
            {(stop : ℝ)}) := measure_mono hsplit
      _ ≤ volume {t : ℝ | (start : ℝ) ≤ t ∧ t < stop ∧ OffAt time off changes t} +
            volume {(stop : ℝ)} := measure_union_le _ _
      _ = volume {t : ℝ | (start : ℝ) ≤ t ∧ t < stop ∧ OffAt time off changes t} := by
          rw [Real.volume_singleton, add_zero]
  · exact measure_mono fun t ht => ⟨ht.1, ht.2.1.le, ht.2.2⟩

/-! ## Gaps between changes -/

/-- The time of the first change, or `stop` if there is none. -/
def firstTime : List E → Int → Int
  | [], stop => stop
  | change :: _, _ => time change

/-- The gaps that begin with a change that switches the signal off, added up. -/
def offGaps : List E → Int → Int
  | [], _ => 0
  | change :: rest, stop =>
      (if off change then firstTime time rest stop - time change else 0) + offGaps rest stop

/-- The changes are listed in the order of their times. -/
def InOrder (changes : List E) : Prop :=
  changes.Pairwise fun change other => time change < time other

variable {time off}

theorem firstTime_le {changes : List E} {stop : Int} (horder : InOrder time changes) {change : E}
    (hchange : change ∈ changes) : firstTime time changes stop ≤ time change := by
  cases changes with
  | nil => cases hchange
  | cons first rest =>
      rcases List.mem_cons.mp hchange with rfl | hlater
      · exact Int.le_refl _
      · exact Int.le_of_lt ((List.pairwise_cons.mp horder).1 change hlater)

theorem le_firstTime {changes : List E} {bound stop : Int} (hstop : bound ≤ stop)
    (hbound : ∀ change ∈ changes, bound ≤ time change) :
    bound ≤ firstTime time changes stop := by
  cases changes with
  | nil => exact hstop
  | cons first rest => exact hbound first List.mem_cons_self

theorem firstTime_le_stop {changes : List E} {stop : Int}
    (hstop : ∀ change ∈ changes, time change ≤ stop) : firstTime time changes stop ≤ stop := by
  cases changes with
  | nil => exact Int.le_refl _
  | cons first rest => exact hstop first List.mem_cons_self

theorem offGaps_nonneg {changes : List E} {stop : Int} (horder : InOrder time changes)
    (hstop : ∀ change ∈ changes, time change ≤ stop) : 0 ≤ offGaps time off changes stop := by
  induction changes with
  | nil => exact Int.le_refl _
  | cons first rest ih =>
      obtain ⟨hfirst, hrest⟩ := List.pairwise_cons.mp horder
      have hlater := ih hrest fun change hchange => hstop change (List.mem_cons_of_mem _ hchange)
      have hgap : time first ≤ firstTime time rest stop :=
        le_firstTime (hstop first List.mem_cons_self) fun change hchange =>
          Int.le_of_lt (hfirst change hchange)
      unfold offGaps
      split <;> omega

/-- Before the first of some later changes only the earlier ones count. -/
theorem offAt_append_of_lt {earlier later : List E} {t : ℝ}
    (hlater : ∀ change ∈ later, t < time change) :
    OffAt time off (earlier ++ later) t ↔ OffAt time off earlier t := by
  constructor
  · rintro ⟨change, hchange, hoff, hle, hlast⟩
    rcases List.mem_append.mp hchange with hleft | hright
    · exact ⟨change, hleft, hoff, hle, fun other hother =>
        hlast other (List.mem_append_left _ hother)⟩
    · exact absurd hle (not_le.mpr (hlater change hright))
  · rintro ⟨change, hchange, hoff, hle, hlast⟩
    refine ⟨change, List.mem_append_left _ hchange, hoff, hle, ?_⟩
    intro other hother hother_le
    rcases List.mem_append.mp hother with hleft | hright
    · exact hlast other hleft hother_le
    · exact absurd hother_le (not_le.mpr (hlater other hright))

/-- From the first later change on the earlier ones count no more. -/
theorem offAt_append_of_le {earlier later : List E} {t : ℝ}
    (hbefore : ∀ change ∈ earlier, ∀ other ∈ later, time change < time other) {first : E}
    (hfirst : first ∈ later) (hle : (time first : ℝ) ≤ t) :
    OffAt time off (earlier ++ later) t ↔ OffAt time off later t := by
  constructor
  · rintro ⟨change, hchange, hoff, hchange_le, hlast⟩
    rcases List.mem_append.mp hchange with hleft | hright
    · have hgt := hbefore change hleft first hfirst
      have hnot := hlast first (List.mem_append_right _ hfirst) hle
      omega
    · exact ⟨change, hright, hoff, hchange_le, fun other hother =>
        hlast other (List.mem_append_right _ hother)⟩
  · rintro ⟨change, hchange, hoff, hchange_le, hlast⟩
    refine ⟨change, List.mem_append_right _ hchange, hoff, hchange_le, ?_⟩
    intro other hother hother_le
    rcases List.mem_append.mp hother with hleft | hright
    · exact Int.le_of_lt (hbefore other hleft change hchange)
    · exact hlast other hright hother_le

theorem offAt_singleton {change : E} {t : ℝ} (hle : (time change : ℝ) ≤ t) :
    OffAt time off [change] t ↔ off change = true := by
  constructor
  · rintro ⟨other, hother, hoff, _, _⟩
    rwa [List.mem_singleton.mp hother] at hoff
  · intro hoff
    exact ⟨change, List.mem_singleton_self _, hoff, hle, fun other hother _ =>
      Int.le_of_eq (congrArg time (List.mem_singleton.mp hother))⟩

/-! ## The measure of the off instants -/

/-- The off instants of an interval, cut at one of its points. -/
theorem offMeasure_split (changes : List E) {start middle stop : Int} (hleft : start ≤ middle)
    (hright : middle ≤ stop) :
    offMeasure time off changes start stop =
      offMeasure time off changes start middle + offMeasure time off changes middle stop := by
  have hleft' : (start : ℝ) ≤ middle := Int.cast_le.mpr hleft
  have hright' : (middle : ℝ) ≤ stop := Int.cast_le.mpr hright
  unfold offMeasure
  rw [← measure_inter_add_sdiff _ (measurableSet_Iio (a := (middle : ℝ)))]
  congr 2
  · ext t
    simp only [Set.mem_inter_iff, Set.mem_ofPred_eq, Set.mem_Iio]
    constructor
    · rintro ⟨⟨h1, _, h3⟩, h4⟩
      exact ⟨h1, h4, h3⟩
    · rintro ⟨h1, h2, h3⟩
      exact ⟨⟨h1, h2.trans_le hright', h3⟩, h2⟩
  · ext t
    simp only [Set.mem_sdiff, Set.mem_ofPred_eq, Set.mem_Iio, not_lt]
    constructor
    · rintro ⟨⟨_, h2, h3⟩, h4⟩
      exact ⟨h4, h2, h3⟩
    · rintro ⟨h1, h2, h3⟩
      exact ⟨⟨hleft'.trans h1, h2, h3⟩, h1⟩

theorem offMeasure_le (changes : List E) (start stop : Int) :
    offMeasure time off changes start stop ≤ ENNReal.ofReal ((stop - start : Int) : ℝ) := by
  rw [Int.cast_sub, ← Real.volume_Ico]
  exact measure_mono fun t ht => ⟨ht.1, ht.2.1⟩

variable (time off) in
theorem offMeasure_ne_top (changes : List E) (start stop : Int) :
    offMeasure time off changes start stop ≠ ⊤ :=
  ne_top_of_le_ne_top ENNReal.ofReal_ne_top (offMeasure_le changes start stop)

theorem offTime_le {changes : List E} {start stop : Int} (hle : start ≤ stop) :
    offTime time off changes start stop ≤ ((stop - start : Int) : ℝ) := by
  rw [offTime_eq]
  exact ENNReal.toReal_le_of_le_ofReal (Int.cast_nonneg (Int.sub_nonneg.mpr hle))
    (offMeasure_le changes start stop)

/-- Changes that agree on the signal over an interval have the same off instants there. -/
theorem offMeasure_congr {changes other : List E} {start stop : Int}
    (hagree : ∀ t : ℝ, (start : ℝ) ≤ t → t < stop →
      (OffAt time off changes t ↔ OffAt time off other t)) :
    offMeasure time off changes start stop = offMeasure time off other start stop := by
  unfold offMeasure
  congr 1
  ext t
  constructor
  · rintro ⟨h1, h2, h3⟩
    exact ⟨h1, h2, (hagree t h1 h2).mp h3⟩
  · rintro ⟨h1, h2, h3⟩
    exact ⟨h1, h2, (hagree t h1 h2).mpr h3⟩

/-- Between a change and the next one the signal is what the change made it. -/
theorem offMeasure_gap (change : E) (rest : List E) {stop : Int}
    (hrest : ∀ other ∈ rest, stop ≤ time other) :
    offMeasure time off (change :: rest) (time change) stop =
      ENNReal.ofReal ((if off change then stop - time change else 0 : Int) : ℝ) := by
  have hagree : ∀ t : ℝ, (time change : ℝ) ≤ t → t < stop →
      (OffAt time off (change :: rest) t ↔ off change = true) := by
    intro t hle hlt
    rw [← List.singleton_append, offAt_append_of_lt, offAt_singleton hle]
    intro other hother
    exact hlt.trans_le (Int.cast_le.mpr (hrest other hother))
  unfold offMeasure
  by_cases hoff : off change = true
  · have hset : {t : ℝ | (time change : ℝ) ≤ t ∧ t < stop ∧
        OffAt time off (change :: rest) t} = Set.Ico (time change : ℝ) stop := by
      ext t
      constructor
      · rintro ⟨h1, h2, _⟩
        exact ⟨h1, h2⟩
      · rintro ⟨h1, h2⟩
        exact ⟨h1, h2, (hagree t h1 h2).mpr hoff⟩
    rw [hset, Real.volume_Ico, if_pos hoff, Int.cast_sub]
  · have hset : {t : ℝ | (time change : ℝ) ≤ t ∧ t < stop ∧
        OffAt time off (change :: rest) t} = ∅ := by
      ext t
      simp only [Set.mem_ofPred_eq, Set.mem_empty_iff_false, iff_false]
      rintro ⟨h1, h2, h3⟩
      exact hoff ((hagree t h1 h2).mp h3)
    rw [hset, measure_empty, if_neg hoff, Int.cast_zero, ENNReal.ofReal_zero]

/-- From its first change on, the measure of the off instants is the sum of the gaps. -/
theorem offMeasure_firstTime {changes : List E} {stop : Int} (horder : InOrder time changes)
    (hstop : ∀ change ∈ changes, time change ≤ stop) :
    offMeasure time off changes (firstTime time changes stop) stop =
      ENNReal.ofReal (offGaps time off changes stop : ℝ) := by
  induction changes with
  | nil => simp [offMeasure, offGaps, OffAt]
  | cons change rest ih =>
      obtain ⟨hfirst, hrest⟩ := List.pairwise_cons.mp horder
      have hstop' : ∀ other ∈ rest, time other ≤ stop := fun other hother =>
        hstop other (List.mem_cons_of_mem _ hother)
      have hgap : time change ≤ firstTime time rest stop :=
        le_firstTime (hstop change List.mem_cons_self) fun other hother =>
          Int.le_of_lt (hfirst other hother)
      have hlater : offMeasure time off (change :: rest) (firstTime time rest stop) stop =
          offMeasure time off rest (firstTime time rest stop) stop := by
        apply offMeasure_congr
        intro t hle hlt
        cases rest with
        | nil => exact absurd hle (not_le.mpr hlt)
        | cons next others =>
            rw [← List.singleton_append]
            refine offAt_append_of_le ?_ List.mem_cons_self hle
            intro other hother
            rw [List.mem_singleton.mp hother]
            exact hfirst
      have hgap_nonneg : (0 : ℝ) ≤ ((if off change then firstTime time rest stop - time change
          else 0 : Int) : ℝ) := by
        apply Int.cast_nonneg
        split <;> omega
      calc offMeasure time off (change :: rest) (time change) stop
          = offMeasure time off (change :: rest) (time change) (firstTime time rest stop) +
              offMeasure time off (change :: rest) (firstTime time rest stop) stop :=
            offMeasure_split _ hgap (firstTime_le_stop hstop')
        _ = ENNReal.ofReal ((if off change then firstTime time rest stop - time change
              else 0 : Int) : ℝ) + ENNReal.ofReal (offGaps time off rest stop : ℝ) := by
            rw [hlater, ih hrest hstop', offMeasure_gap change rest
              (fun other hother => firstTime_le hrest hother)]
        _ = ENNReal.ofReal (offGaps time off (change :: rest) stop : ℝ) := by
            rw [← ENNReal.ofReal_add hgap_nonneg
              (Int.cast_nonneg (offGaps_nonneg hrest hstop')), ← Int.cast_add]
            rfl

/-- The off instants of an interval are those of the earlier changes up to the first
later one, and the gaps of the later ones. -/
theorem offMeasure_append {earlier later : List E} {start stop : Int}
    (horder : InOrder time (earlier ++ later)) (hstart : start ≤ stop)
    (hlater : ∀ change ∈ later, start ≤ time change ∧ time change ≤ stop) :
    offMeasure time off (earlier ++ later) start stop =
      offMeasure time off earlier start (firstTime time later stop) +
        ENNReal.ofReal (offGaps time off later stop : ℝ) := by
  obtain ⟨_, hlate, hbefore⟩ := List.pairwise_append.mp horder
  have hfirst_le : firstTime time later stop ≤ stop :=
    firstTime_le_stop fun change hchange => (hlater change hchange).2
  have hfirst_ge : start ≤ firstTime time later stop :=
    le_firstTime hstart fun change hchange => (hlater change hchange).1
  rw [offMeasure_split _ hfirst_ge hfirst_le,
    ← offMeasure_firstTime hlate fun change hchange => (hlater change hchange).2]
  congr 1
  · apply offMeasure_congr
    intro t _ hlt
    apply offAt_append_of_lt
    intro change hchange
    exact hlt.trans_le (Int.cast_le.mpr (firstTime_le hlate hchange))
  · apply offMeasure_congr
    intro t hle hlt
    cases later with
    | nil => exact absurd hle (not_le.mpr hlt)
    | cons first rest => exact offAt_append_of_le hbefore List.mem_cons_self hle

/-- The gaps of the later changes are the whole off time exactly when the earlier ones
leave none before the first later one. -/
theorem offTime_append_eq_iff {earlier later : List E} {start stop : Int}
    (horder : InOrder time (earlier ++ later)) (hstart : start ≤ stop)
    (hlater : ∀ change ∈ later, start ≤ time change ∧ time change ≤ stop) :
    (offGaps time off later stop : ℝ) = offTime time off (earlier ++ later) start stop ↔
      offMeasure time off earlier start (firstTime time later stop) = 0 := by
  have hlate : InOrder time later := (List.pairwise_append.mp horder).2.1
  have hgaps : (0 : ℝ) ≤ (offGaps time off later stop : ℝ) :=
    Int.cast_nonneg (offGaps_nonneg hlate fun change hchange => (hlater change hchange).2)
  have hfinite := offMeasure_ne_top time off earlier start
    (firstTime time later stop)
  rw [offTime_eq, offMeasure_append horder hstart hlater,
    ENNReal.toReal_add hfinite ENNReal.ofReal_ne_top, ENNReal.toReal_ofReal hgaps,
    right_eq_add, ENNReal.toReal_eq_zero_iff]
  exact or_iff_left hfinite

/-- All changes lie in the interval. -/
theorem offTime_eq_offGaps {changes : List E} {start stop : Int} (horder : InOrder time changes)
    (hstart : start ≤ stop)
    (hchanges : ∀ change ∈ changes, start ≤ time change ∧ time change ≤ stop) :
    offTime time off changes start stop = (offGaps time off changes stop : ℝ) := by
  have hnone : offMeasure time off [] start (firstTime time changes stop) = 0 := by
    simp [offMeasure, OffAt]
  exact ((@offTime_append_eq_iff _ _ _ [] changes _ _ horder hstart hchanges).mpr hnone).symm

/-- The signal is that of the set of its changes. -/
theorem offTime_of_perm {changes other : List E} (hperm : changes.Perm other) (start stop : Int) :
    offTime time off changes start stop = offTime time off other start stop := by
  simp only [offTime, OffAt, hperm.mem_iff]

/-! ## When the signal is never off -/

variable (time) in
/-- Finitely many changes leave some time after `t` without one. -/
theorem exists_gap_after (changes : List E) (t stop : ℝ) (hlt : t < stop) :
    ∃ bound, t < bound ∧ bound ≤ stop ∧ ∀ change ∈ changes, t < time change →
      bound ≤ time change := by
  induction changes with
  | nil => exact ⟨stop, hlt, le_refl _, fun change hchange => by cases hchange⟩
  | cons first rest ih =>
      obtain ⟨bound, hafter, hstop, hbound⟩ := ih
      by_cases hfirst : t < time first
      · refine ⟨min bound (time first), lt_min hafter hfirst, (min_le_left _ _).trans hstop, ?_⟩
        intro change hchange hchange_lt
        rcases List.mem_cons.mp hchange with rfl | hlater
        · exact min_le_right _ _
        · exact (min_le_left _ _).trans (hbound change hlater hchange_lt)
      · refine ⟨bound, hafter, hstop, ?_⟩
        intro change hchange hchange_lt
        rcases List.mem_cons.mp hchange with rfl | hlater
        · exact absurd hchange_lt hfirst
        · exact hbound change hlater hchange_lt

/-- The signal is off for no length of time only if it is off at no instant: once off, it
stays off for a while. -/
theorem offMeasure_eq_zero_iff {changes : List E} {start stop : Int} :
    offMeasure time off changes start stop = 0 ↔
      ∀ t : ℝ, (start : ℝ) ≤ t → t < stop → ¬ OffAt time off changes t := by
  constructor
  · intro hzero t hle hlt hoff
    obtain ⟨change, hchange, hswitch, hchange_le, hlast⟩ := hoff
    obtain ⟨bound, hafter, hstop, hbound⟩ := exists_gap_after time changes t stop hlt
    have hsub : Set.Ico t bound ⊆
        {u : ℝ | (start : ℝ) ≤ u ∧ u < stop ∧ OffAt time off changes u} := by
      rintro u ⟨hu, hu_lt⟩
      refine ⟨hle.trans hu, hu_lt.trans_le hstop, change, hchange, hswitch,
        hchange_le.trans hu, ?_⟩
      intro other hother hother_le
      apply hlast other hother
      by_contra hnot
      exact absurd (hu_lt.trans_le (hbound other hother (not_le.mp hnot)))
        (not_lt.mpr hother_le)
    have hmeasure := measure_mono (μ := volume) hsub
    unfold offMeasure at hzero
    rw [hzero, Real.volume_Ico, nonpos_iff_eq_zero, ENNReal.ofReal_eq_zero] at hmeasure
    linarith
  · intro hnever
    have hset : {t : ℝ | (start : ℝ) ≤ t ∧ t < stop ∧ OffAt time off changes t} = ∅ := by
      ext t
      simp only [Set.mem_ofPred_eq, Set.mem_empty_iff_false, iff_false]
      rintro ⟨h1, h2, h3⟩
      exact hnever t h1 h2 h3
    unfold offMeasure
    rw [hset, measure_empty]

end StockMonitoring.Foundation
