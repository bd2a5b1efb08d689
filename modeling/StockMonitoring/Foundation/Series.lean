import StockMonitoring.Foundation.Lists

set_option autoImplicit false

/-!
# Foundation: time series

A time series is a list of samples in the order of their times.  Its value at `t` is
that of the last sample at or before `t`.  Cutting the series at a start changes no
value from the first sample that is left on (`lastUpTo_since`).

A cap on the times in every window is kept by a time that few times are recent at
(`countWithin_concat_le`).
-/

namespace StockMonitoring.Foundation

variable {E : Type} (time : E → Int)

/-- The last sample at or before `t`. -/
def lastUpTo (samples : List E) (t : Int) : Option E :=
  (samples.filter fun sample => decide (time sample ≤ t)).getLast?

variable {time}

variable (time) in
/-- With a sample at or before `t` there is a last one. -/
theorem exists_lastUpTo {samples : List E} {t : Int} {sample : E} (hsample : sample ∈ samples)
    (hle : time sample ≤ t) : ∃ last, lastUpTo time samples t = some last := by
  cases hlast : lastUpTo time samples t with
  | some last => exact ⟨last, rfl⟩
  | none =>
      have hmem : sample ∈ samples.filter fun other => decide (time other ≤ t) :=
        List.mem_filter.mpr ⟨hsample, decide_eq_true hle⟩
      rw [List.getLast?_eq_none_iff.mp hlast] at hmem
      cases hmem

/-- A sample after `t` does not count at `t`. -/
theorem lastUpTo_concat_of_lt {samples : List E} {t : Int} {sample : E} (hlt : t < time sample) :
    lastUpTo time (samples ++ [sample]) t = lastUpTo time samples t := by
  have hnot : decide (time sample ≤ t) = false := decide_eq_false (by omega)
  unfold lastUpTo
  rw [List.filter_append, List.filter_cons_of_neg (by simp [hnot]), List.filter_nil,
    List.append_nil]

/-- The last sample of all is the one that counts from its time on. -/
theorem lastUpTo_concat_of_le {samples : List E} {t : Int} {sample : E} (hle : time sample ≤ t) :
    lastUpTo time (samples ++ [sample]) t = some sample := by
  unfold lastUpTo
  rw [List.filter_append, List.filter_cons_of_pos (by simp [hle]), List.filter_nil,
    List.getLast?_concat]

/-- Once all samples are in the past the last one counts. -/
theorem lastUpTo_of_forall_le {samples : List E} {t : Int}
    (hpast : ∀ sample ∈ samples, time sample ≤ t) :
    lastUpTo time samples t = samples.getLast? := by
  unfold lastUpTo
  rw [List.filter_eq_self.mpr fun sample hsample => decide_eq_true (hpast sample hsample)]

variable (time) in
theorem lastUpTo_map {F : Type} (render : E → F) (renderedTime : F → Int)
    (hrender : ∀ sample, renderedTime (render sample) = time sample) (samples : List E) (t : Int) :
    lastUpTo renderedTime (samples.map render) t = (lastUpTo time samples t).map render := by
  have hfilter : (samples.map render).filter (fun sample => decide (renderedTime sample ≤ t)) =
      (samples.filter fun sample => decide (time sample ≤ t)).map render := by
    rw [List.filter_map]
    congr 1
    apply List.filter_congr
    intro sample _
    rw [Function.comp_apply, hrender]
  unfold lastUpTo
  rw [hfilter, List.getLast?_map]

/-- A series cut at a start has the values of the whole from its first sample on. -/
theorem lastUpTo_since {samples : List E} {start t : Int}
    (hincreasing : samples.Pairwise fun sample other => time sample < time other) {first : E}
    (hfirst : first ∈ samples.filter fun sample => decide (start ≤ time sample))
    (hle : time first ≤ t) :
    lastUpTo time (samples.filter fun sample => decide (start ≤ time sample)) t =
      lastUpTo time samples t := by
  let past := samples.filter fun sample => decide (time sample ≤ t)
  have hcomm : (samples.filter fun sample => decide (start ≤ time sample)).filter
      (fun sample => decide (time sample ≤ t)) =
      past.filter fun sample => decide (start ≤ time sample) := List.filter_comm ..
  have hsplit : past.filter (fun sample => !decide (start ≤ time sample)) ++
      past.filter (fun sample => decide (start ≤ time sample)) = past := by
    apply filter_not_append_filter
    refine (hincreasing.filter _).imp ?_
    intro sample other hlt hstart
    exact decide_eq_true (Int.le_trans (of_decide_eq_true hstart) (Int.le_of_lt hlt))
  have hne : past.filter (fun sample => decide (start ≤ time sample)) ≠ [] := by
    obtain ⟨hmem, hstart⟩ := List.mem_filter.mp hfirst
    exact List.ne_nil_of_mem
      (List.mem_filter.mpr ⟨List.mem_filter.mpr ⟨hmem, decide_eq_true hle⟩, hstart⟩)
  unfold lastUpTo
  rw [hcomm]
  change _ = past.getLast?
  rw [← hsplit, List.getLast?_append_of_ne_nil _ hne, hsplit]

/-! ## Windows -/

/-- How many of the times lie in the closed window of this width that begins at `start`. -/
def countWithin (width start : Int) (times : List Int) : Nat :=
  times.countP fun time => decide (start ≤ time) && decide (time ≤ start + width)

/-- How many of the times are at or after a cutoff. -/
def countSince (cutoff : Int) (times : List Int) : Nat :=
  times.countP fun time => decide (cutoff ≤ time)

/-- A window that reaches up to every time holds all times since it began. -/
theorem countWithin_eq_countSince {width start : Int} {times : List Int}
    (hpast : ∀ time ∈ times, time ≤ start + width) :
    countWithin width start times = countSince start times := by
  unfold countWithin countSince
  refine List.countP_congr fun time htime => ?_
  simp [hpast time htime]

/-- With fewer than `limit` times since a cutoff, one more time keeps every window to
`limit`, if the window that begins at the cutoff does not go beyond it. -/
theorem countWithin_concat_le {limit : Nat} {width cutoff time : Int} {times : List Int}
    (hbefore : ∀ start, countWithin width start times ≤ limit)
    (hfew : countSince cutoff times < limit) (hcutoff : cutoff + width ≤ time) (start : Int) :
    countWithin width start (times ++ [time]) ≤ limit := by
  unfold countWithin
  rw [List.countP_append, List.countP_singleton]
  split
  · rename_i hinside
    -- the window holds the new time, so it begins after the cutoff
    have hlate : cutoff ≤ start := by
      simp only [Bool.and_eq_true, decide_eq_true_eq] at hinside
      omega
    have hrecent : countWithin width start times ≤ countSince cutoff times := by
      refine List.countP_mono_left fun other _ hother => ?_
      simp only [Bool.and_eq_true, decide_eq_true_eq] at hother ⊢
      omega
    exact Nat.lt_of_le_of_lt hrecent hfew
  · exact hbefore start

end StockMonitoring.Foundation
