import StockMonitoring.Application.Diffing
import Mathlib.Data.List.Induction

set_option autoImplicit false

/-!
# Application: the baseline of a watch target

What the monitor of one product is for, without database and calls: it sees one
reading after another and keeps one of them, the baseline, to compare the next
one with.  The baseline moves only when something fires, so it can be older than
the previous reading.  The two facts proved here say what it still knows of that
reading: its stock (`stockedBefore_baselineAfter`) and its price, delivery time
and store (`follows_baselineAfter`).
-/

namespace StockMonitoring.Application

open StockMonitoring.Domain

/-- The baseline after one more reading. -/
noncomputable def nextBaseline (baseline : Option Reading) (current : Reading) :
    Option Reading :=
  open Classical in if Changed baseline current then some current else baseline

/-- The baseline after a history of readings, oldest first. -/
noncomputable def baselineAfter (history : List Reading) : Option Reading :=
  history.foldl nextBaseline none

@[simp] theorem baselineAfter_nil : baselineAfter [] = none := rfl

@[simp] theorem baselineAfter_concat (history : List Reading) (current : Reading) :
    baselineAfter (history ++ [current]) = nextBaseline (baselineAfter history) current := by
  simp [baselineAfter]

theorem nextBaseline_of_changed {baseline : Option Reading} {current : Reading}
    (hchanged : Changed baseline current) : nextBaseline baseline current = some current := by
  unfold nextBaseline
  rw [if_pos hchanged]

theorem nextBaseline_of_not_changed {baseline : Option Reading} {current : Reading}
    (hchanged : ¬ Changed baseline current) : nextBaseline baseline current = baseline := by
  unfold nextBaseline
  rw [if_neg hchanged]

/-! ## Stock -/

/-- After any reading the baseline is in stock exactly when the reading is. -/
theorem stockedBefore_nextBaseline (baseline : Option Reading) (current : Reading) :
    StockedBefore (nextBaseline baseline current) ↔ current.InStock := by
  by_cases hchanged : Changed baseline current
  · rw [nextBaseline_of_changed hchanged]
    exact Iff.rfl
  · rw [nextBaseline_of_not_changed hchanged]
    have harrived : ¬ Fires baseline current .stockAvailable := fun h => hchanged ⟨_, h⟩
    have hleft : ¬ Fires baseline current .outOfStock := fun h => hchanged ⟨_, h⟩
    unfold Fires at harrived hleft
    constructor
    · intro hstocked
      by_contra hgone
      exact hleft ⟨hstocked, hgone⟩
    · intro hin
      by_contra hstocked
      exact harrived ⟨hstocked, hin⟩

/-- The baseline mirrors the stock of the previous reading, whatever was stored
in between. -/
theorem stockedBefore_baselineAfter (history : List Reading) :
    StockedBefore (baselineAfter history) ↔
      ∃ previous, history.getLast? = some previous ∧ previous.InStock := by
  rcases List.eq_nil_or_concat history with rfl | ⟨earlier, previous, rfl⟩
  · simp [StockedBefore]
  · simp [stockedBefore_nextBaseline]

/-- There is a baseline as soon as some reading was in stock. -/
theorem baselineAfter_eq_none_iff (history : List Reading) :
    baselineAfter history = none ↔ ∀ reading ∈ history, ¬ reading.InStock := by
  induction history using List.reverseRecOn with
  | nil => simp
  | append_singleton earlier current ih =>
      rw [baselineAfter_concat]
      constructor
      · intro hnone
        have hgone : ¬ current.InStock := by
          rw [← stockedBefore_nextBaseline (baselineAfter earlier), hnone]
          exact not_false
        have hunchanged : ¬ Changed (baselineAfter earlier) current := by
          intro hchanged
          rw [nextBaseline_of_changed hchanged] at hnone
          cases hnone
        rw [nextBaseline_of_not_changed hunchanged, ih] at hnone
        intro reading hreading
        rcases List.mem_append.mp hreading with hold | hnew
        · exact hnone reading hold
        · rw [List.mem_singleton.mp hnew]
          exact hgone
      · intro hall
        have hearlier : baselineAfter earlier = none :=
          ih.mpr fun reading hreading => hall reading (List.mem_append_left _ hreading)
        have hgone := hall current (List.mem_append_right _ (List.mem_singleton_self _))
        have hunchanged : ¬ Changed (baselineAfter earlier) current := by
          rintro ⟨event, hfires⟩
          rw [hearlier, fires_none_iff] at hfires
          exact hgone hfires.2
        rw [nextBaseline_of_not_changed hunchanged, hearlier]

/-! ## The other fields -/

/-- What a baseline still tells about the reading before the current one. -/
structure Follows (baseline previous : Reading) : Prop where
  price : baseline.price = previous.price
  etaMinutes : baseline.etaMinutes = previous.etaMinutes
  storeName : baseline.storeName = previous.storeName
  variants : ∀ label ∈ previous.variants, label ∈ baseline.variants
  available : baseline.availability = .available → previous.availability = .available

theorem Follows.refl (reading : Reading) : Follows reading reading :=
  ⟨rfl, rfl, rfl, fun _ h => h, id⟩

/-- A reading against which nothing fires agrees with the baseline. -/
theorem follows_of_not_changed {baseline current : Reading}
    (hchanged : ¬ Changed (some baseline) current) : Follows baseline current := by
  have hquiet : ∀ event, ¬ Fires (some baseline) current event := fun event h => hchanged ⟨event, h⟩
  refine ⟨?_, ?_, ?_, ?_, ?_⟩
  · by_contra hne
    exact hquiet .priceChanged ⟨baseline, rfl, hne⟩
  · by_contra hne
    exact hquiet .etaChanged ⟨baseline, rfl, hne⟩
  · by_contra hne
    exact hquiet .storeChanged ⟨baseline, rfl, hne⟩
  · intro label hlabel
    by_contra hmissing
    exact hquiet .newVariant ⟨baseline, rfl, label, hlabel, hmissing⟩
  · intro havailable
    cases hnow : current.availability with
    | available => rfl
    | lowStock => exact absurd ⟨baseline, rfl, havailable, hnow⟩ (hquiet .lowStock)
    | outOfStock =>
        have hgone : ¬ current.InStock := current.not_inStock_iff.mpr hnow
        exact absurd ⟨Or.inl havailable, hgone⟩ (hquiet .outOfStock)

/-- The baseline follows the previous reading. -/
theorem follows_baselineAfter {history : List Reading} {baseline previous : Reading}
    (hbaseline : baselineAfter history = some baseline)
    (hprevious : history.getLast? = some previous) : Follows baseline previous := by
  rcases List.eq_nil_or_concat history with rfl | ⟨earlier, last, rfl⟩
  · cases hprevious
  · rw [List.concat_eq_append] at hbaseline hprevious
    rw [List.getLast?_concat] at hprevious
    cases hprevious
    rw [baselineAfter_concat] at hbaseline
    by_cases hchanged : Changed (baselineAfter earlier) previous
    · rw [nextBaseline_of_changed hchanged] at hbaseline
      cases hbaseline
      exact Follows.refl _
    · rw [nextBaseline_of_not_changed hchanged] at hbaseline
      rw [hbaseline] at hchanged
      exact follows_of_not_changed hchanged

end StockMonitoring.Application
