import Mathlib.Logic.Basic

set_option autoImplicit false

/-!
# Foundation: runs of a step function

A system is a function `step : S → L → Option S`: everything the code does not
choose is in the label, and a label that is not possible in a state gives `none`.
A run is a list of labels.

`Along` says that every step of a run meets a condition, and `along_invariant` is
the rule for what such runs keep.
-/

namespace StockMonitoring.Foundation

variable {S L : Type} {step : S → L → Option S}

/-- The state after a list of labels. -/
def runFrom (step : S → L → Option S) (state : S) (labels : List L) : Option S :=
  labels.foldlM step state

@[simp] theorem runFrom_nil (state : S) : runFrom step state [] = some state := rfl

theorem runFrom_cons (state : S) (label : L) (labels : List L) :
    runFrom step state (label :: labels) =
      (step state label).bind fun next => runFrom step next labels := rfl

theorem runFrom_append (state : S) (first second : List L) :
    runFrom step state (first ++ second) =
      (runFrom step state first).bind fun next => runFrom step next second := by
  induction first generalizing state with
  | nil => rfl
  | cons label labels ih =>
      rw [List.cons_append, runFrom_cons, runFrom_cons]
      cases step state label with
      | none => rfl
      | some next => exact ih next

/-- A run that is possible starts with a possible step. -/
theorem runFrom_cons_eq_some {state last : S} {label : L} {labels : List L}
    (hrun : runFrom step state (label :: labels) = some last) :
    ∃ next, step state label = some next ∧ runFrom step next labels = some last := by
  rw [runFrom_cons] at hrun
  exact Option.bind_eq_some_iff.mp hrun

/-- If each step is seen as a step of another system, so is a run. -/
theorem runFrom_map {T : Type} {other : T → L → Option T} (view : S → T)
    (hstep : ∀ state label, (step state label).map view = other (view state) label)
    (state : S) (labels : List L) :
    (runFrom step state labels).map view = runFrom other (view state) labels := by
  induction labels generalizing state with
  | nil => rfl
  | cons label labels ih =>
      rw [runFrom_cons, runFrom_cons, ← hstep, Option.map_bind]
      cases step state label with
      | none => rfl
      | some next => exact ih next

/-- Every step of a run meets `condition`. -/
def Along (step : S → L → Option S) (condition : S → L → Prop) : S → List L → Prop
  | _, [] => True
  | state, label :: labels =>
      condition state label ∧
        ∀ next, step state label = some next → Along step condition next labels

instance decidableAlong {condition : S → L → Prop}
    [∀ state label, Decidable (condition state label)] :
    ∀ state labels, Decidable (Along step condition state labels)
  | _, [] => isTrue trivial
  | state, label :: labels =>
      match hnext : step state label with
      | none => decidable_of_iff (condition state label)
          ⟨fun h => ⟨h, fun next hstep => (by cases hnext.symm.trans hstep)⟩, fun h => h.1⟩
      | some next =>
          have : Decidable (Along step condition next labels) := decidableAlong next labels
          decidable_of_iff (condition state label ∧ Along step condition next labels)
            ⟨fun h => ⟨h.1, fun other hstep => (by cases hnext.symm.trans hstep; exact h.2)⟩,
              fun h => ⟨h.1, h.2 next hnext⟩⟩

/-- A condition that is met everywhere is met along every run. -/
theorem along_of_forall {condition : S → L → Prop}
    (hcondition : ∀ state label, condition state label) (state : S) (labels : List L) :
    Along step condition state labels := by
  induction labels generalizing state with
  | nil => trivial
  | cons label labels ih => exact ⟨hcondition state label, fun next _ => ih next⟩

/-- A weaker condition is met along the same run. -/
theorem Along.imp {weaker stronger : S → L → Prop}
    (himp : ∀ state label, stronger state label → weaker state label) {state : S}
    {labels : List L} (halong : Along step stronger state labels) :
    Along step weaker state labels := by
  induction labels generalizing state with
  | nil => trivial
  | cons label labels ih =>
      exact ⟨himp state label halong.1, fun next hstep => ih (halong.2 next hstep)⟩

/-- A condition that follows from another one and an invariant of the run. -/
theorem Along.of_invariant {weaker stronger : S → L → Prop} (holds : S → Prop)
    (hstep : ∀ state label next, holds state → stronger state label →
      step state label = some next → holds next)
    (himp : ∀ state label, holds state → stronger state label → weaker state label)
    {state : S} {labels : List L} (halong : Along step stronger state labels)
    (hstate : holds state) : Along step weaker state labels := by
  induction labels generalizing state with
  | nil => trivial
  | cons label labels ih =>
      refine ⟨himp state label hstate halong.1, ?_⟩
      intro next hnext
      exact ih (halong.2 next hnext) (hstep state label next hstate halong.1 hnext)

/-- Two conditions met along a run are met together. -/
theorem Along.and {left right : S → L → Prop} {state : S} {labels : List L}
    (hleft : Along step left state labels) (hright : Along step right state labels) :
    Along step (fun state label => left state label ∧ right state label) state labels := by
  induction labels generalizing state with
  | nil => trivial
  | cons label labels ih =>
      exact ⟨⟨hleft.1, hright.1⟩, fun next hstep => ih (hleft.2 next hstep) (hright.2 next hstep)⟩

/-- What every step that meets the condition preserves, a run along it preserves. -/
theorem along_invariant {condition : S → L → Prop} (holds : S → Prop)
    (hstep : ∀ state label next, holds state → condition state label →
      step state label = some next → holds next)
    {state last : S} {labels : List L} (halong : Along step condition state labels)
    (hrun : runFrom step state labels = some last) (hstate : holds state) : holds last := by
  induction labels generalizing state with
  | nil =>
      cases hrun
      exact hstate
  | cons label labels ih =>
      obtain ⟨next, hnext, hrest⟩ := runFrom_cons_eq_some hrun
      exact ih (halong.2 next hnext) hrest (hstep state label next hstate halong.1 hnext)

/-- What every step preserves, a run preserves. -/
theorem runFrom_invariant (holds : S → Prop)
    (hstep : ∀ state label next, holds state → step state label = some next → holds next)
    {state last : S} {labels : List L} (hrun : runFrom step state labels = some last)
    (hstate : holds state) : holds last := by
  have halong : Along step (fun _ _ => True) state labels :=
    along_of_forall (fun _ _ => trivial) state labels
  exact along_invariant holds (fun state label next hstate _ hnext =>
    hstep state label next hstate hnext) halong hrun hstate

/-- Counted steps that each take from a budget are no more than the budget. -/
theorem countP_le_budget (budget : S → Nat) (counted : L → Bool)
    (hstep : ∀ state label next, step state label = some next →
      budget next + (if counted label then 1 else 0) ≤ budget state)
    {state last : S} {labels : List L} (hrun : runFrom step state labels = some last) :
    budget last + labels.countP counted ≤ budget state := by
  induction labels generalizing state with
  | nil =>
      cases hrun
      exact Nat.le_refl _
  | cons label labels ih =>
      obtain ⟨next, hnext, hrest⟩ := runFrom_cons_eq_some hrun
      have hfirst := hstep state label next hnext
      have hlater := ih hrest
      rw [List.countP_cons]
      omega

/-- A step of a run that meets a condition, before the rest. -/
theorem along_and_runFrom_cons {condition : S → L → Prop} {state next last : S} {label : L}
    {labels : List L} (hcondition : condition state label) (hnext : step state label = some next)
    (hrest : Along step condition next labels ∧ runFrom step next labels = some last) :
    Along step condition state (label :: labels) ∧
      runFrom step state (label :: labels) = some last := by
  refine ⟨⟨hcondition, fun other hother => ?_⟩, ?_⟩
  · cases hnext.symm.trans hother
    exact hrest.1
  · rw [runFrom_cons, hnext]
    exact hrest.2

/-! ## Every state of a run -/

/-- Every state that the run reaches, the first included, has a property. -/
def Throughout (step : S → L → Option S) (holds : S → Prop) (state : S) (labels : List L) : Prop :=
  ∀ earlier later reached, labels = earlier ++ later → runFrom step state earlier = some reached →
    holds reached

theorem throughout_nil_iff {holds : S → Prop} {state : S} :
    Throughout step holds state [] ↔ holds state := by
  constructor
  · intro hthroughout
    exact hthroughout [] [] state rfl rfl
  · intro hstate earlier later reached hlabels hrun
    obtain ⟨rfl, rfl⟩ := List.append_eq_nil_iff.mp hlabels.symm
    cases hrun
    exact hstate

theorem throughout_cons_iff {holds : S → Prop} {state : S} {label : L} {labels : List L} :
    Throughout step holds state (label :: labels) ↔
      holds state ∧ ∀ next, step state label = some next → Throughout step holds next labels := by
  constructor
  · intro hthroughout
    refine ⟨hthroughout [] (label :: labels) state rfl rfl, ?_⟩
    intro next hnext earlier later reached hlabels hrun
    refine hthroughout (label :: earlier) later reached (by rw [hlabels]; rfl) ?_
    rw [runFrom_cons, hnext]
    exact hrun
  · rintro ⟨hstate, hrest⟩ earlier later reached hlabels hrun
    cases earlier with
    | nil =>
        cases hrun
        exact hstate
    | cons first earlier =>
        rw [List.cons_append, List.cons.injEq] at hlabels
        obtain ⟨rfl, hlabels⟩ := hlabels
        obtain ⟨next, hnext, hrun⟩ := runFrom_cons_eq_some hrun
        exact hrest next hnext earlier later reached hlabels hrun

/-- What every step preserves holds of every state of a run. -/
theorem throughout_of_invariant {holds : S → Prop}
    (hstep : ∀ state label next, holds state → step state label = some next → holds next)
    {state : S} (labels : List L) (hstate : holds state) : Throughout step holds state labels :=
  fun _ _ _ _ hrun => runFrom_invariant holds hstep hrun hstate

/-- If a step keeps a property exactly when it meets the condition, a run keeps it
exactly when all its steps meet the condition. -/
theorem throughout_iff_along {holds invariant : S → Prop} {condition : S → L → Prop}
    (hinvariant : ∀ state label next, invariant state → step state label = some next →
      invariant next)
    (hstep : ∀ state label next, invariant state → holds state → step state label = some next →
      (holds next ↔ condition state label))
    (hstuck : ∀ state label, step state label = none → condition state label)
    {state : S} {labels : List L} (hstate : invariant state) (hholds : holds state) :
    Throughout step holds state labels ↔ Along step condition state labels := by
  induction labels generalizing state with
  | nil => exact ⟨fun _ => trivial, fun _ => throughout_nil_iff.mpr hholds⟩
  | cons label labels ih =>
      rw [throughout_cons_iff]
      cases hnext : step state label with
      | none =>
          constructor
          · intro _
            exact ⟨hstuck state label hnext, fun next h => by rw [hnext] at h; cases h⟩
          · intro _
            exact ⟨hholds, fun next h => by cases h⟩
      | some next =>
          have hiff := hstep state label next hstate hholds hnext
          constructor
          · rintro ⟨_, hrest⟩
            have hlater := hrest next rfl
            have hnext_holds : holds next := hlater [] labels next rfl rfl
            refine ⟨hiff.mp hnext_holds, ?_⟩
            intro other hother
            rw [hnext] at hother
            cases hother
            exact (ih (hinvariant state label next hstate hnext) hnext_holds).mp hlater
          · rintro ⟨hcondition, hrest⟩
            refine ⟨hholds, ?_⟩
            intro other hother
            cases hother
            exact (ih (hinvariant state label next hstate hnext) (hiff.mpr hcondition)).mpr
              (hrest next hnext)

end StockMonitoring.Foundation
