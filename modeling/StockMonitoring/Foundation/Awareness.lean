import StockMonitoring.Foundation.Ordering

set_option autoImplicit false

/-!
# Foundation: datetimes with and without a time zone

Python orders and subtracts two datetimes only when both are aware or both are
naive, and raises `TypeError` otherwise.  `Timed` is a computation over datetimes that
keeps the pairs it ordered or subtracted; it raises exactly when one of them is mixed,
which is a field of the structure (`raises_iff`), so every program built from `lt` and
`sub` with `do` has it.

Nothing in this file knows a particular program.
-/

namespace StockMonitoring.Foundation

/-- A `datetime`, in microseconds since the epoch. -/
inductive PyDatetime where
  /-- with a time zone: a point in time -/
  | aware (instant : Int)
  /-- without one: what a clock on the wall shows -/
  | naive (wallClock : Int)
  deriving DecidableEq, Repr

namespace PyDatetime

/-- Whether the datetime has a time zone. -/
def isAware : PyDatetime → Bool
  | .aware _ => true
  | .naive _ => false

/-- The microseconds of a datetime. -/
def micros : PyDatetime → Int
  | .aware instant => instant
  | .naive wallClock => wallClock

/-- Python orders and subtracts the two. -/
def Comparable (left right : PyDatetime) : Prop := left.isAware = right.isAware

instance (left right : PyDatetime) : Decidable (left.Comparable right) :=
  inferInstanceAs (Decidable (_ = _))

end PyDatetime

/-! ## Computations that may raise `TypeError` -/

/-- A computation over datetimes. -/
structure Timed (α : Type) where
  /-- the pairs it ordered or subtracted -/
  used : List (PyDatetime × PyDatetime)
  /-- what it returns; `none` when it raises `TypeError` -/
  result : Option α
  /-- it raises exactly at a pair that Python does not compare -/
  raises_iff : result = none ↔ ∃ pair ∈ used, ¬ pair.1.Comparable pair.2

namespace Timed

variable {α β : Type}

/-- A computation without a datetime. -/
protected def pure (value : α) : Timed α where
  used := []
  result := some value
  raises_iff := by simp

/-- Sequencing; a `TypeError` skips what comes next. -/
protected def bind (first : Timed α) (next : α → Timed β) : Timed β where
  used := first.used ++ first.result.elim [] fun value => (next value).used
  result := first.result.bind fun value => (next value).result
  raises_iff := by
    have hfirst := first.raises_iff
    cases hresult : first.result with
    | none => simpa [hresult] using hfirst
    | some value =>
        have hnext := (next value).raises_iff
        have hclean : ¬ ∃ pair ∈ first.used, ¬ pair.1.Comparable pair.2 := by
          rw [← hfirst, hresult]
          simp
        simp only [Option.bind_some, Option.elim_some, List.mem_append, hnext]
        constructor
        · rintro ⟨pair, hused, hmixed⟩
          exact ⟨pair, .inr hused, hmixed⟩
        · rintro ⟨pair, hused | hused, hmixed⟩
          · exact absurd ⟨pair, hused, hmixed⟩ hclean
          · exact ⟨pair, hused, hmixed⟩

instance : Monad Timed where
  pure := Timed.pure
  bind := Timed.bind

@[simp] theorem pure_result (value : α) : (pure value : Timed α).result = some value := rfl

@[simp] theorem bind_result (first : Timed α) (next : α → Timed β) :
    (first >>= next).result = first.result.bind fun value => (next value).result := rfl

/-- What comes after the last use of a datetime raises nothing. -/
theorem bind_pure_result_eq_none {first : Timed α} {finish : α → β} :
    (first >>= fun value => pure (finish value)).result = none ↔ first.result = none := by
  cases hfirst : first.result <;> simp [hfirst]

/-- One pair that is ordered or subtracted, and what that gives when it does not raise. -/
def useOf (left right : PyDatetime) (value : α) : Timed α where
  used := [(left, right)]
  result := if left.Comparable right then some value else none
  raises_iff := by simp

/-- A computation whose uses of the clock are all between two aware datetimes, and which
does not raise. -/
def ClockSafe (clock : PyDatetime) (timed : Timed α) : Prop :=
  (∀ pair ∈ timed.used, pair.1 = clock ∨ pair.2 = clock →
    pair.1.isAware = true ∧ pair.2.isAware = true) ∧ timed.result ≠ none

/-- With an aware clock, a computation that does not raise uses the clock as it should. -/
theorem clockSafe_iff {clock : PyDatetime} (haware : clock.isAware = true) (timed : Timed α) :
    timed.ClockSafe clock ↔ timed.result ≠ none := by
  constructor
  · intro hsafe
    exact hsafe.2
  · intro hresult
    refine ⟨?_, hresult⟩
    intro pair hused hclock
    have hcomparable : pair.1.Comparable pair.2 := by
      by_contra hmixed
      exact hresult (timed.raises_iff.mpr ⟨pair, hused, hmixed⟩)
    unfold PyDatetime.Comparable at hcomparable
    obtain heq | heq := hclock
    · rw [← hcomparable, heq]
      exact ⟨haware, haware⟩
    · rw [hcomparable, heq]
      exact ⟨haware, haware⟩

/-! ## Loops -/

/-- A loop that appends what each item gives. -/
def collect (step : α → Timed (List β)) : List α → Timed (List β)
  | [] => pure []
  | item :: rest => do
      let here ← step item
      let later ← collect step rest
      pure (here ++ later)

/-- A loop raises exactly when one of its steps does. -/
theorem collect_result_eq_none {step : α → Timed (List β)} {items : List α} :
    (collect step items).result = none ↔ ∃ item ∈ items, (step item).result = none := by
  induction items with
  | nil => simp [collect]
  | cons item rest ih =>
      simp only [collect, bind_result, pure_result, List.mem_cons, exists_eq_or_imp, ← ih]
      cases (step item).result <;> cases (collect step rest).result <;> simp

/-- A loop none of whose steps raises. -/
theorem collect_result_eq_some {step : α → Timed (List β)} {value : α → List β}
    {items : List α} (hstep : ∀ item ∈ items, (step item).result = some (value item)) :
    (collect step items).result = some (items.flatMap value) := by
  induction items with
  | nil => rfl
  | cons item rest ih =>
      obtain ⟨hitem, hrest⟩ := List.forall_mem_cons.mp hstep
      simp only [collect, bind_result, hitem, ih hrest, pure_result, Option.bind_some,
        List.flatMap_cons]

/-- A loop that appends the items that pass a test. -/
theorem collect_result_filter {step : α → Timed (List α)} {test : α → Bool} {items : List α}
    (hstep : ∀ item ∈ items,
      (step item).result = some (if test item = true then [item] else [])) :
    (collect step items).result = some (items.filter test) := by
  rw [collect_result_eq_some hstep]
  congr 1
  induction items with
  | nil => rfl
  | cons item rest ih =>
      rw [List.flatMap_cons, List.filter_cons, ih (List.forall_mem_cons.mp hstep).2]
      split <;> rfl

end Timed

/-! ## The operations -/

namespace PyDatetime

/-- `left < right`. -/
def lt (left right : PyDatetime) : Timed Bool :=
  .useOf left right (decide (left.micros < right.micros))

/-- `left - right`. -/
def sub (left right : PyDatetime) : Timed Int :=
  .useOf left right (left.micros - right.micros)

theorem lt_result (left right : PyDatetime) : (left.lt right).result =
    if left.Comparable right then some (decide (left.micros < right.micros)) else none := rfl

theorem sub_result (left right : PyDatetime) : (left.sub right).result =
    if left.Comparable right then some (left.micros - right.micros) else none := rfl

end PyDatetime

/-! ## Sorting -/

namespace Timed

variable {α : Type} (key : α → PyDatetime)

/-- One insertion of a stable sort that asks only `<`. -/
def insertBy (item : α) : List α → Timed (List α)
  | [] => pure [item]
  | other :: rest => do
      let before ← (key other).lt (key item)
      if before then
        let placed ← insertBy item rest
        pure (other :: placed)
      else
        pure (item :: other :: rest)

/-- `sorted(items, key=key)`. -/
def sortedBy : List α → Timed (List α)
  | [] => pure []
  | item :: rest => do
      let sorted ← sortedBy rest
      insertBy key item sorted

variable {key}

theorem insertBy_result (hkeys : ∀ item other, (key item).Comparable (key other)) (item : α)
    (items : List α) : (insertBy key item items).result = some (items.orderedInsert
      (fun left right => (key left).micros ≤ (key right).micros) item) := by
  induction items with
  | nil => rfl
  | cons other rest ih =>
      simp only [insertBy, bind_result, PyDatetime.lt_result, hkeys other item, if_true,
        Option.bind_some, List.orderedInsert_cons]
      by_cases hlt : (key other).micros < (key item).micros
      · simp [hlt, ih, Int.not_le.mpr hlt]
      · simp [hlt, Int.not_lt.mp hlt]

/-- Datetimes of one kind are sorted as their microseconds are. -/
theorem sortedBy_result (hkeys : ∀ item other, (key item).Comparable (key other))
    (items : List α) :
    (sortedBy key items).result = some (sortBy (fun item => (key item).micros) items) := by
  induction items with
  | nil => rfl
  | cons item rest ih =>
      simp only [sortedBy, bind_result, ih, Option.bind_some, insertBy_result hkeys]
      rfl

end Timed

end StockMonitoring.Foundation
