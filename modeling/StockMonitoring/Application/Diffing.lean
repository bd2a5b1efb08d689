import StockMonitoring.Domain.Entities
import Mathlib.Data.List.Nodup

set_option autoImplicit false

/-!
# Application: snapshot diffing

`app/application/diffing.py`.  `diffSnapshots` is the function of the source.

What it compares is a `Reading`: availability, price, delivery time, store and
variant labels.  `Fires` says for each event type when it is due, and
`mem_diffSnapshots_iff` that the function reports exactly those.
-/

namespace StockMonitoring.Application

open StockMonitoring.Domain

/-- `if condition: events.append(event)`. -/
def appendIf (condition : Prop) [Decidable condition] (event : EventType)
    (events : List EventType) : List EventType :=
  if condition then events ++ [event] else events

/-- The availability event of `diff_snapshots`, if any. -/
def availabilityEvents (previousAvailability current : Availability) : List EventType :=
  if previousAvailability = .outOfStock ∧ (current = .available ∨ current = .lowStock) then
    [.stockAvailable]
  else if (previousAvailability = .available ∨ previousAvailability = .lowStock) ∧
      current = .outOfStock then
    [.outOfStock]
  else if previousAvailability = .available ∧ current = .lowStock then
    [.lowStock]
  else []

/-- `diff_snapshots`. -/
def diffSnapshots (previous : Option Snapshot) (current : ProviderProductResult) :
    List EventType :=
  match previous with
  | none => availabilityEvents .outOfStock current.availability
  | some previous =>
      let events := availabilityEvents previous.availability current.availability
      let events := appendIf (previous.price ≠ current.price) .priceChanged events
      let events := appendIf (∃ label ∈ current.variants, label ∉ previous.variants)
        .newVariant events
      let events := appendIf (previous.etaMinutes ≠ current.etaMinutes) .etaChanged events
      appendIf (previous.storeName ≠ current.storeName) .storeChanged events

/-! ## Readings -/

/-- The fields `diff_snapshots` compares. -/
structure Reading where
  availability : Availability
  price : Option Rat
  etaMinutes : Option Int
  storeName : Option String
  variants : List String
  deriving DecidableEq

/-- What a stored snapshot reads. -/
def Reading.ofSnapshot (snapshot : Snapshot) : Reading :=
  ⟨snapshot.availability, snapshot.price, snapshot.etaMinutes, snapshot.storeName,
    snapshot.variants⟩

/-- What a provider result reads. -/
def Reading.ofResult (result : ProviderProductResult) : Reading :=
  ⟨result.availability, result.price, result.etaMinutes, result.storeName, result.variants⟩

/-- AVAILABLE or LOW_STOCK. -/
def Reading.InStock (reading : Reading) : Prop :=
  reading.availability = .available ∨ reading.availability = .lowStock

instance (reading : Reading) : Decidable reading.InStock :=
  inferInstanceAs (Decidable (_ ∨ _))

/-- Stock as seen through a baseline; without one the product counts as out of
stock. -/
def StockedBefore : Option Reading → Prop
  | none => False
  | some reading => reading.InStock

/-- When an event is due: the baseline against the current reading. -/
def Fires (baseline : Option Reading) (current : Reading) : EventType → Prop
  | .stockAvailable => ¬ StockedBefore baseline ∧ current.InStock
  | .outOfStock => StockedBefore baseline ∧ ¬ current.InStock
  | .lowStock => ∃ before, baseline = some before ∧ before.availability = .available ∧
      current.availability = .lowStock
  | .priceChanged => ∃ before, baseline = some before ∧ before.price ≠ current.price
  | .newVariant => ∃ before, baseline = some before ∧
      ∃ label ∈ current.variants, label ∉ before.variants
  | .etaChanged => ∃ before, baseline = some before ∧ before.etaMinutes ≠ current.etaMinutes
  | .storeChanged => ∃ before, baseline = some before ∧ before.storeName ≠ current.storeName

theorem Reading.not_inStock_iff (reading : Reading) :
    ¬ reading.InStock ↔ reading.availability = .outOfStock := by
  unfold InStock
  cases reading.availability <;> simp

/-! ## What `diffSnapshots` reports -/

theorem mem_appendIf {condition : Prop} [Decidable condition] {event other : EventType}
    {events : List EventType} :
    other ∈ appendIf condition event events ↔ other ∈ events ∨ (condition ∧ other = event) := by
  unfold appendIf
  split <;> simp_all

theorem mem_availabilityEvents {before current : Availability} {event : EventType} :
    event ∈ availabilityEvents before current ↔
      (event = .stockAvailable ∧ before = .outOfStock ∧ current ≠ .outOfStock) ∨
        (event = .outOfStock ∧ before ≠ .outOfStock ∧ current = .outOfStock) ∨
        (event = .lowStock ∧ before = .available ∧ current = .lowStock) := by
  cases before <;> cases current <;> simp [availabilityEvents]

/-- `diff_snapshots` reports exactly the events that are due. -/
theorem mem_diffSnapshots_iff {previous : Option Snapshot} {current : ProviderProductResult}
    {event : EventType} :
    event ∈ diffSnapshots previous current ↔
      Fires (previous.map .ofSnapshot) (.ofResult current) event := by
  have hstock : ∀ availability : Availability, (availability = .available ∨
      availability = .lowStock) ↔ availability ≠ .outOfStock := by
    intro availability
    cases availability <;> simp
  cases previous with
  | none =>
      simp only [diffSnapshots, mem_availabilityEvents]
      cases event <;> simp [Fires, StockedBefore, Reading.InStock, Reading.ofResult, hstock]
  | some previous =>
      simp only [diffSnapshots, mem_appendIf, mem_availabilityEvents]
      cases event <;>
        simp [Fires, StockedBefore, Reading.InStock, Reading.ofResult, Reading.ofSnapshot, hstock]

/-- Adding an event that is not there keeps the list free of repetitions. -/
theorem nodup_appendIf {condition : Prop} [Decidable condition] {event : EventType}
    {events : List EventType} (hevents : events.Nodup) (hfresh : event ∉ events) :
    (appendIf condition event events).Nodup := by
  unfold appendIf
  split
  · exact List.nodup_append.mpr ⟨hevents, List.nodup_singleton _, by
      intro left hleft right hright heq
      rw [List.mem_singleton] at hright
      exact hfresh (hright ▸ heq ▸ hleft)⟩
  · exact hevents

/-- No event type is reported twice. -/
theorem diffSnapshots_nodup (previous : Option Snapshot) (current : ProviderProductResult) :
    (diffSnapshots previous current).Nodup := by
  have hbase : ∀ before now : Availability, (availabilityEvents before now).Nodup := by
    intro before now
    cases before <;> cases now <;> simp [availabilityEvents]
  cases previous with
  | none => exact hbase _ _
  | some previous =>
      simp only [diffSnapshots]
      refine nodup_appendIf (nodup_appendIf (nodup_appendIf (nodup_appendIf (hbase _ _) ?_) ?_)
        ?_) ?_ <;> simp [mem_appendIf, mem_availabilityEvents]

/-- Whether anything fires. -/
def Changed (baseline : Option Reading) (current : Reading) : Prop :=
  ∃ event, Fires baseline current event

theorem diffSnapshots_eq_nil_iff {previous : Option Snapshot} {current : ProviderProductResult} :
    diffSnapshots previous current = [] ↔
      ¬ Changed (previous.map .ofSnapshot) (.ofResult current) := by
  rw [List.eq_nil_iff_forall_not_mem]
  unfold Changed
  push Not
  exact forall_congr' fun event => not_congr mem_diffSnapshots_iff

/-- A reading does not differ from itself: nothing fires against its own baseline. -/
theorem not_changed_self (reading : Reading) : ¬ Changed (some reading) reading := by
  rintro ⟨event, hfires⟩
  cases event with
  | stockAvailable => exact hfires.1 hfires.2
  | outOfStock => exact hfires.2 hfires.1
  | lowStock =>
      obtain ⟨before, hbefore, havailable, hlow⟩ := hfires
      cases hbefore
      rw [havailable] at hlow
      cases hlow
  | newVariant =>
      obtain ⟨before, hbefore, label, hlabel, hmissing⟩ := hfires
      cases hbefore
      exact hmissing hlabel
  | priceChanged | etaChanged | storeChanged =>
      obtain ⟨before, hbefore, hne⟩ := hfires
      cases hbefore
      exact hne rfl

/-- Without a baseline only the arrival of stock is due. -/
theorem fires_none_iff {current : Reading} {event : EventType} :
    Fires none current event ↔ event = .stockAvailable ∧ current.InStock := by
  cases event <;> simp [Fires, StockedBefore]

end StockMonitoring.Application
