import StockMonitoring.Monitor.Scheduler

set_option autoImplicit false

/-!
# Monitor: the one provider of a retailer

The registry caches one provider for each retailer, and all checks of the tick
share its delivery location.  `initialize` and `search_product` are separate
awaited calls, so another check of the retailer can set its own location between
a check's two.

Every search runs at its own target's location exactly when the semaphore admits
one check at a time or the checkable targets of a retailer all have one location
(`searches_at_own_location_iff`).
-/

namespace StockMonitoring.Monitor

open StockMonitoring.Foundation StockMonitoring.Domain StockMonitoring.Application

/-- The location a check initializes its provider with. -/
def locationOf (watchTarget : WatchTarget) : LocationContext :=
  ⟨watchTarget.city, watchTarget.pincode⟩

/-- Whenever a check of a tick calls `search_product`, the location last set on
that provider is its own. -/
def SearchesAtOwnLocation (config : SchedulerConfig) (targets : List WatchTarget)
    (store : MonitorStore) : Prop :=
  ∀ moves state move next watchTarget slug keyword resume,
    (tickPool config).run (tickStart targets store) moves = some state →
    (tickPool config).step state move = some next →
    next.jobs[move.index]? =
      some ⟨watchTarget, .running (.call (.searchProduct slug keyword) resume)⟩ →
    next.store.location slug = some (locationOf watchTarget)

/-- Two checkable targets of a retailer that differ in their location are not
checked together. -/
def KeepsLocation (config : SchedulerConfig) (left right : WatchTarget) : Prop :=
  Checkable config left → Checkable config right → left.retailerSlug = right.retailerSlug →
    locationOf left ≠ locationOf right → config.concurrencyPerRetailer < 2

theorem KeepsLocation.symm {config : SchedulerConfig} {left right : WatchTarget}
    (hkeeps : KeepsLocation config left right) : KeepsLocation config right left := by
  intro hright hleft hslug hlocation
  exact hkeeps hleft hright hslug.symm hlocation.symm

/-! ## The invariant -/

/-- What a check knows while it is in progress: its target is checkable, and once
it has set the location, the provider is there. -/
structure AtLocation (config : SchedulerConfig) (watchTarget : WatchTarget)
    (progress : CheckProgress) (store : MonitorStore) : Prop where
  checkable : progress.registered = true → Checkable config watchTarget
  order : progress.located = true → progress.registered = true
  location : progress.located = true →
    store.location watchTarget.retailerSlug = some (locationOf watchTarget)

/-- Only `setLocation` moves a location. -/
theorem location_work {config : MonitorConfig} {found : List ProviderProductResult}
    {op : MonitorOp} {store : MonitorStore} {slug : String}
    (hop : ∀ location, op ≠ .setLocation slug location) :
    (work config found op store).2.location slug = store.location slug := by
  cases op with
  | setLocation other location =>
      have hne : slug ≠ other := by
        rintro rfl
        exact hop location rfl
      exact Function.update_of_ne hne _ _
  | registryGet other =>
      simp only [work]
      split <;> rfl
  | _ => rfl

theorem location_respond {config : MonitorConfig} {op : MonitorOp} {reaction : Reaction}
    {store : MonitorStore} {slug : String} (hop : ∀ location, op ≠ .setLocation slug location) :
    (respond config op reaction store).2.location slug = store.location slug := by
  cases reaction with
  | returns found => exact location_work hop
  | raises error => rfl
  | raisesAfter error => exact location_work hop

/-- A `setLocation` leaves the location it set, or, having raised, the one before. -/
theorem location_setLocation (config : MonitorConfig) (slug : String) (location : LocationContext)
    (reaction : Reaction) (store : MonitorStore) :
    (respond config (.setLocation slug location) reaction store).2.location slug =
        some location ∨
      (respond config (.setLocation slug location) reaction store).2.location slug =
        store.location slug := by
  cases reaction with
  | returns found => exact Or.inl (Function.update_self ..)
  | raises error => exact Or.inr rfl
  | raisesAfter error => exact Or.inl (Function.update_self ..)

/-- A check's own call keeps what it knows. -/
theorem AtLocation.own {config : SchedulerConfig} {watchTarget : WatchTarget}
    {progress : CheckProgress} {store : MonitorStore}
    (hat : AtLocation config watchTarget progress store) {op : MonitorOp}
    (hallows : progress.Allows watchTarget op) (reaction : Reaction) :
    AtLocation config watchTarget
      (progress.next op (respond config.toMonitorConfig op reaction store).1)
      (respond config.toMonitorConfig op reaction store).2 := by
  refine ⟨checkable_of_registered hat.checkable hallows, ?_, ?_⟩
  · cases hreply : (respond config.toMonitorConfig op reaction store).1 with
    | error error => exact hat.order
    | ok answer =>
        cases op with
        | registryGet slug => exact fun _ => rfl
        | setLocation slug location => exact fun _ => hallows.2.1
        | _ => exact hat.order
  · cases op with
    | setLocation slug location =>
        obtain ⟨_, _, rfl, rfl⟩ := hallows
        cases reaction with
        | returns found => exact fun _ => Function.update_self ..
        | raises error => exact hat.location
        | raisesAfter error => exact fun _ => Function.update_self ..
    | _ =>
        rw [location_respond (fun location h => by cases h)]
        cases (respond config.toMonitorConfig _ reaction store).1 <;> exact hat.location

/-- Another check's call keeps it too: one that sets the location of the same
provider belongs to a target with the same location. -/
theorem AtLocation.other {config : SchedulerConfig} {watchTarget other : WatchTarget}
    {progress otherProgress : CheckProgress} {store : MonitorStore}
    (hat : AtLocation config watchTarget progress store) {op : MonitorOp}
    (hallows : progress.Allows watchTarget op) (hapart : KeepsLocation config watchTarget other)
    (hlimit : watchTarget.retailerSlug = other.retailerSlug → 1 < config.concurrencyPerRetailer)
    (hother : AtLocation config other otherProgress store) (reaction : Reaction) :
    AtLocation config other otherProgress
      (respond config.toMonitorConfig op reaction store).2 := by
  refine ⟨hother.checkable, hother.order, ?_⟩
  intro hlocated
  have hthere := hother.location hlocated
  by_cases hset : ∃ location, op = .setLocation other.retailerSlug location
  · obtain ⟨location, rfl⟩ := hset
    obtain ⟨_, hregistered, hslug, rfl⟩ := hallows
    have hsame : locationOf watchTarget = locationOf other := by
      by_contra hdifferent
      have hone := hapart (hat.checkable hregistered)
        (hother.checkable (hother.order hlocated)) hslug.symm hdifferent
      have htwo := hlimit hslug.symm
      omega
    rcases location_setLocation config.toMonitorConfig other.retailerSlug
      (locationOf watchTarget) reaction store with hset | hkept
    · rw [← hsame]
      exact hset
    · exact hkept.trans hthere
  · rw [location_respond (fun location h => hset ⟨location, h⟩)]
    exact hthere

/-- What the calls of a tick keep of the locations, when targets that differ in
their location are kept apart. -/
def locationDiscipline (config : SchedulerConfig) :
    Discipline (tickPool config) CheckProgress where
  protocol := checkProtocol
  start _ _ := .start
  global _ := True
  assertion := AtLocation config
  ended _ _ _ := True
  apart := KeepsLocation config
  admits _ _ _ _ := True
  obeys_start watchTarget _ _ := checkWatchTarget_obeys watchTarget
  assertion_start _ _ _ := ⟨fun h => (by cases h), fun h => (by cases h), fun h => (by cases h)⟩
  respond_own _ _ reaction _ _ _ hat hallows _ := ⟨trivial, trivial, hat.own hallows reaction⟩
  respond_other _ _ _ reaction _ _ _ _ hat hallows _ hapart hlimit hother :=
    hat.other hallows hapart hlimit hother reaction
  respond_ended _ _ _ _ _ _ _ _ _ _ _ _ _ := trivial
  ended_of_post _ _ _ _ _ _ _ := trivial

section SharedProvider

variable {config : SchedulerConfig} {targets : List WatchTarget} {store : MonitorStore}

/-- With the targets kept apart, a check at its search is at its own location. -/
theorem searches_at_own_location (hkeeps : targets.Pairwise (KeepsLocation config)) :
    SearchesAtOwnLocation config targets store := by
  intro moves state move next watchTarget slug keyword resume hrun hstep hjob
  have hstart : (locationDiscipline config).Sound (tickStart targets store) := by
    refine Discipline.sound_gather (locationDiscipline config) trivial ?_
    exact hkeeps.imp fun h => ⟨h, h.symm⟩
  have hnext : (tickPool config).run (tickStart targets store) (moves ++ [move]) = some next := by
    rw [PoolSpec.run_append, hrun, Option.bind_some, PoolSpec.run_cons, hstep]
    rfl
  have hsound := Discipline.sound_run (fun _ _ _ _ => trivial) hstart hnext
  obtain ⟨progress, hobeys, hat⟩ := hsound.jobs _ (List.mem_of_getElem? hjob)
  obtain ⟨_, _, hlocated, hslug, _⟩ := hobeys.1
  rw [hslug]
  exact hat.location hlocated

/-- Without that, one of two checks searches where the other has set the
provider. -/
theorem exists_search_elsewhere (store : MonitorStore) {left right : Nat}
    {leftTarget rightTarget : WatchTarget} (hbefore : left < right)
    (hleft : targets[left]? = some leftTarget) (hright : targets[right]? = some rightTarget)
    (hleftCheckable : Checkable config leftTarget)
    (hrightCheckable : Checkable config rightTarget)
    (hslug : leftTarget.retailerSlug = rightTarget.retailerSlug)
    (hlocation : locationOf leftTarget ≠ locationOf rightTarget)
    (hlimit : 2 ≤ config.concurrencyPerRetailer) :
    ¬ SearchesAtOwnLocation config targets store := by
  obtain ⟨leftId, hleftId⟩ := Option.isSome_iff_exists.mp hleftCheckable.1
  obtain ⟨rightId, hrightId⟩ := Option.isSome_iff_exists.mp hrightCheckable.1
  have hoverlap : MayOverlap config leftTarget rightTarget := by
    unfold MayOverlap
    rw [if_pos hslug]
    exact hlimit
  have hleftStart : (tickStart targets store).jobs[left]? = some ⟨leftTarget, .waiting⟩ :=
    PoolSpec.gather_getElem? hleft
  have hleftRun := exists_closing hleftId hleftCheckable.2 hleftStart
    (first_has_room hoverlap targets store)
  let leftReached := (closing leftTarget leftId, withLocation store leftTarget)
  let middle := PoolSpec.place (tickStart targets store) left leftTarget leftReached
  obtain ⟨hrightWaiting, hrightRoom⟩ := second_may_start hoverlap (Nat.ne_of_lt hbefore) hleftStart
    (PoolSpec.gather_getElem? hright) leftReached
  have hrightRun := exists_closing hrightId hrightCheckable.2 hrightWaiting hrightRoom
  let both := PoolSpec.place middle right rightTarget
    (closing rightTarget rightId, withLocation middle.store rightTarget)
  have hleftJob : both.jobs[left]? = some ⟨leftTarget, .running (closing leftTarget leftId)⟩ :=
    (PoolSpec.place_of_ne middle (Nat.ne_of_gt hbefore) rightTarget _).trans
      (PoolSpec.place_self leftTarget _ hleftStart)
  have hrun : (tickPool config).run (tickStart targets store)
      ([.start left [.returns []], .resume left (.returns []) []] ++
        [.start right [.returns []], .resume right (.returns []) []]) = some both := by
    rw [PoolSpec.run_append, hleftRun, Option.bind_some]
    exact hrightRun
  have hsearching := PoolSpec.place_self leftTarget (searching leftTarget leftId, both.store)
    hleftJob
  intro hown
  have hhere := hown _ both _ _ leftTarget leftTarget.retailerSlug leftTarget.keyword _ hrun
    (step_closed hleftJob) hsearching
  -- the right check was the last to set the location
  have hthere : both.store.location leftTarget.retailerSlug = some (locationOf rightTarget) := by
    rw [hslug]
    exact Function.update_self ..
  have hsame : some (locationOf leftTarget) = some (locationOf rightTarget) :=
    hhere.symm.trans hthere
  exact hlocation (Option.some.inj hsame)

/-- Every search runs at its own target's location exactly when no two checkable
targets of one retailer with different locations may be checked together. -/
theorem searches_at_own_location_iff (config : SchedulerConfig) (targets : List WatchTarget)
    (store : MonitorStore) :
    SearchesAtOwnLocation config targets store ↔ targets.Pairwise (KeepsLocation config) := by
  constructor
  · intro hown
    apply List.pairwise_iff_getElem.mpr
    intro left right hlt hlt' hbefore hleft hright hslug hlocation
    by_contra hlimit
    exact exists_search_elsewhere store hbefore (List.getElem?_eq_getElem hlt)
      (List.getElem?_eq_getElem hlt') hleft hright hslug hlocation (by omega) hown
  · exact searches_at_own_location

/-- The Delhi check sets its location, the Mumbai check sets its own, and then the
Delhi check calls `search_product`. -/
theorem delhi_check_searches_mumbai :
    ¬ SearchesAtOwnLocation mainConfig [delhiMilk, mumbaiMilk] emptyStore := by
  intro hown
  have hdelhi := hown [.start 0 [.returns []], .resume 0 (.returns []) [],
    .start 1 [.returns []], .resume 1 (.returns []) []] _ (.resume 0 (.returns []) []) _
    delhiMilk "blinkit" "milk" _ rfl rfl rfl
  have hmumbai : some (locationOf mumbaiMilk) = some (locationOf delhiMilk) := hdelhi
  exact absurd hmumbai (by decide)

end SharedProvider

end StockMonitoring.Monitor
