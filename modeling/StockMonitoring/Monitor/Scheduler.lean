import StockMonitoring.Application.CheckProtocol
import StockMonitoring.Foundation.Discipline

set_option autoImplicit false

/-!
# Monitor: one tick of the scheduler

`app/monitor/scheduler.py`.  A tick starts one check for every due target:
`asyncio.gather` over the retailers, one semaphore for each retailer, and the
checks of a group behind it.  That is a pool whose group is the retailer slug.
`_check` swallows an exception of its check, so a check that raised is an ended
job like any other.
-/

namespace StockMonitoring.Monitor

open StockMonitoring.Foundation StockMonitoring.Domain StockMonitoring.Application
  StockMonitoring.Infrastructure.Db

/-- The configuration of `monitor/main.py`. -/
structure SchedulerConfig extends MonitorConfig where
  concurrencyPerRetailer : Nat

/-- The checks of one tick. -/
abbrev TickState : Type :=
  PoolState WatchTarget monitorPort Raised (List DetectionEvent) MonitorStore

/-- The pool a tick runs. -/
def tickPool (config : SchedulerConfig) :
    PoolSpec WatchTarget String monitorPort Raised (List DetectionEvent) MonitorStore Reaction :=
  ⟨monitorEffects config.toMonitorConfig, checkWatchTarget, WatchTarget.retailerSlug,
    config.concurrencyPerRetailer⟩

/-- The state of a tick that has listed its due targets. -/
def tickStart (targets : List WatchTarget) (store : MonitorStore) : TickState :=
  PoolSpec.gather targets store

/-- A target a check gets past the registry with. -/
def Checkable (config : SchedulerConfig) (watchTarget : WatchTarget) : Prop :=
  watchTarget.id.isSome = true ∧ watchTarget.retailerSlug ∈ config.factories

/-! ## Checks in progress are checks of checkable targets -/

/-- The registry answers only for the slugs it has a factory for. -/
theorem mem_factories_of_registryGet {config : MonitorConfig} {slug : String}
    {reaction : Reaction} {store : MonitorStore} {answer : Unit}
    (hreply : (respond config (.registryGet slug) reaction store).1 = .ok answer) :
    slug ∈ config.factories := by
  cases reaction with
  | returns found =>
      by_contra hslug
      simp only [respond, work, if_neg hslug] at hreply
      cases hreply
  | raises error => cases hreply
  | raisesAfter error => cases hreply

/-- A check the registry has answered is one of a checkable target. -/
theorem checkable_of_registered {config : SchedulerConfig} {watchTarget : WatchTarget}
    {progress : CheckProgress} {op : MonitorOp} {reaction : Reaction} {store : MonitorStore}
    (hbefore : progress.registered = true → Checkable config watchTarget)
    (hallows : progress.Allows watchTarget op)
    (hregistered : (progress.next op
      (respond config.toMonitorConfig op reaction store).1).registered = true) :
    Checkable config watchTarget := by
  cases hreply : (respond config.toMonitorConfig op reaction store).1 with
  | error error =>
      rw [hreply] at hregistered
      exact hbefore hregistered
  | ok answer =>
      rw [hreply] at hregistered
      cases op with
      | registryGet slug =>
          obtain ⟨hid, rfl⟩ := hallows
          exact ⟨hid, mem_factories_of_registryGet hreply⟩
      | _ => exact hbefore hregistered

/-- What the calls of a tick keep whatever the outside does. -/
def checkableDiscipline (config : SchedulerConfig) :
    Discipline (tickPool config) CheckProgress where
  protocol := checkProtocol
  start _ _ := .start
  global _ := True
  assertion watchTarget progress _ := progress.registered = true → Checkable config watchTarget
  ended _ _ _ := True
  apart _ _ := True
  admits _ _ _ _ := True
  obeys_start watchTarget _ _ := checkWatchTarget_obeys watchTarget
  assertion_start _ _ _ h := by cases h
  respond_own _ _ _ _ _ _ hassertion hallows _ :=
    ⟨trivial, trivial, checkable_of_registered hassertion hallows⟩
  respond_other _ _ _ _ _ _ _ _ _ _ _ _ _ h := h
  respond_ended _ _ _ _ _ _ _ _ _ _ _ _ _ := trivial
  ended_of_post _ _ _ _ _ _ _ := trivial

/-- An awaited call is made only by a check the registry has answered. -/
theorem registered_of_awaits {watchTarget : WatchTarget} {progress : CheckProgress}
    {op : MonitorOp} (hawaits : op.awaits = true) (hallows : progress.Allows watchTarget op) :
    progress.registered = true := by
  cases op with
  | registryGet | now | dispatchDetectionEvent => cases hawaits
  | setLocation | closeLocationPage | searchProduct => exact hallows.2.1
  | getLatest | createSnapshot | createEvent | publish => exact hallows.2
  | markChecked => exact hallows.2.1

/-- Only checks of checkable targets are ever in progress. -/
theorem checkable_of_running {config : SchedulerConfig} {targets : List WatchTarget}
    {store : MonitorStore} {moves : List (Move Reaction)} {state : TickState}
    (hrun : (tickPool config).run (tickStart targets store) moves = some state)
    {watchTarget : WatchTarget} {program : Monitor (List DetectionEvent)}
    (hjob : ⟨watchTarget, .running program⟩ ∈ state.jobs) : Checkable config watchTarget := by
  have hsound : (checkableDiscipline config).Sound state := by
    refine Discipline.sound_run (fun _ _ _ _ => trivial) ?_ hrun
    refine Discipline.sound_gather (checkableDiscipline config) trivial ?_
    exact List.pairwise_of_forall fun _ _ => ⟨trivial, trivial⟩
  obtain ⟨progress, hobeys, hassertion⟩ := hsound.jobs _ hjob
  obtain ⟨op, resume, rfl, hawaits⟩ := PoolSpec.suspended_run hrun _ hjob program rfl
  exact hassertion (registered_of_awaits hawaits hobeys.1)

/-! ## Driving a check

The first moves of a check whose calls return, for the runs that show what the
event loop may do. -/

/-- A check that has found nothing and marks its target. -/
def marking (id : Nat) (checkedAt : Datetime) : Monitor (List DetectionEvent) := do
  ask (.markChecked id checkedAt)
  pure []

/-- A check at its search. -/
def searching (watchTarget : WatchTarget) (id : Nat) : Monitor (List DetectionEvent) := do
  let results ← ask (.searchProduct watchTarget.retailerSlug watchTarget.keyword)
  checkResults id results

/-- A check that has set its location. -/
def closing (watchTarget : WatchTarget) (id : Nat) : Monitor (List DetectionEvent) :=
  (ask (.closeLocationPage watchTarget.retailerSlug) >>= fun _ => pure ()) >>= fun _ =>
    searching watchTarget id

/-- A check the registry has answered. -/
def settingLocation (watchTarget : WatchTarget) (id : Nat) : Monitor (List DetectionEvent) := do
  initializeProvider watchTarget.retailerSlug ⟨watchTarget.city, watchTarget.pincode⟩
  searching watchTarget id

section Drive

variable {config : SchedulerConfig} {state : TickState} {index id : Nat}
  {watchTarget : WatchTarget}

/-- The check enters its semaphore and sets its location. -/
theorem step_start_check (hid : watchTarget.id = some id)
    (hslug : watchTarget.retailerSlug ∈ config.factories)
    (hjob : state.jobs[index]? = some ⟨watchTarget, .waiting⟩)
    (hroom : (tickPool config).inProgress state.jobs watchTarget.retailerSlug <
      config.concurrencyPerRetailer) :
    (tickPool config).step state (.start index [.returns []]) =
      some (PoolSpec.place state index watchTarget
        (settingLocation watchTarget id, state.store)) := by
  apply PoolSpec.step_start hjob hroom
  have hregistry : respond config.toMonitorConfig (.registryGet watchTarget.retailerSlug)
      (.returns []) state.store = (.ok (), state.store) := by
    simp only [respond, work, if_pos hslug]
  have hawaits : (monitorEffects config.toMonitorConfig).awaits
      (.registryGet watchTarget.retailerSlug) = false := rfl
  have hcheck : checkWatchTarget watchTarget =
      (ask (.registryGet watchTarget.retailerSlug) >>= fun _ =>
        settingLocation watchTarget id) := by
    unfold checkWatchTarget
    rw [hid]
    rfl
  change advance (monitorEffects config.toMonitorConfig) (checkWatchTarget watchTarget) _ _ = _
  rw [hcheck]
  unfold ask Co.perform
  rw [Co.call_bind, advance_of_not_awaits hawaits]
  have hrespond : (monitorEffects config.toMonitorConfig).respond
      (.registryGet watchTarget.retailerSlug) (.returns []) state.store =
        (.ok (), state.store) := hregistry
  rw [hrespond]
  exact advance_of_awaits rfl _ state.store

/-- The store once a check has set its location. -/
def withLocation (store : MonitorStore) (watchTarget : WatchTarget) : MonitorStore :=
  { store with
    location := Function.update store.location watchTarget.retailerSlug
      (some ⟨watchTarget.city, watchTarget.pincode⟩) }

/-- The location is set and the page is being closed. -/
theorem step_located
    (hjob : state.jobs[index]? = some ⟨watchTarget, .running (settingLocation watchTarget id)⟩) :
    (tickPool config).step state (.resume index (.returns []) []) =
      some (PoolSpec.place state index watchTarget
        (closing watchTarget id, withLocation state.store watchTarget)) := by
  have hclosing : advance (tickPool config).effects (closing watchTarget id) []
      (withLocation state.store watchTarget) =
        some (closing watchTarget id, withLocation state.store watchTarget) :=
    advance_of_awaits rfl _ _
  exact PoolSpec.step_resume hjob hclosing

/-- The page is closed and the search begins. -/
theorem step_closed
    (hjob : state.jobs[index]? = some ⟨watchTarget, .running (closing watchTarget id)⟩) :
    (tickPool config).step state (.resume index (.returns []) []) =
      some (PoolSpec.place state index watchTarget (searching watchTarget id, state.store)) := by
  have hsearching : advance (tickPool config).effects (searching watchTarget id) [] state.store =
      some (searching watchTarget id, state.store) := advance_of_awaits rfl _ _
  exact PoolSpec.step_resume hjob hsearching

/-- The search finds nothing and the target is being marked. -/
theorem step_searched
    (hjob : state.jobs[index]? = some ⟨watchTarget, .running (searching watchTarget id)⟩) :
    (tickPool config).step state (.resume index (.returns []) [.returns []]) =
      some (PoolSpec.place state index watchTarget
        (marking id state.store.clock, state.store)) := by
  have hmarking : advance (tickPool config).effects (marking id state.store.clock) []
      state.store = some (marking id state.store.clock, state.store) := advance_of_awaits rfl _ _
  have hresults : advance (tickPool config).effects (checkResults id []) [.returns []]
      state.store = some (marking id state.store.clock, state.store) := hmarking
  exact PoolSpec.step_resume hjob hresults

/-- A waiting check with room can be brought to set its location and to wait for
the page to close. -/
theorem exists_closing (hid : watchTarget.id = some id)
    (hslug : watchTarget.retailerSlug ∈ config.factories)
    (hjob : state.jobs[index]? = some ⟨watchTarget, .waiting⟩)
    (hroom : (tickPool config).inProgress state.jobs watchTarget.retailerSlug <
      config.concurrencyPerRetailer) :
    (tickPool config).run state [.start index [.returns []], .resume index (.returns []) []] =
      some (PoolSpec.place state index watchTarget
        (closing watchTarget id, withLocation state.store watchTarget)) := by
  have hset := PoolSpec.place_self watchTarget (settingLocation watchTarget id, state.store) hjob
  rw [PoolSpec.run_cons, step_start_check hid hslug hjob hroom, Option.bind_some,
    PoolSpec.run_cons, step_located hset, Option.bind_some, PoolSpec.place_place]
  rfl

/-- It can further be brought to mark its target. -/
theorem exists_marking (hid : watchTarget.id = some id)
    (hslug : watchTarget.retailerSlug ∈ config.factories)
    (hjob : state.jobs[index]? = some ⟨watchTarget, .waiting⟩)
    (hroom : (tickPool config).inProgress state.jobs watchTarget.retailerSlug <
      config.concurrencyPerRetailer) :
    ∃ moves store checkedAt, (tickPool config).run state moves =
      some (PoolSpec.place state index watchTarget (marking id checkedAt, store)) := by
  let located := withLocation state.store watchTarget
  have hclosing := PoolSpec.place_self watchTarget (closing watchTarget id, located) hjob
  have hsearching := PoolSpec.place_self watchTarget (searching watchTarget id, located) hjob
  refine ⟨[.start index [.returns []], .resume index (.returns []) []] ++
    [.resume index (.returns []) [], .resume index (.returns []) [.returns []]], located,
    located.clock, ?_⟩
  rw [PoolSpec.run_append, exists_closing hid hslug hjob hroom, Option.bind_some,
    PoolSpec.run_cons, step_closed hclosing, Option.bind_some, PoolSpec.place_place,
    PoolSpec.store_place,
    PoolSpec.run_cons, step_searched hsearching, Option.bind_some, PoolSpec.place_place]
  rfl

end Drive

/-! ## Two checks in progress -/

/-- Whether the semaphores let the checks of two targets be in progress together. -/
def MayOverlap (config : SchedulerConfig) (left right : WatchTarget) : Prop :=
  if left.retailerSlug = right.retailerSlug then 2 ≤ config.concurrencyPerRetailer
  else 1 ≤ config.concurrencyPerRetailer

theorem MayOverlap.one_le {config : SchedulerConfig} {left right : WatchTarget}
    (hoverlap : MayOverlap config left right) : 1 ≤ config.concurrencyPerRetailer := by
  unfold MayOverlap at hoverlap
  split at hoverlap <;> omega

theorem MayOverlap.two_le {config : SchedulerConfig} {left right : WatchTarget}
    (hoverlap : MayOverlap config left right) (hslug : left.retailerSlug = right.retailerSlug) :
    2 ≤ config.concurrencyPerRetailer := by
  unfold MayOverlap at hoverlap
  rw [if_pos hslug] at hoverlap
  exact hoverlap

section TwoChecks

variable {config : SchedulerConfig} {leftTarget rightTarget : WatchTarget}

/-- The first of two checks finds its semaphore free. -/
theorem first_has_room (hoverlap : MayOverlap config leftTarget rightTarget)
    (targets : List WatchTarget) (store : MonitorStore) :
    (tickPool config).inProgress (tickStart targets store).jobs leftTarget.retailerSlug <
      config.concurrencyPerRetailer := by
  have hnone : (tickPool config).inProgress (tickStart targets store).jobs
      leftTarget.retailerSlug = 0 := PoolSpec.inProgress_gather targets store _
  rw [hnone]
  exact hoverlap.one_le

/-- The second may start while the first is in progress. -/
theorem second_may_start (hoverlap : MayOverlap config leftTarget rightTarget)
    {targets : List WatchTarget} {store : MonitorStore} {left right : Nat} (hne : left ≠ right)
    (hleft : (tickStart targets store).jobs[left]? = some ⟨leftTarget, .waiting⟩)
    (hright : (tickStart targets store).jobs[right]? = some ⟨rightTarget, .waiting⟩)
    (reached : Monitor (List DetectionEvent) × MonitorStore) :
    (PoolSpec.place (tickStart targets store) left leftTarget reached).jobs[right]? =
        some ⟨rightTarget, .waiting⟩ ∧
      (tickPool config).inProgress
        (PoolSpec.place (tickStart targets store) left leftTarget reached).jobs
        rightTarget.retailerSlug < config.concurrencyPerRetailer := by
  have hidle : ∀ slug, (tickPool config).inProgress (tickStart targets store).jobs slug = 0 :=
    fun slug => PoolSpec.inProgress_gather targets store slug
  exact ⟨(PoolSpec.place_of_ne _ hne leftTarget reached).trans hright,
    PoolSpec.inProgress_place_lt hidle hleft reached hoverlap.one_le hoverlap.two_le⟩

/-- Two checks in progress are checks of targets that may overlap. -/
theorem mayOverlap_of_running {targets : List WatchTarget} {store : MonitorStore}
    {moves : List (Move Reaction)} {state : TickState}
    (hrun : (tickPool config).run (tickStart targets store) moves = some state)
    {left right : Nat} (hne : left ≠ right)
    {leftProgram rightProgram : Monitor (List DetectionEvent)}
    (hleft : state.jobs[left]? = some ⟨leftTarget, .running leftProgram⟩)
    (hright : state.jobs[right]? = some ⟨rightTarget, .running rightProgram⟩) :
    MayOverlap config leftTarget rightTarget := by
  have hlimit := fun slug => PoolSpec.inProgress_run_gather hrun slug
  unfold MayOverlap
  split
  · rename_i hslug
    exact PoolSpec.one_lt_limit hlimit hne hleft hright hslug
  · have hcounted : 0 < (tickPool config).inProgress state.jobs leftTarget.retailerSlug :=
      List.countP_pos_iff.mpr ⟨_, List.mem_of_getElem? hleft, by
        simp [Status.isRunning, tickPool]⟩
    exact Nat.lt_of_lt_of_le hcounted (hlimit leftTarget.retailerSlug)

end TwoChecks

/-! ## Two due targets of one retailer -/

/-- The wiring of `monitor/main.py`. -/
def mainConfig : SchedulerConfig :=
  { factories := ["blinkit", "zepto", "instamart", "bigbasket"]
    tie := fun key => key
    concurrencyPerRetailer := 4 }

/-- A due target in Delhi. -/
def delhiMilk : WatchTarget := ⟨some 1, "blinkit", "Delhi", "110001", "milk", 60⟩

/-- The same product in Mumbai. -/
def mumbaiMilk : WatchTarget := ⟨some 2, "blinkit", "Mumbai", "400001", "milk", 60⟩

/-- A store without rows. -/
def emptyStore : MonitorStore := ⟨.empty, 0, fun _ => none, [], [], []⟩

end StockMonitoring.Monitor
