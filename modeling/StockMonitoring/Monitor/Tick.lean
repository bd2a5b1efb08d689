import StockMonitoring.Foundation.Calls
import StockMonitoring.Foundation.Gather
import StockMonitoring.Monitor.Scheduler

set_option autoImplicit false

/-!
# Monitor: what a tick returns

`Scheduler.tick` and `_run_retailer_group`, with whatever the monitoring service does in
a check.  The due targets are grouped by retailer, the groups gathered, and the checks of
a group gathered behind its semaphore; the results come back in the order in which the
checks were created.  `_check` turns an exception of its check into an empty list, so
nothing is left that a gather could raise (`tick_checks_each_target_once`).
-/

namespace StockMonitoring.Monitor

open StockMonitoring.Foundation StockMonitoring.Domain StockMonitoring.Application
  StockMonitoring.Infrastructure.Db

/-! ## The tick -/

/-- A `Scheduler`: its monitoring service and its bound. -/
structure Scheduler (σ : Signature) (S C : Type) where
  effects : Effects σ Raised S C
  checkWatchTarget : WatchTarget → Co σ Raised (List DetectionEvent)
  concurrencyPerRetailer : Nat

/-- The pool its tick runs. -/
def Scheduler.pool {σ : Signature} {S C : Type} (scheduler : Scheduler σ S C) :
    PoolSpec WatchTarget String σ Raised (List DetectionEvent) S C :=
  ⟨scheduler.effects, scheduler.checkWatchTarget, WatchTarget.retailerSlug,
    scheduler.concurrencyPerRetailer⟩

/-- `by_retailer`. -/
def byRetailer (dueTargets : List WatchTarget) : List (String × List WatchTarget) :=
  grouped WatchTarget.retailerSlug dueTargets

/-- The targets of the checks in the order of their creation, group by group. -/
def checksOf (dueTargets : List WatchTarget) : List WatchTarget :=
  (byRetailer dueTargets).flatMap Prod.snd

/-- What `_check` makes of the end of its check. -/
def checkReturns : Except Raised (List DetectionEvent) → Except Raised (List DetectionEvent)
  | .ok events => .ok events
  | .error _ => .ok []

/-- `_run_retailer_group`, from the ends of its checks. -/
def runRetailerGroup (ends : List (Except Raised (List DetectionEvent))) :
    Except Raised (List DetectionEvent) := do
  let checkResults ← gathered (ends.map checkReturns)
  pure checkResults.flatten

/-- `tick`, from the ends of the checks it has created. -/
def tickReturns (dueTargets : List WatchTarget)
    (ends : List (Except Raised (List DetectionEvent))) :
    Except Raised (List DetectionEvent) := do
  let groups := (byRetailer dueTargets).map Prod.snd
  let groupResults ← gathered
    (((groups.map List.length).splitLengths ends).map runRetailerGroup)
  pure groupResults.flatten

section Tick

variable {σ : Signature} {S C : Type}

/-- How a check has ended. -/
def endOf (job : Job WatchTarget σ Raised (List DetectionEvent)) :
    Option (Except Raised (List DetectionEvent)) :=
  match job.status with
  | .finished result => some result
  | _ => none

/-- What `tick` has returned or raised, once all its checks have ended. -/
def tick (dueTargets : List WatchTarget)
    (state : PoolState WatchTarget σ Raised (List DetectionEvent) S) :
    Option (Except Raised (List DetectionEvent)) :=
  (state.jobs.mapM endOf).map (tickReturns dueTargets)

/-- The targets whose checks have been started, in the order of their starts. -/
def checked (dueTargets : List WatchTarget) (moves : List (Move C)) : List WatchTarget :=
  (PoolSpec.started moves).filterMap ((checksOf dueTargets)[·]?)

/-- A target was checked: the calls the tick has made for one of its checks are a whole run
of `check_watch_target` for the target, which ended with `result`. -/
def ChecksTarget (scheduler : Scheduler σ S C) (dueTargets : List WatchTarget) (store : S)
    (moves : List (Move C)) (state : PoolState WatchTarget σ Raised (List DetectionEvent) S)
    (target : WatchTarget) (result : Except Raised (List DetectionEvent)) : Prop :=
  ∃ index, state.jobs[index]? = some ⟨target, .finished result⟩ ∧
    let calls := scheduler.pool.callsOf index (PoolSpec.gather (checksOf dueTargets) store) moves
    (scheduler.checkWatchTarget target).Leads calls (.ofExcept result) ∧
      ∀ call ∈ calls, Answered scheduler.effects call

/-! ## What it is for -/

/-- The events of a check that has not raised. -/
def eventsOf : Except Raised (List DetectionEvent) → List DetectionEvent
  | .ok events => events
  | .error _ => []

/-- The events of the due targets: the retailers in the order in which they first appear, the
targets of a retailer in the order in which they are due. -/
def eventsInOrder (dueTargets : List WatchTarget)
    (outcome : WatchTarget → Except Raised (List DetectionEvent)) : List DetectionEvent :=
  (dueTargets.map WatchTarget.retailerSlug).eraseDups.flatMap fun slug =>
    (dueTargets.filter fun target => target.retailerSlug == slug).flatMap fun target =>
      eventsOf (outcome target)

/-- No two checks of one target are in progress. -/
def NoOverlap (jobs : List (Job WatchTarget σ Raised (List DetectionEvent))) : Prop :=
  jobs.Pairwise fun left right => left.status.isRunning = true → right.status.isRunning = true →
    left.key.id ≠ right.key.id

/-! ## Results in order -/

/-- A group does not raise, however its checks have ended. -/
theorem runRetailerGroup_eq (ends : List (Except Raised (List DetectionEvent))) :
    runRetailerGroup ends = .ok (ends.flatMap eventsOf) := by
  have hchecks : ends.map checkReturns = ends.map fun result => .ok (eventsOf result) := by
    refine List.map_congr_left fun result _ => ?_
    cases result <;> rfl
  unfold runRetailerGroup
  rw [hchecks, gathered_map_ok]
  rfl

/-- Neither does a tick once its targets are listed. -/
theorem tickReturns_eq (dueTargets : List WatchTarget)
    (ends : List (Except Raised (List DetectionEvent))) :
    tickReturns dueTargets ends =
      .ok (((((byRetailer dueTargets).map Prod.snd).map List.length).splitLengths ends).map
        (List.flatMap eventsOf)).flatten := by
  change (gathered (((((byRetailer dueTargets).map Prod.snd).map List.length).splitLengths
    ends).map runRetailerGroup) >>= fun groupResults => pure groupResults.flatten) = _
  rw [List.map_congr_left fun group _ => runRetailerGroup_eq group, gathered_map_ok]
  rfl

/-- A tick does not raise, and its events come in order. -/
theorem tickReturns_map (dueTargets : List WatchTarget)
    (outcome : WatchTarget → Except Raised (List DetectionEvent)) :
    tickReturns dueTargets ((checksOf dueTargets).map outcome) =
      .ok (eventsInOrder dueTargets outcome) := by
  let groups := (byRetailer dueTargets).map Prod.snd
  have hgroups : groups = (dueTargets.map WatchTarget.retailerSlug).eraseDups.map fun slug =>
      dueTargets.filter fun target => target.retailerSlug == slug := by
    simp only [groups, byRetailer, grouped_eq, List.map_map]
    rfl
  have hsplit : (groups.map List.length).splitLengths ((checksOf dueTargets).map outcome) =
      groups.map fun group => group.map outcome := splitLengths_map_flatten outcome groups
  have hevents : List.flatMap eventsOf ∘ (fun group : List WatchTarget => group.map outcome) =
      fun group => group.flatMap fun target => eventsOf (outcome target) :=
    funext fun group => List.flatMap_map ..
  rw [tickReturns_eq]
  change Except.ok (((groups.map List.length).splitLengths
    ((checksOf dueTargets).map outcome)).map (List.flatMap eventsOf)).flatten = _
  rw [hsplit, List.map_map, hevents, hgroups, List.map_map]
  rfl

/-! ## The ends of the checks -/

theorem endOf_eq_some_iff {job : Job WatchTarget σ Raised (List DetectionEvent)}
    {result : Except Raised (List DetectionEvent)} :
    endOf job = some result ↔ job.status = .finished result := by
  unfold endOf
  cases job.status <;> simp

/-- Once all checks have ended, each has its own end. -/
theorem exists_outcome {jobs : List (Job WatchTarget σ Raised (List DetectionEvent))}
    {ends : List (Except Raised (List DetectionEvent))} (hends : jobs.mapM endOf = some ends)
    (hdistinct : (jobs.map Job.key).Nodup) :
    ∃ outcome : WatchTarget → Except Raised (List DetectionEvent),
      (∀ job ∈ jobs, job.status = .finished (outcome job.key)) ∧
        ends = (jobs.map Job.key).map outcome := by
  induction jobs generalizing ends with
  | nil =>
      cases hends
      exact ⟨fun _ => .ok [], fun job hjob => (by cases hjob), rfl⟩
  | cons job rest ih =>
      obtain ⟨hnew, hrest⟩ := List.nodup_cons.mp hdistinct
      rw [List.mapM_cons] at hends
      obtain ⟨result, hresult, hends⟩ := Option.bind_eq_some_iff.mp hends
      obtain ⟨later, hlater, hends⟩ := Option.bind_eq_some_iff.mp hends
      cases hends
      obtain ⟨outcome, hjobs, rfl⟩ := ih hlater hrest
      have hkeep : ∀ key ∈ rest.map Job.key, Function.update outcome job.key result key =
          outcome key := by
        intro key hkey
        refine Function.update_of_ne ?_ _ _
        rintro rfl
        exact hnew hkey
      refine ⟨Function.update outcome job.key result, ?_, ?_⟩
      · intro other hother
        rcases List.mem_cons.mp hother with rfl | hin
        · rw [Function.update_self]
          exact endOf_eq_some_iff.mp hresult
        · rw [hkeep _ (List.mem_map_of_mem hin)]
          exact hjobs other hin
      · rw [List.map_cons, List.map_cons, Function.update_self, List.map_congr_left hkeep]

theorem isSome_mapM_endOf (jobs : List (Job WatchTarget σ Raised (List DetectionEvent))) :
    (jobs.mapM endOf).isSome = true ↔ ∀ job ∈ jobs, job.status.isFinished = true := by
  induction jobs with
  | nil => exact ⟨fun _ job hjob => (by cases hjob), fun _ => rfl⟩
  | cons job rest ih =>
      have hjob : (endOf job).isSome = job.status.isFinished := by
        unfold endOf
        cases job.status <;> rfl
      rw [List.forall_mem_cons, ← ih, ← hjob, List.mapM_cons]
      cases endOf job <;> cases rest.mapM endOf <;> simp

/-- A tick returns when its checks have ended. -/
theorem isSome_tick {dueTargets : List WatchTarget}
    {state : PoolState WatchTarget σ Raised (List DetectionEvent) S} :
    (tick dueTargets state).isSome = true ↔ PoolSpec.Ended state := by
  unfold tick
  rw [Option.isSome_map]
  exact isSome_mapM_endOf state.jobs

/-! ## Every run of a tick -/

section Run

variable {scheduler : Scheduler σ S C} {dueTargets : List WatchTarget} {store : S}
  {moves : List (Move C)} {state : PoolState WatchTarget σ Raised (List DetectionEvent) S}

/-- The tick's checks are those of the due targets. -/
theorem checksOf_perm (dueTargets : List WatchTarget) : (checksOf dueTargets).Perm dueTargets :=
  grouped_perm WatchTarget.retailerSlug dueTargets

/-- No check is started twice. -/
theorem checked_subperm [Nonempty C] (hconcurrency : 1 ≤ scheduler.concurrencyPerRetailer)
    (hrun : scheduler.pool.run (PoolSpec.gather (checksOf dueTargets) store) moves = some state) :
    List.Subperm (checked dueTargets moves) dueTargets := by
  obtain ⟨more, last, hmore, hended⟩ :=
    PoolSpec.exists_completion hconcurrency (PoolSpec.suspended_run hrun)
  have hwhole : scheduler.pool.run (PoolSpec.gather (checksOf dueTargets) store) (moves ++ more) =
      some last := by
    rw [PoolSpec.run_append, hrun, Option.bind_some, hmore]
  have hperm := (PoolSpec.started_perm hwhole hended).trans (checksOf_perm dueTargets)
  rw [PoolSpec.started_append, List.filterMap_append] at hperm
  exact (List.sublist_append_left _ _).subperm.trans hperm.subperm

theorem noOverlap_of_run (hids : (dueTargets.map WatchTarget.id).Nodup)
    (hrun : scheduler.pool.run (PoolSpec.gather (checksOf dueTargets) store) moves = some state) :
    NoOverlap state.jobs := by
  have hkeys : state.jobs.map Job.key = checksOf dueTargets :=
    (PoolSpec.keys_run hrun).trans (PoolSpec.keys_gather _ _)
  have hdistinct : (state.jobs.map fun job => job.key.id).Nodup := by
    have hmap : (state.jobs.map fun job => job.key.id) =
        (checksOf dueTargets).map WatchTarget.id := by
      rw [← hkeys, List.map_map]
      rfl
    rw [hmap, ((checksOf_perm dueTargets).map WatchTarget.id).nodup_iff]
    exact hids
  exact (List.pairwise_map.mp hdistinct).imp fun hne _ _ => hne

/-- A check that has ended was a whole run of `check_watch_target`. -/
theorem checksTarget_of_mem
    (hrun : scheduler.pool.run (PoolSpec.gather (checksOf dueTargets) store) moves = some state)
    {target : WatchTarget} {result : Except Raised (List DetectionEvent)}
    (hjob : ⟨target, .finished result⟩ ∈ state.jobs) :
    ChecksTarget scheduler dueTargets store moves state target result := by
  obtain ⟨index, hindex⟩ := List.getElem?_of_mem hjob
  exact ⟨index, hindex, PoolSpec.leads_of_finished hrun hindex,
    fun call hcall => PoolSpec.answered_of_mem_callsOf hcall⟩

/-- In every run of a tick: the semaphores hold, no target is checked twice or by two checks
at once, the checks can be brought to their ends, and by then every due target has been
checked once, by a run of `check_watch_target`, and the tick returns the events of these runs
in order. -/
theorem tick_checks_each_target_once [Nonempty C]
    (hconcurrency : 1 ≤ scheduler.concurrencyPerRetailer)
    (hids : (dueTargets.map WatchTarget.id).Nodup)
    (hrun : scheduler.pool.run (PoolSpec.gather (checksOf dueTargets) store) moves = some state) :
    (∀ slug, scheduler.pool.inProgress state.jobs slug ≤ scheduler.concurrencyPerRetailer) ∧
      NoOverlap state.jobs ∧
      List.Subperm (checked dueTargets moves) dueTargets ∧
      (∃ more last, scheduler.pool.run state more = some last ∧
        (tick dueTargets last).isSome = true) ∧
      ∀ returned, tick dueTargets state = some returned →
        (checked dueTargets moves).Perm dueTargets ∧
          ∃ outcome, (∀ target ∈ dueTargets,
              ChecksTarget scheduler dueTargets store moves state target (outcome target)) ∧
            returned = .ok (eventsInOrder dueTargets outcome) := by
  refine ⟨PoolSpec.inProgress_run_gather hrun, noOverlap_of_run hids hrun,
    checked_subperm hconcurrency hrun, ?_, ?_⟩
  · obtain ⟨more, last, hmore, hended⟩ :=
      PoolSpec.exists_completion hconcurrency (PoolSpec.suspended_run hrun)
    exact ⟨more, last, hmore, isSome_tick.mpr hended⟩
  · intro returned hreturned
    have hended : PoolSpec.Ended state := isSome_tick.mp (by rw [hreturned]; rfl)
    have hkeys : state.jobs.map Job.key = checksOf dueTargets :=
      (PoolSpec.keys_run hrun).trans (PoolSpec.keys_gather _ _)
    have hdistinct : (state.jobs.map Job.key).Nodup := by
      rw [hkeys]
      exact (checksOf_perm dueTargets).nodup_iff.mpr hids.of_map
    obtain ⟨ends, hends, rfl⟩ := Option.map_eq_some_iff.mp hreturned
    obtain ⟨outcome, hjobs, rfl⟩ := exists_outcome hends hdistinct
    rw [hkeys]
    refine ⟨(PoolSpec.started_perm hrun hended).trans (checksOf_perm dueTargets), outcome, ?_,
      tickReturns_map dueTargets outcome⟩
    intro target htarget
    have hkey : target ∈ state.jobs.map Job.key := by
      rw [hkeys]
      exact (checksOf_perm dueTargets).mem_iff.mpr htarget
    obtain ⟨job, hjob, rfl⟩ := List.mem_map.mp hkey
    refine checksTarget_of_mem hrun ?_
    rw [← hjobs job hjob]
    exact hjob

end Run

end Tick

/-- The scheduler of the monitor process. -/
def monitorScheduler (config : SchedulerConfig) : Scheduler monitorPort MonitorStore Reaction :=
  ⟨monitorEffects config.toMonitorConfig, Application.checkWatchTarget,
    config.concurrencyPerRetailer⟩

theorem pool_monitorScheduler (config : SchedulerConfig) :
    (monitorScheduler config).pool = tickPool config := rfl

/-- The check of the first of two targets raises, that of the second finds nothing. -/
def oneFailure : List (Move Reaction) :=
  [.start 0 [.raises .assertionError], .start 1 [.returns []], .resume 1 (.returns []) [],
    .resume 1 (.returns []) [], .resume 1 (.returns []) [.returns []],
    .resume 1 (.returns []) []]

/-- A tick with two due targets, one of whose checks raises, to its end. -/
theorem tick_with_one_failure :
    ∃ state, (monitorScheduler mainConfig).pool.run
        (PoolSpec.gather (checksOf [delhiMilk, mumbaiMilk]) emptyStore) oneFailure = some state ∧
      tick [delhiMilk, mumbaiMilk] state = some (.ok []) ∧
      (∀ slug, (monitorScheduler mainConfig).pool.inProgress state.jobs slug ≤ 4) ∧
      NoOverlap state.jobs ∧
      (checked [delhiMilk, mumbaiMilk] oneFailure).Perm [delhiMilk, mumbaiMilk] ∧
      ∃ outcome, (∀ target ∈ [delhiMilk, mumbaiMilk],
          ChecksTarget (monitorScheduler mainConfig) [delhiMilk, mumbaiMilk] emptyStore oneFailure
            state target (outcome target)) ∧
        (.ok [] : Except Raised (List DetectionEvent)) =
          .ok (eventsInOrder [delhiMilk, mumbaiMilk] outcome) := by
  have hrun : ∃ state, (monitorScheduler mainConfig).pool.run
      (PoolSpec.gather (checksOf [delhiMilk, mumbaiMilk]) emptyStore) oneFailure = some state ∧
        tick [delhiMilk, mumbaiMilk] state = some (.ok []) := ⟨_, rfl, rfl⟩
  obtain ⟨state, hrun, htick⟩ := hrun
  obtain ⟨hbound, hoverlap, _, _, hreturned⟩ := @tick_checks_each_target_once _ _ _
    (monitorScheduler mainConfig) _ _ _ _ ⟨.returns []⟩ (by decide) (by decide) hrun
  exact ⟨state, hrun, htick, hbound, hoverlap, hreturned _ htick⟩

end StockMonitoring.Monitor
