import StockMonitoring.Monitor.Scheduler

set_option autoImplicit false

/-!
# Monitor: the scheduling loop

`Scheduler.run_forever`: list the due targets, run their checks as one tick, sleep,
and again.  The loop is alone in its process, but time passes and other processes
write the database between any two of its steps.

* Only the monitor writes `last_checked_at` and detection events, and no process
  deletes a watch target; `keepsOwnColumns` is that.
* A provider stamps a result while its search runs (`get_product` calls
  `datetime.now`), so `scraped_at` is not before the start of the check and not
  after the search has returned; `stamped` is that.
* The start of a check is noted in `started`, which nothing reads.
-/

namespace StockMonitoring.Monitor

open StockMonitoring.Foundation StockMonitoring.Domain StockMonitoring.Application
  StockMonitoring.Infrastructure.Db

/-- The check of one due target, in a tick. -/
abbrev CheckJob : Type := Job WatchTarget monitorPort Raised (List DetectionEvent)

/-- A `Scheduler` and the argument of its `run_forever`. -/
structure LoopConfig extends SchedulerConfig where
  /-- `poll_interval_seconds` -/
  pollInterval : Timedelta

/-- Where `run_forever` stands. -/
inductive Phase where
  /-- in `asyncio.sleep` -/
  | sleeping (wake : Datetime)
  /-- in `tick`, with the due targets listed -/
  | ticking (jobs : List CheckJob)
  /-- `list_due` has raised out of `tick` and ended the loop -/
  | stopped

/-- The checks of the current tick. -/
def Phase.jobs : Phase → List CheckJob
  | .ticking jobs => jobs
  | .sleeping _ | .stopped => []

/-- The monitor process. -/
structure MonitorLoop where
  phase : Phase
  store : MonitorStore

/-- What happens next. -/
inductive LoopMove where
  /-- time passes -/
  | elapse (span : Nat)
  /-- the sleep is over and the next tick lists its due targets -/
  | listDue
  /-- the sleep is over and `list_due` raises -/
  | listDueRaises
  /-- a move of the current tick -/
  | check (move : Move Reaction)
  /-- all checks of the tick have ended -/
  | endTick
  /-- other processes have written the database -/
  | outside (db : Database)

/-- The times the checks of a target have started at, newest first. -/
def startsOf (store : MonitorStore) (watchTargetId : Nat) : List Datetime :=
  (store.started.filter fun start => start.1 == watchTargetId).map Prod.snd

/-- The time the last check of a target has started at. -/
def lastStart (store : MonitorStore) (watchTargetId : Nat) : Option Datetime :=
  (startsOf store watchTargetId).head?

/-- A check that starts is noted with the time. -/
def noteStart (jobs : List CheckJob) (store : MonitorStore) : Move Reaction → MonitorStore
  | .start index _ =>
      match jobs[index]? with
      | some ⟨watchTarget, _⟩ =>
          { store with
            started := (watchTarget.id.map fun id => (id, store.clock)).toList ++ store.started }
      | none => store
  | .resume _ _ _ => store

/-- The results a call returns with were stamped since its check has started. -/
def stamped (jobs : List CheckJob) (store : MonitorStore) : Move Reaction → Bool
  | .resume index (.returns found) _ =>
      match jobs[index]? with
      | some ⟨watchTarget, _⟩ =>
          found.all fun result => decide (result.scrapedAt ≤ store.clock) &&
            (watchTarget.id.bind (lastStart store)).all fun start =>
              decide (start ≤ result.scrapedAt)
      | none => true
  | _ => true

/-- What no process but the monitor writes. -/
def keepsOwnColumns (before after : Database) : Bool :=
  (before.watchTargets.rows.all fun row =>
    (after.watchTargets.find? row.id).map WatchTargetModel.lastCheckedAt ==
      some row.lastCheckedAt) &&
  decide (after.detectionEvents.rows = before.detectionEvents.rows) &&
  decide (after.detectionEvents.nextId = before.detectionEvents.nextId)

/-- Whether a check has ended. -/
def hasEnded (job : CheckJob) : Bool :=
  match job.status with
  | .finished _ => true
  | _ => false

/-- One step of `run_forever`; `none` when it is not possible. -/
def MonitorLoop.step (config : LoopConfig) (loop : MonitorLoop) : LoopMove → Option MonitorLoop
  | .elapse span =>
      some { loop with
        store := { loop.store with clock := loop.store.clock + span } }
  | .listDue =>
      match loop.phase with
      | .sleeping wake =>
          if wake ≤ loop.store.clock then
            let targets := SqlAlchemyWatchTargetRepository.listDue loop.store.db loop.store.clock
            some { loop with phase := .ticking (tickStart targets loop.store).jobs }
          else none
      | _ => none
  | .listDueRaises =>
      match loop.phase with
      | .sleeping wake =>
          if wake ≤ loop.store.clock then some { loop with phase := .stopped } else none
      | _ => none
  | .check move =>
      match loop.phase with
      | .ticking jobs =>
          if stamped jobs loop.store move then
            ((tickPool config.toSchedulerConfig).step
              ⟨jobs, noteStart jobs loop.store move⟩ move).map fun tick =>
                ⟨.ticking tick.jobs, tick.store⟩
          else none
      | _ => none
  | .endTick =>
      match loop.phase with
      | .ticking jobs =>
          if jobs.all hasEnded then
            some { loop with phase := .sleeping (loop.store.clock + config.pollInterval) }
          else none
      | _ => none
  | .outside db =>
      if keepsOwnColumns loop.store.db db then
        some { loop with
          store := { loop.store with db := db } }
      else none

/-- `run_forever` is called: its first tick is due at once. -/
def MonitorLoop.start (store : MonitorStore) : MonitorLoop :=
  ⟨.sleeping store.clock, { store with started := [] }⟩

/-- The state after a list of moves. -/
def MonitorLoop.run (config : LoopConfig) (loop : MonitorLoop) (moves : List LoopMove) :
    Option MonitorLoop :=
  runFrom (MonitorLoop.step config) loop moves

/-! ## What a step does -/

theorem startsOf_noteStart_of_ne {jobs : List CheckJob} {store : MonitorStore}
    {move : Move Reaction} {id : Nat}
    (hother : ∀ job ∈ jobs[move.index]?, job.key.id ≠ some id) :
    startsOf (noteStart jobs store move) id = startsOf store id := by
  cases move with
  | resume index choice choices => rfl
  | start index choices =>
      cases hjob : jobs[index]? with
      | none => simp only [noteStart, hjob]
      | some job =>
          obtain ⟨watchTarget, status⟩ := job
          have hne : watchTarget.id ≠ some id := hother _ hjob
          simp only [noteStart, hjob, startsOf]
          cases hid : watchTarget.id with
          | none => rfl
          | some other =>
              have hother' : other ≠ id := fun h => hne (hid.trans (congrArg some h))
              simp [hother']

theorem startsOf_noteStart_self {jobs : List CheckJob} {store : MonitorStore} {index id : Nat}
    {choices : List Reaction} {job : CheckJob} (hjob : jobs[index]? = some job)
    (hid : job.key.id = some id) :
    startsOf (noteStart jobs store (.start index choices)) id =
      store.clock :: startsOf store id := by
  obtain ⟨watchTarget, status⟩ := job
  have hid' : watchTarget.id = some id := hid
  simp [noteStart, hjob, startsOf, hid']

@[simp] theorem clock_noteStart (jobs : List CheckJob) (store : MonitorStore)
    (move : Move Reaction) : (noteStart jobs store move).clock = store.clock := by
  unfold noteStart
  split
  · split <;> rfl
  · rfl

@[simp] theorem db_noteStart (jobs : List CheckJob) (store : MonitorStore) (move : Move Reaction) :
    (noteStart jobs store move).db = store.db := by
  unfold noteStart
  split
  · split <;> rfl
  · rfl

@[simp] theorem dispatched_noteStart (jobs : List CheckJob) (store : MonitorStore)
    (move : Move Reaction) : (noteStart jobs store move).dispatched = store.dispatched := by
  unfold noteStart
  split
  · split <;> rfl
  · rfl

/-- No call moves the clock or the noted starts. -/
theorem times_respond (config : MonitorConfig) (op : MonitorOp) (reaction : Reaction)
    (store : MonitorStore) :
    (respond config op reaction store).2.clock = store.clock ∧
      (respond config op reaction store).2.started = store.started := by
  have hwork : ∀ found, (work config found op store).2.clock = store.clock ∧
      (work config found op store).2.started = store.started := by
    intro found
    cases op with
    | registryGet slug =>
        simp only [work]
        split <;> exact ⟨rfl, rfl⟩
    | _ => exact ⟨rfl, rfl⟩
  cases reaction with
  | returns found => exact hwork found
  | raises error => exact ⟨rfl, rfl⟩
  | raisesAfter error => exact hwork []

/-- A move of a tick notes the start of a check of target `id`, which was waiting, or
leaves the noted starts of `id` as they are. -/
theorem startsOf_noteStart {config : SchedulerConfig} {jobs : List CheckJob}
    {store : MonitorStore} {move : Move Reaction} {next : TickState}
    (hstep : (tickPool config).step ⟨jobs, noteStart jobs store move⟩ move = some next) (id : Nat) :
    (∃ job, jobs[move.index]? = some job ∧ job.key.id = some id ∧ job.status = .waiting ∧
        startsOf (noteStart jobs store move) id = store.clock :: startsOf store id) ∨
      startsOf (noteStart jobs store move) id = startsOf store id := by
  rcases PoolSpec.step_cases hstep with
    ⟨index, key, choices, reached, rfl, hjob, _⟩ |
    ⟨index, key, op, resume, choice, choices, reached, rfl, _⟩
  · by_cases hid : key.id = some id
    · exact Or.inl ⟨_, hjob, hid, rfl, startsOf_noteStart_self hjob hid⟩
    · refine Or.inr (startsOf_noteStart_of_ne ?_)
      intro job hother
      cases hjob.symm.trans hother
      exact hid
  · exact Or.inr rfl

theorem times_step {config : SchedulerConfig} {tick next : TickState} {move : Move Reaction}
    (hstep : (tickPool config).step tick move = some next) :
    next.store.clock = tick.store.clock ∧ next.store.started = tick.store.started := by
  refine PoolSpec.step_store (fun store =>
    store.clock = tick.store.clock ∧ store.started = tick.store.started) ?_ hstep ⟨rfl, rfl⟩
  intro op reaction store hstore
  have htimes := times_respond config.toMonitorConfig op reaction store
  exact ⟨htimes.1.trans hstore.1, htimes.2.trans hstore.2⟩

/-- A move of a tick, with what the loop adds to it. -/
theorem check_cases {config : LoopConfig} {loop next : MonitorLoop} {move : Move Reaction}
    (hstep : loop.step config (.check move) = some next) :
    ∃ jobs tick, loop.phase = .ticking jobs ∧ stamped jobs loop.store move = true ∧
      (tickPool config.toSchedulerConfig).step ⟨jobs, noteStart jobs loop.store move⟩ move =
        some tick ∧
      next = ⟨.ticking tick.jobs, tick.store⟩ := by
  obtain ⟨phase, store⟩ := loop
  cases phase with
  | ticking jobs =>
      simp only [MonitorLoop.step] at hstep
      split at hstep
      · rename_i hstamped
        obtain ⟨tick, htick, rfl⟩ := Option.map_eq_some_iff.mp hstep
        exact ⟨jobs, tick, rfl, hstamped, htick, rfl⟩
      · cases hstep
  | sleeping wake => cases hstep
  | stopped => cases hstep

/-- The next tick is listed when the sleep is over. -/
theorem listDue_cases {config : LoopConfig} {loop next : MonitorLoop}
    (hstep : loop.step config .listDue = some next) :
    ∃ wake, loop.phase = .sleeping wake ∧ wake ≤ loop.store.clock ∧
      next = ⟨.ticking (tickStart (SqlAlchemyWatchTargetRepository.listDue loop.store.db
        loop.store.clock) loop.store).jobs, loop.store⟩ := by
  obtain ⟨phase, store⟩ := loop
  cases phase with
  | sleeping wake =>
      simp only [MonitorLoop.step] at hstep
      split at hstep
      · rename_i hwake
        cases hstep
        exact ⟨wake, rfl, hwake, rfl⟩
      · cases hstep
  | ticking jobs => cases hstep
  | stopped => cases hstep

/-- A tick ends when all its checks have. -/
theorem endTick_cases {config : LoopConfig} {loop next : MonitorLoop}
    (hstep : loop.step config .endTick = some next) :
    ∃ jobs, loop.phase = .ticking jobs ∧ (∀ job ∈ jobs, hasEnded job = true) ∧
      next = ⟨.sleeping (loop.store.clock + config.pollInterval), loop.store⟩ := by
  obtain ⟨phase, store⟩ := loop
  cases phase with
  | ticking jobs =>
      simp only [MonitorLoop.step] at hstep
      split at hstep
      · rename_i hended
        cases hstep
        exact ⟨jobs, rfl, List.all_eq_true.mp hended, rfl⟩
      · cases hstep
  | sleeping wake => cases hstep
  | stopped => cases hstep

theorem listDueRaises_cases {config : LoopConfig} {loop next : MonitorLoop}
    (hstep : loop.step config .listDueRaises = some next) :
    next = ⟨.stopped, loop.store⟩ := by
  obtain ⟨phase, store⟩ := loop
  cases phase with
  | sleeping wake =>
      simp only [MonitorLoop.step] at hstep
      split at hstep <;> cases hstep
      rfl
  | ticking jobs => cases hstep
  | stopped => cases hstep

theorem outside_cases {config : LoopConfig} {loop next : MonitorLoop} {db : Database}
    (hstep : loop.step config (.outside db) = some next) :
    keepsOwnColumns loop.store.db db = true ∧
      next = { loop with
        store := { loop.store with db := db } } := by
  simp only [MonitorLoop.step] at hstep
  split at hstep
  · rename_i hkeeps
    cases hstep
    exact ⟨hkeeps, rfl⟩
  · cases hstep

end StockMonitoring.Monitor
