import StockMonitoring.Foundation.Run
import StockMonitoring.Monitor.Tick

set_option autoImplicit false

/-!
# Monitor: the scheduler task and the wait of main

`run_forever` is a task of its own beside `main`, which waits for the stop event and never
looks at the task.  `tick` contains the exceptions of its checks; `list_due` is called
outside of that, so what it raises ends the loop, and `main` waits on.  The scheduler keeps
scheduling in exactly the runs in which no `list_due` raises (`keeps_scheduling_iff`).
-/

namespace StockMonitoring.Monitor

open StockMonitoring.Foundation StockMonitoring.Domain StockMonitoring.Application

section MainLoop

variable {σ : Signature} {S C : Type}

/-! ## The process -/

variable (σ) in
/-- Where `run_forever` stands. -/
inductive TaskPhase where
  /-- in `list_due` -/
  | listing
  /-- in the gathers of a tick -/
  | checking (dueTargets : List WatchTarget)
      (jobs : List (Job WatchTarget σ Raised (List DetectionEvent)))
  /-- in `asyncio.sleep` -/
  | sleeping
  /-- the task has ended with an exception -/
  | terminated (error : Raised)
  /-- `main` has cancelled the task -/
  | cancelled

/-- The scheduler task, what the calls work on, and whether `main` waits on `stop_event`. -/
structure MonitorProcess (σ : Signature) (S : Type) where
  task : TaskPhase σ
  store : S
  waiting : Bool

/-- What happens next. -/
inductive ProcessMove (S C : Type) where
  /-- `list_due` returns -/
  | listed (dueTargets : List WatchTarget)
  | listRaises (error : Raised)
  /-- a move of the checks of the tick -/
  | check (move : Move C)
  /-- all checks of the tick have ended, and the gathers with them -/
  | gathered
  /-- the sleep is over -/
  | wake
  /-- other processes have done their work -/
  | outside (store : S)
  /-- the stop event is set -/
  | stop

/-- `main` after its wait: the task is cancelled, unless it has ended. -/
def TaskPhase.cancel : TaskPhase σ → TaskPhase σ
  | .terminated error => .terminated error
  | .listing | .checking _ _ | .sleeping | .cancelled => .cancelled

/-- One step; `none` when it is not possible. -/
def MonitorProcess.step (scheduler : Scheduler σ S C) (process : MonitorProcess σ S) :
    ProcessMove S C → Option (MonitorProcess σ S)
  | .listed dueTargets =>
      match process.task with
      | .listing => some { process with
          task := .checking dueTargets ((checksOf dueTargets).map fun key => ⟨key, .waiting⟩) }
      | _ => none
  | .listRaises error =>
      match process.task with
      | .listing => some { process with task := .terminated error }
      | _ => none
  | .check move =>
      match process.task with
      | .checking dueTargets jobs =>
          (scheduler.pool.step ⟨jobs, process.store⟩ move).map fun next =>
            { process with task := .checking dueTargets next.jobs, store := next.store }
      | _ => none
  | .gathered =>
      match process.task with
      | .checking dueTargets jobs =>
          (tick dueTargets (⟨jobs, process.store⟩ : PoolState _ _ _ _ S)).map fun
            | .ok _ => { process with task := .sleeping }
            | .error error => { process with task := .terminated error }
      | _ => none
  | .wake =>
      match process.task with
      | .sleeping => some { process with task := .listing }
      | _ => none
  | .outside store => some { process with store := store }
  | .stop =>
      if process.waiting then
        some { process with task := process.task.cancel, waiting := false }
      else none

/-- `main` has created the scheduler task and waits. -/
def MonitorProcess.start (store : S) : MonitorProcess σ S := ⟨.listing, store, true⟩

/-! ## A scheduler that goes on -/

/-- While `main` waits the scheduler task has not terminated. -/
def Alive (process : MonitorProcess σ S) : Prop :=
  process.waiting = true → ∀ error, process.task ≠ .terminated error

/-- The move ends a tick in which a call has raised. -/
def FailsTick (process : MonitorProcess σ S) : ProcessMove S C → Prop
  | .listRaises _ => True
  | .gathered => ∃ dueTargets jobs, process.task = .checking dueTargets jobs ∧
      ∃ job ∈ jobs, ∃ error, job.status = .finished (.error error)
  | _ => False

/-- The next move of the task begins a tick. -/
def BeginsNextTick (scheduler : Scheduler σ S C) (process : MonitorProcess σ S) : Prop :=
  (∃ next, process.step scheduler .wake = some next ∧ next.task = .listing) ∧
    ∀ move next, process.step scheduler move = some next → next.waiting = true →
      next.task = .listing ∨ next.task = process.task

/-- The task is alive while `main` waits, and a failed tick is followed by another. -/
structure KeepsScheduling (scheduler : Scheduler σ S C) (start : MonitorProcess σ S)
    (moves : List (ProcessMove S C)) : Prop where
  alive : Throughout (MonitorProcess.step scheduler) Alive start moves
  followed : ∀ earlier move later reached next, moves = earlier ++ move :: later →
    runFrom (MonitorProcess.step scheduler) start earlier = some reached →
    reached.step scheduler move = some next → FailsTick reached move → next.waiting = true →
      BeginsNextTick scheduler next

/-- No `list_due` raises while `main` waits. -/
def ListDueReturns (process : MonitorProcess σ S) : ProcessMove S C → Prop
  | .listRaises _ => process.waiting = true → process.task ≠ .listing
  | _ => True

/-! ## One step -/

variable {scheduler : Scheduler σ S C} {process next : MonitorProcess σ S}

/-- The gathers return, whatever the checks have raised. -/
theorem gathered_cases (hstep : process.step scheduler .gathered = some next) :
    (∃ dueTargets jobs, process.task = .checking dueTargets jobs) ∧
      next = { process with task := .sleeping } := by
  obtain ⟨task, store, waiting⟩ := process
  cases task with
  | checking dueTargets jobs =>
      refine ⟨⟨dueTargets, jobs, rfl⟩, ?_⟩
      obtain ⟨result, htick, rfl⟩ := Option.map_eq_some_iff.mp hstep
      obtain ⟨ends, _, hends⟩ := Option.map_eq_some_iff.mp htick
      rw [tickReturns_eq] at hends
      rw [← hends]
  | listing => cases hstep
  | sleeping => cases hstep
  | terminated error => cases hstep
  | cancelled => cases hstep

theorem listRaises_cases {error : Raised}
    (hstep : process.step scheduler (.listRaises error) = some next) :
    process.task = .listing ∧ next = { process with task := .terminated error } := by
  obtain ⟨task, store, waiting⟩ := process
  cases task with
  | listing =>
      cases hstep
      exact ⟨rfl, rfl⟩
  | checking dueTargets jobs => cases hstep
  | sleeping => cases hstep
  | terminated error => cases hstep
  | cancelled => cases hstep

/-- Only the stop event cancels, and only what `list_due` raises terminates. -/
theorem alive_step {move : ProcessMove S C} (halive : Alive process)
    (hstep : process.step scheduler move = some next) :
    Alive next ↔ ListDueReturns process move := by
  cases move with
  | listRaises error =>
      obtain ⟨hlisting, rfl⟩ := listRaises_cases hstep
      constructor
      · exact fun hnext hwaits _ => hnext hwaits error rfl
      · exact fun hreturns hwaits => absurd hlisting (hreturns hwaits)
  | gathered =>
      obtain ⟨_, rfl⟩ := gathered_cases hstep
      exact ⟨fun _ => trivial, fun _ _ error hended => (by cases hended)⟩
  | listed dueTargets =>
      refine ⟨fun _ => trivial, fun _ _ error hended => ?_⟩
      simp only [MonitorProcess.step] at hstep
      split at hstep <;> cases hstep
      cases hended
  | check move =>
      refine ⟨fun _ => trivial, fun _ _ error hended => ?_⟩
      simp only [MonitorProcess.step] at hstep
      split at hstep
      · obtain ⟨_, _, rfl⟩ := Option.map_eq_some_iff.mp hstep
        cases hended
      · cases hstep
  | wake =>
      refine ⟨fun _ => trivial, fun _ _ error hended => ?_⟩
      simp only [MonitorProcess.step] at hstep
      split at hstep <;> cases hstep
      cases hended
  | outside store =>
      cases hstep
      exact ⟨fun _ => trivial, fun _ => halive⟩
  | stop =>
      refine ⟨fun _ => trivial, fun _ hwaits => ?_⟩
      simp only [MonitorProcess.step] at hstep
      split at hstep <;> cases hstep
      cases hwaits

/-- A move that is not possible is no `list_due` that raises. -/
theorem listDueReturns_of_stuck {move : ProcessMove S C}
    (hstuck : process.step scheduler move = none) : ListDueReturns process move := by
  cases move with
  | listRaises error =>
      intro _ hlisting
      simp only [MonitorProcess.step, hlisting] at hstuck
      cases hstuck
  | _ => trivial

/-- A task that sleeps begins the next tick when it wakes. -/
theorem beginsNextTick_of_sleeping (hsleeps : process.task = .sleeping) :
    BeginsNextTick scheduler process := by
  refine ⟨⟨{ process with task := .listing }, by simp only [MonitorProcess.step, hsleeps], rfl⟩, ?_⟩
  intro move next hstep hwaits
  cases move with
  | wake =>
      simp only [MonitorProcess.step, hsleeps] at hstep
      cases hstep
      exact Or.inl rfl
  | outside store =>
      cases hstep
      exact Or.inr rfl
  | stop =>
      simp only [MonitorProcess.step] at hstep
      split at hstep <;> cases hstep
      cases hwaits
  | listed | listRaises | check | gathered =>
      simp only [MonitorProcess.step, hsleeps] at hstep
      cases hstep

/-- A tick that fails while the task stays alive has only failed in its checks. -/
theorem beginsNextTick_of_failsTick {move : ProcessMove S C}
    (hstep : process.step scheduler move = some next) (hfails : FailsTick process move)
    (halive : Alive next) (hwaits : next.waiting = true) : BeginsNextTick scheduler next := by
  cases move with
  | listRaises error =>
      obtain ⟨_, rfl⟩ := listRaises_cases hstep
      exact absurd rfl (halive hwaits error)
  | gathered =>
      obtain ⟨_, rfl⟩ := gathered_cases hstep
      exact beginsNextTick_of_sleeping rfl
  | _ => exact absurd hfails id

/-- Up to the stop event the scheduler keeps scheduling exactly if no `list_due` raises. -/
theorem keeps_scheduling_iff (scheduler : Scheduler σ S C) (store : S)
    (moves : List (ProcessMove S C)) :
    KeepsScheduling scheduler (.start store) moves ↔
      Along (MonitorProcess.step scheduler) ListDueReturns (.start store) moves := by
  have halive : Alive (.start store : MonitorProcess σ S) := fun _ error hended => by cases hended
  have hiff : Throughout (MonitorProcess.step scheduler) Alive (.start store) moves ↔
      Along (MonitorProcess.step scheduler) ListDueReturns (.start store) moves :=
    throughout_iff_along (fun _ _ _ _ _ => trivial)
      (fun _ _ _ _ hprocess hstep => alive_step hprocess hstep)
      (fun _ _ hstuck => listDueReturns_of_stuck hstuck) trivial halive
  refine ⟨fun hkeeps => hiff.mp hkeeps.alive, fun halong => ⟨hiff.mpr halong, ?_⟩⟩
  intro earlier move later reached next hmoves hrun hstep hfails hwaits
  have hlater : runFrom (MonitorProcess.step scheduler) (.start store) (earlier ++ [move]) =
      some next := by
    rw [runFrom_append, hrun, Option.bind_some, runFrom_cons, hstep]
    rfl
  have hsplit : moves = (earlier ++ [move]) ++ later := by
    rw [hmoves, List.append_assoc]
    rfl
  exact beginsNextTick_of_failsTick hstep hfails
    (hiff.mpr halong (earlier ++ [move]) later next hsplit hlater) hwaits

end MainLoop

/-- The database is away when the second tick lists its targets: the task has ended, and
`main` waits on. -/
theorem lost_database_ends_the_task :
    let moves : List (ProcessMove MonitorStore Reaction) := [.listed [], .gathered, .wake,
      .listRaises (.external "connection refused")]
    ∃ last, runFrom (MonitorProcess.step (monitorScheduler mainConfig)) (.start emptyStore) moves =
        some last ∧ last.waiting = true ∧
      last.task = .terminated (.external "connection refused") ∧
      ¬ KeepsScheduling (monitorScheduler mainConfig) (.start emptyStore) moves := by
  intro moves
  refine ⟨_, rfl, rfl, rfl, fun hkeeps => ?_⟩
  exact hkeeps.alive moves [] _ (List.append_nil _).symm rfl rfl _ rfl

end StockMonitoring.Monitor
