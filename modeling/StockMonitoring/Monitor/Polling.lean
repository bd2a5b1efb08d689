import StockMonitoring.Application.CheckHistory
import StockMonitoring.Monitor.Marking

set_option autoImplicit false

/-!
# Monitor: the polling interval

The starts of two consecutive checks of a target are at least its interval apart
in every run in which its checks get as far as writing `last_checked_at`, and in
every run of a scheduler that sleeps at least that long (`check_starts_spaced`).
A check that raises earlier leaves `last_checked_at` as it was, so the next tick
lists its target again (`failing_check_starts_again_at_once`).
-/

namespace StockMonitoring.Monitor

open StockMonitoring.Foundation StockMonitoring.Domain StockMonitoring.Application
  StockMonitoring.Infrastructure.Db

/-- Times, newest first, with consecutive ones at least `gap` apart. -/
def Spaced (gap : Timedelta) (times : List Datetime) : Prop :=
  times.IsChain fun later earlier => earlier + gap ≤ later

/-- The interval of a target is `interval`. -/
def IntervalIs (id : Nat) (interval : Int) (loop : MonitorLoop) : Prop :=
  ∀ row ∈ loop.store.db.watchTargets.rows, row.id = id → row.intervalSeconds = interval

instance (id : Nat) (interval : Int) (loop : MonitorLoop) :
    Decidable (IntervalIs id interval loop) :=
  inferInstanceAs (Decidable (∀ row ∈ loop.store.db.watchTargets.rows, _))

/-- In every run in which the target keeps its interval, consecutive starts of its checks are
at least that far apart. -/
def StartsSpaced (config : LoopConfig) (store : MonitorStore) (id : Nat) (interval : Int) : Prop :=
  ∀ moves last, (MonitorLoop.start store).run config moves = some last →
    Along (MonitorLoop.step config) (fun loop _ => IntervalIs id interval loop) (.start store)
      moves →
    Spaced (seconds interval) (startsOf last.store id)

/-! ## Consecutive starts -/

/-- The starts of target `id` are `gap` apart so far, and its next check, if it is
waiting, may start. -/
structure Paced (id : Nat) (gap : Timedelta) (loop : MonitorLoop) : Prop where
  spaced : Spaced gap (startsOf loop.store id)
  past : ∀ start ∈ lastStart loop.store id, start ≤ loop.store.clock
  apart : (loop.phase.jobs.map Job.key).Pairwise fun left right => left.id ≠ right.id
  rested : ∀ job ∈ loop.phase.jobs, job.key.id = some id → job.status = .waiting →
    ∀ start ∈ lastStart loop.store id, start + gap ≤ loop.store.clock

/-- Two jobs of a tick have different targets. -/
theorem id_ne_of_getElem? {jobs : List CheckJob} {left right : Nat} {leftJob rightJob : CheckJob}
    (hapart : (jobs.map Job.key).Pairwise fun left right => left.id ≠ right.id)
    (hne : left ≠ right) (hleft : jobs[left]? = some leftJob)
    (hright : jobs[right]? = some rightJob) : leftJob.key.id ≠ rightJob.key.id := by
  obtain ⟨hlt, rfl⟩ := List.getElem?_eq_some_iff.mp hleft
  obtain ⟨hlt', rfl⟩ := List.getElem?_eq_some_iff.mp hright
  have hpairs := List.pairwise_iff_getElem.mp (List.pairwise_map.mp hapart)
  rcases Nat.lt_or_gt_of_ne hne with hbefore | hafter
  · exact hpairs left right hlt hlt' hbefore
  · exact (hpairs right left hlt' hlt hafter).symm

/-- A start of the target that may start keeps the starts apart. -/
theorem spaced_cons {gap : Timedelta} {times : List Datetime} {now : Datetime}
    (hspaced : Spaced gap times) (hrested : ∀ start ∈ times.head?, start + gap ≤ now) :
    Spaced gap (now :: times) := by
  cases times with
  | nil => exact List.IsChain.singleton now
  | cons start earlier =>
      exact List.isChain_cons_cons.mpr ⟨hrested start rfl, hspaced⟩

/-- A move of a tick. -/
theorem Paced.check {id : Nat} {gap : Timedelta} {config : LoopConfig} {loop next : MonitorLoop}
    {move : Move Reaction} (hpaced : Paced id gap loop)
    (hstep : loop.step config (.check move) = some next) : Paced id gap next := by
  obtain ⟨jobs, tick, hphase, _, htick, rfl⟩ := check_cases hstep
  obtain ⟨hspaced, hpast, hapart, hrested⟩ := hpaced
  rw [hphase] at hapart hrested
  obtain ⟨hclock, hstarted⟩ := times_step htick
  rw [clock_noteStart] at hclock
  have hstarts : startsOf tick.store id = startsOf (noteStart jobs loop.store move) id := by
    unfold startsOf
    rw [hstarted]
  have hapart' : (tick.jobs.map Job.key).Pairwise fun left right => left.id ≠ right.id := by
    have hkeys : tick.jobs.map Job.key = jobs.map Job.key := PoolSpec.keys_step htick
    rw [hkeys]
    exact hapart
  rcases startsOf_noteStart htick id with ⟨job, hjob, hid, hstatus, hnoted⟩ | hnoted
  · have hready := hrested job (List.mem_of_getElem? hjob) hid hstatus
    rw [hnoted] at hstarts
    refine ⟨?_, ?_, hapart', ?_⟩
    · rw [hstarts]
      exact spaced_cons hspaced hready
    · unfold lastStart
      rw [hstarts, hclock]
      intro start hstart
      cases hstart
      exact Int.le_refl _
    · -- a job that still waits is another one, so of another target
      intro other hmem hotherId hotherStatus
      obtain ⟨position, hne, hposition⟩ := PoolSpec.waiting_of_step htick hmem hotherStatus
      have hdifferent := id_ne_of_getElem? hapart hne hposition hjob
      exact absurd (hotherId.trans hid.symm) hdifferent
  · rw [hnoted] at hstarts
    refine ⟨?_, ?_, hapart', ?_⟩
    · rw [hstarts]
      exact hspaced
    · unfold lastStart
      rw [hstarts, hclock]
      exact hpast
    · intro other hmem hotherId hotherStatus
      obtain ⟨position, _, hposition⟩ := PoolSpec.waiting_of_step htick hmem hotherStatus
      unfold lastStart
      rw [hstarts, hclock]
      exact hrested other (List.mem_of_getElem? hposition) hotherId hotherStatus

/-- The step lemma: the starts stay apart when a listed target has rested. -/
theorem Paced.step {id : Nat} {gap : Timedelta} {config : LoopConfig} {loop next : MonitorLoop}
    {move : LoopMove} (hpaced : Paced id gap loop) (hstep : loop.step config move = some next)
    (hlisted : move = .listDue → ∀ watchTarget ∈ SqlAlchemyWatchTargetRepository.listDue
      loop.store.db loop.store.clock, watchTarget.id = some id →
      ∀ start ∈ lastStart loop.store id, start + gap ≤ loop.store.clock) :
    Paced id gap next := by
  cases move with
  | check move => exact hpaced.check hstep
  | elapse span =>
      cases hstep
      have hlater : loop.store.clock ≤ loop.store.clock + span :=
        Int.le_add_of_nonneg_right (Int.natCast_nonneg span)
      obtain ⟨hspaced, hpast, hapart, hrested⟩ := hpaced
      refine ⟨hspaced, ?_, hapart, ?_⟩
      · intro start hstart
        exact Int.le_trans (hpast start hstart) hlater
      · intro job hjob hid hstatus start hstart
        exact Int.le_trans (hrested job hjob hid hstatus start hstart) hlater
  | listDue =>
      obtain ⟨wake, _, _, rfl⟩ := listDue_cases hstep
      refine ⟨hpaced.spaced, hpaced.past, ?_, ?_⟩
      · change (List.map Job.key (tickStart _ loop.store).jobs).Pairwise _
        rw [tickStart, PoolSpec.keys_gather]
        exact SqlAlchemyWatchTargetRepository.listDue_pairwise _ _
      · intro job hjob hid _
        obtain ⟨watchTarget, hwatchTarget, rfl⟩ := List.mem_map.mp hjob
        exact hlisted rfl watchTarget hwatchTarget hid
  | listDueRaises =>
      cases listDueRaises_cases hstep
      exact ⟨hpaced.spaced, hpaced.past, List.Pairwise.nil, fun _ h => (by cases h)⟩
  | endTick =>
      obtain ⟨jobs, _, _, rfl⟩ := endTick_cases hstep
      exact ⟨hpaced.spaced, hpaced.past, List.Pairwise.nil, fun _ h => (by cases h)⟩
  | outside db =>
      obtain ⟨_, rfl⟩ := outside_cases hstep
      exact ⟨hpaced.spaced, hpaced.past, hpaced.apart, hpaced.rested⟩

theorem paced_start (id : Nat) (gap : Timedelta) (store : MonitorStore) :
    Paced id gap (.start store) :=
  ⟨List.IsChain.nil, fun _ h => (by cases h), List.Pairwise.nil, fun _ h => (by cases h)⟩

/-! ## A scheduler that sleeps long enough -/

/-- While the loop sleeps, it will have slept long enough for every started check. -/
def SleepsOver (id : Nat) (gap : Timedelta) (loop : MonitorLoop) : Prop :=
  ∀ wake, loop.phase = .sleeping wake → ∀ start ∈ lastStart loop.store id, start + gap ≤ wake

theorem sleepsOver_step {id : Nat} {gap : Timedelta} {config : LoopConfig}
    {loop next : MonitorLoop} {move : LoopMove} (hgap : gap ≤ config.pollInterval)
    (hpaced : Paced id gap loop) (hsleeps : SleepsOver id gap loop)
    (hstep : loop.step config move = some next) : SleepsOver id gap next := by
  cases move with
  | check move =>
      obtain ⟨jobs, tick, _, _, _, rfl⟩ := check_cases hstep
      intro wake hphase
      cases hphase
  | elapse span =>
      cases hstep
      exact hsleeps
  | listDue =>
      obtain ⟨_, _, _, rfl⟩ := listDue_cases hstep
      intro wake hphase
      cases hphase
  | listDueRaises =>
      cases listDueRaises_cases hstep
      intro wake hphase
      cases hphase
  | endTick =>
      obtain ⟨jobs, _, _, rfl⟩ := endTick_cases hstep
      intro wake hphase start hstart
      cases hphase
      exact Int.add_le_add (hpaced.past start hstart) hgap
  | outside db =>
      obtain ⟨_, rfl⟩ := outside_cases hstep
      exact hsleeps

/-- The run lemma: with such a sleep no outcome of a check matters. -/
theorem paced_of_sleep {id : Nat} {gap : Timedelta} {config : LoopConfig} {store : MonitorStore}
    {moves : List LoopMove} {last : MonitorLoop} (hgap : gap ≤ config.pollInterval)
    (hrun : (MonitorLoop.start store).run config moves = some last) : Paced id gap last := by
  refine (runFrom_invariant (fun loop => Paced id gap loop ∧ SleepsOver id gap loop) ?_ hrun
    ⟨paced_start id gap store, fun _ _ _ h => (by cases h)⟩).1
  rintro loop move next ⟨hpaced, hsleeps⟩ hstep
  refine ⟨hpaced.step hstep ?_, sleepsOver_step hgap hpaced hsleeps hstep⟩
  rintro rfl watchTarget _ _ start hstart
  obtain ⟨wake, hphase, hwake, _⟩ := listDue_cases hstep
  exact Int.le_trans (hsleeps wake hphase start hstart) hwake

section Attended

variable {config : LoopConfig} {id : Nat}

/-- A target that is attended to has rested when it is listed. -/
theorem rested_of_attended {loop next : MonitorLoop} {interval : Int}
    (hattended : Attended config id loop) (hinterval : IntervalIs id interval loop)
    (hstep : loop.step config .listDue = some next)
    {watchTarget : WatchTarget} (hlisted : watchTarget ∈ SqlAlchemyWatchTargetRepository.listDue
      loop.store.db loop.store.clock) (hid : watchTarget.id = some id) :
    ∀ start ∈ lastStart loop.store id, start + seconds interval ≤ loop.store.clock := by
  obtain ⟨wake, hphase, _, _⟩ := listDue_cases hstep
  unfold Attended at hattended
  rw [hphase] at hattended
  have hupkeep : Upkeep id true loop.store := hattended
  obtain ⟨row, hrow, hrowId, hdue⟩ :=
    SqlAlchemyWatchTargetRepository.exists_row_of_mem_listDue hlisted
  have hkey : row.id = id := Option.some.inj (hrowId.symm.trans hid)
  have hfind : loop.store.db.watchTargets.find? id = some row :=
    Table.find?_eq_some_iff.mpr ⟨hrow, hkey⟩
  intro start hstart
  obtain ⟨checkedAt, hchecked, hle⟩ := hupkeep.marked rfl start hstart
  unfold lastChecked at hchecked
  rw [hfind] at hchecked
  have hpassed := hdue checkedAt (Option.some.inj hchecked)
  rw [hinterval row hrow hkey] at hpassed
  exact Int.le_trans (Int.add_le_add_right hle _) hpassed

end Attended

/-! ## Spaced starts -/

/-- The run lemma for checks that complete. -/
theorem paced_of_complete {config : LoopConfig} {store : MonitorStore} {id : Nat} {interval : Int}
    {moves : List LoopMove} {last : MonitorLoop}
    (hpersisted : (store.db.watchTargets.find? id).isSome = true)
    (hrun : (MonitorLoop.start store).run config moves = some last)
    (halong : Along (MonitorLoop.step config)
      (fun loop move => IntervalIs id interval loop ∧ checksComplete config id loop move = true)
      (.start store) moves) : Paced id (seconds interval) last := by
  have hattended : Attended config id (.start store) :=
    ⟨hpersisted, fun _ h => (by cases h), fun _ _ h => (by cases h)⟩
  refine (along_invariant (fun loop => Paced id (seconds interval) loop ∧
    Attended config id loop) ?_ halong hrun ⟨paced_start id _ store, hattended⟩).1
  rintro loop move next ⟨hpaced, hattended⟩ ⟨hinterval, hcomplete⟩ hstep
  refine ⟨hpaced.step hstep ?_, hattended.step hcomplete hstep⟩
  rintro rfl watchTarget hlisted hid
  exact rested_of_attended hattended hinterval hstep hlisted hid

/-- The starts of consecutive checks of a persisted target are at least its interval
apart in every run of a scheduler that sleeps at least that long, and in every run in
which the target's retailer is registered and the calls of its checks complete. -/
theorem check_starts_spaced (config : LoopConfig) (store : MonitorStore) (id : Nat)
    (interval : Int) (moves : List LoopMove) (last : MonitorLoop)
    (hpersisted : (store.db.watchTargets.find? id).isSome = true)
    (hrun : (MonitorLoop.start store).run config moves = some last)
    (hinterval : Along (MonitorLoop.step config) (fun loop _ => IntervalIs id interval loop)
      (.start store) moves)
    (hcondition : seconds interval ≤ config.pollInterval ∨
      Along (MonitorLoop.step config) (fun loop move => checksComplete config id loop move = true)
        (.start store) moves) :
    Spaced (seconds interval) (startsOf last.store id) := by
  rcases hcondition with hsleep | hcomplete
  · exact (paced_of_sleep hsleep hrun).spaced
  · exact (paced_of_complete hpersisted hrun (hinterval.and hcomplete)).spaced

/-- The scheduler of `monitor/main.py`. -/
def mainLoop : LoopConfig := { mainConfig with
  pollInterval := seconds 1 }

/-- A database with one watch target, checked every minute. -/
def delhiStore : MonitorStore :=
  { emptyStore with
    db := milkStore.db }

/-- A tick whose check finds nothing and marks its target. -/
def emptyTick : List LoopMove :=
  [.listDue, .check (.start 0 [.returns []]), .check (.resume 0 (.returns []) []),
    .check (.resume 0 (.returns []) []), .check (.resume 0 (.returns []) [.returns []]),
    .check (.resume 0 (.returns []) []), .endTick]

/-- A tick whose check cannot set its location. -/
def failingTick : List LoopMove :=
  [.listDue, .check (.start 0 [.returns []]),
    .check (.resume 0 (.raises (.external "net::ERR_TIMED_OUT")) []),
    .check (.resume 0 (.returns []) []), .endTick]

/-- Two checks that find nothing, a minute apart. -/
theorem empty_ticks_spaced :
    ∃ last, (MonitorLoop.start delhiStore).run mainLoop
        (emptyTick ++ [.elapse 60000000, .listDue, .check (.start 0 [.returns []])]) = some last ∧
      startsOf last.store 1 = [60000000, 0] ∧ Spaced (seconds 60) (startsOf last.store 1) := by
  have hstarts : ((MonitorLoop.start delhiStore).run mainLoop
      (emptyTick ++ [.elapse 60000000, .listDue, .check (.start 0 [.returns []])])).map
        (fun last => startsOf last.store 1) = some [60000000, 0] := by decide +kernel
  obtain ⟨last, hrun, hlast⟩ := Option.map_eq_some_iff.mp hstarts
  exact ⟨last, hrun, hlast, check_starts_spaced mainLoop delhiStore 1 60 _ last (by decide +kernel)
    hrun (by decide +kernel) (Or.inr (by decide +kernel))⟩

/-- The retailer's page does not load: the target is checked again a second later. -/
theorem failing_check_starts_again_at_once : ¬ StartsSpaced mainLoop delhiStore 1 60 := by
  intro hspaced
  have hstarts : ((MonitorLoop.start delhiStore).run mainLoop
      (failingTick ++ [.elapse 1000000, .listDue, .check (.start 0 [.returns []])])).map
        (fun last => startsOf last.store 1) = some [1000000, 0] := by decide +kernel
  obtain ⟨last, hrun, hlast⟩ := Option.map_eq_some_iff.mp hstarts
  have hchain := hspaced _ last hrun (by decide +kernel)
  rw [hlast] at hchain
  have hapart := (List.isChain_cons_cons.mp hchain).1
  exact absurd hapart (by decide)

end StockMonitoring.Monitor
