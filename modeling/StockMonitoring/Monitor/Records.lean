import StockMonitoring.Application.CheckRecords
import StockMonitoring.Monitor.Delivery

set_option autoImplicit false

/-!
# Monitor: the records along a run

In every run of the monitor process, whatever its calls come to and however the checks
of a tick interleave, the records of every target tell one story
(`records_stay_coherent`).  A tick lists each target once, so no two checks in progress
write the records of one target (`recordDiscipline`).
-/

namespace StockMonitoring.Monitor

open StockMonitoring.Foundation StockMonitoring.Domain StockMonitoring.Application
  StockMonitoring.Infrastructure.Db

/-! ## The checks of a tick -/

section Calls

variable {config : MonitorConfig} {store : MonitorStore} {watchTarget : WatchTarget}
  {progress : RecordProgress} {op : MonitorOp}

theorem Recorded.call (hrecorded : Recorded config.tie store)
    (hholds : ∀ id, watchTarget.id = some id → progress.Holds config.tie id (logOf store id))
    (hallows : progress.Allows watchTarget op) (reaction : Reaction) :
    Recorded config.tie (respond config op reaction store).2 := by
  cases reaction with
  | returns found => exact hrecorded.work hholds hallows
  | raises error => exact hrecorded
  | raisesAfter error => exact hrecorded.work hholds hallows

theorem holds_call (hrecorded : Recorded config.tie store)
    (hholds : ∀ id, watchTarget.id = some id → progress.Holds config.tie id (logOf store id))
    (hallows : progress.Allows watchTarget op) (reaction : Reaction) {id : Nat}
    (hid : watchTarget.id = some id) :
    (progress.next op (respond config op reaction store).1).Holds config.tie id
      (logOf (respond config op reaction store).2 id) := by
  cases reaction with
  | returns found => exact (hholds id hid).work hrecorded hid hallows rfl
  | raises error => exact RecordProgress.holds_start _ _ _
  | raisesAfter error => exact RecordProgress.holds_start _ _ _

/-- A check keeps what the checks of other targets rely on. -/
theorem holds_other (hrecorded : Recorded config.tie store)
    (hholds : ∀ id, watchTarget.id = some id → progress.Holds config.tie id (logOf store id))
    (hallows : progress.Allows watchTarget op) (reaction : Reaction) {other : Nat}
    (hne : watchTarget.id ≠ some other) {otherProgress : RecordProgress}
    (hother : otherProgress.Holds config.tie other (logOf store other)) :
    otherProgress.Holds config.tie other
      (logOf (respond config op reaction store).2 other) := by
  have hlog : ∀ found, logOf (work config found op store).2 other = logOf store other :=
    fun _ => logOf_work_other hrecorded hholds hallows hne
  cases reaction with
  | returns found =>
      unfold respond
      rw [hlog]
      exact hother
  | raises error => exact hother
  | raisesAfter error =>
      unfold respond
      rw [hlog]
      exact hother

end Calls

/-- What the calls of a tick keep of the records. -/
def recordDiscipline (config : SchedulerConfig) :
    Discipline (tickPool config) RecordProgress where
  protocol := recordProtocol
  start _ _ := .start
  global := Recorded config.tie
  assertion watchTarget progress store := ∀ id, watchTarget.id = some id →
    progress.Holds config.tie id (logOf store id)
  ended _ _ _ := True
  apart left right := left.id ≠ right.id
  admits _ _ _ _ := True
  obeys_start watchTarget _ _ := checkWatchTarget_records watchTarget
  assertion_start _ _ _ _ _ := RecordProgress.holds_start _ _ _
  respond_own _ _ reaction _ _ hrecorded hholds hallows _ :=
    ⟨trivial, Recorded.call hrecorded hholds hallows reaction,
      fun _ hid => holds_call hrecorded hholds hallows reaction hid⟩
  respond_other _ _ _ reaction _ _ _ hrecorded hholds hallows _ hne _ hother id hid :=
    holds_other hrecorded hholds hallows reaction (fun h => hne (h.trans hid.symm)) (hother id hid)
  respond_ended _ _ _ _ _ _ _ _ _ _ _ _ hended := hended
  ended_of_post _ _ _ _ _ _ _ := trivial

/-! ## Along a run of the loop -/

/-- Only the monitor writes snapshots. -/
def KeepsSnapshots (loop : MonitorLoop) : LoopMove → Prop
  | .outside db => db.snapshots.rows = loop.store.db.snapshots.rows
  | .elapse _ | .listDue | .listDueRaises | .check _ | .endTick => True

instance decidableKeepsSnapshots (loop : MonitorLoop) :
    ∀ move, Decidable (KeepsSnapshots loop move)
  | .outside db => inferInstanceAs (Decidable (db.snapshots.rows = loop.store.db.snapshots.rows))
  | .elapse _ | .listDue | .listDueRaises | .check _ | .endTick => isTrue trivial

/-- The records of the monitor process are coherent and stay so. -/
def RecordedLoop (config : LoopConfig) (loop : MonitorLoop) : Prop :=
  Recorded config.tie loop.store ∧
    ∀ jobs, loop.phase = .ticking jobs →
      (recordDiscipline config.toSchedulerConfig).Sound ⟨jobs, loop.store⟩

theorem logOf_noteStart (jobs : List CheckJob) (store : MonitorStore) (move : Move Reaction)
    (id : Nat) : logOf (noteStart jobs store move) id = logOf store id := by
  unfold noteStart
  split
  · split <;> rfl
  · rfl

section Loop

variable {config : LoopConfig}

/-- Nothing that happens outside the checks touches the records. -/
theorem RecordedLoop.outside {phase : Phase} {store next : MonitorStore}
    (hrecorded : RecordedLoop config ⟨phase, store⟩)
    (hlogs : ∀ id, logOf next id = logOf store id)
    (hevents : next.db.detectionEvents.rows = store.db.detectionEvents.rows)
    (hdispatched : next.dispatched = store.dispatched) : RecordedLoop config ⟨phase, next⟩ := by
  have hglobal : Recorded config.tie next := by
    refine ⟨?_, ?_⟩
    · intro id
      rw [hlogs]
      exact hrecorded.1.coherent id
    · rw [hdispatched, hevents]
      exact hrecorded.1.stored
  refine ⟨hglobal, ?_⟩
  intro jobs hphase
  refine (hrecorded.2 jobs hphase).change hglobal ?_ fun _ _ _ _ h => h
  intro _ _ _ _ _ hholds id hid
  rw [hlogs]
  exact hholds id hid

/-- The step lemma of the monitor process. -/
theorem RecordedLoop.step {loop next : MonitorLoop} {move : LoopMove}
    (hrecorded : RecordedLoop config loop) (hkeeps : KeepsSnapshots loop move)
    (hstep : loop.step config move = some next) : RecordedLoop config next := by
  cases move with
  | elapse span =>
      cases hstep
      exact hrecorded.outside (fun _ => rfl) rfl rfl
  | outside db =>
      obtain ⟨hown, rfl⟩ := outside_cases hstep
      unfold keepsOwnColumns at hown
      simp only [Bool.and_eq_true, decide_eq_true_eq] at hown
      refine hrecorded.outside ?_ hown.1.2 rfl
      intro id
      have hsnapshots : SqlAlchemySnapshotRepository.ofTarget db id =
          SqlAlchemySnapshotRepository.ofTarget loop.store.db id :=
        congrArg (List.filter _) hkeeps
      have hevents : SqlAlchemyDetectionEventRepository.ofTarget db id =
          SqlAlchemyDetectionEventRepository.ofTarget loop.store.db id :=
        congrArg (List.filter _) hown.1.2
      simp only [logOf, dispatchedFor, publishedOn, hsnapshots, hevents]
  | listDueRaises =>
      cases listDueRaises_cases hstep
      exact ⟨hrecorded.1, fun jobs hphase => (by cases hphase)⟩
  | endTick =>
      obtain ⟨jobs, _, _, rfl⟩ := endTick_cases hstep
      exact ⟨hrecorded.1, fun jobs hphase => (by cases hphase)⟩
  | listDue =>
      obtain ⟨wake, _, _, rfl⟩ := listDue_cases hstep
      refine ⟨hrecorded.1, ?_⟩
      intro jobs hphase
      cases hphase
      exact Discipline.sound_gather _ hrecorded.1
        ((SqlAlchemyWatchTargetRepository.listDue_pairwise _ _).imp fun hne => ⟨hne, hne.symm⟩)
  | check move =>
      obtain ⟨jobs, tick, hphase, _, htick, rfl⟩ := check_cases hstep
      have hnoted : RecordedLoop config ⟨loop.phase, noteStart jobs loop.store move⟩ := by
        refine RecordedLoop.outside hrecorded (logOf_noteStart jobs loop.store move) ?_ ?_
        · rw [db_noteStart]
        · rw [dispatched_noteStart]
      have hadmitted := (recordDiscipline config.toSchedulerConfig).admitted_of_forall
        (fun _ _ _ _ => trivial) ⟨jobs, noteStart jobs loop.store move⟩ move
      have hnext := Discipline.sound_step (hnoted.2 jobs hphase) hadmitted htick
      refine ⟨hnext.global, ?_⟩
      intro jobs hticking
      cases hticking
      exact hnext

/-- The run lemma of the monitor process. -/
theorem recorded_run {store : MonitorStore} (hstore : Recorded config.tie store)
    {moves : List LoopMove} {loop : MonitorLoop}
    (hkeeps : Along (MonitorLoop.step config) KeepsSnapshots (.start store) moves)
    (hrun : (MonitorLoop.start store).run config moves = some loop) :
    Recorded config.tie loop.store := by
  refine (along_invariant (RecordedLoop config) ?_ hkeeps hrun ?_).1
  · exact fun _ _ _ hrecorded hcondition hstep => hrecorded.step hcondition hstep
  · exact ⟨⟨hstore.coherent, hstore.stored⟩, fun jobs hphase => (by cases hphase)⟩

end Loop

/-- In every run of the monitor on coherent records, whatever the calls of its checks come
to and however they interleave: the events of every snapshot are the first of those
`diff_snapshots` reports for it against the newest snapshot stored before it, and what is
published and dispatched for a target follows its stored events in their order. -/
theorem records_stay_coherent {config : LoopConfig} {store : MonitorStore}
    (hstore : Recorded config.tie store) {moves : List LoopMove} {loop : MonitorLoop}
    (hkeeps : Along (MonitorLoop.step config) KeepsSnapshots (.start store) moves)
    (hrun : (MonitorLoop.start store).run config moves = some loop) :
    (∀ id, (logOf loop.store id).Coherent config.tie) ∧
      ∀ eventId ∈ loop.store.dispatched, ∃ event ∈ loop.store.db.detectionEvents.rows,
        event.id = eventId := by
  have hrecorded := recorded_run hstore hkeeps hrun
  exact ⟨hrecorded.coherent, hrecorded.stored⟩

/-- A store in which nothing is on record. -/
theorem recorded_of_empty {tie : Nat → Nat} {store : MonitorStore}
    (hsnapshots : store.db.snapshots.rows = []) (hevents : store.db.detectionEvents.rows = [])
    (hpublished : store.published = []) (hdispatched : store.dispatched = []) :
    Recorded tie store := by
  refine ⟨?_, ?_⟩
  · intro id
    have hlog : logOf store id = ⟨[], [], [], []⟩ := by
      simp [logOf, publishedOn, dispatchedFor, SqlAlchemySnapshotRepository.ofTarget,
        SqlAlchemyDetectionEventRepository.ofTarget, hsnapshots, hevents, hpublished, hdispatched]
    rw [hlog]
    exact ⟨fun _ h => (by cases h), fun _ h => (by cases h), List.Sublist.refl _,
      List.Sublist.refl _⟩
  · rw [hdispatched]
    exact fun _ h => (by cases h)

/-- A tick that finds the Delhi product, published, and its dispatch. -/
def findingTick : List LoopMove :=
  [.listDue, .check (.start 0 [.returns []]), .check (.resume 0 (.returns []) []),
    .check (.resume 0 (.returns []) []), .check (.resume 0 (.returns [delhiAvailable]) []),
    .check (.resume 0 (.returns []) []), .check (.resume 0 (.returns []) []),
    .check (.resume 0 (.returns []) []), .check (.resume 0 (.returns []) [.returns []])]

/-- The first snapshot of the Delhi product and its event are on record. -/
theorem delhi_records_coherent :
    ∃ loop, (MonitorLoop.start delhiStore).run mainLoop findingTick = some loop ∧
      loop.store.dispatched = [1] ∧ (logOf loop.store 1).Coherent mainLoop.tie := by
  have hdispatched : ((MonitorLoop.start delhiStore).run mainLoop findingTick).map
      (fun loop => loop.store.dispatched) = some [1] := by decide +kernel
  obtain ⟨loop, hrun, hloop⟩ := Option.map_eq_some_iff.mp hdispatched
  exact ⟨loop, hrun, hloop, (records_stay_coherent (recorded_of_empty rfl rfl rfl rfl)
    (by decide +kernel) hrun).1 1⟩

end StockMonitoring.Monitor
