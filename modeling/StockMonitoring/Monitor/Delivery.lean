import StockMonitoring.Monitor.Polling
import StockMonitoring.Tasks.Workers

set_option autoImplicit false

/-!
# Monitor: from a dispatched event to the worker

The monitor and the workers have one database.  `monitor/main.py` opens one session for
the whole process and never commits it, so what the monitor has flushed stays its own:
every event id the monitor dispatches is above the ids of the committed events
(`Numbered`), and no worker that takes one finds its event
(`dispatched_events_found_iff`).
-/

namespace StockMonitoring.Monitor

open StockMonitoring.Foundation StockMonitoring.Domain StockMonitoring.Application
  StockMonitoring.Infrastructure.Db StockMonitoring.Tasks

/-! ## The system -/

/-- The monitor process, what is committed, and the tasks in progress. -/
structure AlertSystem where
  loop : MonitorLoop
  committed : Database
  workers : List Worker

/-- What happens next. -/
inductive AlertMove where
  /-- a step of the monitor process; it commits nothing -/
  | monitor (move : LoopMove)
  /-- another process commits; what the monitor's session sees of it is a step of its own -/
  | commit (db : Database)
  /-- a worker takes an event id from the queue -/
  | take (eventId : Nat)
  /-- the next call of a task in progress -/
  | call (index : Nat) (turns : NotifyOp → NotifyTurn)
  /-- a task ends: its session commits, or is discarded -/
  | finish (index : Nat)

/-- One step of the system; `none` when it is not possible. -/
def AlertSystem.step (monitor : LoopConfig) (service : NotificationConfig) (system : AlertSystem) :
    AlertMove → Option AlertSystem
  | .monitor move =>
      (system.loop.step monitor move).map fun loop => { system with loop := loop }
  | .commit db =>
      -- only the monitor writes detection events
      if db.detectionEvents.rows = system.committed.detectionEvents.rows then
        some { system with committed := db }
      else none
  | .take eventId =>
      if eventId ∈ system.loop.store.dispatched then
        some { system with workers := system.workers ++ [.take service eventId] }
      else none
  | .call index turns =>
      (system.workers[index]?).bind fun task =>
        (task.call service system.committed turns).map fun next =>
          { system with workers := system.workers.set index next }
  | .finish index =>
      (system.workers[index]?).bind fun task =>
        (task.finish system.committed).map fun db =>
          { system with
            committed := db
            workers := system.workers.eraseIdx index }

/-- The monitor starts on the committed database, with nothing dispatched. -/
def AlertSystem.start (store : MonitorStore) : AlertSystem :=
  ⟨MonitorLoop.start { store with dispatched := [] }, store.db, []⟩

/-! ## The ids of the dispatched events -/

/-- From `bound` on the event ids are the monitor's own, and it has dispatched only such. -/
structure Numbered (bound : Nat) (store : MonitorStore) : Prop where
  nextId : bound ≤ store.db.detectionEvents.nextId
  dispatched : ∀ eventId ∈ store.dispatched, bound ≤ eventId

section Numbered

variable {bound : Nat} {config : SchedulerConfig} {watchTarget : WatchTarget} {op : MonitorOp}
  {progress : CheckProgress} {store : MonitorStore}

theorem numbered_work (hnumbered : Numbered bound store)
    (hcreated : ∀ eventId ∈ progress.created, bound ≤ eventId)
    (hallows : progress.Allows watchTarget op) (config : MonitorConfig)
    (found : List ProviderProductResult) : Numbered bound (work config found op store).2 := by
  cases op with
  | createEvent watchTargetId snapshotId previousId eventType createdAt =>
      exact ⟨Nat.le_succ_of_le hnumbered.nextId, hnumbered.dispatched⟩
  | dispatchDetectionEvent eventId =>
      refine ⟨hnumbered.nextId, ?_⟩
      intro other hother
      rcases List.mem_append.mp hother with hold | hnew
      · exact hnumbered.dispatched other hold
      · rw [List.mem_singleton.mp hnew]
        exact hcreated eventId hallows
  | registryGet slug =>
      simp only [work]
      split <;> exact hnumbered
  | _ => exact ⟨hnumbered.nextId, hnumbered.dispatched⟩

theorem Numbered.call (hnumbered : Numbered bound store)
    (hcreated : ∀ eventId ∈ progress.created, bound ≤ eventId)
    (hallows : progress.Allows watchTarget op) (config : MonitorConfig) (reaction : Reaction) :
    Numbered bound (respond config op reaction store).2 := by
  cases reaction with
  | returns found => exact numbered_work hnumbered hcreated hallows config found
  | raises error => exact hnumbered
  | raisesAfter error => exact numbered_work hnumbered hcreated hallows config []

/-- The ids a check is given are the monitor's own. -/
theorem created_next (hnumbered : Numbered bound store)
    (hcreated : ∀ eventId ∈ progress.created, bound ≤ eventId) (config : MonitorConfig)
    (reaction : Reaction) :
    ∀ eventId ∈ (progress.next op (respond config op reaction store).1).created,
      bound ≤ eventId := by
  cases reaction with
  | raises error => exact hcreated
  | raisesAfter error => exact hcreated
  | returns found =>
      cases op with
      | createEvent watchTargetId snapshotId previousId eventType createdAt =>
          intro eventId hmem
          rcases List.mem_append.mp hmem with hnew | hold
          · cases List.mem_singleton.mp hnew
            exact hnumbered.nextId
          · exact hcreated eventId hold
      | registryGet slug =>
          simp only [respond, work]
          split <;> exact hcreated
      | markChecked watchTargetId checkedAt =>
          cases hreply : (respond config (.markChecked watchTargetId checkedAt) (.returns found)
            store).1 <;> exact hcreated
      | _ => exact hcreated

/-- What the calls of a tick keep of the event ids. -/
def numberingDiscipline (config : SchedulerConfig) (bound : Nat) :
    Discipline (tickPool config) CheckProgress where
  protocol := checkProtocol
  start _ _ := .start
  global := Numbered bound
  assertion _ progress _ := ∀ eventId ∈ progress.created, bound ≤ eventId
  ended _ _ _ := True
  apart _ _ := True
  admits _ _ _ _ := True
  obeys_start watchTarget _ _ := checkWatchTarget_obeys watchTarget
  assertion_start _ _ _ _ h := by cases h
  respond_own _ _ reaction _ _ hnumbered hcreated hallows _ :=
    ⟨trivial, hnumbered.call hcreated hallows _ reaction,
      created_next hnumbered hcreated _ reaction⟩
  respond_other _ _ _ _ _ _ _ _ _ _ _ _ _ hother := hother
  respond_ended _ _ _ _ _ _ _ _ _ _ _ _ hended := hended
  ended_of_post _ _ _ _ _ _ _ := trivial

end Numbered

/-- The event ids of the monitor process are in order. -/
def NumberedLoop (config : LoopConfig) (bound : Nat) (loop : MonitorLoop) : Prop :=
  Numbered bound loop.store ∧
    ∀ jobs, loop.phase = .ticking jobs →
      (numberingDiscipline config.toSchedulerConfig bound).Sound ⟨jobs, loop.store⟩

section Loop

variable {config : LoopConfig} {bound : Nat}

/-- Nothing that happens outside the checks touches the event ids. -/
theorem NumberedLoop.outside {phase : Phase} {store next : MonitorStore}
    (hnumbered : NumberedLoop config bound ⟨phase, store⟩)
    (hnext : next.db.detectionEvents.nextId = store.db.detectionEvents.nextId)
    (hdispatched : next.dispatched = store.dispatched) :
    NumberedLoop config bound ⟨phase, next⟩ := by
  have hglobal : Numbered bound next := by
    refine ⟨?_, ?_⟩
    · rw [hnext]
      exact hnumbered.1.nextId
    · rw [hdispatched]
      exact hnumbered.1.dispatched
  refine ⟨hglobal, ?_⟩
  intro jobs hphase
  exact (hnumbered.2 jobs hphase).change hglobal (fun _ _ _ _ _ h => h) fun _ _ _ _ h => h

/-- The step lemma of the monitor process. -/
theorem NumberedLoop.step {loop next : MonitorLoop} {move : LoopMove}
    (hnumbered : NumberedLoop config bound loop) (hstep : loop.step config move = some next) :
    NumberedLoop config bound next := by
  cases move with
  | elapse span =>
      cases hstep
      exact hnumbered.outside rfl rfl
  | outside db =>
      obtain ⟨hkeeps, rfl⟩ := outside_cases hstep
      unfold keepsOwnColumns at hkeeps
      simp only [Bool.and_eq_true, decide_eq_true_eq] at hkeeps
      exact hnumbered.outside hkeeps.2 rfl
  | listDueRaises =>
      cases listDueRaises_cases hstep
      exact ⟨hnumbered.1, fun jobs hphase => (by cases hphase)⟩
  | endTick =>
      obtain ⟨jobs, _, _, rfl⟩ := endTick_cases hstep
      exact ⟨hnumbered.1, fun jobs hphase => (by cases hphase)⟩
  | listDue =>
      obtain ⟨wake, _, _, rfl⟩ := listDue_cases hstep
      refine ⟨hnumbered.1, ?_⟩
      intro jobs hphase
      cases hphase
      exact Discipline.sound_gather _ hnumbered.1
        (List.pairwise_of_forall fun _ _ => ⟨trivial, trivial⟩)
  | check move =>
      obtain ⟨jobs, tick, hphase, _, htick, rfl⟩ := check_cases hstep
      have hnoted : NumberedLoop config bound ⟨loop.phase, noteStart jobs loop.store move⟩ := by
        refine NumberedLoop.outside hnumbered ?_ ?_
        · rw [db_noteStart]
        · rw [dispatched_noteStart]
      have hadmitted := (numberingDiscipline config.toSchedulerConfig bound).admitted_of_forall
        (fun _ _ _ _ => trivial) ⟨jobs, noteStart jobs loop.store move⟩ move
      have hnext := Discipline.sound_step (hnoted.2 jobs hphase) hadmitted htick
      refine ⟨hnext.global, ?_⟩
      intro jobs hticking
      cases hticking
      exact hnext

end Loop

/-! ## What the workers see -/

/-- The monitor has kept its events to itself. -/
structure Unseen (monitor : LoopConfig) (bound : Nat) (system : AlertSystem) : Prop where
  loop : NumberedLoop monitor bound system.loop
  committed : ∀ row ∈ system.committed.detectionEvents.rows, row.id < bound

/-- A call of a task is one of the silent returns of `process_event`: no event, or no
target or snapshot. -/
def returnsEarly (before after : Worker) : Bool :=
  match before.program, after.program with
  | .call (.getEvent _) _, .ret _ => true
  | .call (.getSnapshot _) _, .ret _ => true
  | _, _ => false

/-- A dispatched event that is taken is found: it is committed with its target and
snapshot, and no task returns silently. -/
def EventsFound (service : NotificationConfig) (system : AlertSystem) : AlertMove → Prop
  | .take eventId => eventId ∈ system.loop.store.dispatched →
      (contextOf system.committed eventId).isSome = true
  | .call index turns => ∀ task ∈ system.workers[index]?,
      ∀ next ∈ task.call service system.committed turns, returnsEarly task next = false
  | .monitor _ | .commit _ | .finish _ => True

instance decidableEventsFound (service : NotificationConfig) (system : AlertSystem) :
    ∀ move, Decidable (EventsFound service system move)
  | .take eventId => inferInstanceAs (Decidable (eventId ∈ system.loop.store.dispatched →
      (contextOf system.committed eventId).isSome = true))
  | .call index turns => inferInstanceAs (Decidable (∀ task ∈ system.workers[index]?,
      ∀ next ∈ task.call service system.committed turns, returnsEarly task next = false))
  | .monitor _ | .commit _ | .finish _ => isTrue trivial

/-- No dispatched event is taken. -/
def NothingTaken (system : AlertSystem) (move : AlertMove) : Prop :=
  ∀ eventId, move = .take eventId → eventId ∉ system.loop.store.dispatched

section Workers

variable {monitor : LoopConfig} {service : NotificationConfig} {bound : Nat}
  {system next : AlertSystem}

/-- The end of a task leaves the committed events as they are. -/
theorem detectionEvents_finish {task : Worker} {committed after : Database}
    (hfinish : task.finish committed = some after) :
    after.detectionEvents = committed.detectionEvents := by
  obtain ⟨eventId, program, flushed⟩ := task
  cases program with
  | ret value =>
      cases hfinish
      rfl
  | raise error =>
      cases hfinish
      rfl
  | call op resume => cases hfinish

/-- The step lemma of the system. -/
theorem Unseen.step {move : AlertMove} (hunseen : Unseen monitor bound system)
    (hstep : system.step monitor service move = some next) : Unseen monitor bound next := by
  cases move with
  | monitor move =>
      obtain ⟨loop, hloop, rfl⟩ := Option.map_eq_some_iff.mp hstep
      exact ⟨hunseen.loop.step hloop, hunseen.committed⟩
  | commit db =>
      simp only [AlertSystem.step] at hstep
      split at hstep
      · rename_i hevents
        cases hstep
        refine ⟨hunseen.loop, ?_⟩
        rw [hevents]
        exact hunseen.committed
      · cases hstep
  | take eventId =>
      simp only [AlertSystem.step] at hstep
      split at hstep
      · cases hstep
        exact ⟨hunseen.loop, hunseen.committed⟩
      · cases hstep
  | call index turns =>
      obtain ⟨task, _, hcall⟩ := Option.bind_eq_some_iff.mp hstep
      obtain ⟨after, _, rfl⟩ := Option.map_eq_some_iff.mp hcall
      exact ⟨hunseen.loop, hunseen.committed⟩
  | finish index =>
      obtain ⟨task, _, hfinish⟩ := Option.bind_eq_some_iff.mp hstep
      obtain ⟨db, hdb, rfl⟩ := Option.map_eq_some_iff.mp hfinish
      refine ⟨hunseen.loop, ?_⟩
      rw [detectionEvents_finish hdb]
      exact hunseen.committed

/-- None of the monitor's own events is committed. -/
theorem Unseen.find?_eq_none_of_le (hunseen : Unseen monitor bound system) {eventId : Nat}
    (hle : bound ≤ eventId) : system.committed.detectionEvents.find? eventId = none := by
  apply List.find?_eq_none.mpr
  intro row hrow
  have hlt := hunseen.committed row hrow
  have hne : Keyed.key row ≠ eventId := Nat.ne_of_lt (Nat.lt_of_lt_of_le hlt hle)
  simpa using hne

theorem Unseen.contextOf_eq_none (hunseen : Unseen monitor bound system) {eventId : Nat}
    (hdispatched : eventId ∈ system.loop.store.dispatched) :
    contextOf system.committed eventId = none := by
  unfold contextOf
  rw [hunseen.find?_eq_none_of_le (hunseen.loop.1.dispatched eventId hdispatched)]
  rfl

theorem unseen_start (monitor : LoopConfig) (store : MonitorStore) :
    Unseen monitor store.db.detectionEvents.nextId (.start store) := by
  refine ⟨⟨⟨Nat.le_refl _, fun _ h => (by cases h)⟩, fun jobs hphase => (by cases hphase)⟩, ?_⟩
  exact store.db.detectionEvents.keys_lt

/-- Every task is of a dispatched event and has come no further than its silent return. -/
def Ignored (service : NotificationConfig) (bound : Nat) (system : AlertSystem) : Prop :=
  ∀ task ∈ system.workers, bound ≤ task.eventId ∧
    (task = .take service task.eventId ∨ task = ⟨task.eventId, .ret (), []⟩)

theorem Ignored.step {move : AlertMove} (hignored : Ignored service bound system)
    (hunseen : Unseen monitor bound system)
    (hstep : system.step monitor service move = some next) : Ignored service bound next := by
  cases move with
  | monitor move =>
      obtain ⟨loop, _, rfl⟩ := Option.map_eq_some_iff.mp hstep
      exact hignored
  | commit db =>
      simp only [AlertSystem.step] at hstep
      split at hstep <;> cases hstep
      exact hignored
  | take eventId =>
      simp only [AlertSystem.step] at hstep
      split at hstep
      · rename_i hdispatched
        cases hstep
        intro task htask
        rcases List.mem_append.mp htask with hold | hnew
        · exact hignored task hold
        · rw [List.mem_singleton.mp hnew]
          exact ⟨hunseen.loop.1.dispatched eventId hdispatched, Or.inl rfl⟩
      · cases hstep
  | call index turns =>
      obtain ⟨task, htask, hcall⟩ := Option.bind_eq_some_iff.mp hstep
      obtain ⟨after, hafter, rfl⟩ := Option.map_eq_some_iff.mp hcall
      obtain ⟨hbound, hprogram⟩ := hignored task (List.mem_of_getElem? htask)
      intro other hother
      rcases List.mem_or_eq_of_mem_set hother with hold | rfl
      · exact hignored other hold
      · rcases hprogram with hfresh | hreturned
        · rw [hfresh, call_of_absent (hunseen.find?_eq_none_of_le hbound)] at hafter
          cases hafter
          exact ⟨hbound, Or.inr rfl⟩
        · rw [hreturned] at hafter
          cases hafter
  | finish index =>
      obtain ⟨task, _, hfinish⟩ := Option.bind_eq_some_iff.mp hstep
      obtain ⟨db, _, rfl⟩ := Option.map_eq_some_iff.mp hfinish
      intro other hother
      exact hignored other (List.mem_of_mem_eraseIdx hother)

/-- Without a task taken there is no worker. -/
theorem workers_eq_nil {move : AlertMove} (hnone : system.workers = [])
    (htaken : NothingTaken system move) (hstep : system.step monitor service move = some next) :
    next.workers = [] := by
  cases move with
  | monitor move =>
      obtain ⟨loop, _, rfl⟩ := Option.map_eq_some_iff.mp hstep
      exact hnone
  | commit db =>
      simp only [AlertSystem.step] at hstep
      split at hstep <;> cases hstep
      exact hnone
  | take eventId =>
      simp only [AlertSystem.step, htaken eventId rfl, if_false] at hstep
      cases hstep
  | call index turns =>
      obtain ⟨task, htask, _⟩ := Option.bind_eq_some_iff.mp hstep
      rw [hnone] at htask
      cases htask
  | finish index =>
      obtain ⟨task, htask, _⟩ := Option.bind_eq_some_iff.mp hstep
      rw [hnone] at htask
      cases htask

end Workers

/-- In a run of the monitor and the workers every dispatched event that is taken is found
exactly when none is taken. -/
theorem dispatched_events_found_iff (monitor : LoopConfig) (service : NotificationConfig)
    (store : MonitorStore) (moves : List AlertMove) :
    Along (AlertSystem.step monitor service) (EventsFound service) (.start store) moves ↔
      Along (AlertSystem.step monitor service) NothingTaken (.start store) moves := by
  constructor
  · intro hfound
    refine hfound.of_invariant (Unseen monitor store.db.detectionEvents.nextId) ?_ ?_
      (unseen_start monitor store)
    · exact fun _ _ _ hunseen _ hstep => hunseen.step hstep
    · rintro system _ hunseen hvisible eventId rfl hdispatched
      have hsome := hvisible hdispatched
      rw [hunseen.contextOf_eq_none hdispatched] at hsome
      cases hsome
  · intro htaken
    refine htaken.of_invariant (fun system => system.workers = []) ?_ ?_ rfl
    · exact fun _ _ _ hnone hmove hstep => workers_eq_nil hnone hmove hstep
    · intro system move hnone hmove
      cases move with
      | take eventId => exact fun hdispatched => absurd hdispatched (hmove eventId rfl)
      | call index turns =>
          intro task htask
          rw [hnone] at htask
          cases htask
      | monitor _ | commit _ | finish _ => trivial

/-- The Delhi product is available. -/
def delhiAvailable : ProviderProductResult :=
  ⟨"blinkit", "milk", "Milk", .available, none, none, none, none, none, none, none, [], none, 0⟩

/-- In every run no task gets further than the silent return of `process_event`: it has
sent and logged nothing. -/
theorem taken_events_ignored {monitor : LoopConfig} {service : NotificationConfig}
    {store : MonitorStore} {moves : List AlertMove} {system : AlertSystem}
    (hrun : runFrom (AlertSystem.step monitor service) (.start store) moves = some system) :
    ∀ task ∈ system.workers,
      task = .take service task.eventId ∨ task = ⟨task.eventId, .ret (), []⟩ := by
  let bound := store.db.detectionEvents.nextId
  have hsystem : Unseen monitor bound system ∧ Ignored service bound system := by
    refine runFrom_invariant (fun reached => Unseen monitor bound reached ∧
      Ignored service bound reached) ?_ hrun ⟨unseen_start monitor store, fun _ h => (by cases h)⟩
    intro reached move next hreached hstep
    exact ⟨hreached.1.step hstep, hreached.2.step hreached.1 hstep⟩
  intro task htask
  exact (hsystem.2 task htask).2

/-- A tick in which the Delhi product is found, up to the dispatch of its event. -/
def dispatchingTick : List AlertMove :=
  [.listDue, .check (.start 0 [.returns []]), .check (.resume 0 (.returns []) []),
    .check (.resume 0 (.returns []) []), .check (.resume 0 (.returns [delhiAvailable]) []),
    .check (.resume 0 (.returns []) []), .check (.resume 0 (.returns []) []),
    .check (.resume 0 (.returns []) []),
    .check (.resume 0 (.returns []) [.returns []])].map .monitor

/-- The worker that takes the event looks for it and returns. -/
theorem delhi_event_is_lost :
    ¬ Along (AlertSystem.step mainLoop workerConfig) (EventsFound workerConfig)
      (.start delhiStore) (dispatchingTick ++ [.take 1, .call 0 (reachableTurns 0)]) := by
  decide +kernel

end StockMonitoring.Monitor
