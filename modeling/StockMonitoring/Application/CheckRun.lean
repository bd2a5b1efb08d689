import StockMonitoring.Application.Baseline
import StockMonitoring.Application.MonitoringService

set_option autoImplicit false

/-!
# Application: runs of checks of one watch target

One check runs against a `Script`: for each of its calls, the outside's reaction
and the calls of other checks that the event loop ran before it.  Nothing is
assumed of those but that they do not write rows of this target, so a statement
about scripts covers every interleaving with checks of other targets.

`Tracks` connects the database with the abstract baseline of
`Application.Baseline`; every check whose calls return keeps it (`tracks_check`).
-/

namespace StockMonitoring.Application

open StockMonitoring.Foundation StockMonitoring.Domain StockMonitoring.Infrastructure.Db

/-! ## The rows of one watch target -/

/-- The watch target whose rows a call writes. -/
def MonitorOp.writes : MonitorOp → Option Nat
  | .createSnapshot watchTargetId _ => some watchTargetId
  | .createEvent watchTargetId _ _ _ _ => some watchTargetId
  | .markChecked watchTargetId _ => some watchTargetId
  | _ => none

/-- What the database holds about one watch target. -/
structure TargetView where
  persisted : Bool
  snapshots : List SnapshotModel
  events : List DetectionEventModel

/-- The same with more events. -/
def TargetView.addEvents (view : TargetView) (rows : List DetectionEventModel) : TargetView :=
  { view with events := view.events ++ rows }

/-- The same with one more snapshot. -/
def TargetView.addSnapshot (view : TargetView) (row : SnapshotModel) : TargetView :=
  { view with snapshots := view.snapshots ++ [row] }

theorem TargetView.addEvents_addEvents (view : TargetView)
    (first second : List DetectionEventModel) :
    (view.addEvents first).addEvents second = view.addEvents (first ++ second) := by
  simp [addEvents]

@[simp] theorem TargetView.addEvents_nil (view : TargetView) : view.addEvents [] = view := by
  simp [addEvents]

/-- `get_latest` on a view. -/
def TargetView.latest (view : TargetView) (tie : Nat → Nat) : Option Snapshot :=
  (newest tie SnapshotModel.timestamp view.snapshots).map toSnapshot

/-- The rows of watch target `id`. -/
def targetView (db : Database) (id : Nat) : TargetView :=
  ⟨(db.watchTargets.find? id).isSome, SqlAlchemySnapshotRepository.ofTarget db id,
    SqlAlchemyDetectionEventRepository.ofTarget db id⟩

theorem targetView_createSnapshot (db : Database) (id : Nat) (result : ProviderProductResult) :
    targetView (SqlAlchemySnapshotRepository.create db id result).2 id =
      (targetView db id).addSnapshot
        (SqlAlchemySnapshotRepository.rowOf id result db.snapshots.nextId) := by
  have hsnapshots := SqlAlchemySnapshotRepository.ofTarget_create db id id result
  rw [if_pos rfl] at hsnapshots
  unfold targetView
  rw [hsnapshots]
  rfl

theorem targetView_createEvent (db : Database) (id snapshotId : Nat)
    (previousSnapshotId : Option Nat) (eventType : EventType) (createdAt : Datetime) :
    targetView (SqlAlchemyDetectionEventRepository.create db id snapshotId previousSnapshotId
        eventType createdAt).2 id =
      (targetView db id).addEvents
        [⟨db.detectionEvents.nextId, id, snapshotId, previousSnapshotId, eventType,
          createdAt⟩] := by
  have hevents := SqlAlchemyDetectionEventRepository.ofTarget_create db id snapshotId id
    previousSnapshotId eventType createdAt
  rw [if_pos rfl] at hevents
  unfold targetView
  rw [hevents]
  rfl

theorem targetView_markChecked (db : Database) (id watchTargetId : Nat) (checkedAt : Datetime) :
    targetView (SqlAlchemyWatchTargetRepository.markChecked db watchTargetId checkedAt).2 id =
      targetView db id := by
  unfold SqlAlchemyWatchTargetRepository.markChecked
  cases hfind : db.watchTargets.find? watchTargetId with
  | none =>
      rw [updateOne_of_none hfind]
  | some row =>
      rw [updateOne_of_some hfind]
      simp only [targetView, Table.find?_modify, SqlAlchemySnapshotRepository.ofTarget,
        SqlAlchemyDetectionEventRepository.ofTarget]
      split <;> simp

/-- A call that writes no row of a target leaves its rows as they are. -/
theorem targetView_work {config : MonitorConfig} {found : List ProviderProductResult}
    {op : MonitorOp} {id : Nat} (hwrites : op.writes ≠ some id) (store : MonitorStore) :
    targetView (work config found op store).2.db id = targetView store.db id := by
  cases op with
  | createSnapshot watchTargetId result =>
      have hne : watchTargetId ≠ id := fun h => hwrites (congrArg some h)
      have hsnapshots := SqlAlchemySnapshotRepository.ofTarget_create store.db watchTargetId id
        result
      rw [if_neg hne, List.append_nil] at hsnapshots
      simp only [work, targetView, hsnapshots]
      rfl
  | createEvent watchTargetId snapshotId previousSnapshotId eventType createdAt =>
      have hne : watchTargetId ≠ id := fun h => hwrites (congrArg some h)
      have hevents := SqlAlchemyDetectionEventRepository.ofTarget_create store.db watchTargetId
        snapshotId id previousSnapshotId eventType createdAt
      rw [if_neg hne, List.append_nil] at hevents
      simp only [work, targetView, hevents]
      rfl
  | markChecked watchTargetId checkedAt =>
      exact targetView_markChecked store.db id watchTargetId checkedAt
  | registryGet slug =>
      simp only [work]
      split <;> rfl
  | setLocation | closeLocationPage | searchProduct | now | getLatest | publish
  | dispatchDetectionEvent => rfl

theorem targetView_respond (config : MonitorConfig) {op : MonitorOp} {id : Nat}
    (hwrites : op.writes ≠ some id) (reaction : Reaction) (store : MonitorStore) :
    targetView (respond config op reaction store).2.db id = targetView store.db id := by
  cases reaction with
  | returns found => exact targetView_work hwrites store
  | raises error => rfl
  | raisesAfter error => exact targetView_work hwrites store

/-! ## Scripts -/

/-- What happens at one call of a check. -/
structure Turn where
  /-- the calls of other checks that come before it -/
  foreign : List (MonitorOp × Reaction)
  reaction : MonitorOp → Reaction

/-- The turns of a check, by the number of calls it has made. -/
abbrev Script : Type := Nat → Turn

/-- The other checks of a script never write rows of target `id`. -/
def Script.Foreign (script : Script) (id : Nat) : Prop :=
  ∀ turn, ∀ call ∈ (script turn).foreign, call.1.writes ≠ some id

/-- The effect of other checks' calls. -/
def playForeign (config : MonitorConfig) (calls : List (MonitorOp × Reaction))
    (store : MonitorStore) : MonitorStore :=
  calls.foldl (fun reached call => (respond config call.1 call.2 reached).2) store

/-- The handler a script stands for. -/
def scripted (config : MonitorConfig) (script : Script) :
    Handler monitorPort Raised (Nat × MonitorStore) := fun op (turn, store) =>
  let (reply, next) := respond config op ((script turn).reaction op)
    (playForeign config (script turn).foreign store)
  (reply, (turn + 1, next))

theorem targetView_playForeign {config : MonitorConfig} {calls : List (MonitorOp × Reaction)}
    {id : Nat} (hcalls : ∀ call ∈ calls, call.1.writes ≠ some id) (store : MonitorStore) :
    targetView (playForeign config calls store).db id = targetView store.db id := by
  induction calls generalizing store with
  | nil => rfl
  | cons call rest ih =>
      have hrest := ih (fun later hlater => hcalls later (List.mem_cons_of_mem _ hlater))
        (respond config call.1 call.2 store).2
      have hcall := targetView_respond config (hcalls call List.mem_cons_self) call.2 store
      exact hrest.trans hcall

/-- The calls a detection is reported through. -/
def MonitorOp.reports : MonitorOp → Bool
  | .createSnapshot _ _ | .createEvent _ _ _ _ _ | .publish _ _ | .dispatchDetectionEvent _ => true
  | _ => false

/-- All calls but the reporting ones return. -/
def Script.Calm (script : Script) (found : List ProviderProductResult) : Prop :=
  ∀ turn op, op.reports = false → (script turn).reaction op = .returns found

/-- A script without other checks. -/
def Script.Alone (script : Script) : Prop :=
  ∀ turn, (script turn).foreign = []

section Calls

variable {config : MonitorConfig} {script : Script} {found : List ProviderProductResult}
  {α : Type}

/-- The store a call of the check finds. -/
def arrival (config : MonitorConfig) (script : Script) (turn : Nat) (store : MonitorStore) :
    MonitorStore :=
  playForeign config (script turn).foreign store

theorem targetView_arrival {id : Nat} (hforeign : script.Foreign id) (turn : Nat)
    (store : MonitorStore) :
    targetView (arrival config script turn store).db id = targetView store.db id :=
  targetView_playForeign (hforeign turn) store

theorem arrival_alone (halone : script.Alone) (turn : Nat) (store : MonitorStore) :
    arrival config script turn store = store := by
  unfold arrival
  rw [halone turn]
  rfl

/-- A call that returns. -/
theorem exec_call_returns {op : MonitorOp} {turn : Nat} {store next : MonitorStore}
    {answer : op.Answer} (hreturns : (script turn).reaction op = .returns found)
    (hwork : work config found op (arrival config script turn store) = (.ok answer, next))
    (resume : Reply monitorPort Raised op → Monitor α) :
    (Co.exec (scripted config script) (.call op resume) (turn, store)).ending =
      (Co.exec (scripted config script) (resume (.ok answer)) (turn + 1, next)).ending := by
  have hreply : scripted config script op (turn, store) = (.ok answer, (turn + 1, next)) := by
    unfold arrival at hwork
    simp only [scripted, respond, hreturns, hwork]
  rw [Co.exec_call, Outcome.after_ending, hreply]

/-- A call that returns hands its answer to the rest. -/
theorem exec_ask {op : MonitorOp} {turn : Nat} {store next : MonitorStore} {answer : op.Answer}
    (hreturns : (script turn).reaction op = .returns found)
    (hwork : work config found op (arrival config script turn store) = (.ok answer, next))
    (rest : op.Answer → Monitor α) :
    (Co.exec (scripted config script) (ask op >>= rest) (turn, store)).ending =
      (Co.exec (scripted config script) (rest answer) (turn + 1, next)).ending :=
  exec_call_returns hreturns hwork _

/-- A call that raises ends the check. -/
theorem exec_ask_raises {op : MonitorOp} {turn : Nat} {store next : MonitorStore}
    {error : Raised}
    (hrespond : respond config op ((script turn).reaction op) (arrival config script turn store) =
      (.error error, next))
    (rest : op.Answer → Monitor α) :
    (Co.exec (scripted config script) (ask op >>= rest) (turn, store)).ending =
      (.error error, (turn + 1, next)) := by
  have hreply : scripted config script op (turn, store) = (.error error, (turn + 1, next)) := by
    unfold arrival at hrespond
    simp only [scripted, hrespond]
  unfold ask Co.perform
  rw [Co.call_bind, Co.exec_call, Outcome.after_ending, hreply]
  rfl

/-- `mark_checked` of a persisted target returns and changes nothing else. -/
theorem work_markChecked (config : MonitorConfig) (found : List ProviderProductResult) {id : Nat}
    {store : MonitorStore} (checkedAt : Datetime)
    (hpersisted : (targetView store.db id).persisted = true) :
    ∃ next, work config found (.markChecked id checkedAt) store = (.ok (), next) ∧
      targetView next.db id = targetView store.db id := by
  obtain ⟨row, hrow⟩ := Option.isSome_iff_exists.mp hpersisted
  refine ⟨(work config found (.markChecked id checkedAt) store).2, ?_,
    targetView_markChecked store.db id id checkedAt⟩
  simp only [work, SqlAlchemyWatchTargetRepository.markChecked, updateOne_of_some hrow]

/-- Up to its search, a check whose calls return leaves its rows as they are. -/
theorem exec_search {watchTarget : WatchTarget} {id : Nat} (hid : watchTarget.id = some id)
    (hslug : watchTarget.retailerSlug ∈ config.factories) (hforeign : script.Foreign id)
    (hcalm : script.Calm found) (store : MonitorStore) :
    ∃ next, targetView next.db id = targetView store.db id ∧
      (script.Alone → next.db = store.db ∧ next.dispatched = store.dispatched) ∧
      (Co.exec (scripted config script) (checkWatchTarget watchTarget) (0, store)).ending =
        (Co.exec (scripted config script) (checkResults id found) (4, next)).ending := by
  let slug := watchTarget.retailerSlug
  let location : LocationContext := ⟨watchTarget.city, watchTarget.pincode⟩
  let resolved := arrival config script 0 store
  let located := (work config found (.setLocation slug location)
    (arrival config script 1 resolved)).2
  let closed := arrival config script 2 located
  let searched := arrival config script 3 closed
  have hresolved : work config found (.registryGet slug) (arrival config script 0 store) =
      (.ok (), resolved) := by
    simp only [work]
    exact if_pos hslug
  refine ⟨searched, ?_, ?_, ?_⟩
  · calc targetView searched.db id
        = targetView closed.db id := targetView_arrival hforeign 3 closed
      _ = targetView located.db id := targetView_arrival hforeign 2 located
      _ = targetView resolved.db id := targetView_arrival hforeign 1 resolved
      _ = targetView store.db id := targetView_arrival hforeign 0 store
  · intro halone
    simp only [searched, closed, located, resolved, arrival_alone halone, work]
    exact ⟨trivial, trivial⟩
  · unfold checkWatchTarget
    rw [hid]
    simp only
    rw [exec_ask (hcalm 0 _ rfl) hresolved]
    unfold initializeProvider
    rw [Co.call_bind, exec_call_returns (hcalm 1 _ rfl) rfl]
    simp only [bind_assoc]
    rw [exec_ask (hcalm 2 _ rfl) rfl]
    simp only [Co.pure_eq, Co.ret_bind]
    rw [exec_ask (hcalm 3 _ rfl) rfl]
    rfl

section Loop

variable (config) (id snapshotId : Nat) (previousId : Option Nat) (scrapedAt : Datetime)

theorem storeEvents_cons (eventType : EventType) (rest : List EventType)
    (events : List DetectionEvent) :
    storeEvents id snapshotId previousId scrapedAt (eventType :: rest) events =
      (ask (.createEvent id snapshotId previousId eventType scrapedAt) >>= fun event =>
        match event.id with
        | none =>
            .raise (.valueError "event_repo.create must return a persisted event with an id")
        | some eventId => do
            ask (.publish id event)
            ask (.dispatchDetectionEvent eventId)
            storeEvents id snapshotId previousId scrapedAt rest (events ++ [event])) := rfl

/-- One round of the loop whose three calls return. -/
theorem exec_storeEvents_cons (hforeign : script.Foreign id) (eventType : EventType)
    (rest : List EventType) {turn : Nat}
    (hcreate : ∀ op, (script turn).reaction op = .returns found)
    (hpublish : ∀ op, (script (turn + 1)).reaction op = .returns found)
    (hdispatch : ∀ op, (script (turn + 2)).reaction op = .returns found)
    (store : MonitorStore) (events : List DetectionEvent)
    (next : List DetectionEvent → Monitor α) :
    ∃ reached row, row.eventType = eventType ∧
      targetView reached.db id = (targetView store.db id).addEvents [row] ∧
      (script.Alone → reached.dispatched = store.dispatched ++ [row.id]) ∧
      (Co.exec (scripted config script) (storeEvents id snapshotId previousId scrapedAt
          (eventType :: rest) events >>= next) (turn, store)).ending =
        (Co.exec (scripted config script) (storeEvents id snapshotId previousId scrapedAt rest
          (events ++ [toDetectionEvent row]) >>= next) (turn + 3, reached)).ending := by
  let arrived := arrival config script turn store
  let row : DetectionEventModel :=
    ⟨arrived.db.detectionEvents.nextId, id, snapshotId, previousId, eventType, scrapedAt⟩
  let created := (work config found (.createEvent id snapshotId previousId eventType scrapedAt)
    arrived).2
  let published := (work config found (.publish id (toDetectionEvent row))
    (arrival config script (turn + 1) created)).2
  let sent := (work config found (.dispatchDetectionEvent row.id)
    (arrival config script (turn + 2) published)).2
  refine ⟨sent, row, rfl, ?_, ?_, ?_⟩
  · have hcreated : targetView created.db id = (targetView arrived.db id).addEvents [row] :=
      targetView_createEvent arrived.db id snapshotId previousId eventType scrapedAt
    calc targetView sent.db id
        = targetView published.db id := targetView_arrival hforeign (turn + 2) published
      _ = targetView created.db id := targetView_arrival hforeign (turn + 1) created
      _ = (targetView arrived.db id).addEvents [row] := hcreated
      _ = (targetView store.db id).addEvents [row] := by
          rw [targetView_arrival hforeign turn store]
  · intro halone
    simp only [sent, published, created, arrived, arrival_alone halone, work, row]
  · rw [storeEvents_cons, bind_assoc, exec_ask (hcreate _) rfl]
    simp only [bind_assoc, toDetectionEvent]
    rw [exec_ask (hpublish _) rfl, exec_ask (hdispatch _) rfl]
    rfl

/-- The rounds of the loop whose calls return. -/
theorem exec_storeEvents (hforeign : script.Foreign id) (first second : List EventType)
    {turn : Nat}
    (hreturns : ∀ later < 3 * first.length, ∀ op,
      (script (turn + later)).reaction op = .returns found)
    (store : MonitorStore) (events : List DetectionEvent)
    (next : List DetectionEvent → Monitor α) :
    ∃ reached rows, rows.map DetectionEventModel.eventType = first ∧
      targetView reached.db id = (targetView store.db id).addEvents rows ∧
      (script.Alone →
        reached.dispatched = store.dispatched ++ rows.map DetectionEventModel.id) ∧
      (Co.exec (scripted config script) (storeEvents id snapshotId previousId scrapedAt
          (first ++ second) events >>= next) (turn, store)).ending =
        (Co.exec (scripted config script) (storeEvents id snapshotId previousId scrapedAt second
          (events ++ rows.map toDetectionEvent) >>= next)
          (turn + 3 * first.length, reached)).ending := by
  induction first generalizing turn store events with
  | nil => exact ⟨store, [], rfl, by simp, by simp, by simp⟩
  | cons eventType rest ih =>
      rw [List.length_cons] at hreturns
      have hcreate : ∀ op, (script turn).reaction op = .returns found := hreturns 0 (by omega)
      obtain ⟨middle, row, htype, hview, hsent, hexec⟩ :=
        exec_storeEvents_cons config id snapshotId previousId scrapedAt hforeign eventType
          (rest ++ second) hcreate (hreturns 1 (by omega)) (hreturns 2 (by omega)) store events next
      have hlater : ∀ later < 3 * rest.length, ∀ op,
          (script (turn + 3 + later)).reaction op = .returns found := by
        intro later hlt
        have hround := hreturns (3 + later) (by omega)
        rwa [← Nat.add_assoc] at hround
      obtain ⟨reached, rows, htypes, hviews, hsents, hexecs⟩ :=
        ih hlater middle (events ++ [toDetectionEvent row])
      have hturn : turn + 3 + 3 * rest.length = turn + 3 * (rest.length + 1) := by omega
      rw [hturn, List.append_assoc] at hexecs
      refine ⟨reached, row :: rows, by simp [htype, htypes], ?_, ?_, ?_⟩
      · rw [hviews, hview, TargetView.addEvents_addEvents, List.singleton_append]
      · intro halone
        rw [hsents halone, hsent halone, List.append_assoc, List.map_cons, List.singleton_append]
      · exact hexec.trans hexecs

end Loop

/-! ## A check whose calls return -/

theorem work_getLatest (id : Nat) (store : MonitorStore) :
    work config found (.getLatest id) store =
      (.ok ((targetView store.db id).latest config.tie), store) := rfl

section Result

variable {id : Nat} {result : ProviderProductResult} {previous : Option Snapshot}
  {eventTypes : List EventType} {turn : Nat} {store : MonitorStore}

/-- A search that finds nothing. -/
theorem exec_checkResults_nil (hforeign : script.Foreign id) (hcalm : script.Calm found)
    (hpersisted : (targetView store.db id).persisted = true) :
    ∃ next, targetView next.db id = targetView store.db id ∧
      (Co.exec (scripted config script) (checkResults id []) (turn, store)).ending =
        (.ok [], (turn + 2, next)) := by
  let arrived := arrival config script turn store
  let marking := arrival config script (turn + 1) arrived
  have hmarking : targetView marking.db id = targetView store.db id :=
    (targetView_arrival hforeign (turn + 1) arrived).trans (targetView_arrival hforeign turn store)
  obtain ⟨next, hwork, hview⟩ := work_markChecked config found arrived.clock
    (hmarking ▸ hpersisted)
  refine ⟨next, hview.trans hmarking, ?_⟩
  have hclock : work config found .now arrived = (.ok arrived.clock, arrived) := rfl
  unfold checkResults
  rw [exec_ask (hcalm turn _ rfl) hclock, exec_ask (hcalm (turn + 1) _ rfl) hwork]
  rfl

/-- A result against which nothing fires. -/
theorem exec_checkResult_quiet (hforeign : script.Foreign id) (hcalm : script.Calm found)
    (hpersisted : (targetView store.db id).persisted = true)
    (hprevious : (targetView store.db id).latest config.tie = previous)
    (hquiet : diffSnapshots previous result = []) :
    ∃ next, targetView next.db id = targetView store.db id ∧
      (Co.exec (scripted config script) (checkResult id result) (turn, store)).ending =
        (.ok [], (turn + 2, next)) := by
  let arrived := arrival config script turn store
  let marking := arrival config script (turn + 1) arrived
  have harrived : targetView arrived.db id = targetView store.db id :=
    targetView_arrival hforeign turn store
  have hmarking : targetView marking.db id = targetView store.db id :=
    (targetView_arrival hforeign (turn + 1) arrived).trans harrived
  obtain ⟨next, hwork, hview⟩ :=
    work_markChecked config found result.scrapedAt (hmarking ▸ hpersisted)
  refine ⟨next, hview.trans hmarking, ?_⟩
  unfold checkResult
  rw [exec_ask (hcalm turn _ rfl) (work_getLatest id arrived), harrived, hprevious]
  simp only [hquiet, if_true]
  rw [exec_ask (hcalm (turn + 1) _ rfl) hwork]
  rfl

/-- A result that fires something is stored before its events. -/
theorem exec_checkResult_stored (hforeign : script.Foreign id) (hcalm : script.Calm found)
    (hcreate : ∀ op, (script (turn + 1)).reaction op = .returns found)
    (hprevious : (targetView store.db id).latest config.tie = previous)
    (hdiff : diffSnapshots previous result = eventTypes) (hfires : eventTypes ≠ []) :
    ∃ next snapshotId,
      targetView next.db id = (targetView store.db id).addSnapshot
        (SqlAlchemySnapshotRepository.rowOf id result snapshotId) ∧
      (script.Alone → next.dispatched = store.dispatched ∧
        snapshotId = store.db.snapshots.nextId) ∧
      (Co.exec (scripted config script) (checkResult id result) (turn, store)).ending =
        (Co.exec (scripted config script)
          (storeEvents id snapshotId (previous.bind Snapshot.id) result.scrapedAt eventTypes [] >>=
            fun events => ask (.markChecked id result.scrapedAt) >>= fun _ => pure events)
          (turn + 2, next)).ending := by
  let arrived := arrival config script turn store
  let creating := arrival config script (turn + 1) arrived
  let created := (work config found (.createSnapshot id result) creating).2
  have harrived : targetView arrived.db id = targetView store.db id :=
    targetView_arrival hforeign turn store
  refine ⟨created, creating.db.snapshots.nextId, ?_, ?_, ?_⟩
  · have hcreated := targetView_createSnapshot creating.db id result
    rw [targetView_arrival hforeign (turn + 1) arrived, harrived] at hcreated
    exact hcreated
  · intro halone
    simp only [created, creating, arrived, arrival_alone halone, work]
    exact ⟨trivial, trivial⟩
  · unfold checkResult
    rw [exec_ask (hcalm turn _ rfl) (work_getLatest id arrived), harrived, hprevious]
    simp only [hdiff, hfires, if_false]
    rw [exec_ask (hcreate _) rfl]
    rfl

/-- A result that fires something, all calls returning. -/
theorem exec_checkResult_fired (hforeign : script.Foreign id) (hcalm : script.Calm found)
    (hcreate : ∀ op, (script (turn + 1)).reaction op = .returns found)
    (hreturns : ∀ later < 3 * eventTypes.length, ∀ op,
      (script (turn + 2 + later)).reaction op = .returns found)
    (hpersisted : (targetView store.db id).persisted = true)
    (hprevious : (targetView store.db id).latest config.tie = previous)
    (hdiff : diffSnapshots previous result = eventTypes) (hfires : eventTypes ≠ []) :
    ∃ next last snapshotId rows, rows.map DetectionEventModel.eventType = eventTypes ∧
      targetView next.db id = ((targetView store.db id).addSnapshot
        (SqlAlchemySnapshotRepository.rowOf id result snapshotId)).addEvents rows ∧
      (Co.exec (scripted config script) (checkResult id result) (turn, store)).ending =
        (.ok (rows.map toDetectionEvent), (last, next)) := by
  obtain ⟨stored, snapshotId, hstored, _, hexec⟩ :=
    exec_checkResult_stored hforeign hcalm hcreate hprevious hdiff hfires
  obtain ⟨looped, rows, htypes, hlooped, _, hloop⟩ :=
    exec_storeEvents config id snapshotId (previous.bind Snapshot.id) result.scrapedAt hforeign
      eventTypes [] hreturns stored []
      (fun events => ask (.markChecked id result.scrapedAt) >>= fun _ => pure events)
  rw [List.append_nil] at hloop
  let last := turn + 2 + 3 * eventTypes.length
  let marking := arrival config script last looped
  have hmarking : targetView marking.db id = ((targetView store.db id).addSnapshot
      (SqlAlchemySnapshotRepository.rowOf id result snapshotId)).addEvents rows := by
    rw [targetView_arrival hforeign last looped, hlooped, hstored]
  have hpersisted' : (targetView marking.db id).persisted = true := by
    rw [hmarking]
    exact hpersisted
  obtain ⟨next, hwork, hview⟩ := work_markChecked config found result.scrapedAt hpersisted'
  refine ⟨next, last + 1, snapshotId, rows, htypes, hview.trans hmarking, ?_⟩
  rw [hexec, hloop]
  unfold storeEvents
  rw [Co.pure_eq, Co.ret_bind, exec_ask (hcalm last _ rfl) hwork]
  rfl

end Result

end Calls

end StockMonitoring.Application
