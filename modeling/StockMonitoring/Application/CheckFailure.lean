import StockMonitoring.Application.CheckHistory

set_option autoImplicit false

/-!
# Application: a check that fails midway

`check_watch_target` stores the new snapshot before the events it justifies.  One
of the calls a detection is reported through raises; the scheduler swallows the
exception and the next check diffs against what is stored by then.

`turn` numbers the calls of a check from zero: five calls lead up to the diff,
call 5 is `snapshot_repo.create`, and each event type takes three more, create,
publish and dispatch.
-/

namespace StockMonitoring.Application

open StockMonitoring.Foundation StockMonitoring.Domain StockMonitoring.Infrastructure.Db

/-- Call `turn` raises if it is a reporting call, having done its work when
`late`; every other call returns. -/
def failingAt (turn : Nat) (error : Raised) (late : Bool) (found : List ProviderProductResult) :
    Script := fun now =>
  ⟨[], fun op =>
    if now = turn ∧ op.reports = true then
      if late then .raisesAfter error else .raises error
    else .returns found⟩

/-- A check with that failure: its result and what it leaves. -/
def failedCheck (config : MonitorConfig) (watchTarget : WatchTarget)
    (found : List ProviderProductResult) (turn : Nat) (error : Raised) (late : Bool)
    (store : MonitorStore) : Except Raised (List DetectionEvent) × MonitorStore :=
  let ending := (Co.exec (scripted config (failingAt turn error late found))
    (checkWatchTarget watchTarget) (0, store)).ending
  (ending.1, ending.2.2)

/-- Every event type of `fired` was stored and dispatched between `before` and
`after`, or fires again at the next check that finds the same. -/
def NothingLost (config : MonitorConfig) (watchTarget : WatchTarget) (id : Nat)
    (found : List ProviderProductResult) (fired : List EventType)
    (before after : MonitorStore) : Prop :=
  ∀ eventType ∈ fired,
    (∃ row ∈ SqlAlchemyDetectionEventRepository.ofTarget after.db id,
      row.eventType = eventType ∧ row.id ∈ after.dispatched.drop before.dispatched.length) ∨
    ∃ events, (runCheck config watchTarget ⟨found, fun _ => []⟩ after).1 = .ok events ∧
      eventType ∈ events.map DetectionEvent.eventType

section Failure

variable {config : MonitorConfig} {watchTarget : WatchTarget} {id turn : Nat} {error : Raised}
  {late : Bool} {found : List ProviderProductResult} {store : MonitorStore} {α : Type}

/-! ## The failing script -/

theorem failingAt_foreign : (failingAt turn error late found).Foreign id := by
  intro now call hcall
  cases hcall

theorem failingAt_alone : (failingAt turn error late found).Alone := fun _ => rfl

theorem failingAt_calm : (failingAt turn error late found).Calm found := by
  intro now op hop
  simp [failingAt, hop]

theorem failingAt_of_ne {now : Nat} (hne : now ≠ turn) (op : MonitorOp) :
    (failingAt turn error late found now).reaction op = .returns found := by
  simp [failingAt, hne]

/-- The failing call: its work is done exactly when it is late. -/
theorem respond_failingAt (config : MonitorConfig) (turn : Nat) (error : Raised) (late : Bool)
    (found : List ProviderProductResult) {op : MonitorOp} (hop : op.reports = true)
    (store : MonitorStore) :
    respond config op ((failingAt turn error late found turn).reaction op)
        (arrival config (failingAt turn error late found) turn store) =
      (.error error, if late then (work config [] op store).2 else store) := by
  rw [arrival_alone failingAt_alone]
  cases late <;> simp [failingAt, hop, respond]

/-- A round of the loop one of whose calls raises: at most its event is stored,
and it is sent only by a dispatch that raises late. -/
theorem exec_storeEvents_raises (config : MonitorConfig) (id : Nat) (error : Raised) (late : Bool)
    (found : List ProviderProductResult) (store : MonitorStore) (snapshotId : Nat)
    (previousId : Option Nat) (scrapedAt : Datetime) (eventType : EventType)
    (rest : List EventType) (first : Nat) {stage : Nat} (hstage : stage < 3)
    (hturn : turn = first + stage) (events : List DetectionEvent)
    (next : List DetectionEvent → Monitor α) :
    ∃ (reached : MonitorStore) (last : Nat) (rows sent : List DetectionEventModel),
      targetView reached.db id = (targetView store.db id).addEvents rows ∧
      reached.dispatched = store.dispatched ++ sent.map DetectionEventModel.id ∧
      (∀ row ∈ sent, row ∈ rows) ∧
      sent.map DetectionEventModel.eventType =
        (if stage = 2 ∧ late = true then [eventType] else []) ∧
      (Co.exec (scripted config (failingAt turn error late found))
          (storeEvents id snapshotId previousId scrapedAt (eventType :: rest) events >>= next)
          (first, store)).ending = (.error error, (last, reached)) := by
  let row : DetectionEventModel :=
    ⟨store.db.detectionEvents.nextId, id, snapshotId, previousId, eventType, scrapedAt⟩
  let created := (work config found (.createEvent id snapshotId previousId eventType scrapedAt)
    store).2
  let published := (work config found (.publish id (toDetectionEvent row)) created).2
  have hcreated : targetView created.db id = (targetView store.db id).addEvents [row] :=
    targetView_createEvent store.db id snapshotId previousId eventType scrapedAt
  have hcases : stage = 0 ∨ stage = 1 ∨ stage = 2 := by omega
  rw [storeEvents_cons, bind_assoc]
  rcases hcases with rfl | rfl | rfl
  · -- nothing is stored, or the event alone
    obtain rfl : turn = first := hturn
    refine ⟨_, turn + 1, if late then [row] else [], [], ?_, ?_, ?_, ?_,
      exec_ask_raises (respond_failingAt config turn error late found rfl store) _⟩
    · cases late
      · simp
      · exact hcreated
    · cases late <;> simp [work]
    · intro sent hsent
      cases hsent
    · simp
  · -- the event is stored but not sent
    obtain rfl : turn = first + 1 := hturn
    rw [exec_ask (failingAt_of_ne (by omega) _) rfl]
    simp only [bind_assoc, toDetectionEvent]
    refine ⟨_, first + 2, [row], [], ?_, ?_, ?_, ?_,
      exec_ask_raises (respond_failingAt config (first + 1) error late found rfl created) _⟩
    · cases late <;> exact hcreated
    · cases late <;> simp [work, created]
    · intro sent hsent
      cases hsent
    · simp
  · -- the event is stored, and sent when the dispatch raises late
    obtain rfl : turn = first + 2 := hturn
    rw [exec_ask (failingAt_of_ne (by omega) _) rfl]
    simp only [bind_assoc, toDetectionEvent]
    rw [exec_ask (failingAt_of_ne (by omega) _) rfl]
    refine ⟨_, first + 3, [row], if late then [row] else [], ?_, ?_, ?_, ?_,
      exec_ask_raises (respond_failingAt config (first + 2) error late found rfl published) _⟩
    · cases late <;> exact hcreated
    · cases late <;> simp [work, published, created, row, arrival_alone failingAt_alone]
    · intro sent hsent
      cases late
      · cases hsent
      · exact hsent
    · cases late <;> simp [row]

/-! ## Where the check stops -/

/-- `snapshot_repo.create` raises. -/
theorem exec_checkResult_create_raises {result : ProviderProductResult}
    {previous : Option Snapshot} (hprevious : (targetView store.db id).latest config.tie = previous)
    (hfires : diffSnapshots previous result ≠ []) :
    (Co.exec (scripted config (failingAt 5 error late found)) (checkResult id result)
        (4, store)).ending =
      (.error error, (6, if late then (work config [] (.createSnapshot id result) store).2
        else store)) := by
  have hlatest : work config found (.getLatest id)
      (arrival config (failingAt 5 error late found) 4 store) = (.ok previous, store) := by
    rw [arrival_alone failingAt_alone, work_getLatest, hprevious]
  unfold checkResult
  rw [exec_ask (failingAt_calm 4 _ rfl) hlatest]
  simp only [hfires, if_false]
  exact exec_ask_raises (respond_failingAt config 5 error late found rfl store) _

/-- A call of the loop raises: the event types before it are stored and sent. -/
theorem exec_loop_raises (config : MonitorConfig) (id : Nat) (error : Raised) (late : Bool)
    (found : List ProviderProductResult) (store : MonitorStore) (snapshotId : Nat)
    (previousId : Option Nat) (scrapedAt : Datetime) (eventTypes : List EventType) (first : Nat)
    (hfirst : first ≤ turn) (hlast : turn < first + 3 * eventTypes.length)
    (next : List DetectionEvent → Monitor α) :
    ∃ (reached : MonitorStore) (last : Nat) (rows sent : List DetectionEventModel) (m : Nat),
      targetView reached.db id = (targetView store.db id).addEvents rows ∧
      reached.dispatched = store.dispatched ++ sent.map DetectionEventModel.id ∧
      (∀ row ∈ sent, row ∈ rows) ∧
      sent.map DetectionEventModel.eventType = eventTypes.take m ∧
      (eventTypes.length ≤ m ↔ turn + 1 = first + 3 * eventTypes.length ∧ late = true) ∧
      (Co.exec (scripted config (failingAt turn error late found))
          (storeEvents id snapshotId previousId scrapedAt eventTypes [] >>= next)
          (first, store)).ending = (.error error, (last, reached)) := by
  let done := (turn - first) / 3
  let stage := (turn - first) % 3
  have hdone : done < eventTypes.length := by omega
  have hstage : stage < 3 := Nat.mod_lt _ (by omega)
  have hturn : turn = first + 3 * done + stage := by omega
  have htake : (eventTypes.take done).length = done := by
    rw [List.length_take]
    omega
  have hreturns : ∀ later < 3 * (eventTypes.take done).length, ∀ op,
      (failingAt turn error late found (first + later)).reaction op = .returns found := by
    intro later hlater op
    rw [htake] at hlater
    exact failingAt_of_ne (by omega) op
  obtain ⟨middle, sentRows, hsentTypes, hmiddle, hsent, hexec⟩ :=
    exec_storeEvents config id snapshotId previousId scrapedAt failingAt_foreign
      (eventTypes.take done) (eventTypes.drop done) hreturns store [] next
  rw [List.take_append_drop, htake, List.drop_eq_getElem_cons hdone] at hexec
  obtain ⟨reached, last, rows, sent, hview, hdispatched, hsub, htypes, hraises⟩ :=
    exec_storeEvents_raises config id error late found middle snapshotId previousId scrapedAt
      eventTypes[done] (eventTypes.drop (done + 1)) (first + 3 * done) hstage hturn
      ([] ++ sentRows.map toDetectionEvent) next
  refine ⟨reached, last, sentRows ++ rows, sentRows ++ sent,
    if stage = 2 ∧ late = true then done + 1 else done, ?_, ?_, ?_, ?_, ?_, hexec.trans hraises⟩
  · rw [hview, hmiddle, TargetView.addEvents_addEvents]
  · rw [hdispatched, hsent failingAt_alone, List.map_append, List.append_assoc]
  · intro row hrow
    rcases List.mem_append.mp hrow with hearlier | hlater
    · exact List.mem_append_left _ hearlier
    · exact List.mem_append_right _ (hsub row hlater)
  · rw [List.map_append, hsentTypes, htypes]
    split
    · rw [List.take_append_getElem hdone]
    · rw [List.append_nil]
  · cases late
    · simp
      omega
    · simp only [and_true]
      split <;> omega

/-- What a failed check leaves: either its first reporting call raised before it
stored the snapshot, or the snapshot is stored with the first `m` event types sent. -/
theorem failedCheck_cases (hid : watchTarget.id = some id)
    (hslug : watchTarget.retailerSlug ∈ config.factories)
    (hpersisted : (targetView store.db id).persisted = true) {previous : Option Snapshot}
    (hprevious : (targetView store.db id).latest config.tie = previous)
    {result : ProviderProductResult} {rest : List ProviderProductResult}
    {eventTypes : List EventType} (hdiff : diffSnapshots previous result = eventTypes)
    {raised : Raised} (hraised : (failedCheck config watchTarget (result :: rest) turn error late
      store).1 = .error raised) :
    (turn = 5 ∧ late = false ∧
      targetView (failedCheck config watchTarget (result :: rest) turn error late store).2.db id =
        targetView store.db id) ∨
    (turn = 5 → late = true) ∧ ∃ (rows sent : List DetectionEventModel) (m : Nat),
      targetView (failedCheck config watchTarget (result :: rest) turn error late store).2.db id =
        ((targetView store.db id).addSnapshot (SqlAlchemySnapshotRepository.rowOf id result
          store.db.snapshots.nextId)).addEvents rows ∧
      (failedCheck config watchTarget (result :: rest) turn error late store).2.dispatched =
        store.dispatched ++ sent.map DetectionEventModel.id ∧
      (∀ row ∈ sent, row ∈ rows) ∧
      sent.map DetectionEventModel.eventType = eventTypes.take m ∧
      (eventTypes.length ≤ m ↔ turn = 5 + 3 * eventTypes.length ∧ late = true) := by
  have hforeign : (failingAt turn error late (result :: rest)).Foreign id := failingAt_foreign
  have hcalm : (failingAt turn error late (result :: rest)).Calm (result :: rest) := failingAt_calm
  have halone : (failingAt turn error late (result :: rest)).Alone := failingAt_alone
  obtain ⟨searched, _, hsame, hexec⟩ := exec_search hid hslug hforeign hcalm store
  obtain ⟨hdb, hdispatched⟩ := hsame halone
  rw [← hdb] at hpersisted hprevious ⊢
  rw [← hdispatched]
  unfold checkResults at hexec
  unfold failedCheck at hraised ⊢
  rw [hexec] at hraised ⊢
  by_cases hnone : eventTypes = []
  · -- nothing fires, so no reporting call is made and none raises
    rw [hnone] at hdiff
    obtain ⟨next, _, hending⟩ := exec_checkResult_quiet hforeign hcalm hpersisted hprevious hdiff
    rw [hending] at hraised
    cases hraised
  · have hfires : diffSnapshots previous result ≠ [] := hdiff ▸ hnone
    by_cases hcreate : turn = 5
    · subst hcreate
      rw [exec_checkResult_create_raises hprevious hfires]
      have hlength := List.length_pos_iff.mpr hnone
      cases late with
      | false => exact Or.inl ⟨rfl, rfl, rfl⟩
      | true =>
          refine Or.inr ⟨fun _ => rfl, [], [], 0, ?_, ?_, ?_, ?_, ?_⟩
          · rw [TargetView.addEvents_nil]
            exact targetView_createSnapshot searched.db id result
          · simp [work]
          · intro row hrow
            cases hrow
          · simp
          · constructor
            · intro hle
              omega
            · rintro ⟨hlast, _⟩
              omega
    · have hfive : ∀ op, (failingAt turn error late (result :: rest) (4 + 1)).reaction op =
          .returns (result :: rest) := failingAt_of_ne (Ne.symm hcreate)
      obtain ⟨stored, snapshotId, hstored, hkept, hexec'⟩ :=
        exec_checkResult_stored hforeign hcalm hfive hprevious hdiff hnone
      obtain ⟨hsent, rfl⟩ := hkept halone
      by_cases hrange : 6 ≤ turn ∧ turn < 6 + 3 * eventTypes.length
      · obtain ⟨reached, last, rows, sent, m, hview, hids, hsub, htypes, hlength, hraises⟩ :=
          exec_loop_raises config id error late (result :: rest) stored
            searched.db.snapshots.nextId (previous.bind Snapshot.id) result.scrapedAt eventTypes 6
            hrange.1 hrange.2
            (fun events => ask (.markChecked id result.scrapedAt) >>= fun _ => pure events)
        rw [hexec', hraises]
        refine Or.inr ⟨fun h => absurd h hcreate, rows, sent, m, ?_, ?_, hsub, htypes, ?_⟩
        · rw [hview, hstored]
        · rw [hids, hsent]
        · rw [hlength]
          constructor
          · rintro ⟨hlast, hlate⟩
            exact ⟨by omega, hlate⟩
          · rintro ⟨hlast, hlate⟩
            exact ⟨by omega, hlate⟩
      · -- the failing call is not among those the check makes
        have hreturns : ∀ later < 3 * eventTypes.length, ∀ op,
            (failingAt turn error late (result :: rest) (4 + 2 + later)).reaction op =
              .returns (result :: rest) :=
          fun later hlater op => failingAt_of_ne (by omega) op
        obtain ⟨next, last, snapshotId, rows, _, _, hending⟩ :=
          exec_checkResult_fired hforeign hcalm hfive hreturns hpersisted hprevious hdiff hnone
        rw [hending] at hraised
        cases hraised

/-! ## What is lost -/

/-- The next check that finds the same fires what differs from the latest
snapshot. -/
theorem next_check_fires (hid : watchTarget.id = some id)
    (hslug : watchTarget.retailerSlug ∈ config.factories)
    (hpersisted : (targetView store.db id).persisted = true) (result : ProviderProductResult)
    (rest : List ProviderProductResult) (eventType : EventType) :
    (∃ events, (runCheck config watchTarget ⟨result :: rest, fun _ => []⟩ store).1 = .ok events ∧
        eventType ∈ events.map DetectionEvent.eventType) ↔
      eventType ∈ diffSnapshots ((targetView store.db id).latest config.tie) result := by
  have hforeign : (Check.script ⟨result :: rest, fun _ => []⟩).Foreign id := by
    intro turn call hcall
    cases hcall
  rcases runCheck_cases hid hslug hforeign hpersisted rfl with
    ⟨hquiet, hresult, _⟩ | ⟨observed, snapshotId, rows, hobservation, _, htypes, hresult, _⟩
  · have hnone : diffSnapshots ((targetView store.db id).latest config.tie) result = [] := hquiet
    rw [hresult, hnone]
    simp
  · obtain rfl : result = observed := Option.some.inj hobservation
    have hsame : (rows.map toDetectionEvent).map DetectionEvent.eventType =
        diffSnapshots ((targetView store.db id).latest config.tie) result := by
      rw [← htypes, List.map_map]
      rfl
    rw [hresult, ← hsame]
    simp

/-- An event of this check was sent exactly when its type was. -/
theorem sent_iff {after : MonitorStore} {view : TargetView} {before : MonitorStore}
    {rows sent : List DetectionEventModel} (hview : targetView after.db id = view.addEvents rows)
    (hdispatched : after.dispatched = before.dispatched ++ sent.map DetectionEventModel.id)
    (hsub : ∀ row ∈ sent, row ∈ rows) (eventType : EventType) :
    (∃ row ∈ SqlAlchemyDetectionEventRepository.ofTarget after.db id,
        row.eventType = eventType ∧ row.id ∈ after.dispatched.drop before.dispatched.length) ↔
      eventType ∈ sent.map DetectionEventModel.eventType := by
  have hevents : SqlAlchemyDetectionEventRepository.ofTarget after.db id = view.events ++ rows :=
    congrArg TargetView.events hview
  have hnew : after.dispatched.drop before.dispatched.length =
      sent.map DetectionEventModel.id := by
    rw [hdispatched, List.drop_left]
  have hstored : ∀ row ∈ sent,
      row ∈ SqlAlchemyDetectionEventRepository.ofTarget after.db id := by
    intro row hrow
    rw [hevents]
    exact List.mem_append_right _ (hsub row hrow)
  have htable : ∀ row ∈ SqlAlchemyDetectionEventRepository.ofTarget after.db id,
      row ∈ after.db.detectionEvents.rows := fun row hrow => List.mem_of_mem_filter hrow
  rw [hnew]
  constructor
  · rintro ⟨row, hrow, rfl, hid⟩
    obtain ⟨other, hother, hkey⟩ := List.mem_map.mp hid
    -- one primary key, one row
    have hsame : other = row := after.db.detectionEvents.eq_of_key_eq
      (htable other (hstored other hother)) (htable row hrow) hkey
    exact hsame ▸ List.mem_map_of_mem hother
  · intro hmem
    obtain ⟨row, hrow, rfl⟩ := List.mem_map.mp hmem
    exact ⟨row, hstored row hrow, rfl, List.mem_map_of_mem hrow⟩

/-- The new snapshot becomes the latest, and then nothing differs from it, or the
latest stays what it was. -/
theorem latest_of_stored (store : MonitorStore) (id : Nat) (tie : Nat → Nat)
    (result : ProviderProductResult) (rows : List DetectionEventModel) :
    ((∀ old ∈ SqlAlchemySnapshotRepository.ofTarget store.db id,
        Newer tie SnapshotModel.timestamp
          (SqlAlchemySnapshotRepository.rowOf id result store.db.snapshots.nextId) old) →
      diffSnapshots ((((targetView store.db id).addSnapshot
        (SqlAlchemySnapshotRepository.rowOf id result store.db.snapshots.nextId)).addEvents
          rows).latest tie) result = []) ∧
    ((∃ old ∈ SqlAlchemySnapshotRepository.ofTarget store.db id,
        ¬ Newer tie SnapshotModel.timestamp
          (SqlAlchemySnapshotRepository.rowOf id result store.db.snapshots.nextId) old) →
      (((targetView store.db id).addSnapshot
        (SqlAlchemySnapshotRepository.rowOf id result store.db.snapshots.nextId)).addEvents
          rows).latest tie = (targetView store.db id).latest tie) := by
  let row := SqlAlchemySnapshotRepository.rowOf id result store.db.snapshots.nextId
  have hfresh : row ∉ SqlAlchemySnapshotRepository.ofTarget store.db id := by
    intro hrow
    have hlt := store.db.snapshots.keys_lt row (List.mem_of_mem_filter hrow)
    exact absurd hlt (lt_irrefl _)
  have hself : newest tie SnapshotModel.timestamp
      (SqlAlchemySnapshotRepository.ofTarget store.db id ++ [row]) = some row ↔ _ :=
    newest_concat_eq_self_iff hfresh
  constructor
  · intro hnewer
    have hlatest : ((targetView store.db id).addSnapshot row).latest tie =
        some (toSnapshot row) := congrArg (Option.map toSnapshot) (hself.mpr hnewer)
    rw [latest_addEvents, hlatest, diffSnapshots_eq_nil_iff]
    exact not_changed_self (.ofResult result)
  · rintro ⟨old, hold, hnotNewer⟩
    have hnot : newest tie SnapshotModel.timestamp
        (SqlAlchemySnapshotRepository.ofTarget store.db id ++ [row]) ≠ some row := by
      intro hnewest
      exact hnotNewer (hself.mp hnewest old hold)
    rw [latest_addEvents]
    exact congrArg (Option.map toSnapshot) ((newest_concat row).resolve_left hnot)

/-- No detection is lost exactly when the failing call stored no snapshot, when it
is the last dispatch and the task was sent before it raised, or when the new
snapshot does not become the latest. -/
theorem failed_check_loses_nothing_iff (hid : watchTarget.id = some id)
    (hslug : watchTarget.retailerSlug ∈ config.factories)
    (hpersisted : (store.db.watchTargets.find? id).isSome = true)
    (result : ProviderProductResult) (rest : List ProviderProductResult) (turn : Nat)
    (error : Raised) (late : Bool) {raised : Raised}
    (hraised : (failedCheck config watchTarget (result :: rest) turn error late store).1 =
      .error raised) :
    NothingLost config watchTarget id (result :: rest)
        (diffSnapshots (SqlAlchemySnapshotRepository.getLatest config.tie store.db id) result)
        store (failedCheck config watchTarget (result :: rest) turn error late store).2 ↔
      (turn = 5 ∧ late = false) ∨
      (turn = 5 + 3 * (diffSnapshots
        (SqlAlchemySnapshotRepository.getLatest config.tie store.db id) result).length ∧
        late = true) ∨
      ∃ old ∈ SqlAlchemySnapshotRepository.ofTarget store.db id,
        ¬ Newer config.tie SnapshotModel.timestamp
          (SqlAlchemySnapshotRepository.rowOf id result store.db.snapshots.nextId) old := by
  let previous := (targetView store.db id).latest config.tie
  have hprevious : (targetView store.db id).latest config.tie = previous := rfl
  have hcases := failedCheck_cases hid hslug hpersisted hprevious rfl hraised
  generalize (failedCheck config watchTarget (result :: rest) turn error late store).2 = after
    at hcases ⊢
  change NothingLost config watchTarget id (result :: rest) (diffSnapshots previous result)
    store after ↔ (turn = 5 ∧ late = false) ∨
      (turn = 5 + 3 * (diffSnapshots previous result).length ∧ late = true) ∨ _
  rcases hcases with ⟨hturn, hlate, hview⟩ |
    ⟨hfive, rows, sent, m, hview, hdispatched, hsub, htypes, hlength⟩
  · -- the baseline is as before, so the next check fires the same
    refine iff_of_true ?_ (Or.inl ⟨hturn, hlate⟩)
    intro eventType hfired
    refine Or.inr ((next_check_fires hid hslug (hview ▸ hpersisted) result rest eventType).mpr ?_)
    rw [hview]
    exact hfired
  · have hpersisted' : (targetView after.db id).persisted = true := by
      rw [hview]
      exact hpersisted
    have hlost : NothingLost config watchTarget id (result :: rest)
        (diffSnapshots previous result) store after ↔
        ∀ eventType ∈ diffSnapshots previous result,
          eventType ∈ (diffSnapshots previous result).take m ∨
          eventType ∈ diffSnapshots ((targetView after.db id).latest config.tie) result := by
      unfold NothingLost
      refine forall_congr' fun eventType => imp_congr_right fun _ => or_congr ?_ ?_
      · rw [sent_iff hview hdispatched hsub, htypes]
      · exact next_check_fires hid hslug hpersisted' result rest eventType
    obtain ⟨hbecomes, hstays⟩ := latest_of_stored store id config.tie result rows
    rw [hlost, hview]
    by_cases hnewer : ∃ old ∈ SqlAlchemySnapshotRepository.ofTarget store.db id,
        ¬ Newer config.tie SnapshotModel.timestamp
          (SqlAlchemySnapshotRepository.rowOf id result store.db.snapshots.nextId) old
    · refine iff_of_true ?_ (Or.inr (Or.inr hnewer))
      intro eventType hfired
      rw [hstays hnewer]
      exact Or.inr hfired
    · have hquiet := hbecomes (by simpa using hnewer)
      have hnodup := diffSnapshots_nodup previous result
      rw [hquiet, ← hlength]
      constructor
      · intro hall
        refine Or.inr (Or.inl ?_)
        have hsubset : diffSnapshots previous result ⊆ (diffSnapshots previous result).take m := by
          intro eventType hfired
          exact (hall eventType hfired).resolve_right List.not_mem_nil
        have hle := hnodup.length_le_of_subset hsubset
        rw [List.length_take] at hle
        omega
      · rintro (⟨hturn, hearly⟩ | hle | hnewer')
        · rw [hfive hturn] at hearly
          cases hearly
        · intro eventType hfired
          rw [List.take_of_length_le hle]
          exact Or.inl hfired
        · exact absurd hnewer' hnewer

/-- The publisher raises on the first event ever: the event type is neither sent
nor fired again. -/
theorem milk_publish_fails_loses_event :
    (failedCheck milkConfig milk [milkResult .available 1] 7 (.external "redis") false
        milkStore).1 = .error (.external "redis") ∧
      ¬ NothingLost milkConfig milk 1 [milkResult .available 1]
        (diffSnapshots (SqlAlchemySnapshotRepository.getLatest milkConfig.tie milkStore.db 1)
          (milkResult .available 1)) milkStore
        (failedCheck milkConfig milk [milkResult .available 1] 7 (.external "redis") false
          milkStore).2 := by
  refine ⟨rfl, ?_⟩
  intro hkept
  rcases hkept .stockAvailable (by decide) with ⟨row, hrow, _, hsent⟩ | ⟨events, hresult, hfired⟩
  · cases hsent
  · have hnone : (runCheck milkConfig milk ⟨[milkResult .available 1], fun _ => []⟩
        (failedCheck milkConfig milk [milkResult .available 1] 7 (.external "redis") false
          milkStore).2).1 = .ok [] := rfl
    rw [hnone] at hresult
    cases hresult
    cases hfired

theorem milk_create_fails_loses_nothing :
    NothingLost milkConfig milk 1 [milkResult .available 1]
      (diffSnapshots (SqlAlchemySnapshotRepository.getLatest milkConfig.tie milkStore.db 1)
        (milkResult .available 1)) milkStore
      (failedCheck milkConfig milk [milkResult .available 1] 5 (.external "database") false
        milkStore).2 :=
  (failed_check_loses_nothing_iff rfl (by decide) rfl (milkResult .available 1) [] 5
    (.external "database") false rfl).mpr (Or.inl ⟨rfl, rfl⟩)

end Failure

end StockMonitoring.Application
