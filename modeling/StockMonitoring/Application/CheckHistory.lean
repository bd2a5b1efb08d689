import StockMonitoring.Application.CheckRun
import Mathlib.Data.List.Chain

set_option autoImplicit false

/-!
# Application: histories of successful checks

A history is any number of checks of one watch target whose calls all return,
with any calls of other checks in between.  `Tracks` is the invariant: the latest
stored snapshot reads as the baseline of the observations so far.  From it follow
what each check fires and the shape of the stored events.
-/

namespace StockMonitoring.Application

open StockMonitoring.Foundation StockMonitoring.Domain StockMonitoring.Infrastructure.Db

/-! ## Histories -/

/-- A check whose calls return: what its search finds, and the calls of other
checks before each of its own. -/
structure Check where
  results : List ProviderProductResult
  foreign : Nat → List (MonitorOp × Reaction)

namespace Check

/-- The script of a check. -/
def script (check : Check) : Script := fun turn =>
  ⟨check.foreign turn, fun _ => .returns check.results⟩

/-- What the check observes. -/
def observation (check : Check) : Option ProviderProductResult := check.results.head?

end Check

/-- The observations of a list of checks. -/
def observations (checks : List Check) : List ProviderProductResult :=
  checks.filterMap Check.observation

/-- One check: what it returns and what it leaves. -/
def runCheck (config : MonitorConfig) (watchTarget : WatchTarget) (check : Check)
    (store : MonitorStore) : Except Raised (List DetectionEvent) × MonitorStore :=
  let ending := (Co.exec (scripted config check.script) (checkWatchTarget watchTarget)
    (0, store)).ending
  (ending.1, ending.2.2)

/-- What a list of checks leaves. -/
def storeAfter (config : MonitorConfig) (watchTarget : WatchTarget) (checks : List Check)
    (store : MonitorStore) : MonitorStore :=
  checks.foldl (fun reached check => (runCheck config watchTarget check reached).2) store

theorem storeAfter_concat (config : MonitorConfig) (watchTarget : WatchTarget)
    (checks : List Check) (check : Check) (store : MonitorStore) :
    storeAfter config watchTarget (checks ++ [check]) store =
      (runCheck config watchTarget check (storeAfter config watchTarget checks store)).2 := by
  simp [storeAfter]

theorem observations_concat (checks : List Check) (check : Check) :
    observations (checks ++ [check]) = observations checks ++ check.observation.toList := by
  unfold observations
  rw [List.filterMap_append]
  cases hobservation : check.observation <;> simp [hobservation]

/-- What a check does: it stores nothing when nothing fires, else the snapshot and
one event for each type that fires. -/
theorem runCheck_cases {config : MonitorConfig} {watchTarget : WatchTarget} {id : Nat}
    (hid : watchTarget.id = some id) (hslug : watchTarget.retailerSlug ∈ config.factories)
    {check : Check} (hforeign : check.script.Foreign id) {store : MonitorStore}
    (hpersisted : (targetView store.db id).persisted = true) {previous : Option Snapshot}
    (hprevious : (targetView store.db id).latest config.tie = previous) :
    ((check.observation.map (diffSnapshots previous)).getD [] = [] ∧
      (runCheck config watchTarget check store).1 = .ok [] ∧
      targetView (runCheck config watchTarget check store).2.db id = targetView store.db id) ∨
    ∃ result snapshotId rows, check.observation = some result ∧ rows ≠ [] ∧
      rows.map DetectionEventModel.eventType = diffSnapshots previous result ∧
      (runCheck config watchTarget check store).1 = .ok (rows.map toDetectionEvent) ∧
      targetView (runCheck config watchTarget check store).2.db id =
        ((targetView store.db id).addSnapshot
          (SqlAlchemySnapshotRepository.rowOf id result snapshotId)).addEvents rows := by
  have hcalm : check.script.Calm check.results := fun _ _ _ => rfl
  obtain ⟨searched, hsearched, _, hexec⟩ := exec_search hid hslug hforeign hcalm store
  rw [← hsearched] at hpersisted hprevious ⊢
  unfold runCheck
  cases hresults : check.results with
  | nil =>
      have hobservation : check.observation = none := by simp [Check.observation, hresults]
      obtain ⟨next, hview, hending⟩ := exec_checkResults_nil hforeign hcalm hpersisted
      rw [hresults, hending] at hexec
      rw [hexec, hobservation]
      exact Or.inl ⟨rfl, rfl, hview⟩
  | cons result rest =>
      have hobservation : check.observation = some result := by simp [Check.observation, hresults]
      rw [hresults] at hexec
      by_cases hdiff : diffSnapshots previous result = []
      · obtain ⟨next, hview, hending⟩ :=
          exec_checkResult_quiet hforeign hcalm hpersisted hprevious hdiff
        unfold checkResults at hexec
        rw [hexec, hending, hobservation]
        exact Or.inl ⟨hdiff, rfl, hview⟩
      · obtain ⟨next, last, snapshotId, rows, htypes, hview, hending⟩ :=
          exec_checkResult_fired hforeign hcalm (fun _ => rfl) (fun _ _ _ => rfl) hpersisted
            hprevious rfl hdiff
        have hrows : rows ≠ [] := by
          rintro rfl
          exact hdiff htypes.symm
        unfold checkResults at hexec
        rw [hexec, hending]
        exact Or.inr ⟨result, snapshotId, rows, hobservation, hrows, htypes, rfl, hview⟩

/-! ## The invariant -/

/-- The latest stored snapshot reads as the baseline of the observations. -/
structure Tracks (tie : Nat → Nat) (view : TargetView) (history : List ProviderProductResult) :
    Prop where
  persisted : view.persisted = true
  baseline : (view.latest tie).map Reading.ofSnapshot =
    baselineAfter (history.map Reading.ofResult)
  stamps : ∀ row ∈ view.snapshots, ∃ result ∈ history, row.timestamp = result.scrapedAt

/-- A snapshot stamped after all others is the latest. -/
theorem latest_addSnapshot {tie : Nat → Nat} {view : TargetView} {row : SnapshotModel}
    (hnewer : ∀ old ∈ view.snapshots, old.timestamp < row.timestamp) :
    (view.addSnapshot row).latest tie = some (toSnapshot row) := by
  unfold TargetView.latest TargetView.addSnapshot
  rw [newest_concat_of_lt hnewer]
  rfl

@[simp] theorem latest_addEvents (tie : Nat → Nat) (view : TargetView)
    (rows : List DetectionEventModel) : (view.addEvents rows).latest tie = view.latest tie := rfl

/-- An observation that fires nothing moves neither the rows nor the baseline. -/
theorem Tracks.quiet {tie : Nat → Nat} {view : TargetView} {history : List ProviderProductResult}
    (htracks : Tracks tie view history) {observation : Option ProviderProductResult}
    (hquiet : (observation.map (diffSnapshots (view.latest tie))).getD [] = []) :
    Tracks tie view (history ++ observation.toList) := by
  cases observation with
  | none => simpa using htracks
  | some result =>
      have hchanged := diffSnapshots_eq_nil_iff.mp hquiet
      rw [htracks.baseline] at hchanged
      refine ⟨htracks.persisted, ?_, ?_⟩
      · rw [htracks.baseline]
        simp [nextBaseline_of_not_changed hchanged]
      · intro row hrow
        obtain ⟨earlier, hearlier, hstamp⟩ := htracks.stamps row hrow
        exact ⟨earlier, List.mem_append_left _ hearlier, hstamp⟩

/-- An observation that fires something becomes the baseline, being the newest. -/
theorem Tracks.fired {tie : Nat → Nat} {view : TargetView} {history : List ProviderProductResult}
    (htracks : Tracks tie view history) {id snapshotId : Nat} {result : ProviderProductResult}
    (hnewer : ∀ earlier ∈ history, earlier.scrapedAt < result.scrapedAt)
    (hfires : diffSnapshots (view.latest tie) result ≠ []) (rows : List DetectionEventModel) :
    Tracks tie ((view.addSnapshot
      (SqlAlchemySnapshotRepository.rowOf id result snapshotId)).addEvents rows)
      (history ++ [result]) := by
  have hchanged : Changed (baselineAfter (history.map Reading.ofResult)) (.ofResult result) := by
    rw [← htracks.baseline]
    exact not_not.mp fun h => hfires (diffSnapshots_eq_nil_iff.mpr h)
  have hlatest : (view.addSnapshot
      (SqlAlchemySnapshotRepository.rowOf id result snapshotId)).latest tie =
      some (toSnapshot (SqlAlchemySnapshotRepository.rowOf id result snapshotId)) := by
    apply latest_addSnapshot
    intro old hold
    obtain ⟨earlier, hearlier, hstamp⟩ := htracks.stamps old hold
    rw [hstamp]
    exact hnewer earlier hearlier
  refine ⟨htracks.persisted, ?_, ?_⟩
  · rw [latest_addEvents, hlatest, List.map_append, List.map_singleton, baselineAfter_concat,
      nextBaseline_of_changed hchanged]
    rfl
  · intro row hrow
    rcases List.mem_append.mp hrow with hold | hnew
    · obtain ⟨earlier, hearlier, hstamp⟩ := htracks.stamps row hold
      exact ⟨earlier, List.mem_append_left _ hearlier, hstamp⟩
    · rw [List.mem_singleton.mp hnew]
      exact ⟨result, List.mem_append_right _ (List.mem_singleton_self _), rfl⟩

/-- The step lemma: one check fires what is due against the baseline and keeps
the invariant. -/
theorem tracks_check {config : MonitorConfig} {watchTarget : WatchTarget} {id : Nat}
    (hid : watchTarget.id = some id) (hslug : watchTarget.retailerSlug ∈ config.factories)
    {check : Check} (hforeign : check.script.Foreign id) {store : MonitorStore}
    {history : List ProviderProductResult}
    (htracks : Tracks config.tie (targetView store.db id) history)
    (hnewer : ∀ result, check.observation = some result →
      ∀ earlier ∈ history, earlier.scrapedAt < result.scrapedAt) :
    ∃ previous rows,
      Option.map Reading.ofSnapshot previous = baselineAfter (history.map Reading.ofResult) ∧
      rows.map DetectionEventModel.eventType =
        (check.observation.map (diffSnapshots previous)).getD [] ∧
      (runCheck config watchTarget check store).1 = .ok (rows.map toDetectionEvent) ∧
      (targetView (runCheck config watchTarget check store).2.db id).events =
        (targetView store.db id).events ++ rows ∧
      Tracks config.tie (targetView (runCheck config watchTarget check store).2.db id)
        (history ++ check.observation.toList) := by
  let previous := (targetView store.db id).latest config.tie
  have hprevious : (targetView store.db id).latest config.tie = previous := rfl
  rcases runCheck_cases hid hslug hforeign htracks.persisted hprevious with
    ⟨hquiet, hresult, hview⟩ |
    ⟨result, snapshotId, rows, hobservation, hrows, htypes, hresult, hview⟩
  · refine ⟨previous, [], htracks.baseline, hquiet.symm, hresult, ?_, ?_⟩
    · rw [hview, List.append_nil]
    · rw [hview]
      exact htracks.quiet hquiet
  · refine ⟨previous, rows, htracks.baseline, ?_, hresult, ?_, ?_⟩
    · rw [htypes, hobservation]
      rfl
    · rw [hview]
      rfl
    · have hfires : diffSnapshots previous result ≠ [] := by
        rw [← htypes]
        simpa using hrows
      rw [hview, hobservation]
      exact htracks.fired (hnewer result hobservation) hfires rows

/-! ## Whole histories -/

/-- The histories considered: a persisted target of a registered retailer without
a snapshot, observed at increasing times. -/
structure Watched (config : MonitorConfig) (watchTarget : WatchTarget) (id : Nat)
    (store : MonitorStore) (checks : List Check) : Prop where
  hasId : watchTarget.id = some id
  registered : watchTarget.retailerSlug ∈ config.factories
  persisted : (store.db.watchTargets.find? id).isSome = true
  unseen : SqlAlchemySnapshotRepository.ofTarget store.db id = []
  foreign : ∀ check ∈ checks, check.script.Foreign id
  increasing : (observations checks).Pairwise fun earlier later =>
    earlier.scrapedAt < later.scrapedAt

section Watched

variable {config : MonitorConfig} {watchTarget : WatchTarget} {id : Nat} {store : MonitorStore}

/-- The beginning of a history is a history. -/
theorem Watched.of_append {earlier later : List Check}
    (hwatched : Watched config watchTarget id store (earlier ++ later)) :
    Watched config watchTarget id store earlier := by
  refine ⟨hwatched.hasId, hwatched.registered, hwatched.persisted, hwatched.unseen, ?_, ?_⟩
  · intro check hcheck
    exact hwatched.foreign check (List.mem_append_left _ hcheck)
  · have hincreasing := hwatched.increasing
    unfold observations at hincreasing
    rw [List.filterMap_append, List.pairwise_append] at hincreasing
    exact hincreasing.1

/-- So is the history up to any of its checks. -/
theorem Watched.upTo {checks earlier later : List Check} {check : Check}
    (hwatched : Watched config watchTarget id store checks)
    (hchecks : checks = earlier ++ check :: later) :
    Watched config watchTarget id store (earlier ++ [check]) := by
  have hwhole : Watched config watchTarget id store ((earlier ++ [check]) ++ later) := by
    rw [List.append_assoc, List.singleton_append, ← hchecks]
    exact hwatched
  exact hwhole.of_append

/-- The last check of a history observes later than all before. -/
theorem Watched.newer {checks : List Check} {check : Check}
    (hwatched : Watched config watchTarget id store (checks ++ [check])) :
    ∀ result, check.observation = some result →
      ∀ earlier ∈ observations checks, earlier.scrapedAt < result.scrapedAt := by
  intro result hobservation earlier hearlier
  have hincreasing := hwatched.increasing
  rw [observations_concat, hobservation, List.pairwise_append] at hincreasing
  exact hincreasing.2.2 earlier hearlier result (List.mem_singleton_self _)

/-- The run lemma: the invariant holds after any history. -/
theorem tracks_history {checks : List Check}
    (hwatched : Watched config watchTarget id store checks) :
    Tracks config.tie (targetView (storeAfter config watchTarget checks store).db id)
      (observations checks) := by
  induction checks using List.reverseRecOn with
  | nil =>
      refine ⟨hwatched.persisted, ?_, ?_⟩
      · show Option.map _
          ((newest _ _ (SqlAlchemySnapshotRepository.ofTarget store.db id)).map _) = _
        rw [hwatched.unseen]
        rfl
      · intro row hrow
        change row ∈ SqlAlchemySnapshotRepository.ofTarget store.db id at hrow
        rw [hwatched.unseen] at hrow
        cases hrow
  | append_singleton earlier check ih =>
      have hforeign := hwatched.foreign check (List.mem_append_right _ (List.mem_singleton_self _))
      obtain ⟨previous, rows, _, _, _, _, htracks⟩ :=
        tracks_check hwatched.hasId hwatched.registered hforeign (ih hwatched.of_append)
          hwatched.newer
      rw [storeAfter_concat, observations_concat]
      exact htracks

/-- What one check of a history fires and stores. -/
theorem history_check {earlier : List Check} {check : Check}
    (hwatched : Watched config watchTarget id store (earlier ++ [check])) :
    ∃ previous rows,
      Option.map Reading.ofSnapshot previous =
        baselineAfter ((observations earlier).map Reading.ofResult) ∧
      rows.map DetectionEventModel.eventType =
        (check.observation.map (diffSnapshots previous)).getD [] ∧
      (runCheck config watchTarget check (storeAfter config watchTarget earlier store)).1 =
        .ok (rows.map toDetectionEvent) ∧
      (targetView (storeAfter config watchTarget (earlier ++ [check]) store).db id).events =
        (targetView (storeAfter config watchTarget earlier store).db id).events ++ rows := by
  have hforeign := hwatched.foreign check (List.mem_append_right _ (List.mem_singleton_self _))
  obtain ⟨previous, rows, hbaseline, htypes, hresult, hevents, _⟩ :=
    tracks_check hwatched.hasId hwatched.registered hforeign (tracks_history hwatched.of_append)
      hwatched.newer
  rw [storeAfter_concat]
  exact ⟨previous, rows, hbaseline, htypes, hresult, hevents⟩

/-- A type is fired at a check exactly when it is due against the baseline. -/
theorem fired_iff {earlier : List Check} {check : Check}
    (hwatched : Watched config watchTarget id store (earlier ++ [check])) :
    ∃ events, (runCheck config watchTarget check
        (storeAfter config watchTarget earlier store)).1 = .ok events ∧
      ∀ eventType, eventType ∈ events.map DetectionEvent.eventType ↔
        ∃ result, check.observation = some result ∧
          Fires (baselineAfter ((observations earlier).map Reading.ofResult)) (.ofResult result)
            eventType := by
  obtain ⟨previous, rows, hbaseline, htypes, hresult, _⟩ := history_check hwatched
  refine ⟨rows.map toDetectionEvent, hresult, ?_⟩
  intro eventType
  have hsame : (rows.map toDetectionEvent).map DetectionEvent.eventType =
      rows.map DetectionEventModel.eventType := by
    rw [List.map_map]
    rfl
  rw [hsame, htypes, ← hbaseline]
  cases check.observation with
  | none => simp
  | some result => simp [mem_diffSnapshots_iff]

/-! ## Stock events -/

/-- STOCK_AVAILABLE and OUT_OF_STOCK. -/
def isStockEvent : EventType → Bool
  | .stockAvailable | .outOfStock => true
  | _ => false

/-- The stock events among `types` alternate, starting with STOCK_AVAILABLE. -/
structure Alternates (types : List EventType) : Prop where
  first : ∀ event ∈ (types.filter isStockEvent).head?, event = .stockAvailable
  alternate : (types.filter isStockEvent).IsChain fun left right => left ≠ right

theorem filter_appendIf {condition : Prop} [Decidable condition] {event : EventType}
    (hevent : isStockEvent event = false) (types : List EventType) :
    (appendIf condition event types).filter isStockEvent = types.filter isStockEvent := by
  unfold appendIf
  split <;> simp [hevent]

/-- A diff has at most one stock event, and which it is says how the stock moved. -/
theorem stockEvents_diffSnapshots (previous : Option Snapshot) (result : ProviderProductResult) :
    ((diffSnapshots previous result).filter isStockEvent = [] ∧
        (StockedBefore (previous.map .ofSnapshot) ↔ (Reading.ofResult result).InStock)) ∨
      ((diffSnapshots previous result).filter isStockEvent = [.stockAvailable] ∧
        ¬ StockedBefore (previous.map .ofSnapshot) ∧ (Reading.ofResult result).InStock) ∨
      ((diffSnapshots previous result).filter isStockEvent = [.outOfStock] ∧
        StockedBefore (previous.map .ofSnapshot) ∧ ¬ (Reading.ofResult result).InStock) := by
  have havailability : ∀ before : Availability,
      (availabilityEvents before result.availability).filter isStockEvent =
        if before = .outOfStock then
          if result.availability = .outOfStock then [] else [.stockAvailable]
        else if result.availability = .outOfStock then [.outOfStock] else [] := by
    intro before
    cases before <;> cases result.availability <;> rfl
  cases previous with
  | none =>
      simp only [diffSnapshots, havailability]
      cases hnow : result.availability <;>
        simp [StockedBefore, Reading.InStock, Reading.ofResult, hnow]
  | some previous =>
      have hfilter : (diffSnapshots (some previous) result).filter isStockEvent =
          (availabilityEvents previous.availability result.availability).filter isStockEvent := by
        simp only [diffSnapshots]
        rw [filter_appendIf rfl, filter_appendIf rfl, filter_appendIf rfl, filter_appendIf rfl]
      rw [hfilter, havailability]
      cases hbefore : previous.availability <;> cases hnow : result.availability <;>
        simp [StockedBefore, Reading.InStock, Reading.ofResult, Reading.ofSnapshot, hbefore, hnow]

/-- One more stock event: the first says that there is stock, and none repeats the last. -/
theorem Alternates.push {types fired : List EventType} {event : EventType}
    (halternates : Alternates types) (hfired : fired.filter isStockEvent = [event])
    (hfirst : types.filter isStockEvent = [] → event = .stockAvailable)
    (hnew : (types.filter isStockEvent).getLast? ≠ some event) : Alternates (types ++ fired) := by
  have hfilter : (types ++ fired).filter isStockEvent = types.filter isStockEvent ++ [event] := by
    rw [List.filter_append, hfired]
  refine ⟨?_, ?_⟩
  · rw [hfilter]
    intro head hhead
    cases htypes : types.filter isStockEvent with
    | nil =>
        rw [htypes] at hhead
        exact (Option.some.inj hhead).symm.trans (hfirst htypes)
    | cons first rest =>
        rw [htypes] at hhead
        apply halternates.first head
        rw [htypes]
        exact hhead
  · rw [hfilter, List.isChain_append]
    refine ⟨halternates.alternate, List.isChain_singleton _, ?_⟩
    rintro last hlast next hnext rfl
    cases hnext
    exact hnew hlast

/-- The stored types with what the last stock event among them says. -/
structure StockLedger (types : List EventType) (stocked : Prop) : Prop extends
    Alternates types where
  last : (types.filter isStockEvent).getLast? = some .stockAvailable ↔ stocked

/-- The ledger after one more diff. -/
theorem StockLedger.append {types fired : List EventType} {before after : Prop}
    (hledger : StockLedger types before)
    (hfired : (fired.filter isStockEvent = [] ∧ (before ↔ after)) ∨
      (fired.filter isStockEvent = [.stockAvailable] ∧ ¬ before ∧ after) ∨
      (fired.filter isStockEvent = [.outOfStock] ∧ before ∧ ¬ after)) :
    StockLedger (types ++ fired) after := by
  have hlast := hledger.last
  have hfilter : (types ++ fired).filter isStockEvent =
      types.filter isStockEvent ++ fired.filter isStockEvent := List.filter_append _ _
  rcases hfired with ⟨hnone, hsame⟩ | ⟨harrived, hbefore, hafter⟩ | ⟨hleft, hbefore, hafter⟩
  · rw [hnone, List.append_nil] at hfilter
    refine ⟨⟨?_, ?_⟩, ?_⟩
    · rw [hfilter]; exact hledger.first
    · rw [hfilter]; exact hledger.alternate
    · rw [hfilter]; exact hlast.trans hsame
  · refine ⟨hledger.push harrived (fun _ => rfl) (fun h => hbefore (hlast.mp h)), ?_⟩
    rw [hfilter, harrived, List.getLast?_concat]
    exact ⟨fun _ => hafter, fun _ => rfl⟩
  · have hstock := hlast.mpr hbefore
    refine ⟨hledger.push hleft ?_ ?_, ?_⟩
    · intro hnil
      rw [hnil] at hstock
      cases hstock
    · rw [hstock]
      intro h
      cases h
    · rw [hfilter, hleft, List.getLast?_concat]
      exact ⟨fun h => (by cases h), fun h => absurd h hafter⟩

/-- The events a history stores keep the ledger of its observations. -/
theorem stockLedger_history {checks : List Check}
    (hwatched : Watched config watchTarget id store checks) :
    ∃ stored, (targetView (storeAfter config watchTarget checks store).db id).events =
        (targetView store.db id).events ++ stored ∧
      StockLedger (stored.map DetectionEventModel.eventType)
        (StockedBefore (baselineAfter ((observations checks).map Reading.ofResult))) := by
  induction checks using List.reverseRecOn with
  | nil =>
      refine ⟨[], ?_, ⟨?_, ?_⟩, ?_⟩
      · rw [List.append_nil]
        rfl
      · intro event hevent
        cases hevent
      · exact List.isChain_nil
      · exact ⟨fun h => (by cases h), fun h => False.elim h⟩
  | append_singleton earlier check ih =>
      obtain ⟨stored, hstored, hledger⟩ := ih hwatched.of_append
      obtain ⟨previous, rows, hbaseline, htypes, _, hevents⟩ := history_check hwatched
      refine ⟨stored ++ rows, ?_, ?_⟩
      · rw [hevents, hstored, List.append_assoc]
      · rw [List.map_append, htypes]
        apply hledger.append
        rw [observations_concat, ← hbaseline]
        cases check.observation with
        | none => exact Or.inl ⟨rfl, by simp [hbaseline]⟩
        | some result =>
            have hmoved := stockEvents_diffSnapshots previous result
            have hnext := stockedBefore_nextBaseline
              (baselineAfter ((observations earlier).map Reading.ofResult)) (.ofResult result)
            simp only [Option.map_some, Option.getD_some, Option.toList_some, List.map_append,
              List.map_cons, List.map_nil, baselineAfter_concat, hnext]
            exact hmoved

/-- Stock events mirror the observed stock, and the stored ones alternate. -/
theorem stock_events_mirror_observed_stock {checks : List Check}
    (hwatched : Watched config watchTarget id store checks) :
    (∀ earlier check later, checks = earlier ++ check :: later →
      ∃ events, (runCheck config watchTarget check
          (storeAfter config watchTarget earlier store)).1 = .ok events ∧
        (.stockAvailable ∈ events.map DetectionEvent.eventType ↔
          ∃ result, check.observation = some result ∧
            (result.availability = .available ∨ result.availability = .lowStock) ∧
            ∀ previous, (observations earlier).getLast? = some previous →
              previous.availability = .outOfStock) ∧
        (.outOfStock ∈ events.map DetectionEvent.eventType ↔
          ∃ result, check.observation = some result ∧ result.availability = .outOfStock ∧
            ∃ previous, (observations earlier).getLast? = some previous ∧
              (previous.availability = .available ∨ previous.availability = .lowStock))) ∧
      ∃ stored,
        SqlAlchemyDetectionEventRepository.ofTarget
            (storeAfter config watchTarget checks store).db id =
          SqlAlchemyDetectionEventRepository.ofTarget store.db id ++ stored ∧
        Alternates (stored.map DetectionEventModel.eventType) := by
  refine ⟨?_, ?_⟩
  · intro earlier check later hchecks
    obtain ⟨events, hresult, hfired⟩ := fired_iff (hwatched.upTo hchecks)
    have hstocked : StockedBefore (baselineAfter ((observations earlier).map Reading.ofResult)) ↔
        ∃ previous, (observations earlier).getLast? = some previous ∧
          (Reading.ofResult previous).InStock := by
      rw [stockedBefore_baselineAfter, List.getLast?_map]
      cases (observations earlier).getLast? <;> simp
    refine ⟨events, hresult, ?_, ?_⟩
    · rw [hfired]
      refine exists_congr fun result => and_congr_right fun _ => ?_
      change ¬ StockedBefore _ ∧ (Reading.ofResult result).InStock ↔ _
      rw [hstocked, and_comm]
      refine and_congr_right fun _ => ?_
      push Not
      exact forall_congr' fun previous => imp_congr_right fun _ =>
        (Reading.ofResult previous).not_inStock_iff
    · rw [hfired]
      refine exists_congr fun result => and_congr_right fun _ => ?_
      change StockedBefore _ ∧ ¬ (Reading.ofResult result).InStock ↔ _
      rw [hstocked, and_comm, (Reading.ofResult result).not_inStock_iff]
      exact Iff.rfl
  · obtain ⟨stored, hstored, hledger⟩ := stockLedger_history hwatched
    exact ⟨stored, hstored, hledger.toAlternates⟩

/-- Four checks of one product: in stock, low, in stock, low. -/
def milk : WatchTarget := ⟨some 1, "blinkit", "Delhi", "110001", "milk", 60⟩

@[inherit_doc milk] def milkConfig : MonitorConfig := ⟨["blinkit", "zepto"], fun key => key⟩

@[inherit_doc milk] def milkStore : MonitorStore :=
  ⟨{ Database.empty with watchTargets := Table.empty.insert fun id =>
      ⟨id, "blinkit", "Delhi", "110001", "milk", 60, none⟩ }, 0, fun _ => none, [], [], []⟩

@[inherit_doc milk] def milkResult (availability : Availability) (scrapedAt : Datetime) :
    ProviderProductResult :=
  ⟨"blinkit", "milk", "milk", availability, some 33, none, none, some 10, some "Indiranagar",
    none, none, [], none, scrapedAt⟩

@[inherit_doc milk] def milkCheck (availability : Availability) (scrapedAt : Datetime) : Check :=
  ⟨[milkResult availability scrapedAt], fun _ => []⟩

@[inherit_doc milk] def milkChecks : List Check :=
  [milkCheck .available 1, milkCheck .lowStock 2, milkCheck .available 3, milkCheck .lowStock 4]

theorem milk_watched : Watched milkConfig milk 1 milkStore milkChecks := by
  refine ⟨rfl, by decide, rfl, rfl, ?_, by decide⟩
  intro check hcheck turn call hcall
  have hnone : check.foreign = fun _ => [] := by
    simp only [milkChecks, milkCheck, List.mem_cons, List.not_mem_nil, or_false] at hcheck
    rcases hcheck with rfl | rfl | rfl | rfl <;> rfl
  have hempty : (check.script turn).foreign = [] := by simp [Check.script, hnone]
  rw [hempty] at hcall
  cases hcall

theorem milk_stock_events_alternate :
    ∃ stored,
      SqlAlchemyDetectionEventRepository.ofTarget
          (storeAfter milkConfig milk milkChecks milkStore).db 1 =
        SqlAlchemyDetectionEventRepository.ofTarget milkStore.db 1 ++ stored ∧
      Alternates (stored.map DetectionEventModel.eventType) :=
  (stock_events_mirror_observed_stock milk_watched).2

/-! ## Attribute events -/

/-- The five attribute events, reported against the previous observation. -/
def ReportsChanges (previous : Option ProviderProductResult) (result : ProviderProductResult)
    (fired : List EventType) : Prop :=
  match previous with
  | none => ∀ eventType ∈ fired, isStockEvent eventType = true
  | some previous =>
      (.lowStock ∈ fired ↔
        previous.availability = .available ∧ result.availability = .lowStock) ∧
      (.priceChanged ∈ fired ↔ previous.price ≠ result.price) ∧
      (.newVariant ∈ fired ↔ ∃ label ∈ result.variants, label ∉ previous.variants) ∧
      (.etaChanged ∈ fired ↔ previous.etaMinutes ≠ result.etaMinutes) ∧
      (.storeChanged ∈ fired ↔ previous.storeName ≠ result.storeName)

/-- In stock, low, in stock, low: the second fall to low stock is not reported,
since the return to AVAILABLE was not stored. -/
theorem milk_second_low_stock_not_reported :
    Watched milkConfig milk 1 milkStore milkChecks ∧
      (runCheck milkConfig milk (milkCheck .lowStock 4)
        (storeAfter milkConfig milk (milkChecks.take 3) milkStore)).1 = .ok [] ∧
      ¬ ReportsChanges (observations (milkChecks.take 3)).getLast? (milkResult .lowStock 4) [] := by
  refine ⟨milk_watched, rfl, ?_⟩
  intro hreports
  have hlow := hreports.1.mpr ⟨rfl, rfl⟩
  cases hlow

/-- Attribute events against the baseline.  While nothing was ever in stock there
is none and no such event fires.  Afterwards price, delivery time and store are
reported against the previous observation itself; LOW_STOCK and NEW_VARIANT are
reported against the baseline, the last observation that fired something, which
is AVAILABLE only if the previous one is and has all its labels. -/
theorem attribute_events_report_changes {checks : List Check}
    (hwatched : Watched config watchTarget id store checks) (earlier later : List Check)
    (check : Check) (hchecks : checks = earlier ++ check :: later)
    (result : ProviderProductResult) (hobservation : check.observation = some result) :
    ∃ events, (runCheck config watchTarget check
        (storeAfter config watchTarget earlier store)).1 = .ok events ∧
      ((∀ previous ∈ observations earlier, previous.availability = .outOfStock) →
        ∀ eventType ∈ events.map DetectionEvent.eventType, eventType = .stockAvailable) ∧
      ((∃ previous ∈ observations earlier, previous.availability ≠ .outOfStock) →
        ∃ baseline previous,
          baselineAfter ((observations earlier).map Reading.ofResult) = some baseline ∧
          (observations earlier).getLast? = some previous ∧
          Follows baseline (.ofResult previous) ∧
          (.lowStock ∈ events.map DetectionEvent.eventType ↔
            baseline.availability = .available ∧ result.availability = .lowStock) ∧
          (.newVariant ∈ events.map DetectionEvent.eventType ↔
            ∃ label ∈ result.variants, label ∉ baseline.variants) ∧
          (.priceChanged ∈ events.map DetectionEvent.eventType ↔
            previous.price ≠ result.price) ∧
          (.etaChanged ∈ events.map DetectionEvent.eventType ↔
            previous.etaMinutes ≠ result.etaMinutes) ∧
          (.storeChanged ∈ events.map DetectionEvent.eventType ↔
            previous.storeName ≠ result.storeName)) := by
  obtain ⟨events, hresult, hfired⟩ := fired_iff (hwatched.upTo hchecks)
  have hfires : ∀ eventType, eventType ∈ events.map DetectionEvent.eventType ↔
      Fires (baselineAfter ((observations earlier).map Reading.ofResult)) (.ofResult result)
        eventType := by
    intro eventType
    rw [hfired eventType, hobservation]
    simp
  refine ⟨events, hresult, ?_, ?_⟩
  · intro hgone eventType heventType
    have hnone : baselineAfter ((observations earlier).map Reading.ofResult) = none := by
      rw [baselineAfter_eq_none_iff]
      intro reading hreading
      obtain ⟨previous, hprevious, rfl⟩ := List.mem_map.mp hreading
      exact (Reading.ofResult previous).not_inStock_iff.mpr (hgone previous hprevious)
    rw [hfires, hnone, fires_none_iff] at heventType
    exact heventType.1
  · rintro ⟨seen, hseen, hstock⟩
    cases hbaseline : baselineAfter ((observations earlier).map Reading.ofResult) with
    | none =>
        have hgone := (baselineAfter_eq_none_iff _).mp hbaseline (.ofResult seen)
          (List.mem_map_of_mem hseen)
        exact absurd ((Reading.ofResult seen).not_inStock_iff.mp hgone) hstock
    | some baseline =>
        cases hprevious : (observations earlier).getLast? with
        | none =>
            rw [List.getLast?_eq_none_iff] at hprevious
            rw [hprevious] at hseen
            cases hseen
        | some previous =>
            have hfollows : Follows baseline (.ofResult previous) :=
              follows_baselineAfter hbaseline (by rw [List.getLast?_map, hprevious]; rfl)
            refine ⟨baseline, previous, rfl, rfl, hfollows, ?_, ?_, ?_, ?_, ?_⟩
            · rw [hfires, hbaseline]
              simp [Fires, Reading.ofResult]
            · rw [hfires, hbaseline]
              simp [Fires, Reading.ofResult]
            · rw [hfires, hbaseline]
              simp [Fires, hfollows.price, Reading.ofResult]
            · rw [hfires, hbaseline]
              simp [Fires, hfollows.etaMinutes, Reading.ofResult]
            · rw [hfires, hbaseline]
              simp [Fires, hfollows.storeName, Reading.ofResult]

theorem milk_attribute_events :
    ∃ events, (runCheck milkConfig milk (milkCheck .lowStock 4)
        (storeAfter milkConfig milk (milkChecks.take 3) milkStore)).1 = .ok events ∧
      ((∀ previous ∈ observations (milkChecks.take 3), previous.availability = .outOfStock) →
        ∀ eventType ∈ events.map DetectionEvent.eventType, eventType = .stockAvailable) ∧
      ∃ baseline previous,
        baselineAfter ((observations (milkChecks.take 3)).map Reading.ofResult) =
          some baseline ∧
        (observations (milkChecks.take 3)).getLast? = some previous ∧
        Follows baseline (.ofResult previous) ∧
        (.lowStock ∈ events.map DetectionEvent.eventType ↔
          baseline.availability = .available ∧
            (milkResult .lowStock 4).availability = .lowStock) ∧
        (.newVariant ∈ events.map DetectionEvent.eventType ↔
          ∃ label ∈ (milkResult .lowStock 4).variants, label ∉ baseline.variants) ∧
        (.priceChanged ∈ events.map DetectionEvent.eventType ↔
          previous.price ≠ (milkResult .lowStock 4).price) ∧
        (.etaChanged ∈ events.map DetectionEvent.eventType ↔
          previous.etaMinutes ≠ (milkResult .lowStock 4).etaMinutes) ∧
        (.storeChanged ∈ events.map DetectionEvent.eventType ↔
          previous.storeName ≠ (milkResult .lowStock 4).storeName) := by
  obtain ⟨events, hresult, hnone, hsome⟩ :=
    attribute_events_report_changes milk_watched (milkChecks.take 3) [] (milkCheck .lowStock 4)
      rfl (milkResult .lowStock 4) rfl
  have hstocked : ∃ previous ∈ observations (milkChecks.take 3),
      previous.availability ≠ .outOfStock :=
    ⟨milkResult .available 1, List.mem_cons_self, by decide⟩
  exact ⟨events, hresult, hnone, hsome hstocked⟩

end Watched

end StockMonitoring.Application
