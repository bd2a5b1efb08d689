import StockMonitoring.Application.Diffing
import StockMonitoring.Foundation.Coroutine
import StockMonitoring.Foundation.Pool
import StockMonitoring.Infrastructure.Db.Repositories
import Mathlib.Logic.Function.Basic

set_option autoImplicit false

/-!
# Application: checking one watch target

`app/application/monitoring_service.py`.  `checkWatchTarget` is written over the
calls the service makes on its ports; what the calls do is `respond`, built from
the repositories, the provider registry and the two messaging adapters.

* A provider is one cached object per retailer slug, so its delivery location is
  state of the slug.  Each adapter's `initialize` confirms the location on a page
  and then, in a `finally`, awaits the closing of that page: two awaited calls.
* The outside decides how a call ends (`Reaction`): it returns, it raises without
  having done anything, or it raises after having done its work.
-/

namespace StockMonitoring.Application

open StockMonitoring.Foundation StockMonitoring.Domain StockMonitoring.Infrastructure.Db

/-! ## The ports -/

/-- The calls of the service on its ports. -/
inductive MonitorOp where
  /-- `ProviderRegistry.get` -/
  | registryGet (retailerSlug : String)
  /-- `initialize`, up to the confirmed location -/
  | setLocation (retailerSlug : String) (location : LocationContext)
  /-- `initialize`, the `page.close()` at its end -/
  | closeLocationPage (retailerSlug : String)
  /-- `search_product` -/
  | searchProduct (retailerSlug keyword : String)
  /-- `datetime.now(timezone.utc)` -/
  | now
  /-- `SnapshotRepository.get_latest` -/
  | getLatest (watchTargetId : Nat)
  /-- `SnapshotRepository.create` -/
  | createSnapshot (watchTargetId : Nat) (result : ProviderProductResult)
  /-- `DetectionEventRepository.create` -/
  | createEvent (watchTargetId snapshotId : Nat) (previousSnapshotId : Option Nat)
      (eventType : EventType) (createdAt : Datetime)
  /-- `EventPublisher.publish` -/
  | publish (watchTargetId : Nat) (event : DetectionEvent)
  /-- `TaskDispatcher.dispatch_detection_event` -/
  | dispatchDetectionEvent (eventId : Nat)
  /-- `WatchTargetRepository.mark_checked` -/
  | markChecked (watchTargetId : Nat) (checkedAt : Datetime)
  deriving DecidableEq

/-- What each call answers with. -/
abbrev MonitorOp.Answer : MonitorOp → Type
  | .searchProduct _ _ => List ProviderProductResult
  | .now => Datetime
  | .getLatest _ => Option Snapshot
  | .createSnapshot _ _ => Snapshot
  | .createEvent _ _ _ _ _ => DetectionEvent
  | _ => Unit

/-- The port signature of the service. -/
abbrev monitorPort : Signature := ⟨MonitorOp, MonitorOp.Answer⟩

/-- A program of the service. -/
abbrev Monitor (α : Type) : Type := Co monitorPort Raised α

/-- One call. -/
abbrev ask (op : MonitorOp) : Monitor op.Answer := @Co.perform monitorPort Raised op

/-! ## The check -/

/-- `initialize`: the page is closed whether or not the location could be set. -/
def initializeProvider (retailerSlug : String) (location : LocationContext) : Monitor Unit :=
  .call (.setLocation retailerSlug location) fun reply => do
    ask (.closeLocationPage retailerSlug)
    match reply with
    | .ok _ => pure ()
    | .error error => .raise error

/-- The loop of `check_watch_target` over the event types. -/
def storeEvents (watchTargetId snapshotId : Nat) (previousSnapshotId : Option Nat)
    (scrapedAt : Datetime) : List EventType → List DetectionEvent → Monitor (List DetectionEvent)
  | [], events => pure events
  | eventType :: rest, events => do
      let event ← ask (.createEvent watchTargetId snapshotId previousSnapshotId eventType scrapedAt)
      match event.id with
      | none =>
          .raise (.valueError "event_repo.create must return a persisted event with an id")
      | some eventId =>
          ask (.publish watchTargetId event)
          ask (.dispatchDetectionEvent eventId)
          storeEvents watchTargetId snapshotId previousSnapshotId scrapedAt rest
            (events ++ [event])

/-- What `check_watch_target` does with a search result. -/
def checkResult (watchTargetId : Nat) (result : ProviderProductResult) :
    Monitor (List DetectionEvent) := do
  let previous ← ask (.getLatest watchTargetId)
  let eventTypes := diffSnapshots previous result
  if eventTypes = [] then
    ask (.markChecked watchTargetId result.scrapedAt)
    pure []
  else
    let snapshot ← ask (.createSnapshot watchTargetId result)
    match snapshot.id with
    | none =>
        .raise (.valueError "snapshot_repo.create must return a persisted snapshot with an id")
    | some snapshotId =>
        let events ← storeEvents watchTargetId snapshotId (previous.bind Snapshot.id)
          result.scrapedAt eventTypes []
        ask (.markChecked watchTargetId result.scrapedAt)
        pure events

/-- What `check_watch_target` does once the search has answered. -/
def checkResults (watchTargetId : Nat) :
    List ProviderProductResult → Monitor (List DetectionEvent)
  | [] => do
      let checkedAt ← ask .now
      ask (.markChecked watchTargetId checkedAt)
      pure []
  | result :: _ => checkResult watchTargetId result

/-- `check_watch_target`. -/
def checkWatchTarget (watchTarget : WatchTarget) : Monitor (List DetectionEvent) :=
  match watchTarget.id with
  | none =>
      .raise (.valueError "watch_target must be persisted (have an id) before checking")
  | some watchTargetId => do
      ask (.registryGet watchTarget.retailerSlug)
      initializeProvider watchTarget.retailerSlug ⟨watchTarget.city, watchTarget.pincode⟩
      let results ← ask (.searchProduct watchTarget.retailerSlug watchTarget.keyword)
      checkResults watchTargetId results

/-! ## What the calls do -/

/-- What is fixed while the monitor runs. -/
structure MonitorConfig where
  /-- the slugs `InMemoryProviderRegistry` has a factory for -/
  factories : List String
  /-- the engine's choice among snapshots with one timestamp -/
  tie : Nat → Nat

/-- What the calls act on. -/
structure MonitorStore where
  /-- the database as the monitor's session sees it -/
  db : Database
  clock : Datetime
  /-- the delivery location last set on the provider of a slug -/
  location : String → Option LocationContext
  /-- messages sent to `events:{watch_target_id}` -/
  published : List (Nat × DetectionEvent)
  /-- event ids sent to the task queue -/
  dispatched : List Nat
  /-- the checks that have started, newest first: target and time -/
  started : List (Nat × Datetime)

/-- How the outside lets a call end. -/
inductive Reaction where
  /-- it returns; `found` is what a search finds -/
  | returns (found : List ProviderProductResult)
  /-- it raises and has done nothing -/
  | raises (error : Raised)
  /-- it has done its work and raises -/
  | raisesAfter (error : Raised)
  deriving DecidableEq

/-- The work of a call. -/
def work (config : MonitorConfig) (found : List ProviderProductResult) :
    (op : MonitorOp) → MonitorStore → Reply monitorPort Raised op × MonitorStore
  | .registryGet slug, store =>
      if slug ∈ config.factories then (.ok (), store)
      else (.error (.keyError s!"No provider registered for '{slug}'"), store)
  | .setLocation slug location, store =>
      (.ok (), { store with location := Function.update store.location slug (some location) })
  | .closeLocationPage _, store => (.ok (), store)
  | .searchProduct _ _, store => (.ok found, store)
  | .now, store => (.ok store.clock, store)
  | .getLatest watchTargetId, store =>
      (.ok (SqlAlchemySnapshotRepository.getLatest config.tie store.db watchTargetId), store)
  | .createSnapshot watchTargetId result, store =>
      let (snapshot, db) := SqlAlchemySnapshotRepository.create store.db watchTargetId result
      (.ok snapshot, { store with db := db })
  | .createEvent watchTargetId snapshotId previousSnapshotId eventType createdAt, store =>
      let (event, db) := SqlAlchemyDetectionEventRepository.create store.db watchTargetId
        snapshotId previousSnapshotId eventType createdAt
      (.ok event, { store with db := db })
  | .publish watchTargetId event, store =>
      (.ok (), { store with published := store.published ++ [(watchTargetId, event)] })
  | .dispatchDetectionEvent eventId, store =>
      (.ok (), { store with dispatched := store.dispatched ++ [eventId] })
  | .markChecked watchTargetId checkedAt, store =>
      let (reply, db) := SqlAlchemyWatchTargetRepository.markChecked store.db watchTargetId
        checkedAt
      (reply, { store with db := db })

/-- A call with the outside's reaction to it. -/
def respond (config : MonitorConfig) (op : MonitorOp) (reaction : Reaction)
    (store : MonitorStore) : Reply monitorPort Raised op × MonitorStore :=
  match reaction with
  | .returns found => work config found op store
  | .raises error => (.error error, store)
  | .raisesAfter error => (.error error, (work config [] op store).2)

/-- Whether the service awaits the call. -/
def MonitorOp.awaits : MonitorOp → Bool
  | .registryGet _ | .now | .dispatchDetectionEvent _ => false
  | _ => true

/-- The service's calls as the event loop sees them. -/
def monitorEffects (config : MonitorConfig) :
    Effects monitorPort Raised MonitorStore Reaction :=
  ⟨MonitorOp.awaits, respond config⟩

end StockMonitoring.Application
