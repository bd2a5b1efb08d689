import StockMonitoring.Application.MonitoringService

set_option autoImplicit false

/-!
# Application: the order of calls of a check

What a check promises its surroundings, call by call, whatever the replies are:
it touches the provider only after the registry has answered, searches only after
it has set its own location, works only on rows of its own target, dispatches only
ids it was given for its events, marks the target with a time it has learnt, does
not return before it has marked it, and raises only when a call has failed it
(`checkWatchTarget_obeys`).
-/

namespace StockMonitoring.Application

open StockMonitoring.Foundation StockMonitoring.Domain

/-- How far a check has come. -/
structure CheckProgress where
  /-- the registry has answered -/
  registered : Bool
  /-- the location has been set -/
  located : Bool
  /-- the times the check has learnt, from the clock or from its search -/
  times : List Datetime
  /-- the ids of the events it has created -/
  created : List Nat
  /-- the time it has marked its target with -/
  marked : Option Datetime
  /-- a call has raised, or has created a row without an id -/
  failed : Bool

namespace CheckProgress

/-- Before the first call. -/
def start : CheckProgress := ⟨false, false, [], [], none, false⟩

/-- The progress after a call has returned. -/
def returned (progress : CheckProgress) :
    (op : MonitorOp) → op.Answer → CheckProgress
  | .registryGet _, _ => { progress with registered := true }
  | .setLocation _ _, _ => { progress with located := true }
  | .searchProduct _ _, results =>
      { progress with times := results.map ProviderProductResult.scrapedAt ++ progress.times }
  | .now, time => { progress with times := time :: progress.times }
  | .createSnapshot _ _, snapshot =>
      { progress with failed := progress.failed || snapshot.id.isNone }
  | .createEvent _ _ _ _ _, event =>
      { progress with
        created := event.id.toList ++ progress.created
        failed := progress.failed || event.id.isNone }
  | .markChecked _ checkedAt, _ => { progress with marked := some checkedAt }
  | .closeLocationPage _, _ | .getLatest _, _ | .publish _ _, _
  | .dispatchDetectionEvent _, _ => progress

/-- The progress after a reply. -/
def next (progress : CheckProgress) (op : MonitorOp)
    (reply : Reply monitorPort Raised op) : CheckProgress :=
  match reply with
  | .ok answer => progress.returned op answer
  | .error _ => { progress with failed := true }

/-- The registry has answered and `time` is known. -/
def Knows (progress : CheckProgress) (time : Datetime) : Prop :=
  progress.registered = true ∧ time ∈ progress.times

end CheckProgress

/-- What must hold when a check makes a call. -/
def CheckProgress.Allows (watchTarget : WatchTarget) (progress : CheckProgress) :
    MonitorOp → Prop
  | .registryGet slug => watchTarget.id.isSome = true ∧ slug = watchTarget.retailerSlug
  | .setLocation slug location =>
      watchTarget.id.isSome = true ∧ progress.registered = true ∧
        slug = watchTarget.retailerSlug ∧ location = ⟨watchTarget.city, watchTarget.pincode⟩
  | .closeLocationPage slug =>
      watchTarget.id.isSome = true ∧ progress.registered = true ∧ slug = watchTarget.retailerSlug
  | .searchProduct slug keyword =>
      watchTarget.id.isSome = true ∧ progress.registered = true ∧ progress.located = true ∧
        slug = watchTarget.retailerSlug ∧ keyword = watchTarget.keyword
  | .now => True
  | .getLatest id | .createSnapshot id _ | .createEvent id _ _ _ _ | .publish id _ =>
      watchTarget.id = some id ∧ progress.registered = true
  | .dispatchDetectionEvent eventId => eventId ∈ progress.created
  | .markChecked id checkedAt => watchTarget.id = some id ∧ progress.Knows checkedAt

/-- The protocol of a check. -/
def checkProtocol (watchTarget : WatchTarget) :
    Protocol monitorPort Raised (List DetectionEvent) CheckProgress where
  pre op progress := progress.Allows watchTarget op
  answers _ _ _ := True
  next op reply progress := progress.next op reply
  post result progress :=
    match result with
    | .ok _ => progress.marked.isSome = true
    | .error _ => watchTarget.id = none ∨ progress.failed = true

section Obeys

variable {watchTarget : WatchTarget} {id : Nat} {α : Type}

/-- A call of a check: what it needs, and the rest after its answer. -/
theorem obeys_ask {op : MonitorOp} {progress : CheckProgress}
    {rest : op.Answer → Monitor (List DetectionEvent)} (hallows : progress.Allows watchTarget op)
    (hrest : ∀ answer, (rest answer).Obeys (checkProtocol watchTarget)
      (progress.returned op answer)) :
    (ask op >>= rest).Obeys (checkProtocol watchTarget) progress := by
  refine ⟨hallows, ?_⟩
  intro reply _
  cases reply with
  | ok answer => exact hrest answer
  | error error => exact Or.inr rfl

/-- The last call of every check that returns. -/
theorem markChecked_obeys {checkedAt : Datetime} {progress : CheckProgress}
    (hid : watchTarget.id = some id) (hknows : progress.Knows checkedAt)
    (events : List DetectionEvent) :
    (ask (.markChecked id checkedAt) >>= fun _ => pure events).Obeys (checkProtocol watchTarget)
      progress :=
  obeys_ask ⟨hid, hknows⟩ fun _ => rfl

/-- The loop keeps what the call after it needs. -/
theorem storeEvents_obeys (hid : watchTarget.id = some id) (snapshotId : Nat)
    (previousId : Option Nat) (scrapedAt : Datetime) (eventTypes : List EventType)
    (events : List DetectionEvent) {progress : CheckProgress} (hknows : progress.Knows scrapedAt)
    {rest : List DetectionEvent → Monitor (List DetectionEvent)}
    (hrest : ∀ events progress, CheckProgress.Knows progress scrapedAt →
      (rest events).Obeys (checkProtocol watchTarget) progress) :
    (storeEvents id snapshotId previousId scrapedAt eventTypes events >>= rest).Obeys
      (checkProtocol watchTarget) progress := by
  induction eventTypes generalizing events progress with
  | nil => exact hrest events progress hknows
  | cons eventType later ih =>
      unfold storeEvents
      rw [bind_assoc]
      refine obeys_ask ⟨hid, hknows.1⟩ ?_
      intro event
      cases hevent : event.id with
      | none =>
          apply Or.inr
          simp only [CheckProgress.returned, hevent, Option.isNone_none, Bool.or_true]
      | some eventId =>
          have hcreated : eventId ∈ event.id.toList ++ progress.created := by
            rw [hevent]
            exact List.mem_append_left _ (List.mem_singleton_self _)
          simp only [bind_assoc]
          refine obeys_ask ⟨hid, hknows.1⟩ fun _ => ?_
          refine obeys_ask hcreated fun _ => ?_
          exact ih (events ++ [event]) ⟨hknows.1, hknows.2⟩

theorem checkResult_obeys (hid : watchTarget.id = some id) {result : ProviderProductResult}
    {progress : CheckProgress} (hknows : progress.Knows result.scrapedAt) :
    (checkResult id result).Obeys (checkProtocol watchTarget) progress := by
  unfold checkResult
  refine obeys_ask ⟨hid, hknows.1⟩ fun previous => ?_
  by_cases hdiff : diffSnapshots previous result = []
  · simp only [hdiff, if_true]
    exact markChecked_obeys hid hknows []
  · simp only [hdiff, if_false]
    refine obeys_ask ⟨hid, hknows.1⟩ fun snapshot => ?_
    cases hsnapshot : snapshot.id with
    | none =>
        apply Or.inr
        simp only [CheckProgress.returned, hsnapshot, Option.isNone_none, Bool.or_true]
    | some snapshotId =>
        have hknows' : (progress.returned (.createSnapshot id result) snapshot).Knows
            result.scrapedAt := ⟨hknows.1, hknows.2⟩
        exact storeEvents_obeys hid snapshotId _ result.scrapedAt _ [] hknows'
          fun events reached hreached => markChecked_obeys hid hreached events

theorem checkResults_obeys (hid : watchTarget.id = some id)
    {results : List ProviderProductResult} {progress : CheckProgress}
    (hregistered : progress.registered = true)
    (htimes : ∀ result ∈ results, result.scrapedAt ∈ progress.times) :
    (checkResults id results).Obeys (checkProtocol watchTarget) progress := by
  cases results with
  | nil =>
      refine obeys_ask trivial fun checkedAt => ?_
      have hknows : (progress.returned .now checkedAt).Knows checkedAt :=
        ⟨hregistered, List.mem_cons_self⟩
      exact markChecked_obeys hid hknows []
  | cons result rest =>
      exact checkResult_obeys hid ⟨hregistered, htimes result List.mem_cons_self⟩

/-- Every check keeps to its protocol. -/
theorem checkWatchTarget_obeys (watchTarget : WatchTarget) :
    (checkWatchTarget watchTarget).Obeys (checkProtocol watchTarget) .start := by
  unfold checkWatchTarget
  cases hid : watchTarget.id with
  | none => exact Or.inl hid
  | some id =>
      have hsome : watchTarget.id.isSome = true := by rw [hid]; rfl
      refine obeys_ask ⟨hsome, rfl⟩ fun _ => ?_
      unfold initializeProvider
      rw [Co.call_bind]
      refine ⟨⟨hsome, rfl, rfl, rfl⟩, ?_⟩
      intro reply _
      beta_reduce
      rw [bind_assoc]
      refine obeys_ask ?_ fun _ => ?_
      · cases reply <;> exact ⟨hsome, rfl, rfl⟩
      · cases reply with
        | error error => exact Or.inr rfl
        | ok answer =>
            refine obeys_ask ⟨hsome, rfl, rfl, rfl, rfl⟩ fun results => ?_
            refine checkResults_obeys hid rfl fun result hresult => ?_
            exact List.mem_append_left _ (List.mem_map_of_mem hresult)

end Obeys

end StockMonitoring.Application
