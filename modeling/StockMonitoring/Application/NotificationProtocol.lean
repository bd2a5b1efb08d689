import StockMonitoring.Application.NotificationService

set_option autoImplicit false

/-!
# Application: the order of calls of a notification run

What a run of `process_event` promises its surroundings, call by call: it sends only after
a lookup has answered that the user's key is not recent, logs each send with that key
before anything else, and raises only when a call has failed it (`processEvent_obeys`).
-/

namespace StockMonitoring.Application

open StockMonitoring.Foundation StockMonitoring.Domain

/-- How far a run has come. -/
structure NotifyProgress where
  /-- the event it is about -/
  event : Option DetectionEvent
  /-- the key whose lookup has answered that it is not recent, until the next lookup -/
  claimed : Option String
  /-- the send that has returned and is not logged yet -/
  unlogged : Option (NotificationChannel × Bool)
  /-- a call has raised -/
  failed : Bool

namespace NotifyProgress

/-- Before the first call. -/
def start : NotifyProgress := ⟨none, none, none, false⟩

/-- The progress after a call has returned. -/
def returned (progress : NotifyProgress) : (op : NotifyOp) → op.Answer → NotifyProgress
  | .getEvent _, event => { progress with event := event }
  | .existsRecent key _, isRecent =>
      { progress with claimed := if isRecent then none else some key }
  | .send channel _ _, success => { progress with unlogged := some (channel, success) }
  | .createLog _ _ _ _ _, _ => { progress with unlogged := none }
  | .getWatchTarget _, _ | .getSnapshot _, _ | .listByWatchTarget _, _ | .listForUser _, _ =>
      progress

/-- The progress after a reply. -/
def next (progress : NotifyProgress) (op : NotifyOp) (reply : Reply notifyPort Raised op) :
    NotifyProgress :=
  match reply with
  | .ok answer => progress.returned op answer
  | .error _ => { progress with failed := true }

/-- Nothing has failed and no send waits to be logged. -/
structure Ready (progress : NotifyProgress) (event : DetectionEvent) : Prop where
  failed : progress.failed = false
  unlogged : progress.unlogged = none
  event : progress.event = some event

/-- What must hold when a run makes a call. -/
def Allows (config : NotificationConfig) (progress : NotifyProgress) (op : NotifyOp) : Prop :=
  progress.failed = false ∧
    match op with
    | .send channel event _ => progress.unlogged = none ∧
        (config.senders channel.type).isSome = true ∧ progress.event = some event ∧
        progress.claimed = some (dedupKey channel.userId event.watchTargetId event.eventType)
    | .createLog userId _ channelId status key => progress.claimed = some key ∧
        ∃ channel success, progress.unlogged = some (channel, success) ∧
          channel.userId = userId ∧ channel.id = some channelId ∧
          status = if success then "sent" else "failed"
    | .existsRecent _ cooldownSeconds => progress.unlogged = none ∧
        cooldownSeconds = config.cooldownSeconds
    | .getEvent _ | .getWatchTarget _ | .getSnapshot _ | .listByWatchTarget _ | .listForUser _ =>
        progress.unlogged = none

end NotifyProgress

/-- What the repositories answer: rows with keys, and only the user's channels. -/
def KeyedAnswers : (op : NotifyOp) → Reply notifyPort Raised op → Prop
  | .getEvent _, .ok (some event) => ∃ id, event.id = some id
  | .listForUser userId, .ok channels =>
      ∀ channel ∈ channels, channel.userId = userId ∧ ∃ id, channel.id = some id
  | _, _ => True

/-- The protocol of a run. -/
def notifyProtocol (config : NotificationConfig) :
    Protocol notifyPort Raised Unit NotifyProgress where
  pre op progress := progress.Allows config op
  answers op reply _ := KeyedAnswers op reply
  next op reply progress := progress.next op reply
  post result progress :=
    match result with
    | .ok _ => progress.unlogged = none
    | .error _ => progress.failed = true

section Obeys

variable {config : NotificationConfig} {event : DetectionEvent} {context : NotificationContext}
  {userId : Nat} {progress : NotifyProgress}

/-- A call of a run: what it needs, and the rest after its answer. -/
theorem obeys_askNotify {op : NotifyOp} {rest : op.Answer → Notify Unit}
    (hallows : progress.Allows config op)
    (hrest : ∀ answer, KeyedAnswers op (.ok answer) →
      (rest answer).Obeys (notifyProtocol config) (progress.returned op answer)) :
    (askNotify op >>= rest).Obeys (notifyProtocol config) progress := by
  refine ⟨hallows, ?_⟩
  intro reply hreply
  cases reply with
  | ok answer => exact hrest answer hreply
  | error error => exact rfl

/-- The loop over the channels of a user. -/
theorem notifyChannels_obeys (hready : progress.Ready event) {eventId : Nat}
    (hevent : event.id = some eventId)
    (hclaimed : progress.claimed =
      some (dedupKey userId event.watchTargetId event.eventType))
    {channels : List NotificationChannel}
    (hchannels : ∀ channel ∈ channels, channel.userId = userId ∧ ∃ id, channel.id = some id)
    {rest : Unit → Notify Unit}
    (hrest : ∀ reached : NotifyProgress, reached.Ready event →
      (rest ()).Obeys (notifyProtocol config) reached) :
    (notifyChannels config event context userId
      (dedupKey userId event.watchTargetId event.eventType) channels >>= rest).Obeys
        (notifyProtocol config) progress := by
  induction channels generalizing progress with
  | nil => exact hrest progress hready
  | cons channel later ih =>
      obtain ⟨rfl, channelId, hchannel⟩ := hchannels channel List.mem_cons_self
      have hlater := fun other hother => hchannels other (List.mem_cons_of_mem _ hother)
      unfold notifyChannels
      cases hsender : config.senders channel.type with
      | none => exact ih hready hclaimed hlater
      | some sender =>
          simp only [hevent, hchannel]
          rw [bind_assoc]
          refine obeys_askNotify ⟨hready.failed, hready.unlogged, by rw [hsender]; rfl,
            hready.event, hclaimed⟩ fun success _ => ?_
          rw [bind_assoc]
          refine obeys_askNotify ⟨hready.failed, hclaimed, channel, success, rfl, rfl, hchannel,
            rfl⟩ fun _ _ => ?_
          exact ih ⟨hready.failed, rfl, hready.event⟩ hclaimed hlater

theorem notifyUser_obeys (hready : progress.Ready event) {eventId : Nat}
    (hevent : event.id = some eventId) {rest : Unit → Notify Unit}
    (hrest : ∀ reached : NotifyProgress, reached.Ready event →
      (rest ()).Obeys (notifyProtocol config) reached) :
    (notifyUser config event context userId >>= rest).Obeys (notifyProtocol config) progress := by
  unfold notifyUser
  rw [bind_assoc]
  refine obeys_askNotify ⟨hready.failed, hready.unlogged, rfl⟩ fun isRecent _ => ?_
  have hready' : (progress.returned (.existsRecent
      (dedupKey userId event.watchTargetId event.eventType) config.cooldownSeconds)
        isRecent).Ready event := ⟨hready.failed, hready.unlogged, hready.event⟩
  cases isRecent with
  | true => exact hrest _ hready'
  | false =>
      simp only [Bool.false_eq_true, if_false]
      rw [bind_assoc]
      refine obeys_askNotify ⟨hready.failed, hready.unlogged⟩ fun channels hchannels => ?_
      exact notifyChannels_obeys hready' hevent rfl hchannels hrest

theorem notifyWatches_obeys (hready : progress.Ready event) {eventId : Nat}
    (hevent : event.id = some eventId) (watches : List Watch) (seenUsers : List Nat) :
    (notifyWatches config event context watches seenUsers).Obeys (notifyProtocol config)
      progress := by
  induction watches generalizing progress seenUsers with
  | nil => exact hready.unlogged
  | cons watch later ih =>
      unfold notifyWatches
      split
      · exact ih hready seenUsers
      · exact notifyUser_obeys hready hevent fun reached hreached => ih hreached _

/-- Every run keeps to its protocol. -/
theorem processEvent_obeys (config : NotificationConfig) (eventId : Nat) :
    (processEvent config eventId).Obeys (notifyProtocol config) .start := by
  unfold processEvent
  refine obeys_askNotify ⟨rfl, rfl⟩ fun found hfound => ?_
  cases found with
  | none => exact rfl
  | some event =>
      obtain ⟨id, hid⟩ := hfound
      refine obeys_askNotify ⟨rfl, rfl⟩ fun watchTarget _ => ?_
      refine obeys_askNotify ⟨rfl, rfl⟩ fun snapshot _ => ?_
      cases watchTarget with
      | none => exact rfl
      | some watchTarget =>
          cases snapshot with
          | none => exact rfl
          | some snapshot =>
              refine obeys_askNotify ⟨rfl, rfl⟩ fun watches _ => ?_
              exact notifyWatches_obeys ⟨rfl, rfl, rfl⟩ hid watches []

end Obeys

end StockMonitoring.Application
