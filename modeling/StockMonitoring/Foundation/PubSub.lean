import Mathlib.Data.List.Basic

set_option autoImplicit false

/-!
# Foundation: publish and subscribe

The subscriber's end of a broker: a set of channels, and the replies that the subscriber has
not read yet.  A message goes to every connection that is subscribed to its channel at that
moment, once, behind the earlier ones.
-/

namespace StockMonitoring.Foundation

/-- What the broker sends to a connection. -/
inductive PubSubReply (C M : Type) where
  | subscribed (channel : C) (count : Nat)
  | message (channel : C) (data : M)
  deriving DecidableEq

/-- A connection of a subscriber. -/
structure PubSub (C M : Type) where
  channels : List C
  pending : List (PubSubReply C M)
  deriving DecidableEq

variable {C M : Type}

/-- The payload of a message. -/
def PubSubReply.data? : PubSubReply C M → Option M
  | .subscribed _ _ => none
  | .message _ data => some data

/-- The payloads of the messages among the replies, in order. -/
def messagesIn (replies : List (PubSubReply C M)) : List M := replies.filterMap PubSubReply.data?

@[simp] theorem messagesIn_nil : messagesIn ([] : List (PubSubReply C M)) = [] := rfl

@[simp] theorem messagesIn_append (first second : List (PubSubReply C M)) :
    messagesIn (first ++ second) = messagesIn first ++ messagesIn second :=
  List.filterMap_append

@[simp] theorem messagesIn_subscribed (channel : C) (count : Nat)
    (replies : List (PubSubReply C M)) :
    messagesIn (.subscribed channel count :: replies) = messagesIn replies := rfl

@[simp] theorem messagesIn_message (channel : C) (data : M) (replies : List (PubSubReply C M)) :
    messagesIn (.message channel data :: replies) = data :: messagesIn replies := rfl

namespace PubSub

/-- A connection without subscriptions. -/
def closed : PubSub C M := ⟨[], []⟩

/-- Takes the oldest reply, if there is one. -/
def read (pubsub : PubSub C M) : Option (PubSubReply C M) × PubSub C M :=
  match pubsub.pending with
  | [] => (none, pubsub)
  | reply :: pending => (some reply, { pubsub with pending })

variable [DecidableEq C]

/-- Adds one channel; each request is confirmed, also one for a channel that is there. -/
def subscribeTo (pubsub : PubSub C M) (channel : C) : PubSub C M :=
  let channels := if channel ∈ pubsub.channels then pubsub.channels
    else pubsub.channels ++ [channel]
  ⟨channels, pubsub.pending ++ [.subscribed channel channels.length]⟩

/-- `SUBSCRIBE` with several channels. -/
def subscribe (pubsub : PubSub C M) (channels : List C) : PubSub C M :=
  channels.foldl subscribeTo pubsub

/-- `PUBLISH`, as one connection sees it. -/
def receive (pubsub : PubSub C M) (channel : C) (data : M) : PubSub C M :=
  if channel ∈ pubsub.channels then
    { pubsub with pending := pubsub.pending ++ [.message channel data] }
  else pubsub

variable (pubsub : PubSub C M)

theorem mem_channels_subscribe (channels : List C) (channel : C) :
    channel ∈ (pubsub.subscribe channels).channels ↔
      channel ∈ pubsub.channels ∨ channel ∈ channels := by
  induction channels generalizing pubsub with
  | nil => simp [subscribe]
  | cons first channels ih =>
      have hfirst : channel ∈ (pubsub.subscribeTo first).channels ↔
          channel ∈ pubsub.channels ∨ channel = first := by
        simp only [subscribeTo]
        split
        · rename_i hold
          constructor
          · exact Or.inl
          · rintro (hmem | rfl)
            · exact hmem
            · exact hold
        · simp
      have hrest : channel ∈ ((pubsub.subscribeTo first).subscribe channels).channels ↔
          channel ∈ (pubsub.subscribeTo first).channels ∨ channel ∈ channels := ih _
      rw [hfirst] at hrest
      rw [List.mem_cons, ← or_assoc]
      exact hrest

/-- A subscription brings confirmations and no messages. -/
theorem messagesIn_subscribe (channels : List C) :
    messagesIn (pubsub.subscribe channels).pending = messagesIn pubsub.pending := by
  induction channels generalizing pubsub with
  | nil => rfl
  | cons first channels ih =>
      have hfirst : messagesIn (pubsub.subscribeTo first).pending = messagesIn pubsub.pending := by
        simp [subscribeTo]
      have hrest : messagesIn ((pubsub.subscribeTo first).subscribe channels).pending =
          messagesIn (pubsub.subscribeTo first).pending := ih _
      exact hrest.trans hfirst

@[simp] theorem channels_receive (channel : C) (data : M) :
    (pubsub.receive channel data).channels = pubsub.channels := by
  unfold receive
  split <;> rfl

/-- What a publication adds to the replies. -/
theorem pending_receive (channel : C) (data : M) :
    (pubsub.receive channel data).pending =
      pubsub.pending ++ if channel ∈ pubsub.channels then [.message channel data] else [] := by
  unfold receive
  split <;> simp

theorem messagesIn_receive (channel : C) (data : M) :
    messagesIn (pubsub.receive channel data).pending =
      messagesIn pubsub.pending ++ if channel ∈ pubsub.channels then [data] else [] := by
  rw [pending_receive, messagesIn_append]
  split <;> rfl

end PubSub

end StockMonitoring.Foundation
