import StockMonitoring.Api.LiveStream
import StockMonitoring.Foundation.Json
import StockMonitoring.Foundation.PubSub

set_option autoImplicit false

/-!
# Api: live delivery

`RedisEventPublisher`, `RedisSubscriber.listen` and the loop of `websocket_endpoint`, down to
the texts on the channels.  Any number of clients connect, poll and leave while events are
published.  A client is sent the payloads of the events that are published after its
subscription on the targets of its watches, each once and in order
(`live_events_reach_their_clients`).
-/

namespace StockMonitoring.Api

open StockMonitoring.Foundation StockMonitoring.Domain StockMonitoring.Application
  StockMonitoring.Infrastructure.Db

/-! ## The payload -/

/-- A number with leading zeros. -/
def padded (width value : Nat) : List Char := (Nat.toDigits 10 value).leftpad width '0'

/-- The civil date of a day since the epoch: year, month and day. -/
def civilDate (day : Int) : Int × Nat × Nat :=
  let shifted := day + 719468
  let era := shifted / 146097
  let dayOfEra := (shifted % 146097).toNat
  let yearOfEra := (dayOfEra - dayOfEra / 1460 + dayOfEra / 36524 - dayOfEra / 146096) / 365
  let dayOfYear := dayOfEra - (365 * yearOfEra + yearOfEra / 4 - yearOfEra / 100)
  let fromMarch := (5 * dayOfYear + 2) / 153
  let month := if fromMarch < 10 then fromMarch + 3 else fromMarch - 9
  (yearOfEra + era * 400 + (if month ≤ 2 then 1 else 0), month,
    dayOfYear - (153 * fromMarch + 2) / 5 + 1)

/-- `datetime.isoformat`, in UTC. -/
def isoformat (instant : Datetime) : String :=
  let (year, month, day) := civilDate (instant / 86400000000)
  let micros := (instant % 86400000000).toNat
  let second := micros / 1000000
  let fraction := if micros % 1000000 = 0 then [] else '.' :: padded 6 (micros % 1000000)
  String.ofList (padded 4 year.toNat ++ '-' :: padded 2 month ++ '-' :: padded 2 day ++
    'T' :: padded 2 (second / 3600) ++ ':' :: padded 2 (second / 60 % 60) ++
    ':' :: padded 2 (second % 60) ++ fraction ++ "+00:00".toList)

example : isoformat 1700000000000250 = "2023-11-14T22:13:20.000250+00:00" := by decide +kernel

/-- The dict of a payload. -/
def EventPayload.toJson (payload : EventPayload) : JsonObject where
  members :=
    [("event_id", payload.eventId.elim .null fun id => .int id),
      ("watch_target_id", .int payload.watchTargetId),
      ("event_type", .str payload.eventType.value),
      ("snapshot_id", .int payload.snapshotId),
      ("created_at", .str (isoformat payload.createdAt))]
  nodup := by simp

/-- The text that `RedisEventPublisher.publish` puts on the channel. -/
def RedisMessage.text (message : RedisMessage) : String := Json.dumps message.data.toJson

/-! ## The clients -/

/-- The `type` of the dict that `get_message` returns for a reply. -/
def replyType : PubSubReply String String → String
  | .subscribed _ _ => "subscribe"
  | .message _ _ => "message"

/-- `PubSub.get_message`: nothing if no reply arrives in time, and for the confirmations that
it is told to ignore. -/
def getMessage (ignoreSubscribeMessages arrived : Bool) (pubsub : PubSub String String) :
    Option (PubSubReply String String) × PubSub String String :=
  if arrived then
    match pubsub.read with
    | (some (.subscribed channel count), pubsub) =>
        (if ignoreSubscribeMessages then none else some (.subscribed channel count), pubsub)
    | (message, pubsub) => (message, pubsub)
  else (none, pubsub)

/-- What a turn of the loop of `listen` comes to. -/
inductive ListenTurn where
  | goesOn
  | yields (object : JsonObject)
  | raises

/-- A turn of the loop of `RedisSubscriber.listen`. -/
def listenTurn (message : Option (PubSubReply String String)) : ListenTurn :=
  match message with
  | none => .goesOn
  | some message =>
      if replyType message = "message" then
        match message.data?.bind Json.loads with
        | some object => .yields object
        | none => .raises
      else .goesOn

/-- A WebSocket client, with the objects that it was sent. -/
structure StreamClient where
  pubsub : PubSub String String
  sent : List JsonObject
  connected : Bool
  deriving DecidableEq

/-- What `websocket_endpoint` does with the watches of the caller. -/
def connectionOf (watches : List Watch) : Connection :=
  if watches = [] then .closed 4404
  else .streaming (watches.map fun watch => eventsChannel watch.watchTargetId)

namespace StreamClient

/-- A client that was turned away, or whose `listen` has just subscribed. -/
def accept : Connection → StreamClient
  | .closed _ => ⟨.closed, [], false⟩
  | .streaming channels => ⟨PubSub.closed.subscribe channels, [], true⟩

/-- The `finally` of `listen`, with the end of the endpoint. -/
def close (client : StreamClient) : StreamClient := ⟨.closed, client.sent, false⟩

/-- Redis passes a published message on. -/
def receive (client : StreamClient) (message : RedisMessage) : StreamClient :=
  { client with pubsub := client.pubsub.receive message.channel message.text }

/-- One turn of `async for message in subscriber.listen(channels)`; `send_json` raises
`WebSocketDisconnect` for a client that is gone. -/
def poll (client : StreamClient) (arrived gone : Bool) : StreamClient :=
  if client.connected then
    let (message, pubsub) := getMessage true arrived client.pubsub
    match listenTurn message with
    | .goesOn => { client with pubsub }
    | .yields object => if gone then client.close else ⟨pubsub, client.sent ++ [object], true⟩
    | .raises => client.close
  else client

end StreamClient

/-- What happens next, at a client or at the publisher. -/
inductive StreamMove where
  | connect (watches : List Watch)
  | publish (watchTargetId : Nat) (event : DetectionEvent)
  | poll (client : Nat) (arrived gone : Bool)

/-- The clients after a move; they are numbered in the order in which they connect. -/
def streamStep (clients : List StreamClient) : StreamMove → List StreamClient
  | .connect watches => clients ++ [.accept (connectionOf watches)]
  | .publish watchTargetId event =>
      clients.map fun client => client.receive (RedisEventPublisher.publish watchTargetId event)
  | .poll id arrived gone => clients.modify id fun client => client.poll arrived gone

/-- The clients after moves, from none. -/
def clientsAfter (moves : List StreamMove) : List StreamClient := moves.foldl streamStep []

/-! ## What a client should get -/

/-- How many clients connect. -/
def connections (moves : List StreamMove) : Nat :=
  moves.countP fun move => move matches .connect _

/-- The target and the event of a publication. -/
def StreamMove.published? : StreamMove → Option (Nat × DetectionEvent)
  | .publish watchTargetId event => some (watchTargetId, event)
  | _ => none

/-- An event published on a target, as a client should decode it: the event's id, the target,
the type, the snapshot and the time as an ISO text. -/
def publishedObject (watchTargetId : Nat) (event : DetectionEvent) : JsonObject where
  members :=
    [("event_id", match event.id with
        | some id => .int id
        | none => .null),
      ("watch_target_id", .int watchTargetId),
      ("event_type", .str event.eventType.value),
      ("snapshot_id", .int event.snapshotId),
      ("created_at", .str (isoformat event.createdAt))]
  nodup := by simp

/-- The payloads of the events published on the targets of the watches, in order. -/
def payloadsFor (watches : List Watch) (moves : List StreamMove) : List JsonObject :=
  ((moves.filterMap StreamMove.published?).filter fun published =>
      published.1 ∈ watches.map Watch.watchTargetId).map fun published =>
    publishedObject published.1 published.2

/-- A poll of the client finds a reply. -/
def StreamMove.reads (client : Nat) : StreamMove → Bool
  | .poll other arrived _ => other = client && arrived
  | _ => false

/-- A poll finds the client gone. -/
def StreamMove.findsGone (client : Nat) : StreamMove → Bool
  | .poll other _ gone => other = client && gone
  | _ => false

/-- A client that was there all the time. -/
def Stays (client : Nat) (moves : List StreamMove) : Prop :=
  ∀ move ∈ moves, move.findsGone client = false

/-- The objects on their way to the client. -/
def StreamClient.underway (client : StreamClient) : List JsonObject :=
  (messagesIn client.pubsub.pending).filterMap Json.loads

/-! ## The endpoint and its abstraction -/

/-- What the publisher writes is what a client should decode. -/
theorem toJson_publish (watchTargetId : Nat) (event : DetectionEvent) :
    (RedisEventPublisher.publish watchTargetId event).data.toJson =
      publishedObject watchTargetId event := by
  cases hid : event.id <;> simp [RedisEventPublisher.publish, EventPayload.toJson,
    publishedObject, hid]

/-- Its text, too. -/
theorem text_publish (watchTargetId : Nat) (event : DetectionEvent) :
    (RedisEventPublisher.publish watchTargetId event).text =
      Json.dumps (publishedObject watchTargetId event) := by
  rw [RedisMessage.text, toJson_publish]

/-- `websocketEndpoint` opens this connection for the watches that it lists. -/
theorem websocketEndpoint_eq_connectionOf {config : TokenConfig} {token : String} {now : Datetime}
    {db : Database} {userId : Nat}
    (hvalid : verifyAccessToken config token now = .ok (userId : Int)) :
    websocketEndpoint config token now none db =
      .ok (connectionOf (SqlAlchemyWatchRepository.listForUser db userId)) := by
  rw [websocketEndpoint_eq hvalid, connectionOf]
  split <;> rfl

/-- The payloads are those that `Connection.sent` takes from all that is published. -/
theorem payloadsFor_eq_sent (watches : List Watch) (moves : List StreamMove) :
    payloadsFor watches moves =
      ((connectionOf watches).sent ((moves.filterMap StreamMove.published?).map fun published =>
        RedisEventPublisher.publish published.1 published.2)).map EventPayload.toJson := by
  unfold connectionOf payloadsFor
  split
  · rename_i hnone
    simp [hnone, Connection.sent]
  · have hchannel : ∀ published : Nat × DetectionEvent,
        decide ((RedisEventPublisher.publish published.1 published.2).channel ∈
          watches.map fun watch => eventsChannel watch.watchTargetId) =
        decide (published.1 ∈ watches.map Watch.watchTargetId) := by
      intro published
      rw [decide_eq_decide]
      simp only [RedisEventPublisher.publish, List.mem_map]
      constructor
      · rintro ⟨watch, hmem, hsame⟩
        exact ⟨watch, hmem, eventsChannel_injective hsame⟩
      · rintro ⟨watch, hmem, hsame⟩
        exact ⟨watch, hmem, congrArg eventsChannel hsame⟩
    simp only [Connection.sent, RedisSubscriber.listen, List.filter_map, List.map_map]
    have hobject : EventPayload.toJson ∘ RedisMessage.data ∘
        (fun published : Nat × DetectionEvent =>
          RedisEventPublisher.publish published.1 published.2) =
        fun published => publishedObject published.1 published.2 :=
      funext fun published => toJson_publish published.1 published.2
    rw [hobject]
    congr 1
    exact (List.filter_congr fun published _ => (hchannel published).symm)

/-! ## One client -/

/-- What a move does to one client. -/
def StreamClient.react (id : Nat) (client : StreamClient) : StreamMove → StreamClient
  | .connect _ => client
  | .publish watchTargetId event => client.receive (RedisEventPublisher.publish watchTargetId event)
  | .poll other arrived gone => if other = id then client.poll arrived gone else client

theorem streamStep_getElem? {clients : List StreamClient} {id : Nat} {client : StreamClient}
    (hclient : clients[id]? = some client) (move : StreamMove) :
    (streamStep clients move)[id]? = some (client.react id move) := by
  cases move with
  | connect watches =>
      obtain ⟨hlt, _⟩ := List.getElem?_eq_some_iff.mp hclient
      simp only [streamStep, StreamClient.react]
      rw [List.getElem?_append_left hlt, hclient]
  | publish watchTargetId event => simp [streamStep, StreamClient.react, hclient]
  | poll other arrived gone =>
      simp only [streamStep, StreamClient.react, List.getElem?_modify, hclient]
      split <;> rfl

/-- A client runs on its own. -/
theorem foldl_streamStep_getElem? {clients : List StreamClient} {id : Nat} {client : StreamClient}
    (hclient : clients[id]? = some client) (moves : List StreamMove) :
    (moves.foldl streamStep clients)[id]? = some (moves.foldl (StreamClient.react id) client) := by
  induction moves generalizing clients client with
  | nil => exact hclient
  | cons move moves ih => exact ih (streamStep_getElem? hclient move)

theorem length_clientsAfter (moves : List StreamMove) :
    (clientsAfter moves).length = connections moves := by
  induction moves using List.reverseRecOn with
  | nil => rfl
  | append_singleton moves move ih =>
      have hstep : clientsAfter (moves ++ [move]) = streamStep (clientsAfter moves) move := by
        simp [clientsAfter]
      rw [hstep, connections, List.countP_append]
      rw [connections] at ih
      cases move <;> simp [streamStep, ih]

/-- The client that connects after `before`. -/
theorem clientsAfter_connect (before after : List StreamMove) (watches : List Watch) :
    (clientsAfter (before ++ .connect watches :: after))[connections before]? =
      some (after.foldl (StreamClient.react (connections before))
        (.accept (connectionOf watches))) := by
  have hnew : (streamStep (clientsAfter before) (.connect watches))[connections before]? =
      some (.accept (connectionOf watches)) := by
    rw [← length_clientsAfter]
    simp [streamStep]
  have hrun : clientsAfter (before ++ .connect watches :: after) =
      after.foldl streamStep (streamStep (clientsAfter before) (.connect watches)) := by
    simp [clientsAfter]
  rw [hrun]
  exact foldl_streamStep_getElem? hnew after

/-! ## One poll -/

section Poll

variable {client : StreamClient} {pending : List (PubSubReply String String)}

theorem poll_of_not_connected (hclosed : client.connected = false) (arrived gone : Bool) :
    client.poll arrived gone = client := by
  rw [StreamClient.poll, hclosed]
  rfl

/-- No reply arrives in time. -/
theorem poll_empty (gone : Bool) : client.poll false gone = client := by
  unfold StreamClient.poll
  split <;> rfl

/-- Nothing was sent. -/
theorem poll_drained (hpending : client.pubsub.pending = []) (arrived gone : Bool) :
    client.poll arrived gone = client := by
  obtain ⟨⟨channels, _⟩, sent, connected⟩ := client
  cases hpending
  cases connected <;> cases arrived <;> rfl

/-- A confirmation is dropped. -/
theorem poll_subscribed {channel : String} {count : Nat} (hconnected : client.connected = true)
    (hpending : client.pubsub.pending = .subscribed channel count :: pending) (gone : Bool) :
    client.poll true gone = { client with pubsub := { client.pubsub with pending } } := by
  obtain ⟨⟨channels, _⟩, sent, connected⟩ := client
  cases hpending
  cases hconnected
  rfl

/-- A message is decoded and sent. -/
theorem poll_message {channel : String} {object : JsonObject} (hconnected : client.connected = true)
    (hpending : client.pubsub.pending = .message channel (Json.dumps object) :: pending)
    (gone : Bool) :
    client.poll true gone =
      if gone then client.close
      else ⟨{ client.pubsub with pending }, client.sent ++ [object], true⟩ := by
  obtain ⟨⟨channels, _⟩, sent, connected⟩ := client
  cases hpending
  cases hconnected
  have hturn : listenTurn (some (.message channel (Json.dumps object))) = .yields object := by
    simp only [listenTurn, replyType, PubSubReply.data?, Option.bind_some, Json.loads_dumps,
      if_true]
  have hpoll : StreamClient.poll
      ⟨⟨channels, .message channel (Json.dumps object) :: pending⟩, sent, true⟩ true gone =
      match listenTurn (some (.message channel (Json.dumps object))) with
      | .goesOn => ⟨⟨channels, pending⟩, sent, true⟩
      | .yields object =>
          if gone then ⟨.closed, sent, false⟩ else ⟨⟨channels, pending⟩, sent ++ [object], true⟩
      | .raises => ⟨.closed, sent, false⟩ := rfl
  rw [hpoll, hturn]
  rfl

end Poll

/-! ## One run -/

@[simp] theorem payloadsFor_nil (watches : List Watch) : payloadsFor watches [] = [] := rfl

theorem payloadsFor_append (watches : List Watch) (first second : List StreamMove) :
    payloadsFor watches (first ++ second) =
      payloadsFor watches first ++ payloadsFor watches second := by
  simp [payloadsFor]

theorem payloadsFor_publish (watches : List Watch) (watchTargetId : Nat) (event : DetectionEvent) :
    payloadsFor watches [.publish watchTargetId event] =
      if watchTargetId ∈ watches.map Watch.watchTargetId then
        [publishedObject watchTargetId event]
      else [] := by
  have hpublished : [StreamMove.publish watchTargetId event].filterMap StreamMove.published? =
      [(watchTargetId, event)] := rfl
  rw [payloadsFor, hpublished]
  split
  · rename_i hwatched
    rw [List.filter_cons_of_pos (by simpa using hwatched)]
    rfl
  · rename_i hunwatched
    rw [List.filter_cons_of_neg (by simpa using hunwatched)]
    rfl

/-- The invariant of a client: what it was sent, with what is underway as long as it is
connected, is what it should get. -/
structure Delivering (id : Nat) (watches : List Watch) (history : List StreamMove)
    (client : StreamClient) : Prop where
  inOrder : client.sent <+: payloadsFor watches history
  channels : client.connected = true → ∀ watchTargetId,
    eventsChannel watchTargetId ∈ client.pubsub.channels ↔
      watchTargetId ∈ watches.map Watch.watchTargetId
  complete : client.connected = true → ∃ objects,
    messagesIn client.pubsub.pending = objects.map Json.dumps ∧
      client.sent ++ objects = payloadsFor watches history
  connected : Stays id history → watches ≠ [] → client.connected = true
  closed : client.connected = false → client.pubsub = .closed

theorem delivering_accept (id : Nat) (watches : List Watch) :
    Delivering id watches [] (.accept (connectionOf watches)) := by
  unfold connectionOf
  split
  · rename_i hnone
    refine ⟨List.nil_prefix, ?_, ?_, fun _ hsome => absurd hnone hsome, fun _ => rfl⟩
    · intro hconnected
      cases hconnected
    · intro hconnected
      cases hconnected
  · refine ⟨List.nil_prefix, ?_, ?_, fun _ _ => rfl, fun h => by cases h⟩
    · intro _ watchTargetId
      simp only [StreamClient.accept, PubSub.mem_channels_subscribe, PubSub.closed,
        List.not_mem_nil, false_or, List.mem_map]
      constructor
      · rintro ⟨watch, hmem, hchannel⟩
        exact ⟨watch, hmem, eventsChannel_injective hchannel⟩
      · rintro ⟨watch, hmem, rfl⟩
        exact ⟨watch, hmem, rfl⟩
    · intro _
      exact ⟨[], PubSub.messagesIn_subscribe .closed _, rfl⟩

section Step

variable {id : Nat} {watches : List Watch} {history : List StreamMove} {client : StreamClient}

theorem payloadsFor_quiet {move : StreamMove} (hquiet : move.published? = none) :
    payloadsFor watches (history ++ [move]) = payloadsFor watches history := by
  rw [payloadsFor_append]
  simp [payloadsFor, hquiet]

theorem Stays.earlier {move : StreamMove} (hstays : Stays id (history ++ [move])) :
    Stays id history :=
  fun other hother => hstays other (List.mem_append_left _ hother)

/-- A client that does not change, at a move that publishes nothing. -/
theorem Delivering.same (h : Delivering id watches history client) {move : StreamMove}
    (hquiet : move.published? = none) : Delivering id watches (history ++ [move]) client := by
  have hpayloads := @payloadsFor_quiet watches history move hquiet
  refine ⟨?_, h.channels, ?_, fun hstays => h.connected hstays.earlier, h.closed⟩
  · rw [hpayloads]
    exact h.inOrder
  · rw [hpayloads]
    exact h.complete

/-- A publication reaches the client if it watches the target. -/
theorem Delivering.receive (h : Delivering id watches history client) (watchTargetId : Nat)
    (event : DetectionEvent) :
    Delivering id watches (history ++ [.publish watchTargetId event])
      (client.receive (RedisEventPublisher.publish watchTargetId event)) := by
  have hpayloads := payloadsFor_append watches history [.publish watchTargetId event]
  rw [payloadsFor_publish] at hpayloads
  refine ⟨?_, ?_, ?_, fun hstays => h.connected hstays.earlier, ?_⟩
  · rw [hpayloads]
    exact h.inOrder.trans (List.prefix_append _ _)
  · intro hconnected other
    simp only [StreamClient.receive, PubSub.channels_receive]
    exact h.channels hconnected other
  · intro hconnected
    obtain ⟨objects, hmessages, hobjects⟩ := h.complete hconnected
    have hchannel := h.channels hconnected watchTargetId
    simp only [StreamClient.receive, PubSub.messagesIn_receive, hmessages]
    by_cases hwatched : watchTargetId ∈ watches.map Watch.watchTargetId
    · rw [if_pos hwatched] at hpayloads
      refine ⟨objects ++ [publishedObject watchTargetId event], ?_, ?_⟩
      · rw [if_pos (by exact hchannel.mpr hwatched), List.map_append, text_publish]
        rfl
      · rw [← List.append_assoc, hobjects, hpayloads]
    · rw [if_neg hwatched, List.append_nil] at hpayloads
      refine ⟨objects, ?_, by rw [hobjects, hpayloads]⟩
      rw [if_neg (by exact fun hmem => hwatched (hchannel.mp hmem)), List.append_nil]
  · intro hclosed
    simp only [StreamClient.receive, h.closed hclosed]
    rfl

/-- A poll takes nothing away: what it reads is sent. -/
theorem Delivering.poll (h : Delivering id watches history client) (arrived gone : Bool) :
    Delivering id watches (history ++ [.poll id arrived gone]) (client.poll arrived gone) := by
  have hpayloads : payloadsFor watches (history ++ [.poll id arrived gone]) =
      payloadsFor watches history := payloadsFor_quiet rfl
  cases hconnected : client.connected with
  | false =>
      rw [poll_of_not_connected hconnected]
      exact h.same rfl
  | true =>
      cases arrived with
      | false =>
          rw [poll_empty]
          exact h.same rfl
      | true =>
          cases hpending : client.pubsub.pending with
          | nil =>
              rw [poll_drained hpending]
              exact h.same rfl
          | cons reply pending =>
              obtain ⟨objects, hmessages, hobjects⟩ := h.complete hconnected
              rw [hpending] at hmessages
              cases reply with
              | subscribed channel count =>
                  rw [poll_subscribed hconnected hpending]
                  refine ⟨?_, h.channels, ?_, fun hstays => h.connected hstays.earlier,
                    fun hclosed => by simp [hconnected] at hclosed⟩
                  · rw [hpayloads]
                    exact h.inOrder
                  · rw [hpayloads]
                    exact fun _ => ⟨objects, hmessages, hobjects⟩
              | message channel text =>
                  rw [messagesIn_message] at hmessages
                  obtain ⟨object, objects, rfl, rfl, hrest⟩ :=
                    List.map_eq_cons_iff.mp hmessages.symm
                  rw [poll_message hconnected hpending]
                  have hsent : (client.sent ++ [object]) ++ objects =
                      payloadsFor watches history := by
                    rw [← hobjects, List.append_assoc, List.singleton_append]
                  cases gone with
                  | true =>
                      -- the client is gone with the object that was to be sent
                      refine ⟨?_, by nofun, by nofun, fun hstays => ?_, fun _ => rfl⟩
                      · rw [hpayloads]
                        exact h.inOrder
                      · have hgone := hstays _ (List.mem_append_right _ List.mem_cons_self)
                        simp [StreamMove.findsGone] at hgone
                  | false =>
                      refine ⟨?_, fun _ => h.channels hconnected, ?_, fun _ _ => rfl, by nofun⟩
                      · rw [hpayloads]
                        exact ⟨objects, hsent⟩
                      · rw [hpayloads]
                        exact fun _ => ⟨objects, hrest.symm, hsent⟩

theorem Delivering.react (h : Delivering id watches history client) (move : StreamMove) :
    Delivering id watches (history ++ [move]) (client.react id move) := by
  cases move with
  | connect _ => exact h.same rfl
  | publish watchTargetId event => exact h.receive watchTargetId event
  | poll other arrived gone =>
      simp only [StreamClient.react]
      split
      · rename_i hsame
        rw [hsame]
        exact h.poll arrived gone
      · exact h.same rfl

end Step

/-- The invariant holds in every run. -/
theorem delivering_run (id : Nat) (watches : List Watch) (moves : List StreamMove) :
    Delivering id watches moves
      (moves.foldl (StreamClient.react id) (.accept (connectionOf watches))) := by
  induction moves using List.reverseRecOn with
  | nil => exact delivering_accept id watches
  | append_singleton moves move ih =>
      rw [List.foldl_append]
      exact ih.react move

/-! ## Progress -/

section Progress

variable {id : Nat}

theorem Stays.later {move : StreamMove} {moves : List StreamMove}
    (hstays : Stays id (move :: moves)) : Stays id moves :=
  fun other hother => hstays other (List.mem_cons_of_mem _ hother)

/-- Nothing that was sent is taken back. -/
theorem sent_react (client : StreamClient) (move : StreamMove) :
    client.sent <+: (client.react id move).sent := by
  cases move with
  | connect _ => exact List.prefix_rfl
  | publish _ _ => exact List.prefix_rfl
  | poll other arrived gone =>
      simp only [StreamClient.react]
      split
      · unfold StreamClient.poll
        split
        · dsimp only
          split
          · exact List.prefix_rfl
          · split
            · exact List.prefix_rfl
            · exact List.prefix_append _ _
          · exact List.prefix_rfl
        · exact List.prefix_rfl
      · exact List.prefix_rfl

theorem sent_run (client : StreamClient) (moves : List StreamMove) :
    client.sent <+: (moves.foldl (StreamClient.react id) client).sent := by
  induction moves generalizing client with
  | nil => exact List.prefix_rfl
  | cons move moves ih => exact (sent_react client move).trans (ih _)

/-- A client that stays has read its first replies after as many polls that find one. -/
theorem sent_of_reads {client : StreamClient} {front back : List (PubSubReply String String)}
    {objects : List JsonObject} {moves : List StreamMove} (hconnected : client.connected = true)
    (hpending : client.pubsub.pending = front ++ back)
    (hfront : messagesIn front = objects.map Json.dumps) (hstays : Stays id moves)
    (hreads : front.length ≤ moves.countP fun move => move.reads id) :
    client.sent ++ objects <+: (moves.foldl (StreamClient.react id) client).sent := by
  induction moves generalizing client front back objects with
  | nil =>
      have hnone : front = [] := List.eq_nil_of_length_eq_zero (by simpa using hreads)
      subst hnone
      have hnil : objects = [] := by simpa using hfront.symm
      rw [hnil, List.append_nil]
      exact List.prefix_rfl
  | cons move moves ih =>
      rw [List.countP_cons] at hreads
      have hquiet : move.reads id = false → client.react id move = client →
          client.sent ++ objects <+:
            ((move :: moves).foldl (StreamClient.react id) client).sent := by
        intro hnot hsame
        rw [hnot] at hreads
        rw [List.foldl_cons, hsame]
        exact ih hconnected hpending hfront hstays.later (by simpa using hreads)
      cases move with
      | connect watches => exact hquiet rfl rfl
      | publish watchTargetId event =>
          have hback := client.pubsub.pending_receive
            (RedisEventPublisher.publish watchTargetId event).channel
            (RedisEventPublisher.publish watchTargetId event).text
          rw [hpending, List.append_assoc] at hback
          exact @ih (client.receive (RedisEventPublisher.publish watchTargetId event)) front _
            objects hconnected hback hfront hstays.later (by simpa [StreamMove.reads] using hreads)
      | poll other arrived gone =>
          by_cases hother : other = id
          · subst hother
            have hstay : gone = false := by
              simpa [StreamMove.findsGone] using hstays _ List.mem_cons_self
            have hreact : client.react other (.poll other arrived gone) =
                client.poll arrived gone := if_pos rfl
            cases arrived with
            | false =>
                refine hquiet (by simp [StreamMove.reads]) ?_
                rw [hreact, poll_empty]
            | true =>
                rw [List.foldl_cons, hreact]
                cases front with
                | nil =>
                    have hnil : objects = [] := by simpa using hfront.symm
                    rw [hnil, List.append_nil, ← hreact]
                    exact sent_run client (_ :: moves)
                | cons reply front =>
                    have hfewer : front.length ≤ moves.countP fun move => move.reads other := by
                      simpa [StreamMove.reads] using hreads
                    cases reply with
                    | subscribed channel count =>
                        rw [poll_subscribed hconnected hpending]
                        exact @ih ⟨⟨client.pubsub.channels, front ++ back⟩, client.sent,
                          client.connected⟩ front back objects hconnected rfl hfront hstays.later
                          hfewer
                    | message channel text =>
                        rw [messagesIn_message] at hfront
                        obtain ⟨object, objects, rfl, rfl, hrest⟩ :=
                          List.map_eq_cons_iff.mp hfront.symm
                        rw [poll_message hconnected hpending, if_neg (by simp [hstay])]
                        have hsent := @ih ⟨⟨client.pubsub.channels, front ++ back⟩,
                          client.sent ++ [object], true⟩ front back objects rfl rfl hrest.symm
                          hstays.later hfewer
                        rw [List.append_assoc] at hsent
                        exact hsent
          · refine hquiet ?_ ?_
            · simp [StreamMove.reads, hother]
            · exact if_neg hother

end Progress

/-! ## Every run -/

/-- What a client is sent that connects with `watches` after `before`. -/
structure SentItsEvents (before : List StreamMove) (watches : List Watch)
    (after : List StreamMove) (client : StreamClient) : Prop where
  /-- what is sent is the beginning of what should be, in order and each once -/
  inOrder : client.sent <+: payloadsFor watches after
  /-- what a client that stays was not sent yet is underway -/
  noneLost : Stays (connections before) after →
    client.sent ++ client.underway = payloadsFor watches after
  /-- after as many polls as there are replies underway it has been sent -/
  delivered : ∀ further, Stays (connections before) (after ++ further) →
    client.pubsub.pending.length ≤ further.countP (StreamMove.reads (connections before)) →
      ∃ later, (clientsAfter (before ++ .connect watches :: (after ++ further)))[
          connections before]? = some later ∧
        payloadsFor watches after <+: later.sent

/-- The objects of the texts underway. -/
theorem underway_eq {client : StreamClient} {objects : List JsonObject}
    (hmessages : messagesIn client.pubsub.pending = objects.map Json.dumps) :
    client.underway = objects := by
  rw [StreamClient.underway, hmessages, List.filterMap_map]
  have hloads : Json.loads ∘ Json.dumps = some := funext Json.loads_dumps
  rw [hloads, List.filterMap_some]

/-- Without watches there is nothing to send. -/
theorem payloadsFor_of_no_watches (moves : List StreamMove) : payloadsFor [] moves = [] := by
  simp [payloadsFor]

/-- Every client, in every run of clients that connect, poll and leave and of publications,
is sent the payloads of the events published after its subscription on the targets of its
watches, each once and in the order in which they were published, as objects of what was
published (`publishedObject`). -/
theorem live_events_reach_their_clients (before after : List StreamMove) (watches : List Watch) :
    ∃ client, (clientsAfter (before ++ .connect watches :: after))[connections before]? =
        some client ∧
      SentItsEvents before watches after client := by
  have hclient := clientsAfter_connect before after watches
  refine ⟨_, hclient, ?_⟩
  have hrun := delivering_run (connections before) watches after
  refine ⟨hrun.inOrder, ?_, ?_⟩
  · intro hstays
    cases hconnected : (after.foldl (StreamClient.react (connections before))
        (.accept (connectionOf watches))).connected with
    | true =>
        obtain ⟨objects, hmessages, hobjects⟩ := hrun.complete hconnected
        rw [underway_eq hmessages, hobjects]
    | false =>
        -- only a client without watches is not connected here, and it gets nothing
        have hwatches : watches = [] := by
          by_contra hsome
          rw [hrun.connected hstays hsome] at hconnected
          cases hconnected
        have hsent := hrun.inOrder
        rw [StreamClient.underway, hrun.closed hconnected, hwatches, payloadsFor_of_no_watches]
        rw [hwatches, payloadsFor_of_no_watches, List.prefix_nil] at hsent
        rw [hsent]
        rfl
  · intro further hstays hreads
    refine ⟨_, clientsAfter_connect before (after ++ further) watches, ?_⟩
    by_cases hwatches : watches = []
    · rw [hwatches, payloadsFor_of_no_watches]
      exact List.nil_prefix
    · have hearlier : Stays (connections before) after := fun move hmove =>
        hstays move (List.mem_append_left _ hmove)
      have hlater : Stays (connections before) further := fun move hmove =>
        hstays move (List.mem_append_right _ hmove)
      have hconnected := hrun.connected hearlier hwatches
      obtain ⟨objects, hmessages, hobjects⟩ := hrun.complete hconnected
      rw [List.foldl_append, ← hobjects]
      exact sent_of_reads hconnected (List.append_nil _).symm hmessages hlater hreads

/-- Two watches on one target; an event of another target comes first. -/
example :
    let watch : Watch := ⟨none, 1, 1, 4, 600, true⟩
    let event := fun snapshotId =>
      (⟨some snapshotId, 4, snapshotId, none, .outOfStock, 0⟩ : DetectionEvent)
    (clientsAfter [.connect [watch, watch], .publish 6 (event 1), .publish 4 (event 2),
        .poll 0 true false, .poll 0 true false, .poll 0 true false]).map
      (fun client => client.sent) = [[publishedObject 4 (event 2)]] := by
  decide +kernel

end StockMonitoring.Api
