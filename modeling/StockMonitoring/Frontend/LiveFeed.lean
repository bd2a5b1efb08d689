import StockMonitoring.Api.LiveDelivery
import StockMonitoring.Frontend.LiveEvents

set_option autoImplicit false

/-!
# Frontend: from publisher to feed

The page of the dashboard over the streams of `websocket_endpoint`: each socket that the
server accepts gets a client of its own there, once `listen` has subscribed for it.  What is
published between `websocket.accept` and the subscription is lost.  Sockets close and are made
anew, tokens change, and the dashboard comes and goes; the feed never shows an event twice or
out of order (`feed_in_order`).
-/

namespace StockMonitoring.Frontend

open StockMonitoring.Foundation StockMonitoring.Domain StockMonitoring.Api

/-- The server's end of a socket. -/
structure Link where
  /-- what had happened at the server when it subscribed for the socket -/
  before : List StreamMove
  watches : List Watch
  /-- how many of the objects sent to it have arrived -/
  arrived : Nat

/-- The number of the server's client. -/
def Link.client (link : Link) : Nat := connections link.before

/-- The objects that the server has sent. -/
def Link.sent (link : Link) (history : List StreamMove) : List JsonObject :=
  match (clientsAfter history)[link.client]? with
  | none => []
  | some client => client.sent

/-- A page, what has happened at the server, the page's sockets that the server has accepted,
each with the watches of its user, and the server's ends of those it has subscribed for. -/
structure LiveState where
  page : Page JsonObject
  history : List StreamMove
  accepted : Nat → Option (List Watch)
  links : Nat → Option Link

/-- Before the page connects. -/
def LiveState.opened (accessToken : Option String) (history : List StreamMove) : LiveState :=
  ⟨Page.opened accessToken, history, fun _ => none, fun _ => none⟩

/-- What happens next. -/
inductive FeedMove where
  /-- the page, but for the texts that arrive -/
  | page (move : PageMove JsonObject)
  /-- `await websocket.accept()`, for a user with watches -/
  | accept (socket : Nat) (watches : List Watch)
  /-- `await pubsub.subscribe(*channels)`, for a socket that was accepted -/
  | subscribe (socket : Nat)
  /-- anything else at the server: other clients, publications, polls -/
  | server (move : StreamMove)
  /-- the next object arrives on an open socket -/
  | arrive (socket : Nat) (granted : Bool)

/-- One step; `none` when it is not possible.  `JSON.parse` reads back what `send_json` has
written. -/
def feedStep (viteWsUrl : Option String) (eventType : JsonObject → String) (state : LiveState) :
    FeedMove → Option LiveState
  | .page (.message _ _ _) => none
  | .page move => (pageStep viteWsUrl eventType state.page move).map ({ state with page := · })
  | .accept id watches =>
      if id < state.page.sockets.length ∧ (state.accepted id).isNone ∧ watches ≠ [] then
        some { state with accepted := Function.update state.accepted id (some watches) }
      else none
  | .subscribe id => (state.accepted id).bind fun watches =>
      if (state.links id).isNone then
        some { state with
          history := state.history ++ [.connect watches]
          links := Function.update state.links id (some ⟨state.history, watches, 0⟩) }
      else none
  | .server move => some { state with history := state.history ++ [move] }
  | .arrive id granted => (state.links id).bind fun link =>
      ((link.sent state.history)[link.arrived]?).bind fun object =>
        (pageStep viteWsUrl eventType state.page (.message id (some object) granted)).map
          fun page => { state with
            page
            links := Function.update state.links id (some { link with
              arrived := link.arrived + 1 }) }

/-- The payloads of all publications, in order. -/
def payloads (history : List StreamMove) : List JsonObject :=
  (history.filterMap StreamMove.published?).map fun published =>
    publishedObject published.1 published.2

/-! ## What a page move leaves -/

/-- The page may have made sockets and given others up. -/
structure Grows {E : Type} (page next : Page E) : Prop where
  length : page.sockets.length ≤ next.sockets.length
  events : next.events = page.events
  live : ∀ (id : Nat) (socket : Socket), next.sockets[id]? = some socket →
    socket.state.live = true → id < page.sockets.length →
      ∃ old, page.sockets[id]? = some old ∧ old.state.live = true

section Grows

variable {E : Type} {viteWsUrl : Option String} {page next last : Page E}

/-- Nothing has become of the sockets and the feed. -/
theorem grows_of_same (hsockets : next.sockets = page.sockets)
    (hevents : next.events = page.events) :
    Grows page next :=
  ⟨Nat.le_of_eq (congrArg List.length hsockets).symm, hevents, fun id socket hsocket hlive _ =>
    ⟨socket, by rw [← hsockets]; exact hsocket, hlive⟩⟩

theorem Grows.trans (hfirst : Grows page next) (hsecond : Grows next last) : Grows page last := by
  refine ⟨Nat.le_trans hfirst.length hsecond.length, hsecond.events.trans hfirst.events, ?_⟩
  intro id socket hsocket hlive hlt
  obtain ⟨old, hold, holdLive⟩ :=
    hsecond.live id socket hsocket hlive (Nat.lt_of_lt_of_le hlt hfirst.length)
  exact hfirst.live id old hold holdLive hlt

theorem Grows.of_same (hlater : Grows next last) (hsockets : next.sockets = page.sockets)
    (hevents : next.events = page.events) : Grows page last :=
  (grows_of_same hsockets hevents).trans hlater

theorem grows_connect (run : Nat) : Grows page (page.connect viteWsUrl run) := by
  unfold Page.connect
  split
  · exact grows_of_same rfl rfl
  · refine ⟨by simp, rfl, ?_⟩
    intro id socket hsocket hlive hlt
    rcases getElem?_concat_cases hsocket with hold | ⟨rfl, _⟩
    · exact ⟨socket, hold, hlive⟩
    · exact absurd hlt (Nat.lt_irrefl _)

theorem grows_onclose (run : Nat) : Grows page (page.onclose run) := by
  unfold Page.onclose
  split
  · exact grows_of_same rfl rfl
  · split
    · exact grows_of_same rfl rfl
    · exact grows_of_same rfl rfl

theorem grows_runCleanup : Grows page page.runCleanup := by
  unfold Page.runCleanup
  split
  · exact grows_of_same rfl rfl
  · unfold Page.cleanUp
    split
    · exact grows_of_same rfl rfl
    · rename_i closure _
      refine ⟨?_, rfl, ?_⟩
      · change _ ≤ (closeIfAny closure.socket page.sockets).length
        unfold closeIfAny
        split <;> simp
      · intro id socket hsocket hlive _
        obtain ⟨old, hold, _, _, _, hclosed⟩ := getElem?_closeIfAny hsocket
        exact ⟨old, hold, (hclosed hlive).1⟩

theorem grows_runEffect (accessToken : Option String) :
    Grows page (page.runEffect viteWsUrl accessToken) := by
  have hcleaned : Grows page { page.runCleanup with deps := some accessToken } :=
    (@grows_runCleanup E page).trans (grows_of_same rfl rfl)
  refine hcleaned.trans ?_
  unfold Page.runEffect Page.effect
  split
  · exact grows_of_same rfl rfl
  · split
    · exact grows_of_same rfl rfl
    · exact (grows_connect _).of_same rfl rfl

theorem grows_flush : Grows page (page.flush viteWsUrl) := by
  unfold Page.flush
  split
  · exact grows_of_same rfl rfl
  · exact (@grows_runCleanup E page).trans (grows_of_same rfl rfl)
  · split
    · exact grows_of_same rfl rfl
    · exact (grows_runEffect _).of_same rfl rfl

/-- A socket that changes its state, but does not come up. -/
theorem grows_socketState {id : Nat} {socket : Socket} {state : ReadyState}
    (hsocket : page.sockets[id]? = some socket)
    (hlive : state.live = true → socket.state.live = true) :
    Grows page { page with sockets := page.sockets.modify id ({ · with state := state }) } := by
  refine ⟨by simp, rfl, ?_⟩
  intro other changed hchanged hchangedLive _
  rcases getElem?_modify_cases hchanged with ⟨rfl, old, hget, rfl⟩ | ⟨_, hget⟩
  · exact ⟨socket, hsocket, hlive hchangedLive⟩
  · exact ⟨changed, hget, hchangedLive⟩

/-- Every move of the page but a text that arrives. -/
theorem grows_step {eventType : E → String} {move : PageMove E}
    (hmove : ∀ id parsed granted, move ≠ .message id parsed granted)
    (hstep : pageStep viteWsUrl eventType page move = some next) : Grows page next := by
  cases move with
  | stored | wait =>
      cases hstep
      exact grows_of_same rfl rfl
  | render | leave =>
      cases hstep
      exact (@grows_flush E viteWsUrl page).trans (grows_of_same rfl rfl)
  | flush =>
      cases hstep
      exact grows_flush
  | rerun =>
      obtain ⟨accessToken, _, rfl⟩ := Option.map_eq_some_iff.mp hstep
      exact grows_runEffect accessToken
  | accepted id =>
      obtain ⟨socket, hsocket, hstep⟩ := Option.bind_eq_some_iff.mp hstep
      split at hstep
      · rename_i hstate
        cases hstep
        exact grows_socketState hsocket fun _ => by rw [hstate]; rfl
      · cases hstep
  | closing id =>
      obtain ⟨socket, hsocket, hstep⟩ := Option.bind_eq_some_iff.mp hstep
      split at hstep
      · cases hstep
        exact grows_socketState hsocket nofun
      · cases hstep
  | lost id =>
      obtain ⟨socket, hsocket, hstep⟩ := Option.bind_eq_some_iff.mp hstep
      split at hstep
      · cases hstep
      · cases hstep
        have hclosed : Grows page { page with
            sockets := page.sockets.modify id ({ · with state := .closed }) } :=
          grows_socketState hsocket nofun
        exact hclosed.trans (grows_onclose socket.run)
  | message id parsed granted => exact absurd rfl (hmove id parsed granted)
  | fires id =>
      obtain ⟨timer, _, hstep⟩ := Option.bind_eq_some_iff.mp hstep
      split at hstep
      · cases hstep
        exact (grows_connect _).of_same rfl rfl
      · cases hstep

end Grows

/-! ## The server's end -/

section Server

variable {history after : List StreamMove} {link : Link}

theorem payloads_append (first second : List StreamMove) :
    payloads (first ++ second) = payloads first ++ payloads second := by
  simp [payloads]

/-- What goes to a client is part of what is published. -/
theorem payloadsFor_sublist (watches : List Watch) (history : List StreamMove) :
    (payloadsFor watches history).Sublist (payloads history) :=
  List.filter_sublist.map _

/-- A client after what has happened since its subscription. -/
theorem client_of_linked (hhistory : history = link.before ++ .connect link.watches :: after) :
    (clientsAfter history)[link.client]? =
      some (after.foldl (StreamClient.react link.client)
        (.accept (connectionOf link.watches))) := by
  rw [hhistory]
  exact clientsAfter_connect link.before after link.watches

theorem sent_of_linked (hhistory : history = link.before ++ .connect link.watches :: after) :
    link.sent history =
      (after.foldl (StreamClient.react link.client)
        (.accept (connectionOf link.watches))).sent := by
  unfold Link.sent
  rw [client_of_linked hhistory]

/-- What was sent is published since the subscription. -/
theorem sent_prefix_payloadsFor
    (hhistory : history = link.before ++ .connect link.watches :: after) :
    link.sent history <+: payloadsFor link.watches after := by
  rw [sent_of_linked hhistory]
  exact (delivering_run link.client link.watches after).inOrder

/-- The server takes nothing back. -/
theorem sent_prefix_sent (hhistory : history = link.before ++ .connect link.watches :: after)
    (move : StreamMove) : link.sent history <+: link.sent (history ++ [move]) := by
  have hlater : history ++ [move] =
      link.before ++ .connect link.watches :: (after ++ [move]) := by
    rw [hhistory, List.append_assoc, List.cons_append]
  rw [sent_of_linked hhistory, sent_of_linked hlater, List.foldl_append]
  exact sent_react _ move

end Server

/-! ## The feed -/

/-- All that the feed was ever given, `shown`, and what the feed has left of it. -/
structure Showing (state : LiveState) (shown : List JsonObject) : Prop where
  events : state.page.events = shown.reverse.take maxEvents
  inOrder : shown.Sublist (payloads state.history)
  accepted : ∀ id watches, state.accepted id = some watches → id < state.page.sockets.length
  linked : ∀ id link, state.links id = some link → id < state.page.sockets.length ∧
    (∃ after, state.history = link.before ++ .connect link.watches :: after) ∧
      link.arrived ≤ (link.sent state.history).length
  /-- a live socket has brought the last of it, and what came before was published before -/
  live : ∀ (id : Nat) (socket : Socket) (link : Link), state.page.sockets[id]? = some socket →
    socket.state.live = true → state.links id = some link → ∃ earlier,
      shown = earlier ++ (link.sent state.history).take link.arrived ∧
        earlier.Sublist (payloads link.before)

/-- What is found after something has been set. -/
theorem found_of_update {α : Type} {known : Nat → Option α} {id other : Nat} {set found : α}
    (hfound : Function.update known id (some set) other = some found) :
    (other = id ∧ found = set) ∨ (other ≠ id ∧ known other = some found) := by
  by_cases hother : other = id
  · subst hother
    rw [Function.update_self] at hfound
    exact Or.inl ⟨rfl, (Option.some.inj hfound).symm⟩
  · rw [Function.update_of_ne hother] at hfound
    exact Or.inr ⟨hother, hfound⟩

section Steps

variable {viteWsUrl : Option String} {eventType : JsonObject → String} {state : LiveState}
  {shown : List JsonObject}

theorem showing_opened (accessToken : Option String) (history : List StreamMove) :
    Showing (LiveState.opened accessToken history) [] := by
  refine ⟨rfl, List.nil_sublist _, ?_, ?_, ?_⟩
  · intro id watches haccepted
    cases haccepted
  · intro id link hlink
    cases hlink
  · intro id socket link hsocket
    cases hsocket

/-- The page moves by itself. -/
theorem Showing.grows (hshowing : Showing state shown) {page : Page JsonObject}
    (hgrows : Grows state.page page) : Showing { state with page } shown := by
  refine ⟨hgrows.events.trans hshowing.events, hshowing.inOrder, ?_, ?_, ?_⟩
  · intro id watches haccepted
    exact Nat.lt_of_lt_of_le (hshowing.accepted id watches haccepted) hgrows.length
  · intro id link hlink
    obtain ⟨hlt, hrest⟩ := hshowing.linked id link hlink
    exact ⟨Nat.lt_of_lt_of_le hlt hgrows.length, hrest⟩
  · intro id socket link hsocket hlive hlink
    obtain ⟨old, hold, holdLive⟩ :=
      hgrows.live id socket hsocket hlive (hshowing.linked id link hlink).1
    exact hshowing.live id old link hold holdLive hlink

/-- Something happens at the server. -/
theorem Showing.server (hshowing : Showing state shown) (move : StreamMove) :
    Showing { state with history := state.history ++ [move] } shown := by
  refine ⟨hshowing.events, ?_, hshowing.accepted, ?_, ?_⟩
  · rw [payloads_append]
    exact hshowing.inOrder.trans (List.sublist_append_left _ _)
  · intro id link hlink
    obtain ⟨hlt, ⟨after, hhistory⟩, harrived⟩ := hshowing.linked id link hlink
    refine ⟨hlt, ⟨after ++ [move], ?_⟩, ?_⟩
    · rw [hhistory, List.append_assoc, List.cons_append]
    · exact Nat.le_trans harrived (sent_prefix_sent hhistory move).length_le
  · intro id socket link hsocket hlive hlink
    obtain ⟨_, ⟨after, hhistory⟩, harrived⟩ := hshowing.linked id link hlink
    obtain ⟨earlier, hshown, hearlier⟩ := hshowing.live id socket link hsocket hlive hlink
    refine ⟨earlier, ?_, hearlier⟩
    obtain ⟨rest, hrest⟩ := sent_prefix_sent hhistory move
    rw [← hrest, List.take_append_of_le_length harrived]
    exact hshown

/-- The server accepts a socket. -/
theorem Showing.accept (hshowing : Showing state shown) {id : Nat} (watches : List Watch)
    (hlt : id < state.page.sockets.length) :
    Showing { state with accepted := Function.update state.accepted id (some watches) } shown := by
  refine ⟨hshowing.events, hshowing.inOrder, ?_, hshowing.linked, hshowing.live⟩
  intro other found hfound
  rcases found_of_update hfound with ⟨rfl, _⟩ | ⟨_, hold⟩
  · exact hlt
  · exact hshowing.accepted other found hold

/-- The server subscribes for a socket: all that was shown was published before. -/
theorem Showing.subscribe (hshowing : Showing state shown) {id : Nat} {watches : List Watch}
    (haccepted : state.accepted id = some watches) :
    Showing { state with
      history := state.history ++ [.connect watches]
      links := Function.update state.links id (some ⟨state.history, watches, 0⟩) } shown := by
  have hserver := hshowing.server (.connect watches)
  refine ⟨hserver.events, hserver.inOrder, hserver.accepted, ?_, ?_⟩
  · intro other link hlink
    rcases found_of_update hlink with ⟨rfl, rfl⟩ | ⟨_, hold⟩
    · exact ⟨hshowing.accepted _ watches haccepted, ⟨[], rfl⟩, Nat.zero_le _⟩
    · exact hserver.linked other link hold
  · intro other socket link hsocket hlive hlink
    rcases found_of_update hlink with ⟨rfl, rfl⟩ | ⟨_, hold⟩
    · refine ⟨shown, ?_, hshowing.inOrder⟩
      rw [List.take_zero, List.append_nil]
    · exact hserver.live other socket link hsocket hlive hold

/-- An object arrives at the only socket that is live. -/
theorem Showing.arrive (hshowing : Showing state shown)
    (hconnection : OneConnection viteWsUrl state.page) {id : Nat} {socket : Socket} {link : Link}
    {object : JsonObject} (hsocket : state.page.sockets[id]? = some socket)
    (hopened : socket.state = .opened) (hlink : state.links id = some link)
    (hobject : (link.sent state.history)[link.arrived]? = some object) (granted : Bool) :
    Showing { state with
      page := state.page.onmessage eventType (some object) granted
      links := Function.update state.links id (some { link with
        arrived := link.arrived + 1 }) } (shown ++ [object]) := by
  have hlive : socket.state.live = true := by rw [hopened]; rfl
  obtain ⟨earlier, hshown, hearlier⟩ := hshowing.live id socket link hsocket hlive hlink
  obtain ⟨hlt, ⟨after, hhistory⟩, _⟩ := hshowing.linked id link hlink
  obtain ⟨hbound, hget⟩ := List.getElem?_eq_some_iff.mp hobject
  have htake : shown ++ [object] =
      earlier ++ (link.sent state.history).take (link.arrived + 1) := by
    rw [List.take_succ_eq_append_getElem hbound, hget, hshown, List.append_assoc]
  refine ⟨?_, ?_, hshowing.accepted, ?_, ?_⟩
  · change (object :: state.page.events).take maxEvents = _
    rw [hshowing.events, List.reverse_append, List.reverse_singleton, List.singleton_append]
    simp [maxEvents, List.take_take]
  · rw [htake, hhistory, payloads_append, ← hhistory]
    refine hearlier.append ?_
    have hsent := (List.take_prefix (link.arrived + 1) _).trans (sent_prefix_payloadsFor hhistory)
    exact hsent.sublist.trans (payloadsFor_sublist link.watches after)
  · intro other found hfound
    rcases found_of_update hfound with ⟨rfl, rfl⟩ | ⟨_, hold⟩
    · exact ⟨hlt, ⟨after, hhistory⟩, hbound⟩
    · exact hshowing.linked other found hold
  · intro other second found hsecond hsecondLive hfound
    have hother := (hconnection.single id socket hsocket hlive).2 other second hsecond hsecondLive
    rcases found_of_update hfound with ⟨_, rfl⟩ | ⟨hne, _⟩
    · exact ⟨earlier, htake, hearlier⟩
    · exact absurd hother hne

end Steps

/-! ## Every run -/

/-- What the feed shows. -/
structure FeedInOrder (state : LiveState) : Prop where
  /-- the newest of the events it was given, newest first; each publication was given at most
  once, and in the order of publication -/
  inOrder : ∃ shown : List JsonObject, shown.Sublist (payloads state.history) ∧
    state.page.events = shown.reverse.take maxEvents
  /-- the live socket has brought all that was published on its targets since the server has
  subscribed for it, but for what is still on its way, as long as the server keeps its end -/
  complete : ∀ (id : Nat) (socket : Socket) (link : Link) (client : StreamClient),
    state.page.sockets[id]? = some socket → socket.state.live = true →
    state.links id = some link → (clientsAfter state.history)[link.client]? = some client →
    client.connected = true → ∃ earlier brought after,
      state.history = link.before ++ .connect link.watches :: after ∧
      state.page.events = (earlier ++ brought).reverse.take maxEvents ∧
      brought ++ client.sent.drop link.arrived ++ client.underway = payloadsFor link.watches after

theorem feedInOrder_of_showing {state : LiveState} {shown : List JsonObject}
    (hshowing : Showing state shown) : FeedInOrder state := by
  refine ⟨⟨shown, hshowing.inOrder, hshowing.events⟩, ?_⟩
  intro id socket link client hsocket hlive hlink hclient hconnected
  obtain ⟨earlier, hshown, _⟩ := hshowing.live id socket link hsocket hlive hlink
  obtain ⟨_, ⟨after, hhistory⟩, _⟩ := hshowing.linked id link hlink
  have hsent : link.sent state.history = client.sent := by
    unfold Link.sent
    rw [hclient]
  obtain rfl := Option.some.inj (hclient.symm.trans (client_of_linked hhistory))
  obtain ⟨objects, hmessages, hobjects⟩ :=
    (delivering_run link.client link.watches after).complete hconnected
  refine ⟨earlier, _, after, hhistory, hshown ▸ hshowing.events, ?_⟩
  rw [hsent, List.take_append_drop, underway_eq hmessages]
  exact hobjects

/-- What every move keeps. -/
def FeedInvariant (viteWsUrl : Option String) (state : LiveState) : Prop :=
  PageInvariant viteWsUrl state.page ∧ ∃ shown, Showing state shown

/-- The page moves by itself. -/
theorem page_of_feedStep {viteWsUrl : Option String} {eventType : JsonObject → String}
    {state next : LiveState} {move : PageMove JsonObject}
    (hstep : feedStep viteWsUrl eventType state (.page move) = some next) :
    (∀ id parsed granted, move ≠ .message id parsed granted) ∧
      ∃ page, pageStep viteWsUrl eventType state.page move = some page ∧
        next = { state with page } := by
  cases move with
  | message => cases hstep
  | _ =>
      simp only [feedStep, Option.map_eq_some_iff] at hstep
      obtain ⟨page, hmove, hnext⟩ := hstep
      refine ⟨?_, page, hmove, hnext.symm⟩
      intro _ _ _ hsame
      cases hsame

theorem FeedInvariant.step {viteWsUrl : Option String} {eventType : JsonObject → String}
    {state next : LiveState} {move : FeedMove} (hstate : FeedInvariant viteWsUrl state)
    (hstep : feedStep viteWsUrl eventType state move = some next) :
    FeedInvariant viteWsUrl next := by
  obtain ⟨hpage, shown, hshowing⟩ := hstate
  cases move with
  | page move =>
      obtain ⟨hquiet, page, hmove, rfl⟩ := page_of_feedStep hstep
      exact ⟨hpage.step hmove, shown, hshowing.grows (grows_step hquiet hmove)⟩
  | accept id watches =>
      simp only [feedStep] at hstep
      split at hstep
      · rename_i haccepts
        cases hstep
        exact ⟨hpage, shown, hshowing.accept watches haccepts.1⟩
      · cases hstep
  | subscribe id =>
      obtain ⟨watches, haccepted, hstep⟩ := Option.bind_eq_some_iff.mp hstep
      split at hstep
      · cases hstep
        exact ⟨hpage, shown, hshowing.subscribe haccepted⟩
      · cases hstep
  | server move =>
      cases hstep
      exact ⟨hpage, shown, hshowing.server move⟩
  | arrive id granted =>
      obtain ⟨link, hlink, hstep⟩ := Option.bind_eq_some_iff.mp hstep
      obtain ⟨object, hobject, hstep⟩ := Option.bind_eq_some_iff.mp hstep
      obtain ⟨page, hmove, rfl⟩ := Option.map_eq_some_iff.mp hstep
      refine ⟨hpage.step hmove, shown ++ [object], ?_⟩
      obtain ⟨socket, hsocket, hmessage⟩ := Option.bind_eq_some_iff.mp hmove
      split at hmessage
      · rename_i hopened
        cases hmessage
        exact hshowing.arrive hpage.oneConnection hsocket hopened hlink hobject granted
      · cases hmessage

/-- In every state of every run, through lost connections, new tokens and visits of other pages:
the feed shows publications newest first, each at most once and in the order of publication,
and an open socket has brought all of its targets since its subscription, but for what is on
its way, while the server keeps its end. -/
theorem feed_in_order (viteWsUrl : Option String) (eventType : JsonObject → String)
    (accessToken : Option String) (history : List StreamMove) (moves : List FeedMove) :
    Throughout (feedStep viteWsUrl eventType) FeedInOrder (LiveState.opened accessToken history)
      moves := by
  intro earlier later reached _ hrun
  have hstart : FeedInvariant viteWsUrl (LiveState.opened accessToken history) :=
    ⟨pageInvariant_opened viteWsUrl accessToken, [], showing_opened accessToken history⟩
  obtain ⟨_, shown, hshowing⟩ := runFrom_invariant (FeedInvariant viteWsUrl)
    (fun _ _ _ hstate hstep => hstate.step hstep) hrun hstart
  exact feedInOrder_of_showing hshowing

/-- What is published while the page waits to connect anew, or before the server has subscribed
for the new socket, is not shown. -/
example :
    let watch : Watch := ⟨none, 1, 1, 4, 600, true⟩
    let event := fun snapshotId =>
      (⟨some snapshotId, 4, snapshotId, none, .outOfStock, 0⟩ : DetectionEvent)
    let moves : List FeedMove := [.page .render, .page .flush, .accept 0 [watch], .subscribe 0,
      .page (.accepted 0), .server (.publish 4 (event 1)), .server (.poll 0 true false),
      .server (.poll 0 true false), .arrive 0 false, .page (.lost 0),
      .server (.publish 4 (event 2)),
      .page (.wait 3000), .page (.fires 0), .accept 1 [watch], .page (.accepted 1),
      .server (.publish 4 (event 3)), .subscribe 1, .server (.publish 4 (event 4)),
      .server (.poll 1 true false), .server (.poll 1 true false), .arrive 1 false]
    ((runFrom (feedStep none fun _ => "") (.opened (some "t") []) moves).map fun state =>
      state.page.events) = some [publishedObject 4 (event 4), publishedObject 4 (event 1)] := by
  decide +kernel

end StockMonitoring.Frontend
