import StockMonitoring.Foundation.Lists
import StockMonitoring.Foundation.Run

set_option autoImplicit false

/-!
# Frontend: the live feed of the dashboard

`src/hooks/useLiveEvents.ts` and `src/store/liveEventsStore.ts`, on a page of which React
runs the effects: sockets and timers outlive the render that made them, and the effect's
clean-up has to find them.  In every run the page keeps up one connection for the token it
was last rendered with and none for any other (`one_connection_per_page`).

Sockets, timers and runs of the effect are numbered in the order in which they are made.
-/

namespace StockMonitoring.Frontend

open StockMonitoring.Foundation

/-! ## Sockets and timers -/

/-- `WebSocket.readyState`. -/
inductive ReadyState where
  | connecting
  | opened
  | closing
  | closed
  deriving DecidableEq

/-- A socket that nobody has begun to close. -/
def ReadyState.live : ReadyState → Bool
  | .connecting | .opened => true
  | .closing | .closed => false

/-- A socket. -/
structure Socket where
  url : String
  /-- the run of the effect whose `connect` has made it -/
  run : Nat
  createdAt : Nat
  state : ReadyState
  deriving DecidableEq

/-- `WebSocket.close`. -/
def Socket.close (socket : Socket) : Socket :=
  if socket.state.live then { socket with state := .closing } else socket

/-- `socket?.close()`. -/
def closeIfAny (socket : Option Nat) (sockets : List Socket) : List Socket :=
  match socket with
  | none => sockets
  | some id => sockets.modify id Socket.close

/-- A timer of `setTimeout`. -/
structure Timer where
  run : Nat
  due : Nat
  pending : Bool
  deriving DecidableEq

/-- A timer that has been cleared or has fired. -/
def Timer.clear (timer : Timer) : Timer := { timer with pending := false }

/-- `clearTimeout`, which ignores `undefined`. -/
def clearTimeout (timer : Option Nat) (timers : List Timer) : List Timer :=
  match timer with
  | none => timers
  | some id => timers.modify id Timer.clear

/-- What the closures of one run of the effect share. -/
structure EffectRun where
  accessToken : String
  socket : Option Nat
  reconnectTimer : Option Nat
  cancelled : Bool
  deriving DecidableEq

/-- What React has committed and not run the effects of. -/
inductive Commit where
  /-- the dashboard, rendered with this access token -/
  | shown (accessToken : Option String)
  | gone
  deriving DecidableEq

/-- The page; `E` is the type of the events. -/
structure Page (E : Type) where
  now : Nat
  /-- the access token of the auth store -/
  accessToken : Option String
  commit : Option Commit
  /-- the access token that the effect last ran with, while the dashboard is shown -/
  deps : Option (Option String)
  /-- the run whose clean-up React has kept -/
  cleanup : Option Nat
  runs : List EffectRun
  sockets : List Socket
  timers : List Timer
  events : List E
  /-- the titles of the notifications shown -/
  notices : List String
  deriving DecidableEq

variable {E : Type}

/-- A page that has just been opened. -/
def Page.opened (accessToken : Option String) : Page E :=
  ⟨0, accessToken, none, none, none, [], [], [], [], []⟩

/-! ## The store -/

/-- `MAX_EVENTS`. -/
def maxEvents : Nat := 100

/-- `addEvent`. -/
def addEvent (events : List E) (event : E) : List E := (event :: events).take maxEvents

/-! ## The hook -/

/-- `RECONNECT_DELAY_MS`. -/
def reconnectDelayMs : Nat := 3000

/-- The address of a socket; `viteWsUrl` is `import.meta.env.VITE_WS_URL`. -/
def wsUrl (viteWsUrl : Option String) (accessToken : String) : String :=
  let origin := viteWsUrl.getD "ws://localhost:8000"
  s!"{origin}/ws?token={accessToken}"

namespace Page

/-- `connect`. -/
def connect (viteWsUrl : Option String) (run : Nat) (page : Page E) : Page E :=
  match page.runs[run]? with
  | none => page
  | some closure =>
      { page with
        sockets := page.sockets ++
          [⟨wsUrl viteWsUrl closure.accessToken, run, page.now, .connecting⟩]
        runs := page.runs.modify run fun closure =>
          { closure with socket := some page.sockets.length } }

/-- `socket.onmessage`; `parsed` is what `JSON.parse` makes of the text, `none` if it raises. -/
def onmessage (eventType : E → String) (parsed : Option E) (granted : Bool) (page : Page E) :
    Page E :=
  match parsed with
  | none => page
  | some payload =>
      let title := eventType payload
      { page with
        events := addEvent page.events payload
        notices := if granted then page.notices ++ [s!"Update: {title}"] else page.notices }

/-- `socket.onclose`. -/
def onclose (run : Nat) (page : Page E) : Page E :=
  match page.runs[run]? with
  | none => page
  | some closure =>
      if closure.cancelled then page
      else
        { page with
          timers := page.timers ++ [⟨run, page.now + reconnectDelayMs, true⟩]
          runs := page.runs.modify run fun closure =>
            { closure with reconnectTimer := some page.timers.length } }

/-- The clean-up that the effect returns. -/
def cleanUp (run : Nat) (page : Page E) : Page E :=
  match page.runs[run]? with
  | none => page
  | some closure =>
      { page with
        runs := page.runs.modify run fun closure => { closure with cancelled := true }
        timers := clearTimeout closure.reconnectTimer page.timers
        sockets := closeIfAny closure.socket page.sockets }

/-- The effect. -/
def effect (viteWsUrl : Option String) (accessToken : Option String) (page : Page E) : Page E :=
  match accessToken with
  | none => page
  | some token =>
      if token = "" then page
      else connect viteWsUrl page.runs.length { page with
        runs := page.runs ++ [⟨token, none, none, false⟩]
        cleanup := some page.runs.length }

/-! ## React -/

/-- React runs the clean-up that it has kept. -/
def runCleanup (page : Page E) : Page E :=
  match page.cleanup with
  | none => page
  | some run => { page.cleanUp run with cleanup := none }

/-- React runs the effect, after the clean-up of its last run. -/
def runEffect (viteWsUrl : Option String) (accessToken : Option String) (page : Page E) : Page E :=
  { page.runCleanup with deps := some accessToken }.effect viteWsUrl accessToken

/-- React runs the effects of what it has committed: the effect runs when the dashboard has
come up or its access token has changed. -/
def flush (viteWsUrl : Option String) (page : Page E) : Page E :=
  match page.commit with
  | none => page
  | some .gone => { page.runCleanup with commit := none, deps := none }
  | some (.shown accessToken) =>
      if page.deps = some accessToken then { page with commit := none }
      else { page with commit := none }.runEffect viteWsUrl accessToken

end Page

/-- What happens next. -/
inductive PageMove (E : Type) where
  /-- the auth store gets this access token -/
  | stored (accessToken : Option String)
  /-- React renders the dashboard -/
  | render
  /-- React takes the dashboard off the page -/
  | leave
  /-- React runs the effects -/
  | flush
  /-- `StrictMode` has the effect run once more -/
  | rerun
  /-- the server has accepted a socket -/
  | accepted (socket : Nat)
  /-- a text has arrived -/
  | message (socket : Nat) (parsed : Option E) (granted : Bool)
  /-- the server has begun to close a socket -/
  | closing (socket : Nat)
  /-- a socket is closed, or its connection has failed -/
  | lost (socket : Nat)
  /-- a timer is due -/
  | fires (timer : Nat)
  | wait (elapsed : Nat)

/-- One step of the page; `none` when it is not possible.  Before React renders, it runs the
effects that are left. -/
def pageStep (viteWsUrl : Option String) (eventType : E → String) (page : Page E) :
    PageMove E → Option (Page E)
  | .stored accessToken => some { page with accessToken }
  | .render => some { page.flush viteWsUrl with commit := some (.shown page.accessToken) }
  | .leave => some { page.flush viteWsUrl with commit := some .gone }
  | .flush => some (page.flush viteWsUrl)
  | .rerun => page.deps.map fun accessToken => page.runEffect viteWsUrl accessToken
  | .accepted id => (page.sockets[id]?).bind fun socket =>
      if socket.state = .connecting then
        some { page with sockets := page.sockets.modify id ({ · with state := .opened }) }
      else none
  | .message id parsed granted => (page.sockets[id]?).bind fun socket =>
      if socket.state = .opened then some (page.onmessage eventType parsed granted) else none
  | .closing id => (page.sockets[id]?).bind fun socket =>
      if socket.state = .opened then
        some { page with sockets := page.sockets.modify id ({ · with state := .closing }) }
      else none
  | .lost id => (page.sockets[id]?).bind fun socket =>
      if socket.state = .closed then none
      else
        some ({ page with
          sockets := page.sockets.modify id ({ · with state := .closed }) }.onclose socket.run)
  | .fires id => (page.timers[id]?).bind fun timer =>
      if timer.pending ∧ timer.due ≤ page.now then
        some ({ page with
          timers := page.timers.modify id Timer.clear }.connect viteWsUrl timer.run)
      else none
  | .wait elapsed => some { page with now := page.now + elapsed }

/-! ## What the page keeps up -/

/-- The run has a socket that is not closed, and no timer. -/
structure Connected (page : Page E) (run id : Nat) : Prop where
  held : ∃ closure, page.runs[run]? = some closure ∧ closure.socket = some id
  there : ∃ socket, page.sockets[id]? = some socket ∧ socket.run = run ∧ socket.state ≠ .closed
  others : ∀ (other : Nat) (socket : Socket), page.sockets[other]? = some socket →
    socket.run = run → other ≠ id →
    socket.state = .closed
  quiet : ∀ (other : Nat) (timer : Timer), page.timers[other]? = some timer → timer.run = run →
    timer.pending = false

/-- The run has a timer that will connect it anew, and only closed sockets. -/
structure Waiting (page : Page E) (run id : Nat) : Prop where
  held : ∃ closure, page.runs[run]? = some closure ∧ closure.reconnectTimer = some id
  there : ∃ timer, page.timers[id]? = some timer ∧ timer.run = run ∧ timer.pending = true
  others : ∀ (other : Nat) (timer : Timer), page.timers[other]? = some timer →
    timer.run = run → other ≠ id →
    timer.pending = false
  quiet : ∀ (other : Nat) (socket : Socket), page.sockets[other]? = some socket → socket.run = run →
    socket.state = .closed

/-- The run is connected or will be. -/
def Upheld (page : Page E) (run : Nat) : Prop :=
  (∃ id, Connected page run id) ∨ ∃ id, Waiting page run id

/-- What sockets, timers and runs of the effect have to do with each other. -/
structure Bound (viteWsUrl : Option String) (page : Page E) : Prop where
  url : ∀ (id : Nat) (socket : Socket), page.sockets[id]? = some socket → ∃ closure,
    page.runs[socket.run]? = some closure ∧ socket.url = wsUrl viteWsUrl closure.accessToken
  /-- only the run whose clean-up is to come has sockets that nobody closes -/
  live : ∀ (id : Nat) (socket : Socket), page.sockets[id]? = some socket →
    socket.state.live = true →
    page.cleanup = some socket.run
  pending : ∀ (id : Nat) (timer : Timer), page.timers[id]? = some timer → timer.pending = true →
    page.cleanup = some timer.run
  cancelled : ∀ (run : Nat) (closure : EffectRun), page.runs[run]? = some closure →
    (closure.cancelled = false ↔ page.cleanup = some run)

/-- Besides, the run that goes on has its connection. -/
structure Kept (viteWsUrl : Option String) (page : Page E) : Prop
    extends Bound viteWsUrl page where
  upheld : ∀ run, page.cleanup = some run → Upheld page run

section Kept

variable {viteWsUrl : Option String} {page : Page E}

/-- There is nothing on a page that has just been opened. -/
theorem kept_opened (accessToken : Option String) :
    Kept viteWsUrl (Page.opened accessToken : Page E) := by
  refine ⟨⟨?_, ?_, ?_, ?_⟩, ?_⟩
  · intro id socket hsocket
    cases hsocket
  · intro id socket hsocket
    cases hsocket
  · intro id timer htimer
    cases htimer
  · intro run closure hclosure
    cases hclosure
  · intro run hrun
    cases hrun

/-- What else is on the page does not matter to it. -/
theorem Kept.congr {other : Page E} (hkept : Kept viteWsUrl page) (hruns : other.runs = page.runs)
    (hsockets : other.sockets = page.sockets) (htimers : other.timers = page.timers)
    (hcleanup : other.cleanup = page.cleanup) : Kept viteWsUrl other := by
  obtain ⟨now, accessToken, commit, deps, cleanup, runs, sockets, timers, events, notices⟩ := other
  simp only at hruns hsockets htimers hcleanup
  subst hruns hsockets htimers hcleanup
  refine ⟨⟨hkept.url, hkept.live, hkept.pending, hkept.cancelled⟩, fun run hrun => ?_⟩
  rcases hkept.upheld run hrun with ⟨id, hconnected⟩ | ⟨id, hwaiting⟩
  · exact Or.inl ⟨id, hconnected.held, hconnected.there, hconnected.others, hconnected.quiet⟩
  · exact Or.inr ⟨id, hwaiting.held, hwaiting.there, hwaiting.others, hwaiting.quiet⟩

/-- What the closures of a run share may change, but not its token and whether it is cancelled. -/
theorem exists_modify_run {runs : List EffectRun} {change : EffectRun → EffectRun} {run : Nat}
    (htoken : ∀ closure, (change closure).accessToken = closure.accessToken) {other : Nat}
    {closure : EffectRun} (hclosure : runs[other]? = some closure) :
    ∃ changed, (runs.modify run change)[other]? = some changed ∧
      changed.accessToken = closure.accessToken := by
  by_cases hother : other = run
  · subst hother
    refine ⟨change closure, ?_, htoken closure⟩
    rw [List.getElem?_modify_eq, hclosure]
    rfl
  · refine ⟨closure, ?_, rfl⟩
    rw [List.getElem?_modify_ne _ _ (Ne.symm hother), hclosure]

/-- A socket goes on without being closed. -/
theorem Kept.socketState (hkept : Kept viteWsUrl page) {id : Nat} {socket : Socket}
    (hsocket : page.sockets[id]? = some socket) {state : ReadyState}
    (hlive : state.live = true → socket.state.live = true) (hopen : socket.state ≠ .closed)
    (hstate : state ≠ .closed) :
    Kept viteWsUrl { page with sockets := page.sockets.modify id ({ · with state := state }) } := by
  -- every socket is an old one, closed only if it was
  have hold : ∀ (other : Nat) (changed : Socket),
      (page.sockets.modify id ({ · with state := state }))[other]? = some changed →
      ∃ old, page.sockets[other]? = some old ∧ changed.url = old.url ∧ changed.run = old.run ∧
        (changed.state.live = true → old.state.live = true) ∧
        (old.state = .closed → changed.state = .closed) := by
    intro other changed hchanged
    rcases getElem?_modify_cases hchanged with ⟨rfl, old, hget, rfl⟩ | ⟨_, hget⟩
    · obtain rfl := Option.some.inj (hsocket.symm.trans hget)
      exact ⟨socket, hget, rfl, rfl, hlive, fun hclosed => absurd hclosed hopen⟩
    · exact ⟨changed, hget, rfl, rfl, fun h => h, fun h => h⟩
  refine ⟨⟨?_, ?_, hkept.pending, hkept.cancelled⟩, ?_⟩
  · intro other changed hchanged
    obtain ⟨old, hget, hurl, hrun, _, _⟩ := hold other changed hchanged
    rw [hurl, hrun]
    exact hkept.url other old hget
  · intro other changed hchanged hchangedLive
    obtain ⟨old, hget, _, hrun, holdLive, _⟩ := hold other changed hchanged
    rw [hrun]
    exact hkept.live other old hget (holdLive hchangedLive)
  · intro run hrun
    rcases hkept.upheld run hrun with ⟨held, hconnected⟩ | ⟨timer, hwaiting⟩
    · refine Or.inl ⟨held, hconnected.held, ?_, ?_, hconnected.quiet⟩
      · obtain ⟨there, hget, hthereRun, hnot⟩ := hconnected.there
        by_cases hsame : id = held
        · subst hsame
          obtain rfl := Option.some.inj (hsocket.symm.trans hget)
          refine ⟨{ socket with state := state }, ?_, hthereRun, hstate⟩
          change (page.sockets.modify id ({ · with state := state }))[id]? = _
          rw [List.getElem?_modify_eq, hsocket]
          rfl
        · refine ⟨there, ?_, hthereRun, hnot⟩
          change (page.sockets.modify id ({ · with state := state }))[held]? = _
          rw [List.getElem?_modify_ne _ _ hsame, hget]
      · intro other changed hchanged hchangedRun hother
        obtain ⟨old, hget, _, holdRun, _, hclosed⟩ := hold other changed hchanged
        exact hclosed (hconnected.others other old hget (holdRun.symm.trans hchangedRun) hother)
    · refine Or.inr ⟨timer, hwaiting.held, hwaiting.there, hwaiting.others, ?_⟩
      intro other changed hchanged hchangedRun
      obtain ⟨old, hget, _, holdRun, _, hclosed⟩ := hold other changed hchanged
      exact hclosed (hwaiting.quiet other old hget (holdRun.symm.trans hchangedRun))

theorem ne_closed_of_live {socket : Socket} (hlive : socket.state.live = true) :
    socket.state ≠ .closed := by
  intro hclosed
  rw [hclosed] at hlive
  cases hlive

/-- A socket that is not closed belongs to the run that is connected by it. -/
theorem Connected.eq_of_open {run held id : Nat} {socket : Socket}
    (hconnected : Connected page run held) (hsocket : page.sockets[id]? = some socket)
    (hrun : socket.run = run) (hopen : socket.state ≠ .closed) : id = held := by
  by_contra hne
  exact hopen (hconnected.others id socket hsocket hrun hne)

/-- The socket of a run that goes on is closed, and its timer is set. -/
theorem waiting_onclose {id : Nat} {socket : Socket} {closure : EffectRun}
    (hupheld : Upheld page socket.run) (hsocket : page.sockets[id]? = some socket)
    (hopen : socket.state ≠ .closed) (hclosure : page.runs[socket.run]? = some closure)
    (hcancelled : closure.cancelled = false) :
    Waiting ({ page with
      sockets := page.sockets.modify id ({ · with state := .closed }) }.onclose socket.run)
      socket.run page.timers.length := by
  have hconnected : Connected page socket.run id := by
    rcases hupheld with ⟨held, hconnected⟩ | ⟨timer, hwaiting⟩
    · rw [hconnected.eq_of_open hsocket rfl hopen]
      exact hconnected
    · exact absurd (hwaiting.quiet id socket hsocket rfl) hopen
  simp only [Page.onclose, hclosure, hcancelled, Bool.false_eq_true, if_false]
  refine ⟨?_, ?_, ?_, ?_⟩
  · refine ⟨{ closure with reconnectTimer := some page.timers.length }, ?_, rfl⟩
    change (page.runs.modify socket.run _)[socket.run]? = _
    rw [List.getElem?_modify_eq, hclosure]
    rfl
  · exact ⟨_, List.getElem?_concat_length, rfl, rfl⟩
  · intro other timer htimer hrun hother
    rcases getElem?_concat_cases htimer with hold | ⟨hlast, _⟩
    · exact hconnected.quiet other timer hold hrun
    · exact absurd hlast hother
  · intro other changed hchanged hrun
    rcases getElem?_modify_cases hchanged with ⟨_, old, _, rfl⟩ | ⟨hother, hget⟩
    · rfl
    · exact hconnected.others other changed hget hrun hother

/-- A socket is closed. -/
theorem Kept.lost (hkept : Kept viteWsUrl page) {id : Nat} {socket : Socket}
    (hsocket : page.sockets[id]? = some socket) (hopen : socket.state ≠ .closed) :
    Kept viteWsUrl ({ page with
      sockets := page.sockets.modify id ({ · with state := .closed }) }.onclose socket.run) := by
  obtain ⟨closure, hclosure, _⟩ := hkept.url id socket hsocket
  have hiff := hkept.cancelled _ _ hclosure
  have hold : ∀ (other : Nat) (changed : Socket),
      (page.sockets.modify id ({ · with state := .closed }))[other]? = some changed →
      ∃ old, page.sockets[other]? = some old ∧ changed.url = old.url ∧ changed.run = old.run ∧
        (changed.state.live = true → old.state.live = true) := by
    intro other changed hchanged
    rcases getElem?_modify_cases hchanged with ⟨rfl, old, hget, rfl⟩ | ⟨_, hget⟩
    · exact ⟨old, hget, rfl, rfl, fun h => by cases h⟩
    · exact ⟨changed, hget, rfl, rfl, fun h => h⟩
  cases hcancelled : closure.cancelled with
  | false =>
      have hcurrent := hiff.mp hcancelled
      have hwaiting := waiting_onclose (hkept.upheld _ hcurrent) hsocket hopen hclosure hcancelled
      have hupheld : ∀ run, page.cleanup = some run → Upheld ({ page with
          sockets := page.sockets.modify id ({ · with state := .closed }) }.onclose socket.run)
            run := by
        intro run hrun
        rw [← Option.some.inj (hcurrent.symm.trans hrun)]
        exact Or.inr ⟨_, hwaiting⟩
      simp only [Page.onclose, hclosure, hcancelled, Bool.false_eq_true, if_false] at hupheld ⊢
      refine ⟨⟨?_, ?_, ?_, ?_⟩, hupheld⟩
      · intro other changed hchanged
        obtain ⟨old, hget, hurl, hrun, _⟩ := hold other changed hchanged
        obtain ⟨closure, hget, hsame⟩ := hkept.url other old hget
        obtain ⟨changed, hgot, htoken⟩ := @exists_modify_run page.runs
          (fun closure => { closure with reconnectTimer := some page.timers.length }) socket.run
          (fun _ => rfl) _ _ hget
        exact ⟨changed, hrun ▸ hgot, by rw [hurl, hsame, htoken]⟩
      · intro other changed hchanged hlive
        obtain ⟨old, hget, _, hrun, holdLive⟩ := hold other changed hchanged
        rw [hrun]
        exact hkept.live other old hget (holdLive hlive)
      · intro other timer htimer hpending
        rcases getElem?_concat_cases htimer with hget | ⟨_, rfl⟩
        · exact hkept.pending other timer hget hpending
        · exact hcurrent
      · intro run changed hchanged
        rcases getElem?_modify_cases hchanged with ⟨rfl, old, hget, rfl⟩ | ⟨_, hget⟩
        · have hsame := hkept.cancelled _ _ hget
          exact hsame
        · exact hkept.cancelled run changed hget
  | true =>
      -- the clean-up has run already, so this is no socket of the current run
      have hother : ∀ run, page.cleanup = some run → socket.run ≠ run := by
        rintro run hrun rfl
        rw [hiff.mpr hrun] at hcancelled
        cases hcancelled
      simp only [Page.onclose, hclosure, hcancelled, if_true]
      refine ⟨⟨?_, ?_, hkept.pending, hkept.cancelled⟩, ?_⟩
      · intro other changed hchanged
        obtain ⟨old, hget, hurl, hrun, _⟩ := hold other changed hchanged
        rw [hurl, hrun]
        exact hkept.url other old hget
      · intro other changed hchanged hlive
        obtain ⟨old, hget, _, hrun, holdLive⟩ := hold other changed hchanged
        rw [hrun]
        exact hkept.live other old hget (holdLive hlive)
      · intro run hrun
        have hapart : ∀ (other : Nat) (changed : Socket),
            (page.sockets.modify id ({ · with state := .closed }))[other]? = some changed →
            changed.run = run → page.sockets[other]? = some changed := by
          intro other changed hchanged hchangedRun
          rcases getElem?_modify_cases hchanged with ⟨rfl, old, hget, rfl⟩ | ⟨_, hget⟩
          · obtain rfl := Option.some.inj (hsocket.symm.trans hget)
            exact absurd hchangedRun (hother run hrun)
          · exact hget
        rcases hkept.upheld run hrun with ⟨held, hconnected⟩ | ⟨timer, hwaiting⟩
        · obtain ⟨there, hget, hthereRun, hnot⟩ := hconnected.there
          refine Or.inl ⟨held, hconnected.held, ⟨there, ?_, hthereRun, hnot⟩, ?_,
            hconnected.quiet⟩
          · have hne : id ≠ held := by
              rintro rfl
              obtain rfl := Option.some.inj (hsocket.symm.trans hget)
              exact hother run hrun hthereRun
            change (page.sockets.modify id ({ · with state := .closed }))[held]? = _
            rw [List.getElem?_modify_ne _ _ hne, hget]
          · intro other changed hchanged hchangedRun
            exact hconnected.others other changed (hapart other changed hchanged hchangedRun)
              hchangedRun
        · refine Or.inr ⟨timer, hwaiting.held, hwaiting.there, hwaiting.others, ?_⟩
          intro other changed hchanged hchangedRun
          exact hwaiting.quiet other changed (hapart other changed hchanged hchangedRun)
            hchangedRun

/-- A run that goes on and has neither socket nor timer connects. -/
theorem Bound.connect (hbound : Bound viteWsUrl page) {run : Nat} {closure : EffectRun}
    (hcurrent : page.cleanup = some run) (hclosure : page.runs[run]? = some closure)
    (hclosed : ∀ (other : Nat) (socket : Socket), page.sockets[other]? = some socket →
      socket.run = run → socket.state = .closed)
    (hquiet : ∀ (other : Nat) (timer : Timer), page.timers[other]? = some timer →
      timer.run = run → timer.pending = false) : Kept viteWsUrl (page.connect viteWsUrl run) := by
  simp only [Page.connect, hclosure]
  have hruns : ∀ {other : Nat} {found : EffectRun}, page.runs[other]? = some found →
      ∃ changed, (page.runs.modify run fun closure =>
          { closure with socket := some page.sockets.length })[other]? = some changed ∧
        changed.accessToken = found.accessToken :=
    fun hfound => exists_modify_run (by intro _; rfl) hfound
  refine ⟨⟨?_, ?_, hbound.pending, ?_⟩, ?_⟩
  · intro other socket hsocket
    rcases getElem?_concat_cases hsocket with hold | ⟨_, rfl⟩
    · obtain ⟨found, hfound, hurl⟩ := hbound.url other socket hold
      obtain ⟨changed, hchanged, htoken⟩ := hruns hfound
      exact ⟨changed, hchanged, by rw [hurl, htoken]⟩
    · obtain ⟨changed, hchanged, htoken⟩ := hruns hclosure
      exact ⟨changed, hchanged, by rw [htoken]⟩
  · intro other socket hsocket hlive
    rcases getElem?_concat_cases hsocket with hold | ⟨_, rfl⟩
    · exact hbound.live other socket hold hlive
    · exact hcurrent
  · intro other changed hchanged
    rcases getElem?_modify_cases hchanged with ⟨rfl, old, hget, rfl⟩ | ⟨_, hget⟩
    · have hsame := hbound.cancelled _ _ hget
      exact hsame
    · exact hbound.cancelled other changed hget
  · intro other hother
    obtain rfl := Option.some.inj (hcurrent.symm.trans hother)
    refine Or.inl ⟨page.sockets.length, ?_, ⟨_, List.getElem?_concat_length, rfl, nofun⟩, ?_,
      hquiet⟩
    · refine ⟨{ closure with socket := some page.sockets.length }, ?_, rfl⟩
      change (page.runs.modify run _)[run]? = _
      rw [List.getElem?_modify_eq, hclosure]
      rfl
    · intro position socket hsocket hrun hne
      rcases getElem?_concat_cases hsocket with hold | ⟨hlast, _⟩
      · exact hclosed position socket hold hrun
      · exact absurd hlast hne

/-- A timer that is pending after another has fired. -/
theorem getElem?_fired {timers : List Timer} {id other : Nat} {changed : Timer}
    (hchanged : (timers.modify id Timer.clear)[other]? = some changed)
    (hpending : changed.pending = true) : other ≠ id ∧ timers[other]? = some changed := by
  rcases getElem?_modify_cases hchanged with ⟨_, old, _, rfl⟩ | hkeep
  · cases hpending
  · exact hkeep

/-- A run whose timer fires has no other, and its sockets are closed. -/
theorem Kept.of_pending (hkept : Kept viteWsUrl page) {id : Nat} {timer : Timer}
    (htimer : page.timers[id]? = some timer) (hpending : timer.pending = true) :
    Waiting page timer.run id := by
  rcases hkept.upheld _ (hkept.pending id timer htimer hpending) with
    ⟨held, hconnected⟩ | ⟨waits, hwaiting⟩
  · rw [hconnected.quiet id timer htimer rfl] at hpending
    cases hpending
  · have hsame : id = waits := by
      by_contra hne
      rw [hwaiting.others id timer htimer rfl hne] at hpending
      cases hpending
    rw [hsame]
    exact hwaiting

/-- No timer of the run is left when it has fired. -/
theorem Waiting.quiet_fired {run id : Nat} (hwaiting : Waiting page run id) (other : Nat)
    (changed : Timer) (hchanged : (page.timers.modify id Timer.clear)[other]? = some changed)
    (hrun : changed.run = run) : changed.pending = false := by
  by_contra hstill
  rw [Bool.not_eq_false] at hstill
  obtain ⟨hne, hget⟩ := getElem?_fired hchanged hstill
  rw [hwaiting.others other changed hget hrun hne] at hstill
  cases hstill

/-- A timer fires. -/
theorem Kept.fires (hkept : Kept viteWsUrl page) {id : Nat} {timer : Timer}
    (htimer : page.timers[id]? = some timer) (hpending : timer.pending = true) :
    Kept viteWsUrl
      ({ page with timers := page.timers.modify id Timer.clear }.connect viteWsUrl timer.run) := by
  have hwaiting := hkept.of_pending htimer hpending
  obtain ⟨closure, hclosure, _⟩ := hwaiting.held
  have hbound : Bound viteWsUrl { page with timers := page.timers.modify id Timer.clear } :=
    { hkept.toBound with
      pending := fun other changed hchanged hstill =>
        hkept.pending other changed (getElem?_fired hchanged hstill).2 hstill }
  exact hbound.connect (hkept.pending id timer htimer hpending) hclosure hwaiting.quiet
    hwaiting.quiet_fired

/-- A socket after `socket?.close()`. -/
theorem getElem?_closeIfAny {sockets : List Socket} {held : Option Nat} {id : Nat}
    {changed : Socket} (hchanged : (closeIfAny held sockets)[id]? = some changed) :
    ∃ old, sockets[id]? = some old ∧ changed.url = old.url ∧ changed.run = old.run ∧
      changed.createdAt = old.createdAt ∧
        (changed.state.live = true → old.state.live = true ∧ held ≠ some id) := by
  cases held with
  | none => exact ⟨changed, hchanged, rfl, rfl, rfl, fun hlive => ⟨hlive, nofun⟩⟩
  | some position =>
      rcases getElem?_modify_cases hchanged with ⟨_, old, hget, rfl⟩ | ⟨hne, hget⟩
      · unfold Socket.close
        split
        · exact ⟨old, by rw [← hget]; congr 1, rfl, rfl, rfl, fun hlive => by cases hlive⟩
        · rename_i hdead
          exact ⟨old, by rw [← hget]; congr 1, rfl, rfl, rfl, fun hlive => absurd hlive hdead⟩
      · exact ⟨changed, hget, rfl, rfl, rfl, fun hlive =>
          ⟨hlive, fun hsame => hne (Option.some.inj hsame).symm⟩⟩

/-- A timer that is pending after `clearTimeout`. -/
theorem getElem?_clearTimeout {timers : List Timer} {held : Option Nat} {id : Nat}
    {changed : Timer} (hchanged : (clearTimeout held timers)[id]? = some changed)
    (hpending : changed.pending = true) : timers[id]? = some changed ∧ held ≠ some id := by
  cases held with
  | none => exact ⟨hchanged, nofun⟩
  | some position =>
      rcases getElem?_modify_cases hchanged with ⟨_, old, _, rfl⟩ | ⟨hne, hget⟩
      · cases hpending
      · exact ⟨hget, fun hsame => hne (Option.some.inj hsame).symm⟩

theorem Upheld.exists_closure {run : Nat} (hupheld : Upheld page run) :
    ∃ closure, page.runs[run]? = some closure := by
  rcases hupheld with ⟨_, hconnected⟩ | ⟨_, hwaiting⟩
  · obtain ⟨closure, hclosure, _⟩ := hconnected.held
    exact ⟨closure, hclosure⟩
  · obtain ⟨closure, hclosure, _⟩ := hwaiting.held
    exact ⟨closure, hclosure⟩

/-- After the clean-up nothing is left. -/
theorem Kept.runCleanup (hkept : Kept viteWsUrl page) :
    Bound viteWsUrl page.runCleanup ∧ page.runCleanup.cleanup = none := by
  cases hcleanup : page.cleanup with
  | none =>
      have hsame : page.runCleanup = page := by
        unfold Page.runCleanup
        rw [hcleanup]
      rw [hsame]
      exact ⟨hkept.toBound, hcleanup⟩
  | some run =>
      have hupheld := hkept.upheld run hcleanup
      obtain ⟨closure, hclosure⟩ := hupheld.exists_closure
      have hpage : page.runCleanup = { page with
          runs := page.runs.modify run fun closure => { closure with cancelled := true }
          timers := clearTimeout closure.reconnectTimer page.timers
          sockets := closeIfAny closure.socket page.sockets
          cleanup := none } := by
        unfold Page.runCleanup Page.cleanUp
        rw [hcleanup]
        simp only [hclosure]
      rw [hpage]
      refine ⟨⟨?_, ?_, ?_, ?_⟩, rfl⟩
      · intro id changed hchanged
        obtain ⟨old, hget, hurl, hrun, _, _⟩ := getElem?_closeIfAny hchanged
        obtain ⟨found, hfound, hsame⟩ := hkept.url id old hget
        obtain ⟨other, hother, htoken⟩ := @exists_modify_run page.runs
          (fun closure => { closure with cancelled := true }) run (fun _ => rfl) _ _ hfound
        exact ⟨other, hrun ▸ hother, by rw [hurl, hsame, htoken]⟩
      · -- the one socket that could be live is the one that is closed
        intro id changed hchanged hlive
        exfalso
        obtain ⟨old, hget, _, _, _, hclosed⟩ := getElem?_closeIfAny hchanged
        obtain ⟨holdLive, hne⟩ := hclosed hlive
        have hrun : old.run = run :=
          Option.some.inj ((hkept.live id old hget holdLive).symm.trans hcleanup)
        have hopen := ne_closed_of_live holdLive
        rcases hupheld with ⟨held, hconnected⟩ | ⟨waits, hwaiting⟩
        · obtain ⟨found, hfound, hheld⟩ := hconnected.held
          obtain rfl := Option.some.inj (hclosure.symm.trans hfound)
          rw [hconnected.eq_of_open hget hrun hopen] at hne
          exact hne hheld
        · exact hopen (hwaiting.quiet id old hget hrun)
      · intro id changed hchanged hpending
        exfalso
        obtain ⟨hget, hne⟩ := getElem?_clearTimeout hchanged hpending
        have hrun : changed.run = run :=
          Option.some.inj ((hkept.pending id changed hget hpending).symm.trans hcleanup)
        rcases hupheld with ⟨held, hconnected⟩ | ⟨waits, hwaiting⟩
        · rw [hconnected.quiet id changed hget hrun] at hpending
          cases hpending
        · obtain ⟨found, hfound, hheld⟩ := hwaiting.held
          obtain rfl := Option.some.inj (hclosure.symm.trans hfound)
          have hsame : id ≠ waits := fun hid => hne (hid ▸ hheld)
          rw [hwaiting.others id changed hget hrun hsame] at hpending
          cases hpending
      · intro other changed hchanged
        rcases getElem?_modify_cases hchanged with ⟨_, old, _, rfl⟩ | ⟨hne, hget⟩
        · simp
        · have hiff := hkept.cancelled other changed hget
          rw [hcleanup] at hiff
          simp only [reduceCtorEq, iff_false]
          exact fun hnot => hne (Option.some.inj (hiff.mp hnot)).symm

/-- The effect, after the clean-up of its last run. -/
theorem Bound.effect (hbound : Bound viteWsUrl page) (hnone : page.cleanup = none)
    (accessToken : Option String) : Kept viteWsUrl (page.effect viteWsUrl accessToken) := by
  have hidle : Kept viteWsUrl page := ⟨hbound, fun run hrun => by cases hnone.symm.trans hrun⟩
  cases accessToken with
  | none => exact hidle
  | some token =>
      simp only [Page.effect]
      split
      · exact hidle
      · -- the new run has no sockets and no timers yet
        have hlt : ∀ (id : Nat) (socket : Socket), page.sockets[id]? = some socket →
            socket.run < page.runs.length := by
          intro id socket hsocket
          obtain ⟨closure, hclosure, _⟩ := hbound.url id socket hsocket
          exact (List.getElem?_eq_some_iff.mp hclosure).1
        have hopened : Bound viteWsUrl { page with
            runs := page.runs ++ [⟨token, none, none, false⟩]
            cleanup := some page.runs.length } := by
          refine ⟨?_, ?_, ?_, ?_⟩
          · intro id socket hsocket
            obtain ⟨closure, hclosure, hurl⟩ := hbound.url id socket hsocket
            exact ⟨closure, (List.getElem?_append_left (hlt id socket hsocket)).trans hclosure,
              hurl⟩
          · intro id socket hsocket hlive
            cases hnone.symm.trans (hbound.live id socket hsocket hlive)
          · intro id timer htimer hpending
            cases hnone.symm.trans (hbound.pending id timer htimer hpending)
          · intro run closure hclosure
            rcases getElem?_concat_cases hclosure with hold | ⟨rfl, rfl⟩
            · have hiff := hbound.cancelled run closure hold
              rw [hnone] at hiff
              have hne : page.runs.length ≠ run :=
                Nat.ne_of_gt (List.getElem?_eq_some_iff.mp hold).1
              simp only [reduceCtorEq, iff_false] at hiff
              exact ⟨fun hnot => absurd hnot hiff, fun hrun => absurd (Option.some.inj hrun) hne⟩
            · exact ⟨fun _ => rfl, fun _ => rfl⟩
        refine hopened.connect rfl List.getElem?_concat_length ?_ ?_
        · intro id socket hsocket hrun
          exact absurd hrun (Nat.ne_of_lt (hlt id socket hsocket))
        · intro id timer htimer _
          by_contra hpending
          rw [Bool.not_eq_false] at hpending
          cases hnone.symm.trans (hbound.pending id timer htimer hpending)

theorem Kept.runEffect (hkept : Kept viteWsUrl page) (accessToken : Option String) :
    Kept viteWsUrl (page.runEffect viteWsUrl accessToken) := by
  obtain ⟨hbound, hnone⟩ := hkept.runCleanup
  have hsame : Bound viteWsUrl { page.runCleanup with deps := some accessToken } := { hbound with }
  exact hsame.effect hnone accessToken

theorem Kept.flush (hkept : Kept viteWsUrl page) : Kept viteWsUrl (page.flush viteWsUrl) := by
  unfold Page.flush
  split
  · exact hkept
  · obtain ⟨hbound, hnone⟩ := hkept.runCleanup
    exact ⟨{ hbound with }, fun run hrun => by cases hnone.symm.trans hrun⟩
  · split
    · exact hkept.congr rfl rfl rfl rfl
    · have hsame : Kept viteWsUrl { page with commit := none } := hkept.congr rfl rfl rfl rfl
      exact hsame.runEffect _

/-- Every move keeps it. -/
theorem Kept.step {eventType : E → String} {move : PageMove E} {next : Page E}
    (hkept : Kept viteWsUrl page) (hstep : pageStep viteWsUrl eventType page move = some next) :
    Kept viteWsUrl next := by
  cases move with
  | stored | wait =>
      cases hstep
      exact hkept.congr rfl rfl rfl rfl
  | render | leave =>
      cases hstep
      exact hkept.flush.congr rfl rfl rfl rfl
  | flush =>
      cases hstep
      exact hkept.flush
  | rerun =>
      obtain ⟨accessToken, _, rfl⟩ := Option.map_eq_some_iff.mp hstep
      exact hkept.runEffect accessToken
  | accepted id =>
      obtain ⟨socket, hsocket, hstep⟩ := Option.bind_eq_some_iff.mp hstep
      split at hstep
      · rename_i hstate
        cases hstep
        exact hkept.socketState hsocket (fun _ => by rw [hstate]; rfl) (by rw [hstate]; nofun) nofun
      · cases hstep
  | closing id =>
      obtain ⟨socket, hsocket, hstep⟩ := Option.bind_eq_some_iff.mp hstep
      split at hstep
      · rename_i hstate
        cases hstep
        exact hkept.socketState hsocket nofun (by rw [hstate]; nofun) nofun
      · cases hstep
  | lost id =>
      obtain ⟨socket, hsocket, hstep⟩ := Option.bind_eq_some_iff.mp hstep
      split at hstep
      · cases hstep
      · rename_i hopen
        cases hstep
        exact hkept.lost hsocket hopen
  | message id parsed granted =>
      obtain ⟨socket, _, hstep⟩ := Option.bind_eq_some_iff.mp hstep
      split at hstep
      · cases hstep
        cases parsed with
        | none => exact hkept
        | some payload => exact hkept.congr rfl rfl rfl rfl
      · cases hstep
  | fires id =>
      obtain ⟨timer, htimer, hstep⟩ := Option.bind_eq_some_iff.mp hstep
      split at hstep
      · rename_i hdue
        cases hstep
        exact hkept.fires htimer hdue.1
      · cases hstep

end Kept

/-! ## Whose connection it is -/

/-- The access token of the run that goes on. -/
def Page.runToken (page : Page E) : Option String :=
  page.cleanup.bind fun run => (page.runs[run]?).map EffectRun.accessToken

/-- A run goes on exactly while the effect has last run with a token, and it has that one. -/
def Current (page : Page E) : Prop := page.runToken = page.deps.join.filter (· ≠ "")

section Current

variable {viteWsUrl : Option String} {page : Page E}

/-- The closures of a run keep its token. -/
theorem token_modify {runs : List EffectRun} {change : EffectRun → EffectRun} (run other : Nat)
    (htoken : ∀ closure, (change closure).accessToken = closure.accessToken) :
    ((runs.modify run change)[other]?).map EffectRun.accessToken =
      (runs[other]?).map EffectRun.accessToken := by
  rw [List.getElem?_modify]
  cases runs[other]? with
  | none => rfl
  | some closure =>
      simp only [Option.map_eq_map, Option.map_some]
      split
      · rw [htoken]
      · rfl

theorem runToken_connect (run : Nat) :
    (page.connect viteWsUrl run).runToken = page.runToken ∧
      (page.connect viteWsUrl run).deps = page.deps := by
  unfold Page.connect
  split
  · exact ⟨rfl, rfl⟩
  · refine ⟨congrArg (page.cleanup.bind ·) (funext fun other => ?_), rfl⟩
    exact token_modify run other (by intro _; rfl)

theorem runToken_onclose (run : Nat) :
    (page.onclose run).runToken = page.runToken ∧ (page.onclose run).deps = page.deps := by
  unfold Page.onclose
  split
  · exact ⟨rfl, rfl⟩
  · split
    · exact ⟨rfl, rfl⟩
    · refine ⟨congrArg (page.cleanup.bind ·) (funext fun other => ?_), rfl⟩
      exact token_modify run other (by intro _; rfl)

theorem runToken_of_idle (hnone : page.cleanup = none) : page.runToken = none := by
  unfold Page.runToken
  rw [hnone]
  rfl

/-- After the effect, the run has the token it was run with. -/
theorem current_effect (hnone : page.cleanup = none) {accessToken : Option String}
    (hdeps : page.deps = some accessToken) : Current (page.effect viteWsUrl accessToken) := by
  unfold Current
  cases accessToken with
  | none =>
      change page.runToken = page.deps.join.filter _
      rw [runToken_of_idle hnone, hdeps]
      rfl
  | some token =>
      simp only [Page.effect]
      split
      · rename_i hempty
        rw [runToken_of_idle hnone, hdeps, hempty]
        rfl
      · rename_i hsome
        obtain ⟨htoken, hsame⟩ := @runToken_connect E viteWsUrl { page with
          runs := page.runs ++ [⟨token, none, none, false⟩]
          cleanup := some page.runs.length } page.runs.length
        rw [htoken, hsame]
        change ((page.runs ++ [_])[page.runs.length]?).map EffectRun.accessToken =
          page.deps.join.filter _
        rw [List.getElem?_concat_length, hdeps]
        simp [Option.filter, hsome]

theorem cleanup_runCleanup : page.runCleanup.cleanup = none := by
  unfold Page.runCleanup
  split
  · assumption
  · rfl

theorem current_runEffect (accessToken : Option String) :
    Current (page.runEffect viteWsUrl accessToken) := by
  have hnone : ({ page.runCleanup with deps := some accessToken } : Page E).cleanup = none :=
    cleanup_runCleanup
  exact current_effect hnone rfl

theorem Current.flush (hcurrent : Current page) : Current (page.flush viteWsUrl) := by
  unfold Page.flush
  split
  · exact hcurrent
  · exact runToken_of_idle cleanup_runCleanup
  · split
    · exact hcurrent
    · exact current_runEffect _

/-- Every move keeps it. -/
theorem Current.step {eventType : E → String} {move : PageMove E} {next : Page E}
    (hcurrent : Current page) (hstep : pageStep viteWsUrl eventType page move = some next) :
    Current next := by
  cases move with
  | stored | wait =>
      cases hstep
      exact hcurrent
  | render | leave | flush =>
      cases hstep
      have hflush := @Current.flush E viteWsUrl page hcurrent
      exact hflush
  | rerun =>
      obtain ⟨accessToken, _, rfl⟩ := Option.map_eq_some_iff.mp hstep
      exact current_runEffect _
  | accepted id | closing id =>
      obtain ⟨socket, _, hstep⟩ := Option.bind_eq_some_iff.mp hstep
      split at hstep
      · cases hstep
        exact hcurrent
      · cases hstep
  | lost id =>
      obtain ⟨socket, _, hstep⟩ := Option.bind_eq_some_iff.mp hstep
      split at hstep
      · cases hstep
      · cases hstep
        obtain ⟨htoken, hdeps⟩ := @runToken_onclose E { page with
          sockets := page.sockets.modify id ({ · with state := .closed }) } socket.run
        unfold Current
        rw [htoken, hdeps]
        exact hcurrent
  | message id parsed granted =>
      obtain ⟨socket, _, hstep⟩ := Option.bind_eq_some_iff.mp hstep
      split at hstep
      · cases hstep
        cases parsed <;> exact hcurrent
      · cases hstep
  | fires id =>
      obtain ⟨timer, _, hstep⟩ := Option.bind_eq_some_iff.mp hstep
      split at hstep
      · cases hstep
        obtain ⟨htoken, hdeps⟩ := @runToken_connect E viteWsUrl { page with
          timers := page.timers.modify id Timer.clear } timer.run
        unfold Current
        rw [htoken, hdeps]
        exact hcurrent
      · cases hstep

end Current

/-! ## How often it connects -/

/-- Two sockets of one run are made at least `RECONNECT_DELAY_MS` apart. -/
structure Paced (page : Page E) : Prop where
  past : ∀ (id : Nat) (socket : Socket), page.sockets[id]? = some socket →
    socket.createdAt ≤ page.now
  due : ∀ (id : Nat) (timer : Timer), page.timers[id]? = some timer → timer.pending = true →
    ∀ (other : Nat) (socket : Socket), page.sockets[other]? = some socket →
      socket.run = timer.run → socket.createdAt + reconnectDelayMs ≤ timer.due
  apart : ∀ (first second : Nat) (socket later : Socket), first < second →
    page.sockets[first]? = some socket → page.sockets[second]? = some later →
      socket.run = later.run → socket.createdAt + reconnectDelayMs ≤ later.createdAt

section Paced

variable {viteWsUrl : Option String} {page : Page E}

theorem paced_opened (accessToken : Option String) : Paced (Page.opened accessToken : Page E) := by
  refine ⟨?_, ?_, ?_⟩
  · intro id socket hsocket
    cases hsocket
  · intro id timer htimer
    cases htimer
  · intro first second socket later _ hfirst
    cases hfirst

/-- Changes of other things than the times. -/
theorem Paced.of_same {next : Page E} (hpaced : Paced page) (hnow : page.now ≤ next.now)
    (hsockets : ∀ (id : Nat) (socket : Socket), next.sockets[id]? = some socket → ∃ old,
      page.sockets[id]? = some old ∧ socket.run = old.run ∧ socket.createdAt = old.createdAt)
    (htimers : ∀ (id : Nat) (timer : Timer), next.timers[id]? = some timer →
      timer.pending = true → page.timers[id]? = some timer) : Paced next := by
  refine ⟨?_, ?_, ?_⟩
  · intro id socket hsocket
    obtain ⟨old, hold, _, hcreated⟩ := hsockets id socket hsocket
    rw [hcreated]
    exact Nat.le_trans (hpaced.past id old hold) hnow
  · intro id timer htimer hpending other socket hsocket hrun
    obtain ⟨old, hold, holdRun, hcreated⟩ := hsockets other socket hsocket
    rw [hcreated]
    exact hpaced.due id timer (htimers id timer htimer hpending) hpending other old hold
      (holdRun.symm.trans hrun)
  · intro first second socket later hlt hfirst hsecond hrun
    obtain ⟨old, hold, holdRun, hcreated⟩ := hsockets first socket hfirst
    obtain ⟨older, holder, holderRun, hlaterCreated⟩ := hsockets second later hsecond
    rw [hcreated, hlaterCreated]
    exact hpaced.apart first second old older hlt hold holder
      (holdRun.symm.trans (hrun.trans holderRun))

/-- A run without timers connects when its last socket is old enough. -/
theorem Paced.connect (hpaced : Paced page) {run : Nat}
    (hold : ∀ (id : Nat) (socket : Socket), page.sockets[id]? = some socket →
      socket.run = run → socket.createdAt + reconnectDelayMs ≤ page.now)
    (hquiet : ∀ (id : Nat) (timer : Timer), page.timers[id]? = some timer →
      timer.run = run → timer.pending = false) : Paced (page.connect viteWsUrl run) := by
  unfold Page.connect
  split
  · exact hpaced
  · refine ⟨?_, ?_, ?_⟩
    · intro id socket hsocket
      rcases getElem?_concat_cases hsocket with hget | ⟨_, rfl⟩
      · exact hpaced.past id socket hget
      · exact Nat.le_refl _
    · intro id timer htimer hpending other socket hsocket hrun
      rcases getElem?_concat_cases hsocket with hget | ⟨_, rfl⟩
      · exact hpaced.due id timer htimer hpending other socket hget hrun
      · rw [hquiet id timer htimer hrun.symm] at hpending
        cases hpending
    · intro first second socket later hlt hfirst hsecond hrun
      rcases getElem?_concat_cases hfirst with hget | ⟨hlast, _⟩
      · rcases getElem?_concat_cases hsecond with hgetLater | ⟨_, rfl⟩
        · exact hpaced.apart first second socket later hlt hget hgetLater hrun
        · exact hold first socket hget hrun
      · have hbound := (List.getElem?_eq_some_iff.mp hsecond).1
        simp only [List.length_append, List.length_singleton] at hbound
        omega

theorem Paced.runCleanup (hpaced : Paced page) : Paced page.runCleanup := by
  unfold Page.runCleanup
  split
  · exact hpaced
  · unfold Page.cleanUp
    split
    · exact hpaced.of_same (Nat.le_refl _) (fun _ socket hsocket => ⟨socket, hsocket, rfl, rfl⟩)
        fun _ _ htimer _ => htimer
    · refine hpaced.of_same (Nat.le_refl _) ?_ ?_
      · intro id socket hsocket
        obtain ⟨old, hold, _, hrun, hcreated, _⟩ := getElem?_closeIfAny hsocket
        exact ⟨old, hold, hrun, hcreated⟩
      · intro id timer htimer hpending
        exact (getElem?_clearTimeout htimer hpending).1

/-- A new run connects at once. -/
theorem Paced.runEffect (hpaced : Paced page) (hkept : Kept viteWsUrl page)
    (accessToken : Option String) : Paced (page.runEffect viteWsUrl accessToken) := by
  obtain ⟨hbound, hnone⟩ := hkept.runCleanup
  have hcleaned := hpaced.runCleanup
  have hsame : Paced { page.runCleanup with deps := some accessToken } :=
    ⟨hcleaned.past, hcleaned.due, hcleaned.apart⟩
  cases accessToken with
  | none => exact hsame
  | some token =>
      simp only [Page.runEffect, Page.effect]
      split
      · exact hsame
      · have hopened : Paced { page.runCleanup with
            deps := some (some token)
            runs := page.runCleanup.runs ++ [⟨token, none, none, false⟩]
            cleanup := some page.runCleanup.runs.length } :=
          ⟨hcleaned.past, hcleaned.due, hcleaned.apart⟩
        refine hopened.connect ?_ ?_
        · intro id socket hsocket hrun
          obtain ⟨closure, hclosure, _⟩ := hbound.url id socket hsocket
          exact absurd hrun (Nat.ne_of_lt (List.getElem?_eq_some_iff.mp hclosure).1)
        · intro id timer htimer _
          by_contra hpending
          rw [Bool.not_eq_false] at hpending
          cases hnone.symm.trans (hbound.pending id timer htimer hpending)

theorem Paced.flush (hpaced : Paced page) (hkept : Kept viteWsUrl page) :
    Paced (page.flush viteWsUrl) := by
  unfold Page.flush
  split
  · exact hpaced
  · exact ⟨hpaced.runCleanup.past, hpaced.runCleanup.due, hpaced.runCleanup.apart⟩
  · have hsame : Paced { page with commit := none } := ⟨hpaced.past, hpaced.due, hpaced.apart⟩
    have hsameKept : Kept viteWsUrl { page with commit := none } := hkept.congr rfl rfl rfl rfl
    split
    · exact hsame
    · exact hsame.runEffect hsameKept _

/-- A socket that is closed sets a timer for later. -/
theorem Paced.onclose (hpaced : Paced page) (run : Nat) : Paced (page.onclose run) := by
  unfold Page.onclose
  split
  · exact hpaced
  · split
    · exact hpaced
    · refine ⟨hpaced.past, ?_, hpaced.apart⟩
      intro id timer htimer hpending other socket hsocket hrun
      rcases getElem?_concat_cases htimer with hget | ⟨_, rfl⟩
      · exact hpaced.due id timer hget hpending other socket hsocket hrun
      · exact Nat.add_le_add_right (hpaced.past other socket hsocket) _

/-- Sockets that only change their state. -/
theorem Paced.socketState (hpaced : Paced page) (id : Nat) (state : ReadyState) :
    Paced { page with sockets := page.sockets.modify id ({ · with state := state }) } := by
  refine hpaced.of_same (Nat.le_refl _) ?_ fun _ _ htimer _ => htimer
  intro other socket hsocket
  rcases getElem?_modify_cases hsocket with ⟨rfl, old, hget, rfl⟩ | ⟨_, hget⟩
  · exact ⟨old, hget, rfl, rfl⟩
  · exact ⟨socket, hget, rfl, rfl⟩

/-- The timer of a run that waits fires no earlier than it is due. -/
theorem Paced.fires (hpaced : Paced page) (hkept : Kept viteWsUrl page) {id : Nat} {timer : Timer}
    (htimer : page.timers[id]? = some timer) (hpending : timer.pending = true)
    (hdue : timer.due ≤ page.now) :
    Paced ({ page with timers := page.timers.modify id Timer.clear }.connect viteWsUrl
      timer.run) := by
  have hsame : Paced { page with timers := page.timers.modify id Timer.clear } :=
    hpaced.of_same (Nat.le_refl _) (fun _ socket hsocket => ⟨socket, hsocket, rfl, rfl⟩)
      fun other changed hchanged hstill => (getElem?_fired hchanged hstill).2
  refine hsame.connect ?_ (hkept.of_pending htimer hpending).quiet_fired
  intro other socket hsocket hrun
  exact Nat.le_trans (hpaced.due id timer htimer hpending other socket hsocket hrun) hdue

/-- Every move keeps it. -/
theorem Paced.step {eventType : E → String} {move : PageMove E} {next : Page E}
    (hpaced : Paced page) (hkept : Kept viteWsUrl page)
    (hstep : pageStep viteWsUrl eventType page move = some next) : Paced next := by
  cases move with
  | stored accessToken =>
      cases hstep
      exact ⟨hpaced.past, hpaced.due, hpaced.apart⟩
  | wait elapsed =>
      cases hstep
      exact hpaced.of_same (Nat.le_add_right _ _)
        (fun _ socket hsocket => ⟨socket, hsocket, rfl, rfl⟩)
        fun _ _ htimer _ => htimer
  | render | leave | flush =>
      cases hstep
      have hflush := hpaced.flush hkept
      exact ⟨hflush.past, hflush.due, hflush.apart⟩
  | rerun =>
      obtain ⟨accessToken, _, rfl⟩ := Option.map_eq_some_iff.mp hstep
      exact hpaced.runEffect hkept accessToken
  | accepted id | closing id =>
      obtain ⟨socket, _, hstep⟩ := Option.bind_eq_some_iff.mp hstep
      split at hstep
      · cases hstep
        exact hpaced.socketState id _
      · cases hstep
  | lost id =>
      obtain ⟨socket, _, hstep⟩ := Option.bind_eq_some_iff.mp hstep
      split at hstep
      · cases hstep
      · cases hstep
        exact (hpaced.socketState id .closed).onclose socket.run
  | message id parsed granted =>
      obtain ⟨socket, _, hstep⟩ := Option.bind_eq_some_iff.mp hstep
      split at hstep
      · cases hstep
        cases parsed with
        | none => exact hpaced
        | some payload => exact ⟨hpaced.past, hpaced.due, hpaced.apart⟩
      · cases hstep
  | fires id =>
      obtain ⟨timer, htimer, hstep⟩ := Option.bind_eq_some_iff.mp hstep
      split at hstep
      · rename_i hdue
        cases hstep
        exact hpaced.fires hkept htimer hdue.1 hdue.2
      · cases hstep

end Paced

/-! ## Every run -/

/-- What holds of a page in every state. -/
structure OneConnection (viteWsUrl : Option String) (page : Page E) : Prop where
  /-- while the effect has last run with a token, its run has one socket that is not closed or
  one timer that will connect it anew, never both -/
  upheld : ∀ token, page.deps = some (some token) → token ≠ "" → ∃ run closure,
    page.runs[run]? = some closure ∧ closure.accessToken = token ∧ Upheld page run
  /-- a socket that is opening or open carries that token, and is the only one -/
  single : ∀ (id : Nat) (socket : Socket), page.sockets[id]? = some socket →
    socket.state.live = true →
      (∃ token, page.deps = some (some token) ∧ socket.url = wsUrl viteWsUrl token) ∧
        ∀ (other : Nat) (second : Socket), page.sockets[other]? = some second →
          second.state.live = true → other = id
  /-- without a token nothing connects, now or by a timer -/
  silent : (∀ token, page.deps = some (some token) → token = "") →
    (∀ socket ∈ page.sockets, socket.state.live = false) ∧
      ∀ timer ∈ page.timers, timer.pending = false
  paced : Paced page

theorem oneConnection_of_kept {viteWsUrl : Option String} {page : Page E}
    (hkept : Kept viteWsUrl page) (hcurrent : Current page) (hpaced : Paced page) :
    OneConnection viteWsUrl page := by
  -- the run that goes on has the token of the effect
  have htoken : ∀ run, page.cleanup = some run → ∃ closure, page.runs[run]? = some closure ∧
      page.deps = some (some closure.accessToken) ∧ closure.accessToken ≠ "" := by
    intro run hrun
    obtain ⟨closure, hclosure⟩ := (hkept.upheld run hrun).exists_closure
    unfold Current Page.runToken at hcurrent
    rw [hrun, Option.bind_some, hclosure, Option.map_some] at hcurrent
    obtain ⟨hjoin, hsome⟩ := Option.filter_eq_some_iff.mp hcurrent.symm
    exact ⟨closure, hclosure, Option.join_eq_some_iff.mp hjoin, by simpa using hsome⟩
  refine ⟨?_, ?_, ?_, hpaced⟩
  · intro token hdeps hsome
    cases hcleanup : page.cleanup with
    | none =>
        have hnone := hcurrent.symm.trans (runToken_of_idle hcleanup)
        rw [hdeps] at hnone
        simp [Option.filter, hsome] at hnone
    | some run =>
        obtain ⟨closure, hclosure, hsame, _⟩ := htoken run hcleanup
        refine ⟨run, closure, hclosure, ?_, hkept.upheld run hcleanup⟩
        exact Option.some.inj (Option.some.inj (hsame.symm.trans hdeps))
  · intro id socket hsocket hlive
    have hrun := hkept.live id socket hsocket hlive
    refine ⟨?_, ?_⟩
    · obtain ⟨closure, hclosure, hurl⟩ := hkept.url id socket hsocket
      obtain ⟨found, hfound, hdeps, _⟩ := htoken _ hrun
      obtain rfl := Option.some.inj (hclosure.symm.trans hfound)
      exact ⟨closure.accessToken, hdeps, hurl⟩
    · intro other second hsecond hsecondLive
      have hsame : second.run = socket.run :=
        Option.some.inj ((hkept.live other second hsecond hsecondLive).symm.trans hrun)
      rcases hkept.upheld _ hrun with ⟨held, hconnected⟩ | ⟨waits, hwaiting⟩
      · rw [hconnected.eq_of_open hsecond hsame (ne_closed_of_live hsecondLive),
          hconnected.eq_of_open hsocket rfl (ne_closed_of_live hlive)]
      · exact absurd (hwaiting.quiet id socket hsocket rfl) (ne_closed_of_live hlive)
  · intro hnone
    have hidle : ∀ run, page.cleanup ≠ some run := by
      intro run hrun
      obtain ⟨closure, _, hdeps, hsome⟩ := htoken run hrun
      exact hsome (hnone _ hdeps)
    refine ⟨fun socket hsocket => ?_, fun timer htimer => ?_⟩
    · by_contra hlive
      rw [Bool.not_eq_false] at hlive
      obtain ⟨id, hget⟩ := List.getElem?_of_mem hsocket
      exact hidle _ (hkept.live id socket hget hlive)
    · by_contra hpending
      rw [Bool.not_eq_false] at hpending
      obtain ⟨id, hget⟩ := List.getElem?_of_mem htimer
      exact hidle _ (hkept.pending id timer hget hpending)

/-- What every move of a page keeps. -/
structure PageInvariant (viteWsUrl : Option String) (page : Page E) : Prop where
  kept : Kept viteWsUrl page
  current : Current page
  paced : Paced page

theorem pageInvariant_opened (viteWsUrl accessToken : Option String) :
    PageInvariant viteWsUrl (Page.opened accessToken : Page E) :=
  ⟨kept_opened accessToken, rfl, paced_opened accessToken⟩

theorem PageInvariant.step {viteWsUrl : Option String} {eventType : E → String} {page next : Page E}
    {move : PageMove E} (hpage : PageInvariant viteWsUrl page)
    (hstep : pageStep viteWsUrl eventType page move = some next) :
    PageInvariant viteWsUrl next :=
  ⟨hpage.kept.step hstep, hpage.current.step hstep, hpage.paced.step hpage.kept hstep⟩

theorem PageInvariant.oneConnection {viteWsUrl : Option String} {page : Page E}
    (hpage : PageInvariant viteWsUrl page) : OneConnection viteWsUrl page :=
  oneConnection_of_kept hpage.kept hpage.current hpage.paced

/-- In every state of every run of a page, one run of the effect has a connection for the token
that the effect last ran with, or a timer for it, and nothing is live or pending for any other
token. -/
theorem one_connection_per_page (viteWsUrl : Option String) (eventType : E → String)
    (accessToken : Option String) (moves : List (PageMove E)) :
    Throughout (pageStep viteWsUrl eventType) (OneConnection viteWsUrl)
      (Page.opened accessToken) moves := by
  intro earlier later reached _ hrun
  have hreached := runFrom_invariant (PageInvariant viteWsUrl)
    (fun _ _ _ hpage hstep => hpage.step hstep) hrun (pageInvariant_opened viteWsUrl accessToken)
  exact hreached.oneConnection

/-- A connection is lost and made anew; then the user logs out. -/
example :
    let moves : List (PageMove Nat) := [.render, .flush, .accepted 0, .message 0 (some 7) false,
      .lost 0, .wait 3000, .fires 0, .accepted 1, .stored none, .leave, .flush]
    ((runFrom (pageStep none toString) (Page.opened (some "t")) moves).map fun page =>
      (page.events, page.sockets.map fun socket => (socket.createdAt, socket.state))) =
        some ([7], [(0, .closed), (3000, .closing)]) := by
  decide +kernel

end StockMonitoring.Frontend
