import StockMonitoring.Foundation.Coroutine
import StockMonitoring.Foundation.Lists
import StockMonitoring.Foundation.Pool
import StockMonitoring.Foundation.Run

set_option autoImplicit false

/-!
# Foundation: sessions over one committed state

Programs run side by side, each in a session of its own.  A call sees the committed state
of its moment and the uncommitted work of its own session (READ COMMITTED); what a
session has written is committed when its program has returned, unless a constraint
refuses it, and discarded when the program has raised.

`Guarantee` is the rule for what every run keeps: a fact about the committed state, a fact
about each session and a fact about each two.  `Interference` is the rule where the others
only have to keep something of the committed state.
-/

namespace StockMonitoring.Foundation

variable {K : Type} {σ : Signature} {ε α S W C O γ : Type}

/-! ## Sessions -/

/-- What the sessions run, and what their calls and commits do. -/
structure SessionSpec (K : Type) (σ : Signature) (ε α S W C O : Type) where
  program : K → Co σ ε α
  /-- the work of a session that has not begun -/
  fresh : W
  /-- a call: its reply, the committed state (a call may move what no rollback undoes, such
  as a sequence), and the work of the session -/
  respond : (op : σ.Op) → C → S → W → Reply σ ε op × S × W
  commit : S → W → Except ε S
  /-- what everything else does to the committed state -/
  outside : O → S → S

/-- A session. -/
structure Session (K : Type) (σ : Signature) (ε α W C : Type) where
  key : K
  /-- what remains to be run -/
  program : Co σ ε α
  work : W
  /-- the calls so far, each with what the outside chose -/
  calls : List (C × Event σ ε)
  /-- how the session has ended -/
  response : Option (Except ε α)

/-- The committed state and the sessions, the ended ones included. -/
structure SessionSystem (K : Type) (σ : Signature) (ε α S W C : Type) where
  committed : S
  sessions : List (Session K σ ε α W C)

/-- What happens next. -/
inductive SessionMove (K C O : Type) where
  | outside (change : O)
  | start (key : K)
  | call (index : Nat) (choice : C)
  | finish (index : Nat)

namespace Session

/-- A session that has not ended. -/
def InProgress (session : Session K σ ε α W C) : Prop := session.response = none

instance (session : Session K σ ε α W C) : Decidable session.InProgress :=
  match session with
  | ⟨_, _, _, _, none⟩ => isTrue rfl
  | ⟨_, _, _, _, some _⟩ => isFalse nofun

/-- What a protocol knows after the calls of the session. -/
def ghost (protocol : Protocol σ ε α γ) (start : γ) (session : Session K σ ε α W C) : γ :=
  session.calls.foldl (fun ghost call => protocol.next call.2.op call.2.reply ghost) start

end Session

namespace SessionSpec

/-- A session with its program before it. -/
def opened (spec : SessionSpec K σ ε α S W C O) (key : K) : Session K σ ε α W C :=
  ⟨key, spec.program key, spec.fresh, [], none⟩

/-- The next call of a session. -/
def called (spec : SessionSpec K σ ε α S W C O) (committed : S) (choice : C)
    (session : Session K σ ε α W C) : Option (S × Session K σ ε α W C) :=
  match session.response, session.program with
  | none, .call op resume =>
      let (reply, next, work) := spec.respond op choice committed session.work
      some (next, { session with
        program := resume reply
        work := work
        calls := session.calls ++ [(choice, ⟨op, reply⟩)] })
  | _, _ => none

/-- The end of a session. -/
def finished (spec : SessionSpec K σ ε α S W C O) (committed : S)
    (session : Session K σ ε α W C) : Option (S × Session K σ ε α W C) :=
  match session.response, session.program with
  | none, .ret value =>
      match spec.commit committed session.work with
      | .ok next => some (next, { session with response := some (.ok value) })
      | .error error => some (committed, { session with response := some (.error error) })
  | none, .raise error => some (committed, { session with response := some (.error error) })
  | _, _ => none

/-- Replace a session. -/
def put (system : SessionSystem K σ ε α S W C) (index : Nat)
    (after : S × Session K σ ε α W C) : SessionSystem K σ ε α S W C :=
  ⟨after.1, system.sessions.set index after.2⟩

/-- One step; `none` when it is not possible. -/
def step (spec : SessionSpec K σ ε α S W C O) (system : SessionSystem K σ ε α S W C) :
    SessionMove K C O → Option (SessionSystem K σ ε α S W C)
  | .outside change => some { system with committed := spec.outside change system.committed }
  | .start key => some { system with sessions := system.sessions ++ [spec.opened key] }
  | .call index choice =>
      (system.sessions[index]?).bind fun session =>
        (spec.called system.committed choice session).map (put system index)
  | .finish index =>
      (system.sessions[index]?).bind fun session =>
        (spec.finished system.committed session).map (put system index)

section Steps

variable {spec : SessionSpec K σ ε α S W C O} {committed next : S} {choice : C}
  {session after : Session K σ ε α W C}

/-- What a call does to its session. -/
theorem called_cases (hcalled : spec.called committed choice session = some (next, after)) :
    ∃ op resume reply work, session.response = none ∧ session.program = .call op resume ∧
      spec.respond op choice committed session.work = (reply, next, work) ∧
      after = { session with
        program := resume reply
        work := work
        calls := session.calls ++ [(choice, ⟨op, reply⟩)] } := by
  obtain ⟨key, program, work, calls, response⟩ := session
  cases response with
  | some result => cases hcalled
  | none =>
      cases program with
      | ret value => cases hcalled
      | raise error => cases hcalled
      | call op resume =>
          cases hcalled
          exact ⟨op, resume, _, _, rfl, rfl, rfl, rfl⟩

/-- How a session ends. -/
theorem finished_cases (hfinished : spec.finished committed session = some (next, after)) :
    session.response = none ∧
      ((∃ value, session.program = .ret value ∧ spec.commit committed session.work = .ok next ∧
          after = { session with response := some (.ok value) }) ∨
        ∃ error, (session.program = .raise error ∨
            ∃ value, session.program = .ret value ∧
              spec.commit committed session.work = .error error) ∧
          next = committed ∧ after = { session with response := some (.error error) }) := by
  obtain ⟨key, program, work, calls, response⟩ := session
  cases response with
  | some result => cases hfinished
  | none =>
      refine ⟨rfl, ?_⟩
      cases program with
      | call op resume => cases hfinished
      | raise error =>
          cases hfinished
          exact Or.inr ⟨error, Or.inl rfl, rfl, rfl⟩
      | ret value =>
          unfold finished at hfinished
          cases hcommit : spec.commit committed work with
          | ok state =>
              simp only [hcommit, Option.some.injEq, Prod.mk.injEq] at hfinished
              obtain ⟨rfl, rfl⟩ := hfinished
              exact Or.inl ⟨value, rfl, rfl, rfl⟩
          | error error =>
              simp only [hcommit, Option.some.injEq, Prod.mk.injEq] at hfinished
              obtain ⟨rfl, rfl⟩ := hfinished
              exact Or.inr ⟨error, Or.inr ⟨value, rfl, rfl⟩, rfl, rfl⟩

/-- What a call's protocol knew before it, and the call. -/
theorem ghost_concat (protocol : Protocol σ ε α γ) (start : γ) {call : C × Event σ ε}
    (hcalls : after.calls = session.calls ++ [call]) :
    after.ghost protocol start =
      protocol.next call.2.op call.2.reply (session.ghost protocol start) := by
  unfold Session.ghost
  rw [hcalls, List.foldl_append]
  rfl

/-- A call keeps a session to its protocol. -/
theorem obeys_called {protocol : Protocol σ ε α γ} {start : γ}
    (hobeys : session.program.Obeys protocol (session.ghost protocol start))
    (hanswers : ∀ op, protocol.pre op (session.ghost protocol start) →
      protocol.answers op (spec.respond op choice committed session.work).1
        (session.ghost protocol start))
    (hcalled : spec.called committed choice session = some (next, after)) :
    after.program.Obeys protocol (after.ghost protocol start) := by
  obtain ⟨op, resume, reply, work, _, hprogram, hrespond, rfl⟩ := called_cases hcalled
  rw [hprogram] at hobeys
  rw [ghost_concat protocol start rfl]
  have hreply := hanswers op hobeys.1
  rw [hrespond] at hreply
  exact hobeys.2 reply hreply

end Steps

end SessionSpec

/-! ## The rule -/

open SessionSpec

/-- What a session that moves leaves of the facts about the committed state, about single
sessions and about pairs of them. -/
structure Leaves (holds : S → Prop) (single : S → Session K σ ε α W C → Prop)
    (pair : Session K σ ε α W C → Session K σ ε α W C → Prop)
    (system : SessionSystem K σ ε α S W C) (index : Nat) (session : Session K σ ε α W C)
    (next : S) (after : Session K σ ε α W C) : Prop where
  committed : holds next
  moved : single next after
  others : ∀ (position : Nat) other, position ≠ index →
    system.sessions[position]? = some other → single system.committed other →
    pair session other → pair other session →
      single next other ∧ pair after other ∧ pair other after

/-- Facts about the committed state, about single sessions and about pairs of them, and why
the moves that meet a condition keep them. -/
structure Guarantee (spec : SessionSpec K σ ε α S W C O)
    (condition : SessionSystem K σ ε α S W C → SessionMove K C O → Prop) where
  holds : S → Prop
  single : S → Session K σ ε α W C → Prop
  pair : Session K σ ε α W C → Session K σ ε α W C → Prop
  outside : ∀ change committed, holds committed → holds (spec.outside change committed) ∧
    ∀ session, single committed session → single (spec.outside change committed) session
  single_opened : ∀ committed key, holds committed → single committed (spec.opened key)
  pair_opened : ∀ key other, pair (spec.opened key) other ∧ pair other (spec.opened key)
  called : ∀ system index choice session next after,
    condition system (.call index choice) → system.sessions[index]? = some session →
    holds system.committed → single system.committed session →
    spec.called system.committed choice session = some (next, after) →
      Leaves holds single pair system index session next after
  finished : ∀ system index session next after,
    condition system (.finish index) → system.sessions[index]? = some session →
    holds system.committed → single system.committed session →
    spec.finished system.committed session = some (next, after) →
      Leaves holds single pair system index session next after

namespace Guarantee

variable {spec : SessionSpec K σ ε α S W C O}
  {condition : SessionSystem K σ ε α S W C → SessionMove K C O → Prop}

/-- The facts hold of a system. -/
structure Holds (proof : Guarantee spec condition) (system : SessionSystem K σ ε α S W C) :
    Prop where
  committed : proof.holds system.committed
  single : ∀ session ∈ system.sessions, proof.single system.committed session
  pair : ∀ (index position : Nat) session other, index ≠ position →
    system.sessions[index]? = some session → system.sessions[position]? = some other →
      proof.pair session other

variable {proof : Guarantee spec condition} {system next : SessionSystem K σ ε α S W C}

/-- They hold before anything has happened. -/
theorem holds_start (proof : Guarantee spec condition) {committed : S}
    (hcommitted : proof.holds committed) : proof.Holds ⟨committed, []⟩ :=
  ⟨hcommitted, fun session hsession => (by cases hsession),
    fun _ _ _ _ _ hsession => (by simp at hsession)⟩

/-- One session moves. -/
theorem Holds.put (hholds : proof.Holds system) {index : Nat} {committed : S}
    {session after : Session K σ ε α W C} (hsession : system.sessions[index]? = some session)
    (hleaves : Leaves proof.holds proof.single proof.pair system index session committed after) :
    proof.Holds (SessionSpec.put system index (committed, after)) := by
  have hplaced : Placed (proof.single system.committed) proof.pair system.sessions :=
    ⟨hholds.single, hholds.pair⟩
  have hafter := hplaced.set hsession hleaves.moved hleaves.others
  exact ⟨hleaves.committed, hafter.single, hafter.pair⟩

/-- The step lemma. -/
theorem holds_step {move : SessionMove K C O} (hholds : proof.Holds system)
    (hcondition : condition system move) (hstep : spec.step system move = some next) :
    proof.Holds next := by
  cases move with
  | outside change =>
      cases hstep
      obtain ⟨hcommitted, hsingle⟩ := proof.outside change _ hholds.committed
      exact ⟨hcommitted, fun session hsession => hsingle session (hholds.single session hsession),
        hholds.pair⟩
  | start key =>
      cases hstep
      have hplaced : Placed (proof.single system.committed) proof.pair system.sessions :=
        ⟨hholds.single, hholds.pair⟩
      have hopened := proof.single_opened _ key hholds.committed
      have hafter := hplaced.concat hopened fun other _ hother =>
        ⟨hother, proof.pair_opened key other⟩
      exact ⟨hholds.committed, hafter.single, hafter.pair⟩
  | call index choice =>
      obtain ⟨session, hsession, hcall⟩ := Option.bind_eq_some_iff.mp hstep
      obtain ⟨⟨committed, after⟩, hcalled, rfl⟩ := Option.map_eq_some_iff.mp hcall
      exact hholds.put hsession (proof.called system index choice session committed after
        hcondition hsession hholds.committed
        (hholds.single session (List.mem_of_getElem? hsession)) hcalled)
  | finish index =>
      obtain ⟨session, hsession, hfinish⟩ := Option.bind_eq_some_iff.mp hstep
      obtain ⟨⟨committed, after⟩, hfinished, rfl⟩ := Option.map_eq_some_iff.mp hfinish
      exact hholds.put hsession (proof.finished system index session committed after
        hcondition hsession hholds.committed
        (hholds.single session (List.mem_of_getElem? hsession)) hfinished)

/-- The run lemma. -/
theorem holds_run (proof : Guarantee spec condition) {last : SessionSystem K σ ε α S W C}
    {moves : List (SessionMove K C O)} (halong : Along spec.step condition system moves)
    (hrun : runFrom spec.step system moves = some last) (hholds : proof.Holds system) :
    proof.Holds last := by
  refine along_invariant proof.Holds ?_ halong hrun hholds
  intro reached move next hreached hcondition hstep
  exact holds_step hreached hcondition hstep

end Guarantee

/-- Facts about single sessions and about pairs of them, where the others only have to keep
the committed state as it must be, and the condition is on calls alone. -/
structure Interference (spec : SessionSpec K σ ε α S W C O)
    (condition : SessionSystem K σ ε α S W C → SessionMove K C O → Prop) where
  single : S → Session K σ ε α W C → Prop
  pair : Session K σ ε α W C → Session K σ ε α W C → Prop
  keeps : S → S → Prop
  keeps_refl : ∀ committed, keeps committed committed
  outside_keeps : ∀ change committed, keeps committed (spec.outside change committed)
  single_keeps : ∀ committed next session, keeps committed next → single committed session →
    single next session
  single_opened : ∀ committed key, single committed (spec.opened key)
  pair_opened : ∀ key other, pair (spec.opened key) other ∧ pair other (spec.opened key)
  single_called : ∀ system index choice session next after,
    condition system (.call index choice) → system.sessions[index]? = some session →
    single system.committed session →
    spec.called system.committed choice session = some (next, after) →
      keeps system.committed next ∧ single next after
  pair_called : ∀ system index choice session next after other position,
    condition system (.call index choice) → system.sessions[index]? = some session →
    single system.committed session →
    spec.called system.committed choice session = some (next, after) →
    position ≠ index → system.sessions[position]? = some other →
    single system.committed other → pair session other → pair other session →
      pair after other ∧ pair other after
  single_finished : ∀ committed session next after, single committed session →
    spec.finished committed session = some (next, after) →
      keeps committed next ∧ single next after
  pair_finished : ∀ committed session next after other, single committed session →
    spec.finished committed session = some (next, after) → single committed other →
    pair session other → pair other session → pair after other ∧ pair other after

namespace Interference

variable {spec : SessionSpec K σ ε α S W C O}
  {condition : SessionSystem K σ ε α S W C → SessionMove K C O → Prop}

/-- The facts hold of a system. -/
structure Holds (proof : Interference spec condition) (system : SessionSystem K σ ε α S W C) :
    Prop where
  single : ∀ session ∈ system.sessions, proof.single system.committed session
  pair : ∀ (index position : Nat) session other, index ≠ position →
    system.sessions[index]? = some session → system.sessions[position]? = some other →
      proof.pair session other

/-- What every session keeps for the others it guarantees. -/
def guarantee (proof : Interference spec condition) : Guarantee spec condition where
  holds _ := True
  single := proof.single
  pair := proof.pair
  outside change committed _ :=
    ⟨trivial, fun session => proof.single_keeps _ _ session (proof.outside_keeps change committed)⟩
  single_opened committed key _ := proof.single_opened committed key
  pair_opened := proof.pair_opened
  called := by
    intro system index choice session next after hcondition hsession _ hsingle hcalled
    obtain ⟨hkeeps, hafter⟩ :=
      proof.single_called system index choice session next after hcondition hsession hsingle hcalled
    refine ⟨trivial, hafter, ?_⟩
    intro position other hne hother hotherSingle hpair hreverse
    exact ⟨proof.single_keeps _ _ other hkeeps hotherSingle,
      proof.pair_called system index choice session next after other position hcondition hsession
        hsingle hcalled hne hother hotherSingle hpair hreverse⟩
  finished := by
    intro system index session next after _ _ _ hsingle hfinished
    obtain ⟨hkeeps, hafter⟩ := proof.single_finished _ session next after hsingle hfinished
    refine ⟨trivial, hafter, ?_⟩
    intro position other _ _ hotherSingle hpair hreverse
    exact ⟨proof.single_keeps _ _ other hkeeps hotherSingle,
      proof.pair_finished _ session next after other hsingle hfinished hotherSingle hpair hreverse⟩

variable {proof : Interference spec condition} {system : SessionSystem K σ ε α S W C}

/-- They hold before anything has happened. -/
theorem holds_start (proof : Interference spec condition) (committed : S) :
    proof.Holds ⟨committed, []⟩ :=
  ⟨fun session hsession => (by cases hsession),
    fun _ _ _ _ _ hsession => (by simp at hsession)⟩

/-- The run lemma. -/
theorem holds_run (proof : Interference spec condition) {last : SessionSystem K σ ε α S W C}
    {moves : List (SessionMove K C O)} (halong : Along spec.step condition system moves)
    (hrun : runFrom spec.step system moves = some last) (hholds : proof.Holds system) :
    proof.Holds last := by
  have hlast := proof.guarantee.holds_run halong hrun ⟨trivial, hholds.single, hholds.pair⟩
  exact ⟨hlast.single, hlast.pair⟩

end Interference

/-! ## A session alone -/

section Alone

variable {T : Type} {spec : SessionSpec K σ ε α S W C O} {effects : Effects σ ε T C}
  {view : S → W → T} {holds : S → W → Prop}

/-- What a session sees moves as the calls on one state do, as long as `holds`. -/
structure SessionSpec.Shows (spec : SessionSpec K σ ε α S W C O) (effects : Effects σ ε T C)
    (view : S → W → T) (holds : S → W → Prop) : Prop where
  respond : ∀ op choice committed work, effects.respond op choice (view committed work) =
    ((spec.respond op choice committed work).1,
      view (spec.respond op choice committed work).2.1 (spec.respond op choice committed work).2.2)
  keeps : ∀ op choice committed work, holds committed work →
    holds (spec.respond op choice committed work).2.1 (spec.respond op choice committed work).2.2

/-- A call of a session leaves what its program comes to on one state. -/
theorem ending_called (hshows : spec.Shows effects view holds) {script : Nat → C} {turn : Nat}
    {committed next : S} {session after : Session K σ ε α W C}
    (hcalled : spec.called committed (script turn) session = some (next, after)) :
    (after.program.exec (effects.scripted script) (turn + 1, view next after.work)).ending =
      (session.program.exec (effects.scripted script)
        (turn, view committed session.work)).ending := by
  obtain ⟨op, resume, reply, work, _, hprogram, hrespond, rfl⟩ := called_cases hcalled
  have hreply := hshows.respond op (script turn) committed session.work
  rw [hrespond] at hreply
  have hscripted : effects.scripted script op (turn, view committed session.work) =
      (reply, (turn + 1, view next work)) :=
    congrArg (fun answer => (answer.1, (turn + 1, answer.2))) hreply
  rw [hprogram, Co.exec_call, Outcome.after_ending, hscripted]

/-- So do its calls when no other session moves. -/
theorem ending_calls (hshows : spec.Shows effects view holds) {script : Nat → C}
    {turn count : Nat} {committed : S} {session : Session K σ ε α W C}
    {last : SessionSystem K σ ε α S W C}
    (hrun : runFrom spec.step ⟨committed, [session]⟩
      ((List.range' turn count).map fun n => .call 0 (script n)) = some last)
    (hholds : holds committed session.work) :
    ∃ after, last.sessions = [after] ∧ holds last.committed after.work ∧
      (after.program.exec (effects.scripted script)
          (turn + count, view last.committed after.work)).ending =
        (session.program.exec (effects.scripted script)
          (turn, view committed session.work)).ending := by
  induction count generalizing turn committed session with
  | zero =>
      cases hrun
      exact ⟨session, rfl, hholds, rfl⟩
  | succ count ih =>
      rw [List.range'_succ, List.map_cons] at hrun
      obtain ⟨system, hstep, hlater⟩ := runFrom_cons_eq_some hrun
      obtain ⟨⟨next, after⟩, hcalled, rfl⟩ := Option.map_eq_some_iff.mp hstep
      have hkeeps : holds next after.work := by
        obtain ⟨op, _, _, _, _, _, hrespond, rfl⟩ := called_cases hcalled
        have hkept := hshows.keeps op (script turn) committed session.work hholds
        rw [hrespond] at hkept
        exact hkept
      obtain ⟨last', hlast, hheld, hending⟩ := ih hlater hkeeps
      refine ⟨last', hlast, hheld, ?_⟩
      rw [← ending_called hshows hcalled, ← hending, Nat.add_assoc turn 1 count,
        Nat.add_comm 1 count]

/-- A session that nothing else runs beside ends as its program does. -/
theorem alone_finished (hshows : spec.Shows effects view holds) {key : K} {script : Nat → C}
    {count : Nat} {committed : S} {last : SessionSystem K σ ε α S W C}
    (hrun : runFrom spec.step ⟨committed, []⟩
      (.start key :: ((List.range' 0 count).map fun turn => .call 0 (script turn)) ++
        [.finish 0]) = some last)
    (hholds : holds committed spec.fresh) :
    ∃ reached session after, last.sessions = [after] ∧ holds reached session.work ∧
      spec.finished reached session = some (last.committed, after) ∧
      (session.program.exec (effects.scripted script)
          (count, view reached session.work)).ending =
        ((spec.program key).exec (effects.scripted script)
          (0, view committed spec.fresh)).ending := by
  rw [List.cons_append] at hrun
  obtain ⟨opened, hopened, hlater⟩ := runFrom_cons_eq_some hrun
  cases hopened
  rw [runFrom_append] at hlater
  obtain ⟨called, hcalls, hfinish⟩ := Option.bind_eq_some_iff.mp hlater
  obtain ⟨session, hsessions, hkept, hending⟩ := @ending_calls _ _ _ _ _ _ _ _ _ spec effects view
    holds hshows script 0 count committed (spec.opened key) called hcalls hholds
  obtain ⟨reached, sessions⟩ := called
  cases hsessions
  obtain ⟨finished, hstep, hnil⟩ := runFrom_cons_eq_some hfinish
  cases hnil
  obtain ⟨⟨next, after⟩, hfinished, rfl⟩ := Option.map_eq_some_iff.mp hstep
  refine ⟨reached, session, after, rfl, hkept, hfinished, ?_⟩
  rw [Nat.zero_add] at hending
  exact hending

end Alone

end StockMonitoring.Foundation
