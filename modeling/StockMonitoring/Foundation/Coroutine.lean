import Mathlib.Tactic.TypeStar

set_option autoImplicit false

/-!
# Foundation: coroutine programs over a port signature

An `async` function that reaches the outside world only through abstract ports
is, seen from its caller, a tree: it returns, it raises, or it makes one port
call and continues with the reply.  `Co` is that tree.  One program is written
once and then read in several ways: `exec` runs it alone against a handler,
`Foundation.Pool` interleaves many of them at their calls.

A reply is an `Except`: a port call either answers or raises, and the program
sees which.  Nothing in this file knows a particular port.
-/

namespace StockMonitoring.Foundation

/-- A port signature: the calls, and what each call answers with. -/
structure Signature where
  Op : Type
  Answer : Op → Type

/-- What one call hands back to its caller: an answer or an exception. -/
abbrev Reply (σ : Signature) (ε : Type) (op : σ.Op) : Type :=
  Except ε (σ.Answer op)

/-- A program over the port `σ` that raises errors of type `ε` and returns an
`α`. -/
inductive Co (σ : Signature) (ε α : Type) where
  /-- the program has returned -/
  | ret (value : α)
  /-- the program has raised -/
  | raise (error : ε)
  /-- the program calls `op` and continues with the reply -/
  | call (op : σ.Op) (resume : Reply σ ε op → Co σ ε α)

/-- One finished call of a run. -/
structure Event (σ : Signature) (ε : Type) where
  op : σ.Op
  reply : Reply σ ε op

namespace Co

variable {σ : Signature} {ε α β γ : Type}

/-! ## Programs as a monad -/

/-- Sequencing; an exception skips the continuation. -/
def bind : Co σ ε α → (α → Co σ ε β) → Co σ ε β
  | .ret value, next => next value
  | .raise error, _ => .raise error
  | .call op resume, next => .call op fun reply => (resume reply).bind next

instance : Monad (Co σ ε) where
  pure := .ret
  bind := .bind

/-- Make one port call; its exception propagates. -/
def perform (op : σ.Op) : Co σ ε (σ.Answer op) :=
  .call op fun
    | .ok answer => .ret answer
    | .error error => .raise error

/-- A result that needs no call: go on with its value or raise its error. -/
def ofExcept : Except ε α → Co σ ε α
  | .ok value => .ret value
  | .error error => .raise error

@[simp] theorem pure_eq (value : α) : (pure value : Co σ ε α) = .ret value := rfl

@[simp] theorem ret_bind (value : α) (next : α → Co σ ε β) :
    (Co.ret value >>= next) = next value := rfl

@[simp] theorem raise_bind (error : ε) (next : α → Co σ ε β) :
    ((Co.raise error : Co σ ε α) >>= next) = .raise error := rfl

@[simp] theorem call_bind (op : σ.Op) (resume : Reply σ ε op → Co σ ε α)
    (next : α → Co σ ε β) :
    (Co.call op resume >>= next) = .call op fun reply => resume reply >>= next := rfl

theorem bind_ret (program : Co σ ε α) : (program >>= fun value => Co.ret value) = program := by
  induction program with
  | ret value => rfl
  | raise error => rfl
  | call op resume ih =>
      rw [call_bind]
      congr 1
      funext reply
      exact ih reply

theorem bind_assoc (program : Co σ ε α) (first : α → Co σ ε β) (second : β → Co σ ε γ) :
    (program >>= first) >>= second = program >>= fun value => first value >>= second := by
  induction program with
  | ret value => rfl
  | raise error => rfl
  | call op resume ih =>
      rw [call_bind, call_bind, call_bind]
      congr 1
      funext reply
      exact ih reply

instance : LawfulMonad (Co σ ε) :=
  LawfulMonad.mk' (Co σ ε)
    (fun program => bind_ret program)
    (fun _ _ => rfl)
    (fun program first second => bind_assoc program first second)

end Co

/-! ## Running a program alone -/

/-- A handler answers every call and moves the state. -/
abbrev Handler (σ : Signature) (ε S : Type) : Type :=
  (op : σ.Op) → S → Reply σ ε op × S

/-- What a finished run leaves: the calls it made, its result, the state. -/
structure Outcome (σ : Signature) (ε S α : Type) where
  trace : List (Event σ ε)
  result : Except ε α
  state : S

namespace Outcome

variable {σ : Signature} {ε S α β : Type}

/-- The same outcome with one more call in front. -/
def after (outcome : Outcome σ ε S α) (event : Event σ ε) : Outcome σ ε S α :=
  { outcome with trace := event :: outcome.trace }

@[simp] theorem after_trace (outcome : Outcome σ ε S α) (event : Event σ ε) :
    (outcome.after event).trace = event :: outcome.trace := rfl

@[simp] theorem after_result (outcome : Outcome σ ε S α) (event : Event σ ε) :
    (outcome.after event).result = outcome.result := rfl

@[simp] theorem after_state (outcome : Outcome σ ε S α) (event : Event σ ε) :
    (outcome.after event).state = outcome.state := rfl

/-- How the run ended, its calls aside. -/
def ending (outcome : Outcome σ ε S α) : Except ε α × S :=
  (outcome.result, outcome.state)

@[simp] theorem after_ending (outcome : Outcome σ ε S α) (event : Event σ ε) :
    (outcome.after event).ending = outcome.ending := rfl

end Outcome

namespace Co

variable {σ : Signature} {ε S α β : Type}

/-- Run a program against a handler.  The recursion is on the program, so every
run ends. -/
def exec (handler : Handler σ ε S) : Co σ ε α → S → Outcome σ ε S α
  | .ret value, state => ⟨[], .ok value, state⟩
  | .raise error, state => ⟨[], .error error, state⟩
  | .call op resume, state =>
      (exec handler (resume (handler op state).1) (handler op state).2).after
        ⟨op, (handler op state).1⟩

@[simp] theorem exec_ret (handler : Handler σ ε S) (value : α) (state : S) :
    exec handler (.ret value) state = ⟨[], .ok value, state⟩ := rfl

@[simp] theorem exec_raise (handler : Handler σ ε S) (error : ε) (state : S) :
    exec handler (.raise error : Co σ ε α) state = ⟨[], .error error, state⟩ := rfl

theorem exec_call (handler : Handler σ ε S) (op : σ.Op)
    (resume : Reply σ ε op → Co σ ε α) (state : S) :
    exec handler (.call op resume) state =
      (exec handler (resume (handler op state).1) (handler op state).2).after
        ⟨op, (handler op state).1⟩ := rfl

/-- A call that answers hands its answer on. -/
theorem exec_perform_ok {handler : Handler σ ε S} {op : σ.Op} {state next : S}
    {answer : σ.Answer op} (hreply : handler op state = (.ok answer, next))
    (rest : σ.Answer op → Co σ ε α) :
    exec handler (perform op >>= rest) state =
      (exec handler (rest answer) next).after ⟨op, .ok answer⟩ := by
  unfold perform
  rw [call_bind, exec_call, hreply]
  rfl

/-- A call that raises ends the program. -/
theorem exec_perform_error {handler : Handler σ ε S} {op : σ.Op} {state next : S}
    {error : ε} (hreply : handler op state = (.error error, next))
    (rest : σ.Answer op → Co σ ε α) :
    exec handler (perform op >>= rest) state =
      ⟨[⟨op, .error error⟩], .error error, next⟩ := by
  unfold perform
  rw [call_bind, exec_call, hreply]
  rfl

/-- A call of a run that returns has answered. -/
theorem exec_perform_of_ok {handler : Handler σ ε S} {op : σ.Op} {state : S}
    {rest : σ.Answer op → Co σ ε α} {value : α}
    (hok : (exec handler (perform op >>= rest) state).result = .ok value) :
    ∃ answer next, handler op state = (.ok answer, next) ∧
      exec handler (perform op >>= rest) state =
        (exec handler (rest answer) next).after ⟨op, .ok answer⟩ ∧
      (exec handler (rest answer) next).result = .ok value := by
  cases hreply : handler op state with
  | mk reply next =>
      cases reply with
      | error error =>
          rw [exec_perform_error hreply] at hok
          cases hok
      | ok answer =>
          have hexec := exec_perform_ok hreply rest
          refine ⟨answer, next, rfl, hexec, ?_⟩
          rw [hexec] at hok
          exact hok

/-- In a run that raises, a call has raised the error, or it has answered and what follows
raises. -/
theorem exec_perform_of_error {handler : Handler σ ε S} {op : σ.Op} {state : S}
    {rest : σ.Answer op → Co σ ε α} {error : ε}
    (herror : (exec handler (perform op >>= rest) state).result = .error error) :
    (exec handler (perform op >>= rest) state).trace = [⟨op, .error error⟩] ∨
      ∃ answer next, handler op state = (.ok answer, next) ∧
        exec handler (perform op >>= rest) state =
          (exec handler (rest answer) next).after ⟨op, .ok answer⟩ ∧
        (exec handler (rest answer) next).result = .error error := by
  cases hreply : handler op state with
  | mk reply next =>
      cases reply with
      | error raised =>
          rw [exec_perform_error hreply] at herror ⊢
          cases herror
          exact Or.inl rfl
      | ok answer =>
          have hexec := exec_perform_ok hreply rest
          refine Or.inr ⟨answer, next, rfl, hexec, ?_⟩
          rw [hexec] at herror
          exact herror

/-- The run of a sequence is the run of its first part followed, when that
returns, by the run of the rest. -/
theorem exec_bind (handler : Handler σ ε S) (program : Co σ ε α)
    (next : α → Co σ ε β) (state : S) :
    exec handler (program >>= next) state =
      match (exec handler program state).result with
      | .ok value =>
          { exec handler (next value) (exec handler program state).state with
            trace := (exec handler program state).trace ++
              (exec handler (next value) (exec handler program state).state).trace }
      | .error error =>
          ⟨(exec handler program state).trace, .error error,
            (exec handler program state).state⟩ := by
  induction program generalizing state with
  | ret value => rfl
  | raise error => rfl
  | call op resume ih =>
      rw [call_bind, exec_call, exec_call, ih]
      simp only [Outcome.after_result, Outcome.after_state, Outcome.after_trace]
      split <;> simp_all [Outcome.after]

/-- Every call of a run is answered by the handler. -/
theorem reply_of_mem_trace {handler : Handler σ ε S} {program : Co σ ε α} {state : S}
    {event : Event σ ε} (hevent : event ∈ (exec handler program state).trace) :
    ∃ reached, event = ⟨event.op, (handler event.op reached).1⟩ := by
  induction program generalizing state with
  | ret value => cases hevent
  | raise error => cases hevent
  | call op resume ih =>
      rw [exec_call, Outcome.after_trace] at hevent
      rcases List.mem_cons.mp hevent with rfl | hlater
      · exact ⟨state, rfl⟩
      · exact ih _ hlater

/-! ## Programs that let exceptions through -/

/-- The program raises whatever one of its calls raises. -/
def Propagates : Co σ ε α → Prop
  | .ret _ => True
  | .raise _ => True
  | .call _ resume =>
      (∀ error, resume (.error error) = .raise error) ∧
        ∀ answer, Propagates (resume (.ok answer))

@[simp] theorem propagates_pure (value : α) : Propagates (pure value : Co σ ε α) := trivial

@[simp] theorem propagates_ret (value : α) : Propagates (.ret value : Co σ ε α) := trivial

@[simp] theorem propagates_raise (error : ε) : Propagates (.raise error : Co σ ε α) := trivial

theorem propagates_ofExcept (result : Except ε α) : Propagates (ofExcept result : Co σ ε α) := by
  cases result <;> trivial

theorem propagates_perform (op : σ.Op) : Propagates (perform op : Co σ ε (σ.Answer op)) :=
  ⟨fun _ => rfl, fun _ => trivial⟩

theorem Propagates.bind {program : Co σ ε α} {next : α → Co σ ε β}
    (hprogram : Propagates program) (hnext : ∀ value, Propagates (next value)) :
    Propagates (program >>= next) := by
  induction program with
  | ret value => exact hnext value
  | raise error => trivial
  | call op resume ih =>
      obtain ⟨hraises, hanswers⟩ := hprogram
      refine ⟨?_, ?_⟩
      · intro error
        change resume (.error error) >>= next = .raise error
        rw [hraises error, raise_bind]
      · intro answer
        exact ih _ (hanswers answer)

/-- When such a program returns, no call of its run has raised: it runs in the same way
against every handler that gives the same answers. -/
theorem exec_eq_of_ok {first second : Handler σ ε S}
    (hagree : ∀ op state answer next, first op state = (.ok answer, next) →
      second op state = (.ok answer, next))
    {program : Co σ ε α} (hpropagates : Propagates program) {state : S} {value : α}
    (hok : (exec first program state).result = .ok value) :
    exec second program state = exec first program state := by
  induction program generalizing state with
  | ret value => rfl
  | raise error => rfl
  | call op resume ih =>
      obtain ⟨hraises, hanswers⟩ := hpropagates
      rw [exec_call, Outcome.after_result] at hok
      cases hreply : first op state with
      | mk reply next =>
          rw [hreply] at hok
          cases reply with
          | error error =>
              rw [hraises error] at hok
              cases hok
          | ok answer =>
              rw [exec_call, exec_call, hagree op state answer next hreply, hreply]
              rw [ih _ (hanswers answer) hok]

/-- What the program raises that no call has raised is one of these errors. -/
def RaisesOnly (own : ε → Prop) : Co σ ε α → Prop
  | .ret _ => True
  | .raise error => own error
  | .call _ resume =>
      (∀ error, resume (.error error) = .raise error) ∧
        ∀ answer, RaisesOnly own (resume (.ok answer))

theorem raisesOnly_perform {own : ε → Prop} {op : σ.Op} {rest : σ.Answer op → Co σ ε α}
    (hrest : ∀ answer, RaisesOnly own (rest answer)) : RaisesOnly own (perform op >>= rest) :=
  ⟨fun _ => rfl, hrest⟩

/-- An error of a run is the program's own or has come from a call. -/
theorem raised_of_raisesOnly {own : ε → Prop} {handler : Handler σ ε S} {program : Co σ ε α}
    {state : S} {error : ε} (hprogram : RaisesOnly own program)
    (herror : (exec handler program state).result = .error error) :
    own error ∨ ∃ event ∈ (exec handler program state).trace, event.reply = .error error := by
  induction program generalizing state with
  | ret value => cases herror
  | raise raised =>
      cases herror
      exact Or.inl hprogram
  | call op resume ih =>
      obtain ⟨hraises, hanswers⟩ := hprogram
      rw [exec_call, Outcome.after_result] at herror
      rw [exec_call, Outcome.after_trace]
      cases hreply : (handler op state).1 with
      | error raised =>
          rw [hreply, hraises raised] at herror
          cases herror
          exact Or.inr ⟨_, List.mem_cons_self, rfl⟩
      | ok answer =>
          rw [hreply] at herror
          rcases ih _ (hanswers answer) herror with hown | ⟨event, hevent, hcalled⟩
          · exact Or.inl hown
          · exact Or.inr ⟨event, List.mem_cons_of_mem _ hevent, hcalled⟩

/-! ## Protocols

A protocol watches one program from outside: a ghost state moves with every
call, each call has a precondition on it, and a precondition may use what the
replies are known to be.  `Obeys` is defined by recursion on the program, so
one unfolding per call proves it, and it is stable under taking a step. -/

end Co

/-- A protocol with ghost state `γ`. -/
structure Protocol (σ : Signature) (ε α γ : Type) where
  /-- what must hold of the ghost state before a call -/
  pre : σ.Op → γ → Prop
  /-- what is known of the reply -/
  answers : (op : σ.Op) → Reply σ ε op → γ → Prop
  /-- how the ghost state moves -/
  next : (op : σ.Op) → Reply σ ε op → γ → γ
  /-- what must hold when the program ends -/
  post : Except ε α → γ → Prop

namespace Co

variable {σ : Signature} {ε α β γ : Type}

/-- The program keeps to the protocol from the ghost state `ghost` on. -/
def Obeys (protocol : Protocol σ ε α γ) : Co σ ε α → γ → Prop
  | .ret value, ghost => protocol.post (.ok value) ghost
  | .raise error, ghost => protocol.post (.error error) ghost
  | .call op resume, ghost =>
      protocol.pre op ghost ∧
        ∀ reply, protocol.answers op reply ghost →
          Obeys protocol (resume reply) (protocol.next op reply ghost)

@[simp] theorem obeys_ret (protocol : Protocol σ ε α γ) (value : α) (ghost : γ) :
    Obeys protocol (.ret value) ghost ↔ protocol.post (.ok value) ghost := Iff.rfl

@[simp] theorem obeys_raise (protocol : Protocol σ ε α γ) (error : ε) (ghost : γ) :
    Obeys protocol (.raise error) ghost ↔ protocol.post (.error error) ghost := Iff.rfl

/-- The next call of a program that obeys a protocol is allowed. -/
theorem pre_of_obeys {protocol : Protocol σ ε α γ} {program : Co σ ε α} {ghost : γ} {op : σ.Op}
    {resume : Reply σ ε op → Co σ ε α} (hobeys : program.Obeys protocol ghost)
    (hprogram : program = .call op resume) : protocol.pre op ghost := by
  rw [hprogram] at hobeys
  exact hobeys.1

/-- One call in front of a program: its precondition, then both replies. -/
theorem obeys_perform {protocol : Protocol σ ε β γ} {op : σ.Op} {ghost : γ}
    {rest : σ.Answer op → Co σ ε β}
    (hpre : protocol.pre op ghost)
    (hok : ∀ answer, protocol.answers op (.ok answer) ghost →
      Obeys protocol (rest answer) (protocol.next op (.ok answer) ghost))
    (herror : ∀ error, protocol.answers op (.error error) ghost →
      protocol.post (.error error) (protocol.next op (.error error) ghost)) :
    Obeys protocol (perform op >>= rest) ghost := by
  refine ⟨hpre, ?_⟩
  intro reply hreply
  cases reply with
  | ok answer => exact hok answer hreply
  | error error => exact herror error hreply

/-- A program in front of another one: what the first ends with is where the second starts. -/
theorem obeys_bind {protocol : Protocol σ ε β γ} {program : Co σ ε α} {rest : α → Co σ ε β}
    {ghost : γ}
    (hobeys : program.Obeys { protocol with
      post := fun result reached => match result with
        | .ok value => (rest value).Obeys protocol reached
        | .error error => protocol.post (.error error) reached } ghost) :
    (program >>= rest).Obeys protocol ghost := by
  induction program generalizing ghost with
  | ret value => exact hobeys
  | raise error => exact hobeys
  | call op resume ih => exact ⟨hobeys.1, fun reply hreply => ih reply (hobeys.2 reply hreply)⟩

/-- A program that keeps to one protocol keeps to every protocol that asks for less. -/
theorem obeys_of_obeys {δ : Type} {stronger : Protocol σ ε α γ} {weaker : Protocol σ ε α δ}
    (related : γ → δ → Prop)
    (hpre : ∀ op ghost other, related ghost other → stronger.pre op ghost → weaker.pre op other)
    (hanswers : ∀ op reply ghost other, related ghost other → weaker.answers op reply other →
      stronger.answers op reply ghost)
    (hnext : ∀ op reply ghost other, related ghost other → stronger.pre op ghost →
      related (stronger.next op reply ghost) (weaker.next op reply other))
    (hpost : ∀ result ghost other, related ghost other → stronger.post result ghost →
      weaker.post result other)
    {program : Co σ ε α} {ghost : γ} {other : δ} (hrelated : related ghost other)
    (hobeys : program.Obeys stronger ghost) : program.Obeys weaker other := by
  induction program generalizing ghost other with
  | ret value => exact hpost _ _ _ hrelated hobeys
  | raise error => exact hpost _ _ _ hrelated hobeys
  | call op resume ih =>
      refine ⟨hpre op ghost other hrelated hobeys.1, ?_⟩
      intro reply hreply
      exact ih reply (hnext op reply ghost other hrelated hobeys.1)
        (hobeys.2 reply (hanswers op reply ghost other hrelated hreply))

/-- The rule for a run alone: what the protocol knows of the state, call by call, it
knows at the end. -/
theorem exec_obeys {protocol : Protocol σ ε α γ} {S : Type} {handler : Handler σ ε S}
    {holds : γ → S → Prop}
    (hcall : ∀ op ghost state, holds ghost state → protocol.pre op ghost →
      protocol.answers op (handler op state).1 ghost ∧
        holds (protocol.next op (handler op state).1 ghost) (handler op state).2)
    {program : Co σ ε α} {ghost : γ} {state : S} (hobeys : program.Obeys protocol ghost)
    (hstate : holds ghost state) :
    ∃ reached, protocol.post (exec handler program state).result reached ∧
      holds reached (exec handler program state).state := by
  induction program generalizing ghost state with
  | ret value => exact ⟨ghost, hobeys, hstate⟩
  | raise error => exact ⟨ghost, hobeys, hstate⟩
  | call op resume ih =>
      obtain ⟨hanswers, hnext⟩ := hcall op ghost state hstate hobeys.1
      exact ih _ (hobeys.2 _ hanswers) hnext

/-- Every call of a run meets its precondition. -/
theorem pre_of_mem_trace {protocol : Protocol σ ε α γ} {S : Type} {handler : Handler σ ε S}
    (hanswers : ∀ op reply ghost, protocol.answers op reply ghost)
    {program : Co σ ε α} {ghost : γ} {state : S} (hobeys : program.Obeys protocol ghost)
    {event : Event σ ε} (hevent : event ∈ (exec handler program state).trace) :
    ∃ reached, protocol.pre event.op reached := by
  induction program generalizing ghost state with
  | ret value => cases hevent
  | raise error => cases hevent
  | call op resume ih =>
      rw [exec_call, Outcome.after_trace] at hevent
      rcases List.mem_cons.mp hevent with rfl | hlater
      · exact ⟨ghost, hobeys.1⟩
      · exact ih _ (hobeys.2 _ (hanswers _ _ _)) hlater

end Co

end StockMonitoring.Foundation
