import StockMonitoring.Foundation.Lists
import StockMonitoring.Foundation.Pool

set_option autoImplicit false

/-!
# Foundation: tasks that can be cancelled

The tasks of one event loop, each a program that runs from one await to the next.  They may
begin at any time, and the loop resumes any of them.  A task that is cancelled goes on with
the awaited call ended by the cancellation; the program may still await after that.
-/

namespace StockMonitoring.Foundation

variable {K : Type} {σ : Signature} {ε α β S C : Type}

/-! ## Programs up to an await -/

namespace Co

/-- Run a program and go on with its result, returned or raised: `try` and `finally`. -/
def attempt : Co σ ε α → (Except ε α → Co σ ε β) → Co σ ε β
  | .ret value, next => next (.ok value)
  | .raise error, next => next (.error error)
  | .call op resume, next => .call op fun reply => (resume reply).attempt next

/-- Every call of the program, whatever the replies, is one of these. -/
def CallsOnly (allowed : σ.Op → Prop) : Co σ ε α → Prop
  | .ret _ => True
  | .raise _ => True
  | .call op resume => allowed op ∧ ∀ reply, CallsOnly allowed (resume reply)

theorem callsOnly_perform {allowed : σ.Op → Prop} {op : σ.Op} (hop : allowed op) :
    CallsOnly allowed (perform op : Co σ ε (σ.Answer op)) := by
  refine ⟨hop, fun reply => ?_⟩
  cases reply <;> trivial

theorem CallsOnly.bind {allowed : σ.Op → Prop} {program : Co σ ε α} {next : α → Co σ ε β}
    (hprogram : CallsOnly allowed program) (hnext : ∀ value, CallsOnly allowed (next value)) :
    CallsOnly allowed (program >>= next) := by
  induction program with
  | ret value => exact hnext value
  | raise error => trivial
  | call op resume ih => exact ⟨hprogram.1, fun reply => ih reply (hprogram.2 reply)⟩

theorem CallsOnly.attempt {allowed : σ.Op → Prop} {program : Co σ ε α}
    {next : Except ε α → Co σ ε β} (hprogram : CallsOnly allowed program)
    (hnext : ∀ result, CallsOnly allowed (next result)) :
    CallsOnly allowed (program.attempt next) := by
  induction program with
  | ret value => exact hnext (.ok value)
  | raise error => exact hnext (.error error)
  | call op resume ih => exact ⟨hprogram.1, fun reply => ih reply (hprogram.2 reply)⟩

end Co

/-- Run the calls that are not awaited, each as `calm` has it, up to the next await or the
end. -/
def settle (effects : Effects σ ε S C) (calm : C) : Co σ ε α → S → Co σ ε α × S
  | .ret value, store => (.ret value, store)
  | .raise error, store => (.raise error, store)
  | .call op resume, store =>
      if effects.awaits op then (.call op resume, store)
      else settle effects calm (resume (effects.respond op calm store).1)
        (effects.respond op calm store).2

section Settle

variable {effects : Effects σ ε S C} {calm : C}

@[simp] theorem settle_ret (value : α) (store : S) :
    settle effects calm (.ret value : Co σ ε α) store = (.ret value, store) := rfl

@[simp] theorem settle_raise (error : ε) (store : S) :
    settle effects calm (.raise error : Co σ ε α) store = (.raise error, store) := rfl

/-- An awaited call waits. -/
theorem settle_of_awaits {op : σ.Op} (hawaits : effects.awaits op = true)
    (resume : Reply σ ε op → Co σ ε α) (store : S) :
    settle effects calm (.call op resume) store = (.call op resume, store) := by
  simp [settle, hawaits]

/-- Another call answers at once. -/
theorem settle_perform {op : σ.Op} (hawaits : effects.awaits op = false)
    {rest : σ.Answer op → Co σ ε α} {store next : S} {answer : σ.Answer op}
    (hreply : effects.respond op calm store = (.ok answer, next)) :
    settle effects calm (Co.perform op >>= rest) store =
      settle effects calm (rest answer) next := by
  change settle effects calm (.call op fun reply => _) store = _
  rw [settle, hawaits, hreply, if_neg Bool.false_ne_true]
  rfl

/-- One that raises ends the program. -/
theorem settle_perform_error {op : σ.Op} (hawaits : effects.awaits op = false)
    {rest : σ.Answer op → Co σ ε α} {store next : S} {error : ε}
    (hreply : effects.respond op calm store = (.error error, next)) :
    settle effects calm (Co.perform op >>= rest) store = (.raise error, next) := by
  change settle effects calm (.call op fun reply => _) store = _
  rw [settle, hawaits, hreply, if_neg Bool.false_ne_true]
  rfl

/-- A program of awaited calls stays where it is. -/
theorem settle_of_callsOnly {allowed : σ.Op → Prop}
    (hawaits : ∀ op, allowed op → effects.awaits op = true) {program : Co σ ε α}
    (hprogram : program.CallsOnly allowed) (store : S) :
    settle effects calm program store = (program, store) := by
  cases program with
  | ret value => rfl
  | raise error => rfl
  | call op resume => exact settle_of_awaits (hawaits op hprogram.1) resume store

end Settle

/-! ## Tasks -/

/-- What is fixed while the tasks run. -/
structure TaskSpec (K : Type) (σ : Signature) (ε α S C : Type) where
  effects : Effects σ ε S C
  /-- how a call that is not awaited goes -/
  calm : C
  program : K → Co σ ε α
  /-- what a cancelled await ends with -/
  cancels : C → Bool

/-- A task: the key its program is made from, what remains of it, and whether a
cancellation is on its way to it. -/
structure Task (K : Type) (σ : Signature) (ε α : Type) where
  key : K
  program : Co σ ε α
  cancelled : Bool

/-- Whether a program has calls before it. -/
def Co.inProgress : Co σ ε α → Bool
  | .call _ _ => true
  | .ret _ | .raise _ => false

/-- The tasks and what they share. -/
structure TaskSystem (K : Type) (σ : Signature) (ε α S : Type) where
  tasks : List (Task K σ ε α)
  store : S

namespace TaskSpec

/-- A task begins and runs to its first await. -/
def start (spec : TaskSpec K σ ε α S C) (key : K) (system : TaskSystem K σ ε α S) :
    TaskSystem K σ ε α S :=
  let reached := settle spec.effects spec.calm (spec.program key) system.store
  ⟨system.tasks ++ [⟨key, reached.1, false⟩], reached.2⟩

/-- A task goes on as its awaited call ends. -/
def proceed (spec : TaskSpec K σ ε α S C) (task : Task K σ ε α) (choice : C) (store : S) :
    Option (Task K σ ε α × S) :=
  match task.program with
  | .call op resume =>
      if task.cancelled && !spec.cancels choice then none
      else
        let (reply, next) := spec.effects.respond op choice store
        let reached := settle spec.effects spec.calm (resume reply) next
        some (⟨task.key, reached.1, false⟩, reached.2)
  | _ => none

/-- The awaited call of task `index` ends; `none` when it cannot end so. -/
def resume (spec : TaskSpec K σ ε α S C) (index : Nat) (choice : C)
    (system : TaskSystem K σ ε α S) : Option (TaskSystem K σ ε α S) :=
  (system.tasks[index]?).bind fun task =>
    (spec.proceed task choice system.store).map fun (after, store) =>
      ⟨system.tasks.set index after, store⟩

/-- All tasks in progress are cancelled. -/
def cancelAll (system : TaskSystem K σ ε α S) : TaskSystem K σ ε α S :=
  { system with
    tasks := system.tasks.map fun task => { task with cancelled := task.program.inProgress } }

variable {spec : TaskSpec K σ ε α S C}

/-- What a task that goes on does. -/
theorem proceed_cases {task after : Task K σ ε α} {choice : C} {store next : S}
    (hproceed : spec.proceed task choice store = some (after, next)) :
    ∃ op resume, task.program = .call op resume ∧
      (task.cancelled = true → spec.cancels choice = true) ∧
      after = ⟨task.key, (settle spec.effects spec.calm
        (resume (spec.effects.respond op choice store).1)
        (spec.effects.respond op choice store).2).1, false⟩ ∧
      next = (settle spec.effects spec.calm (resume (spec.effects.respond op choice store).1)
        (spec.effects.respond op choice store).2).2 := by
  obtain ⟨key, program, cancelled⟩ := task
  cases program with
  | ret value => cases hproceed
  | raise error => cases hproceed
  | call op resume =>
      simp only [proceed] at hproceed
      split at hproceed
      · cases hproceed
      · rename_i hallowed
        cases hproceed
        refine ⟨op, resume, rfl, ?_, rfl, rfl⟩
        simpa using hallowed

theorem resume_cases {system next : TaskSystem K σ ε α S} {index : Nat} {choice : C}
    (hresume : spec.resume index choice system = some next) :
    ∃ task after store, system.tasks[index]? = some task ∧
      spec.proceed task choice system.store = some (after, store) ∧
      next = ⟨system.tasks.set index after, store⟩ := by
  obtain ⟨task, htask, hmap⟩ := Option.bind_eq_some_iff.mp hresume
  obtain ⟨⟨after, store⟩, hproceed, rfl⟩ := Option.map_eq_some_iff.mp hmap
  exact ⟨task, after, store, htask, hproceed, rfl⟩

end TaskSpec

end StockMonitoring.Foundation
