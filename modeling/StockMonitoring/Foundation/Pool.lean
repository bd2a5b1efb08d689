import StockMonitoring.Foundation.Coroutine
import StockMonitoring.Foundation.Run
import Mathlib.Data.List.Basic

set_option autoImplicit false

/-!
# Foundation: coroutines interleaved at their awaits

A pool runs one program per job on one event loop.  Jobs are grouped, and at most
`limit` jobs of a group are in progress at once (one semaphore per group).  A
job in progress is suspended at an awaited call; the loop may resume any of them,
in any order.  Calls that are not awaited run on with the resumed job.

Every choice the code does not make is in the move: which job goes on, and how
the outside reacts to each of its calls.  With the moves fixed a run is a
computation, so `step` is a function.

`Discipline` is the rule for invariants: each program keeps to its protocol, each
call keeps the caller's assertion and the assertions of the other jobs.  It is
checked call by call and then holds along every run (`Discipline.sound_run`).
-/

namespace StockMonitoring.Foundation

/-- How the calls of a port act on a state, `C` being what the outside chooses. -/
structure Effects (σ : Signature) (ε S C : Type) where
  /-- whether the call is awaited, so that other jobs may run before it returns -/
  awaits : σ.Op → Bool
  respond : (op : σ.Op) → C → S → Reply σ ε op × S

/-- The handler of a program that runs alone, with what the outside chooses at each of
its calls, by the number of calls before it. -/
def Effects.scripted {σ : Signature} {ε S C : Type} (effects : Effects σ ε S C)
    (script : Nat → C) : Handler σ ε (Nat × S) := fun op (turn, state) =>
  let (reply, next) := effects.respond op (script turn) state
  (reply, (turn + 1, next))

section Advance

variable {σ : Signature} {ε α S C : Type}

/-- Run the calls that are not awaited, up to the next await or the end.  Each
uses one choice and no choice may be left over. -/
def advance (effects : Effects σ ε S C) : Co σ ε α → List C → S → Option (Co σ ε α × S)
  | .call op resume, choices, state =>
      if effects.awaits op then
        match choices with
        | [] => some (.call op resume, state)
        | _ :: _ => none
      else
        match choices with
        | [] => none
        | choice :: rest =>
            advance effects (resume (effects.respond op choice state).1) rest
              (effects.respond op choice state).2
  | .ret value, [], state => some (.ret value, state)
  | .raise error, [], state => some (.raise error, state)
  | .ret _, _ :: _, _ => none
  | .raise _, _ :: _, _ => none

theorem advance_of_awaits {effects : Effects σ ε S C} {op : σ.Op}
    (hawaits : effects.awaits op = true) (resume : Reply σ ε op → Co σ ε α) (state : S) :
    advance effects (.call op resume) [] state = some (.call op resume, state) := by
  simp [advance, hawaits]

theorem advance_of_not_awaits {effects : Effects σ ε S C} {op : σ.Op}
    (hawaits : effects.awaits op = false) (resume : Reply σ ε op → Co σ ε α) (choice : C)
    (rest : List C) (state : S) :
    advance effects (.call op resume) (choice :: rest) state =
      advance effects (resume (effects.respond op choice state).1) rest
        (effects.respond op choice state).2 := by
  simp [advance, hawaits]

/-- A program that is left suspended is suspended at an await. -/
theorem awaits_of_advance {effects : Effects σ ε S C} {program : Co σ ε α} {choices : List C}
    {state next : S} {op : σ.Op} {resume : Reply σ ε op → Co σ ε α}
    (hadvance : advance effects program choices state = some (.call op resume, next)) :
    effects.awaits op = true := by
  induction program generalizing choices state with
  | ret value => cases choices <;> simp [advance] at hadvance
  | raise error => cases choices <;> simp [advance] at hadvance
  | call first rest ih =>
      unfold advance at hadvance
      split at hadvance
      · rename_i hawaits
        cases choices with
        | nil =>
            simp only [Option.some.injEq, Prod.mk.injEq, Co.call.injEq] at hadvance
            obtain ⟨⟨rfl, _⟩, _⟩ := hadvance
            exact hawaits
        | cons choice choices => simp at hadvance
      · cases choices with
        | nil => simp at hadvance
        | cons choice choices => exact ih _ hadvance

/-- What every call preserves of the state, running on preserves. -/
theorem advance_store {effects : Effects σ ε S C} (holds : S → Prop)
    (hrespond : ∀ op choice state, holds state → holds (effects.respond op choice state).2)
    {program : Co σ ε α} {choices : List C} {state : S} {reached : Co σ ε α × S}
    (hadvance : advance effects program choices state = some reached) (hstate : holds state) :
    holds reached.2 := by
  induction program generalizing choices state with
  | ret value =>
      cases choices with
      | nil => cases hadvance; exact hstate
      | cons choice choices => cases hadvance
  | raise error =>
      cases choices with
      | nil => cases hadvance; exact hstate
      | cons choice choices => cases hadvance
  | call op resume ih =>
      unfold advance at hadvance
      split at hadvance
      · cases choices with
        | nil => cases hadvance; exact hstate
        | cons choice choices => cases hadvance
      · cases choices with
        | nil => cases hadvance
        | cons choice choices => exact ih _ hadvance (hrespond op choice state hstate)

end Advance

/-! ## Jobs -/

/-- Where a job stands. -/
inductive Status (σ : Signature) (ε α : Type) where
  /-- created, not yet past the semaphore -/
  | waiting
  /-- in progress, suspended -/
  | running (program : Co σ ε α)
  /-- ended -/
  | finished (result : Except ε α)

namespace Status

variable {σ : Signature} {ε α : Type}

/-- The status of a job whose program has come this far. -/
def ofProgram : Co σ ε α → Status σ ε α
  | .ret value => .finished (.ok value)
  | .raise error => .finished (.error error)
  | .call op resume => .running (.call op resume)

/-- Whether the job holds its group's semaphore. -/
def isRunning : Status σ ε α → Bool
  | .running _ => true
  | _ => false

/-- Whether the job has not been started. -/
def isWaiting : Status σ ε α → Bool
  | .waiting => true
  | _ => false

/-- Whether the job has ended. -/
def isFinished : Status σ ε α → Bool
  | .finished _ => true
  | _ => false

@[simp] theorem isWaiting_ofProgram (program : Co σ ε α) :
    (ofProgram program).isWaiting = false := by
  cases program <;> rfl

end Status

/-- A job: the key its program is made from, and where it stands. -/
structure Job (K : Type) (σ : Signature) (ε α : Type) where
  key : K
  status : Status σ ε α

/-- What is fixed during a run of a pool. -/
structure PoolSpec (K G : Type) (σ : Signature) (ε α S C : Type) where
  effects : Effects σ ε S C
  program : K → Co σ ε α
  group : K → G
  limit : Nat

/-- The jobs and the state they share. -/
structure PoolState (K : Type) (σ : Signature) (ε α S : Type) where
  jobs : List (Job K σ ε α)
  store : S

/-- One turn of the event loop. -/
inductive Move (C : Type) where
  /-- job `index` enters its semaphore and runs to its first await -/
  | start (index : Nat) (choices : List C)
  /-- the awaited call of job `index` returns and the job runs to its next await -/
  | resume (index : Nat) (choice : C) (choices : List C)

/-- The job a move runs. -/
def Move.index {C : Type} : Move C → Nat
  | .start index _ => index
  | .resume index _ _ => index

namespace PoolSpec

variable {K G : Type} [DecidableEq G] {σ : Signature} {ε α S C : Type}

/-- The number of jobs of a group in progress. -/
def inProgress (spec : PoolSpec K G σ ε α S C) (jobs : List (Job K σ ε α)) (group : G) : Nat :=
  jobs.countP fun job => job.status.isRunning && decide (spec.group job.key = group)

/-- Put job `index` where its program has come to. -/
def place (state : PoolState K σ ε α S) (index : Nat) (key : K) (reached : Co σ ε α × S) :
    PoolState K σ ε α S :=
  ⟨state.jobs.set index ⟨key, .ofProgram reached.1⟩, reached.2⟩

/-- One move; `none` when it is not possible. -/
def step (spec : PoolSpec K G σ ε α S C) (state : PoolState K σ ε α S) :
    Move C → Option (PoolState K σ ε α S)
  | .start index choices =>
      match state.jobs[index]? with
      | some ⟨key, .waiting⟩ =>
          if spec.inProgress state.jobs (spec.group key) < spec.limit then
            (advance spec.effects (spec.program key) choices state.store).map
              (place state index key)
          else none
      | _ => none
  | .resume index choice choices =>
      match state.jobs[index]? with
      | some ⟨key, .running (.call op resume)⟩ =>
          (advance spec.effects (resume (spec.effects.respond op choice state.store).1) choices
            (spec.effects.respond op choice state.store).2).map (place state index key)
      | _ => none

/-- The state after a list of moves. -/
def run (spec : PoolSpec K G σ ε α S C) (state : PoolState K σ ε α S) (moves : List (Move C)) :
    Option (PoolState K σ ε α S) :=
  runFrom spec.step state moves

/-- All jobs created, none started: what `gather` begins with. -/
def gather (keys : List K) (store : S) : PoolState K σ ε α S :=
  ⟨keys.map fun key => ⟨key, .waiting⟩, store⟩

variable {spec : PoolSpec K G σ ε α S C}

@[simp] theorem run_nil (state : PoolState K σ ε α S) : spec.run state [] = some state := rfl

theorem run_cons (state : PoolState K σ ε α S) (move : Move C) (moves : List (Move C)) :
    spec.run state (move :: moves) = (spec.step state move).bind fun next => spec.run next moves :=
  rfl

theorem run_append (state : PoolState K σ ε α S) (first second : List (Move C)) :
    spec.run state (first ++ second) = (spec.run state first).bind fun next =>
      spec.run next second := runFrom_append state first second

/-- What every move preserves, a run preserves. -/
theorem run_invariant (holds : PoolState K σ ε α S → Prop)
    (hstep : ∀ state move next, holds state → spec.step state move = some next → holds next)
    {state last : PoolState K σ ε α S} {moves : List (Move C)}
    (hrun : spec.run state moves = some last) (hstate : holds state) : holds last :=
  runFrom_invariant holds hstep hrun hstate

/-! ## What one move does -/

/-- A move takes one job, waiting or suspended, lets the outside answer its calls,
and puts it where its program has come to. -/
theorem step_cases {state next : PoolState K σ ε α S} {move : Move C}
    (hstep : spec.step state move = some next) :
    (∃ index key choices reached, move = .start index choices ∧
        state.jobs[index]? = some ⟨key, .waiting⟩ ∧
        spec.inProgress state.jobs (spec.group key) < spec.limit ∧
        advance spec.effects (spec.program key) choices state.store = some reached ∧
        next = place state index key reached) ∨
      (∃ index key op resume choice choices reached, move = .resume index choice choices ∧
        state.jobs[index]? = some ⟨key, .running (.call op resume)⟩ ∧
        advance spec.effects (resume (spec.effects.respond op choice state.store).1) choices
          (spec.effects.respond op choice state.store).2 = some reached ∧
        next = place state index key reached) := by
  cases move with
  | start index choices =>
      simp only [step] at hstep
      split at hstep
      · rename_i key hjob
        split at hstep
        · rename_i hlimit
          obtain ⟨reached, hreached, rfl⟩ := Option.map_eq_some_iff.mp hstep
          exact Or.inl ⟨index, key, choices, reached, rfl, hjob, hlimit, hreached, rfl⟩
        · cases hstep
      · cases hstep
  | resume index choice choices =>
      simp only [step] at hstep
      split at hstep
      · rename_i key op resume hjob
        obtain ⟨reached, hreached, rfl⟩ := Option.map_eq_some_iff.mp hstep
        exact Or.inr ⟨index, key, op, resume, choice, choices, reached, rfl, hjob, hreached, rfl⟩
      · cases hstep

/-- What every call preserves of the shared state, a move preserves. -/
theorem step_store (holds : S → Prop)
    (hrespond : ∀ op choice store, holds store → holds (spec.effects.respond op choice store).2)
    {state next : PoolState K σ ε α S} {move : Move C} (hstep : spec.step state move = some next)
    (hstate : holds state.store) : holds next.store := by
  rcases step_cases hstep with
    ⟨index, key, choices, reached, _, _, _, hadvance, rfl⟩ |
    ⟨index, key, op, resume, choice, choices, reached, _, _, hadvance, rfl⟩
  · exact advance_store holds hrespond hadvance hstate
  · exact advance_store holds hrespond hadvance (hrespond op choice state.store hstate)

/-- The keys of the jobs never change. -/
theorem keys_step {state next : PoolState K σ ε α S} {move : Move C}
    (hstep : spec.step state move = some next) :
    next.jobs.map Job.key = state.jobs.map Job.key := by
  have hplace : ∀ index key (status : Status σ ε α) reached,
      state.jobs[index]? = some ⟨key, status⟩ →
      (place state index key reached).jobs.map Job.key = state.jobs.map Job.key := by
    intro index key status reached hjob
    obtain ⟨hlt, heq⟩ := List.getElem?_eq_some_iff.mp hjob
    simp only [place, List.map_set]
    refine List.ext_getElem? fun position => ?_
    rw [List.getElem?_set]
    split
    · rename_i hposition
      subst hposition
      simp [hlt, heq]
    · rfl
  rcases step_cases hstep with
    ⟨index, key, choices, reached, _, hjob, _, _, rfl⟩ |
    ⟨index, key, op, resume, choice, choices, reached, _, hjob, _, rfl⟩
  · exact hplace index key _ reached hjob
  · exact hplace index key _ reached hjob

theorem keys_run {state last : PoolState K σ ε α S} {moves : List (Move C)}
    (hrun : spec.run state moves = some last) :
    last.jobs.map Job.key = state.jobs.map Job.key :=
  run_invariant (fun reached => reached.jobs.map Job.key = state.jobs.map Job.key)
    (fun _ _ _ hkeys hstep => (keys_step hstep).trans hkeys) hrun rfl

@[simp] theorem keys_gather (keys : List K) (store : S) :
    (gather keys store : PoolState K σ ε α S).jobs.map Job.key = keys := by
  simp [gather, Function.comp_def]

theorem gather_getElem? {keys : List K} {store : S} {index : Nat} {key : K}
    (hkey : keys[index]? = some key) :
    (gather keys store : PoolState K σ ε α S).jobs[index]? = some ⟨key, .waiting⟩ := by
  simp [gather, hkey]

/-! ## Suspended jobs -/

/-- A job in progress is suspended at an awaited call. -/
def Suspended (spec : PoolSpec K G σ ε α S C) (job : Job K σ ε α) : Prop :=
  ∀ program, job.status = .running program →
    ∃ op resume, program = .call op resume ∧ spec.effects.awaits op = true

omit [DecidableEq G] in
theorem suspended_ofProgram {key : K} {program : Co σ ε α} {choices : List C} {store : S}
    {reached : Co σ ε α × S}
    (hadvance : advance spec.effects program choices store = some reached) :
    spec.Suspended ⟨key, .ofProgram reached.1⟩ := by
  intro suspended hstatus
  obtain ⟨reached, next⟩ := reached
  cases reached with
  | ret value => cases hstatus
  | raise error => cases hstatus
  | call op resume =>
      cases hstatus
      exact ⟨op, resume, rfl, awaits_of_advance hadvance⟩

theorem suspended_step {state next : PoolState K σ ε α S} {move : Move C}
    (hstate : ∀ job ∈ state.jobs, spec.Suspended job)
    (hstep : spec.step state move = some next) : ∀ job ∈ next.jobs, spec.Suspended job := by
  intro job hjob
  rcases step_cases hstep with
    ⟨index, key, choices, reached, _, _, _, hadvance, rfl⟩ |
    ⟨index, key, op, resume, choice, choices, reached, _, _, hadvance, rfl⟩
  · rcases List.mem_or_eq_of_mem_set hjob with hold | rfl
    · exact hstate job hold
    · exact suspended_ofProgram hadvance
  · rcases List.mem_or_eq_of_mem_set hjob with hold | rfl
    · exact hstate job hold
    · exact suspended_ofProgram hadvance

/-- In every state reached from `gather` the jobs in progress are suspended. -/
theorem suspended_run {keys : List K} {store : S} {moves : List (Move C)}
    {last : PoolState K σ ε α S} (hrun : spec.run (gather keys store) moves = some last) :
    ∀ job ∈ last.jobs, spec.Suspended job := by
  refine run_invariant (fun state => ∀ job ∈ state.jobs, spec.Suspended job)
    (fun _ _ _ hstate hstep => suspended_step hstate hstep) hrun ?_
  intro job hjob program hstatus
  obtain ⟨key, _, rfl⟩ := List.mem_map.mp hjob
  cases hstatus

/-! ## Single moves -/

/-- A waiting job whose group has room starts. -/
theorem step_start {state : PoolState K σ ε α S} {index : Nat} {key : K} {choices : List C}
    {reached : Co σ ε α × S} (hjob : state.jobs[index]? = some ⟨key, .waiting⟩)
    (hroom : spec.inProgress state.jobs (spec.group key) < spec.limit)
    (hadvance : advance spec.effects (spec.program key) choices state.store = some reached) :
    spec.step state (.start index choices) = some (place state index key reached) := by
  simp only [step, hjob, if_pos hroom, hadvance, Option.map_some]

/-- A suspended job resumes. -/
theorem step_resume {state : PoolState K σ ε α S} {index : Nat} {key : K} {op : σ.Op}
    {resume : Reply σ ε op → Co σ ε α} {choice : C} {choices : List C} {reached : Co σ ε α × S}
    (hjob : state.jobs[index]? = some ⟨key, .running (.call op resume)⟩)
    (hadvance : advance spec.effects (resume (spec.effects.respond op choice state.store).1)
      choices (spec.effects.respond op choice state.store).2 = some reached) :
    spec.step state (.resume index choice choices) = some (place state index key reached) := by
  simp only [step, hjob, hadvance, Option.map_some]

/-- The placed job is where it was put. -/
theorem place_self {state : PoolState K σ ε α S} {index : Nat} {job : Job K σ ε α} (key : K)
    (reached : Co σ ε α × S) (hjob : state.jobs[index]? = some job) :
    (place state index key reached).jobs[index]? = some ⟨key, .ofProgram reached.1⟩ := by
  obtain ⟨hlt, _⟩ := List.getElem?_eq_some_iff.mp hjob
  exact List.getElem?_set_self hlt

/-- The other jobs are where they were. -/
theorem place_of_ne (state : PoolState K σ ε α S) {index other : Nat} (hne : index ≠ other)
    (key : K) (reached : Co σ ε α × S) :
    (place state index key reached).jobs[other]? = state.jobs[other]? :=
  List.getElem?_set_ne hne

/-- A job that waits after a job was placed is another one and waited before. -/
theorem waiting_of_place {state : PoolState K σ ε α S} {index : Nat} {key : K}
    {reached : Co σ ε α × S} {job : Job K σ ε α} (hjob : job ∈ (place state index key reached).jobs)
    (hwaiting : job.status = .waiting) :
    ∃ other, other ≠ index ∧ state.jobs[other]? = some job := by
  obtain ⟨other, hother⟩ := List.getElem?_of_mem hjob
  unfold place at hother
  rw [List.getElem?_set] at hother
  split at hother
  · split at hother
    · cases hother
      obtain ⟨program, store⟩ := reached
      cases program <;> cases hwaiting
    · cases hother
  · rename_i hne
    exact ⟨other, Ne.symm hne, hother⟩

/-- A job that waits after a move is another one than the one that moved. -/
theorem waiting_of_step {spec : PoolSpec K G σ ε α S C} {state next : PoolState K σ ε α S}
    {move : Move C} (hstep : spec.step state move = some next) {job : Job K σ ε α}
    (hjob : job ∈ next.jobs) (hwaiting : job.status = .waiting) :
    ∃ other, other ≠ move.index ∧ state.jobs[other]? = some job := by
  rcases step_cases hstep with
    ⟨index, key, choices, reached, rfl, _, _, _, rfl⟩ |
    ⟨index, key, op, resume, choice, choices, reached, rfl, _, _, rfl⟩
  · exact waiting_of_place hjob hwaiting
  · exact waiting_of_place hjob hwaiting

@[simp] theorem store_place (state : PoolState K σ ε α S) (index : Nat) (key : K)
    (reached : Co σ ε α × S) : (place state index key reached).store = reached.2 := rfl

/-- Placing a job twice leaves where it was put last. -/
theorem place_place (state : PoolState K σ ε α S) (index : Nat) (key : K)
    (first second : Co σ ε α × S) :
    place (place state index key first) index key second = place state index key second := by
  unfold place
  rw [List.set_set]

end PoolSpec

/-- A property that at most one of a list has is one that no two of them have. -/
theorem countP_le_one_iff {β : Type} {test : β → Bool} {items : List β} :
    items.countP test ≤ 1 ↔
      items.Pairwise fun left right => ¬ (test left = true ∧ test right = true) := by
  induction items with
  | nil => simp
  | cons item rest ih =>
      rw [List.countP_cons, List.pairwise_cons]
      by_cases hitem : test item = true
      · simp only [hitem, if_true, true_and]
        constructor
        · intro hcount
          have hnone : rest.countP test = 0 := by omega
          exact ⟨List.countP_eq_zero.mp hnone, ih.mp (by omega)⟩
        · rintro ⟨hnone, _⟩
          have hzero : rest.countP test = 0 := List.countP_eq_zero.mpr hnone
          omega
      · simp [hitem, ih]

end StockMonitoring.Foundation
