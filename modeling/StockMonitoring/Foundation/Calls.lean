import StockMonitoring.Foundation.Pool

set_option autoImplicit false

/-!
# Foundation: the calls of one job of a pool

A run of a pool interleaves the calls of its jobs.  Those of one job are, in their order, a
run of its program (`ledBy_run`): between the turns of the loop no call is lost, made twice
or answered with the reply to another.
-/

namespace StockMonitoring.Foundation

variable {K G : Type} [DecidableEq G] {σ : Signature} {ε α S C : Type}

/-! ## What calls lead a program to -/

/-- With these calls and their replies a program comes to `last`. -/
inductive Co.Leads : Co σ ε α → List (Event σ ε) → Co σ ε α → Prop where
  | done (program : Co σ ε α) : Leads program [] program
  | call (op : σ.Op) (resume : Reply σ ε op → Co σ ε α) (reply : Reply σ ε op)
      {calls : List (Event σ ε)} {last : Co σ ε α} (hrest : Leads (resume reply) calls last) :
      Leads (.call op resume) (⟨op, reply⟩ :: calls) last

theorem Co.Leads.append {first mid last : Co σ ε α} {calls more : List (Event σ ε)}
    (hfirst : first.Leads calls mid) (hmore : mid.Leads more last) :
    first.Leads (calls ++ more) last := by
  induction hfirst with
  | done program => exact hmore
  | call op resume reply _ ih => exact .call op resume reply (ih hmore)

/-- A job stands where these calls have led its program. -/
def Status.LedBy (program : Co σ ε α) (calls : List (Event σ ε)) : Status σ ε α → Prop
  | .waiting => calls = []
  | .running reached => program.Leads calls reached
  | .finished result => program.Leads calls (.ofExcept result)

theorem Status.ledBy_ofProgram {program reached : Co σ ε α} {calls : List (Event σ ε)}
    (hleads : program.Leads calls reached) : (Status.ofProgram reached).LedBy program calls := by
  cases reached <;> exact hleads

/-! ## The calls of a run -/

/-- The calls a program makes until its next await. -/
def advanceCalls (effects : Effects σ ε S C) : Co σ ε α → List C → S → List (Event σ ε)
  | .call op resume, choice :: rest, state =>
      if effects.awaits op then []
      else ⟨op, (effects.respond op choice state).1⟩ ::
        advanceCalls effects (resume (effects.respond op choice state).1) rest
          (effects.respond op choice state).2
  | _, _, _ => []

/-- The reply is one the effects give to the call. -/
def Answered (effects : Effects σ ε S C) (call : Event σ ε) : Prop :=
  ∃ choice state, call.reply = (effects.respond call.op choice state).1

theorem answered_of_mem_advanceCalls {effects : Effects σ ε S C} {program : Co σ ε α}
    {choices : List C} {state : S} {call : Event σ ε}
    (hcall : call ∈ advanceCalls effects program choices state) : Answered effects call := by
  induction program generalizing choices state with
  | ret value => cases hcall
  | raise error => cases hcall
  | call op resume ih =>
      cases choices with
      | nil => cases hcall
      | cons choice rest =>
          unfold advanceCalls at hcall
          split at hcall
          · cases hcall
          · rcases List.mem_cons.mp hcall with rfl | hlater
            · exact ⟨choice, state, rfl⟩
            · exact ih _ hlater

theorem leads_advance {effects : Effects σ ε S C} {program : Co σ ε α} {choices : List C}
    {state : S} {reached : Co σ ε α × S}
    (hadvance : advance effects program choices state = some reached) :
    program.Leads (advanceCalls effects program choices state) reached.1 := by
  induction program generalizing choices state with
  | ret value =>
      cases choices with
      | nil => cases hadvance; exact .done _
      | cons choice rest => cases hadvance
  | raise error =>
      cases choices with
      | nil => cases hadvance; exact .done _
      | cons choice rest => cases hadvance
  | call op resume ih =>
      unfold advance at hadvance
      split at hadvance
      · cases choices with
        | nil => cases hadvance; exact .done _
        | cons choice rest => cases hadvance
      · rename_i hawaits
        cases choices with
        | nil => cases hadvance
        | cons choice rest =>
            unfold advanceCalls
            rw [if_neg hawaits]
            exact .call op resume _ (ih _ hadvance)

namespace PoolSpec

/-- The calls of a move, all by the job it runs. -/
def moveCalls (spec : PoolSpec K G σ ε α S C) (state : PoolState K σ ε α S) :
    Move C → List (Event σ ε)
  | .start index choices =>
      match state.jobs[index]? with
      | some ⟨key, .waiting⟩ => advanceCalls spec.effects (spec.program key) choices state.store
      | _ => []
  | .resume index choice choices =>
      match state.jobs[index]? with
      | some ⟨_, .running (.call op resume)⟩ =>
          ⟨op, (spec.effects.respond op choice state.store).1⟩ ::
            advanceCalls spec.effects (resume (spec.effects.respond op choice state.store).1)
              choices (spec.effects.respond op choice state.store).2
      | _ => []

/-- The calls that a run makes for one job. -/
def callsOf (spec : PoolSpec K G σ ε α S C) (index : Nat) :
    PoolState K σ ε α S → List (Move C) → List (Event σ ε)
  | _, [] => []
  | state, move :: moves =>
      (if move.index = index then spec.moveCalls state move else []) ++
        (spec.step state move).elim [] fun next => spec.callsOf index next moves

variable {spec : PoolSpec K G σ ε α S C}

/-- Every call is answered by the effects, as the outside chooses. -/
theorem answered_of_mem_callsOf {index : Nat} {state : PoolState K σ ε α S}
    {moves : List (Move C)} {call : Event σ ε} (hcall : call ∈ spec.callsOf index state moves) :
    Answered spec.effects call := by
  induction moves generalizing state with
  | nil => cases hcall
  | cons move moves ih =>
      rcases List.mem_append.mp hcall with hfirst | hlater
      · split at hfirst
        · unfold moveCalls at hfirst
          split at hfirst
          · split at hfirst
            · exact answered_of_mem_advanceCalls hfirst
            · cases hfirst
          · split at hfirst
            · rcases List.mem_cons.mp hfirst with rfl | hrest
              · exact ⟨_, _, rfl⟩
              · exact answered_of_mem_advanceCalls hrest
            · cases hfirst
        · cases hfirst
      · cases hstep : spec.step state move with
        | none =>
            rw [hstep] at hlater
            cases hlater
        | some next =>
            rw [hstep] at hlater
            exact ih hlater

/-- A move leaves the other jobs where they were. -/
theorem step_of_ne {state next : PoolState K σ ε α S} {move : Move C}
    (hstep : spec.step state move = some next) {index : Nat} (hne : move.index ≠ index) :
    next.jobs[index]? = state.jobs[index]? := by
  rcases step_cases hstep with
    ⟨moved, key, choices, reached, rfl, _, _, _, rfl⟩ |
    ⟨moved, key, op, resume, choice, choices, reached, rfl, _, _, rfl⟩
  · exact place_of_ne state hne key reached
  · exact place_of_ne state hne key reached

/-- A move takes the job it runs on by the calls it makes. -/
theorem ledBy_moved {state next : PoolState K σ ε α S} {move : Move C}
    (hstep : spec.step state move = some next) {calls : List (Event σ ε)}
    (hled : ∀ job, state.jobs[move.index]? = some job →
      job.status.LedBy (spec.program job.key) calls)
    {job : Job K σ ε α} (hjob : next.jobs[move.index]? = some job) :
    job.status.LedBy (spec.program job.key) (calls ++ spec.moveCalls state move) := by
  rcases step_cases hstep with
    ⟨moved, key, choices, reached, rfl, hbefore, _, hadvance, rfl⟩ |
    ⟨moved, key, op, resume, choice, choices, reached, rfl, hbefore, hadvance, rfl⟩
  · cases hjob.symm.trans (place_self key reached hbefore)
    have hnone : calls = [] := hled _ hbefore
    have hcalls : spec.moveCalls state (.start moved choices) =
        advanceCalls spec.effects (spec.program key) choices state.store := by
      simp only [moveCalls, hbefore]
    rw [hnone, hcalls, List.nil_append]
    exact Status.ledBy_ofProgram (leads_advance hadvance)
  · cases hjob.symm.trans (place_self key reached hbefore)
    have hcalls : spec.moveCalls state (.resume moved choice choices) =
        ⟨op, (spec.effects.respond op choice state.store).1⟩ ::
          advanceCalls spec.effects (resume (spec.effects.respond op choice state.store).1)
            choices (spec.effects.respond op choice state.store).2 := by
      simp only [moveCalls, hbefore]
    have hleads : (spec.program key).Leads calls (.call op resume) := hled _ hbefore
    rw [hcalls]
    exact Status.ledBy_ofProgram
      (hleads.append (.call op resume _ (leads_advance hadvance)))

/-- One move takes every job on by the calls it makes for it. -/
theorem ledBy_step {state next : PoolState K σ ε α S} {move : Move C}
    (hstep : spec.step state move = some next) {index : Nat} {calls : List (Event σ ε)}
    (hled : ∀ job, state.jobs[index]? = some job → job.status.LedBy (spec.program job.key) calls)
    {job : Job K σ ε α} (hjob : next.jobs[index]? = some job) :
    job.status.LedBy (spec.program job.key)
      (calls ++ if move.index = index then spec.moveCalls state move else []) := by
  by_cases hindex : move.index = index
  · rw [if_pos hindex]
    subst hindex
    exact ledBy_moved hstep hled hjob
  · rw [if_neg hindex, List.append_nil]
    rw [step_of_ne hstep hindex] at hjob
    exact hled job hjob

/-- So does a run. -/
theorem ledBy_run {state last : PoolState K σ ε α S} {moves : List (Move C)}
    (hrun : spec.run state moves = some last) {index : Nat} {calls : List (Event σ ε)}
    (hled : ∀ job, state.jobs[index]? = some job → job.status.LedBy (spec.program job.key) calls)
    {job : Job K σ ε α} (hjob : last.jobs[index]? = some job) :
    job.status.LedBy (spec.program job.key) (calls ++ spec.callsOf index state moves) := by
  induction moves generalizing state calls with
  | nil =>
      cases hrun
      rw [callsOf, List.append_nil]
      exact hled job hjob
  | cons move moves ih =>
      obtain ⟨next, hstep, hrest⟩ := runFrom_cons_eq_some hrun
      have hnext := ih hrest fun job hnext => ledBy_step hstep hled hnext
      rw [callsOf, hstep, Option.elim_some, ← List.append_assoc]
      exact hnext

/-- The calls a run from the start makes for a job that ends are a whole run of its program. -/
theorem leads_of_finished {keys : List K} {store : S} {moves : List (Move C)}
    {last : PoolState K σ ε α S} (hrun : spec.run (gather keys store) moves = some last)
    {index : Nat} {key : K} {result : Except ε α}
    (hjob : last.jobs[index]? = some ⟨key, .finished result⟩) :
    (spec.program key).Leads (spec.callsOf index (gather keys store) moves)
      (.ofExcept result) := by
  refine @ledBy_run K G _ σ ε α S C spec _ last moves hrun index [] ?_ _ hjob
  intro job hwaiting
  obtain ⟨key, _, rfl⟩ := List.mem_map.mp (List.mem_of_getElem? hwaiting)
  rfl

end PoolSpec

end StockMonitoring.Foundation
