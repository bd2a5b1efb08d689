import StockMonitoring.Foundation.Cleanup

set_option autoImplicit false

/-!
# Foundation: what a program returns among given surroundings

Surroundings say which replies a call may get, and a ghost state keeps what has come of the calls
so far.  A program ensures a postcondition if, whichever of these replies it gets, it returns a
value that meets it or raises; raising needs an excuse, which is one proposition for all errors.
The rules follow the ways to build a program: sequencing, attempts, iteration, retrying.
-/

namespace StockMonitoring.Foundation

variable {σ : Signature} {ε α β γ S : Type}

/-- Which replies a call may get, and what the ghost state is after it. -/
structure Surroundings (σ : Signature) (ε γ : Type) where
  answers : (op : σ.Op) → Reply σ ε op → γ → Prop
  next : (op : σ.Op) → Reply σ ε op → γ → γ

namespace Surroundings

/-- The surroundings as a protocol. -/
def protocol (around : Surroundings σ ε γ) (excused : Prop) (post : α → γ → Prop) :
    Protocol σ ε α γ where
  pre := fun _ _ => True
  answers := around.answers
  next := around.next
  post := fun result reached =>
    (∀ value, result = .ok value → post value reached) ∧ (∀ error, result = .error error → excused)

/-- From this ghost state on the program returns what `post` asks for, or raises with an excuse. -/
def Ensures (around : Surroundings σ ε γ) (excused : Prop) (program : Co σ ε α)
    (post : α → γ → Prop) (ghost : γ) : Prop :=
  program.Obeys (around.protocol excused post) ghost

/-- The handler answers as these surroundings do, and `view` is the ghost state. -/
structure Fits (around : Surroundings σ ε γ) (handler : Handler σ ε S) (view : S → γ) : Prop where
  answers : ∀ op state, around.answers op (handler op state).1 (view state)
  next : ∀ op state,
    view (handler op state).2 = around.next op (handler op state).1 (view state)

variable {around : Surroundings σ ε γ} {excused : Prop} {ghost : γ}

/-! ## The rules -/

theorem ensures_ret {value : α} {post : α → γ → Prop} (hpost : post value ghost) :
    around.Ensures excused (.ret value) post ghost := by
  refine ⟨?_, ?_⟩
  · intro returned hreturned
    cases hreturned
    exact hpost
  · intro error herror
    cases herror

theorem ensures_raise {error : ε} {post : α → γ → Prop} (hexcused : excused) :
    around.Ensures excused (.raise error) post ghost := by
  refine ⟨?_, fun _ _ => hexcused⟩
  intro value hvalue
  cases hvalue

theorem ensures_perform {op : σ.Op} {post : σ.Answer op → γ → Prop}
    (hok : ∀ answer, around.answers op (.ok answer) ghost →
      post answer (around.next op (.ok answer) ghost))
    (herror : ∀ error, around.answers op (.error error) ghost → excused) :
    around.Ensures excused (Co.perform op) post ghost := by
  refine ⟨trivial, fun reply hreply => ?_⟩
  cases reply with
  | ok answer => exact ensures_ret (hok answer hreply)
  | error error => exact ensures_raise (herror error hreply)

/-- An attempt goes on after an error, with the excuse for it. -/
theorem Ensures.attempt {program : Co σ ε α} {next : Except ε α → Co σ ε β}
    {mid : α → γ → Prop} {post : β → γ → Prop}
    (hprogram : around.Ensures excused program mid ghost)
    (hok : ∀ value reached, mid value reached →
      around.Ensures excused (next (.ok value)) post reached)
    (herror : ∀ error reached, excused →
      around.Ensures excused (next (.error error)) post reached) :
    around.Ensures excused (program.attempt next) post ghost := by
  refine Co.obeys_attempt (Co.obeys_post ?_ hprogram)
  intro result reached hresult
  obtain ⟨hvalue, hraised⟩ := hresult
  cases result with
  | ok value => exact hok value reached (hvalue value rfl)
  | error error => exact herror error reached (hraised error rfl)

theorem Ensures.mono {program : Co σ ε α} {post weaker : α → γ → Prop}
    (hprogram : around.Ensures excused program post ghost)
    (hweaker : ∀ value reached, post value reached → weaker value reached) :
    around.Ensures excused program weaker ghost :=
  Co.obeys_post (fun _ reached hpost =>
    ⟨fun value hvalue => hweaker value reached (hpost.1 value hvalue), hpost.2⟩) hprogram

theorem Ensures.bind {program : Co σ ε α} {next : α → Co σ ε β} {mid : α → γ → Prop}
    {post : β → γ → Prop} (hprogram : around.Ensures excused program mid ghost)
    (hnext : ∀ value reached, mid value reached →
      around.Ensures excused (next value) post reached) :
    around.Ensures excused (program >>= next) post ghost := by
  rw [Co.bind_eq_attempt]
  exact hprogram.attempt hnext fun _ _ hexcused => ensures_raise hexcused

theorem Ensures.map {program : Co σ ε α} {f : α → β} {post : β → γ → Prop}
    (hprogram : around.Ensures excused program (fun value => post (f value)) ghost) :
    around.Ensures excused (f <$> program) post ghost := by
  rw [map_eq_pure_bind]
  exact hprogram.bind fun _ _ hpost => ensures_ret hpost

/-- The rule for iteration: what holds before each item holds after it, and each result is
related to its item. -/
theorem ensures_mapM {item : α → Co σ ε β} {keeps : γ → Prop} {related : α → β → Prop}
    (values : List α)
    (hitem : ∀ value ∈ values, ∀ reached, keeps reached → around.Ensures excused (item value)
      (fun result after => keeps after ∧ related value result) reached)
    (hkeeps : keeps ghost) :
    around.Ensures excused (values.mapM item)
      (fun results after => keeps after ∧ List.Forall₂ related values results) ghost := by
  induction values generalizing ghost with
  | nil =>
      rw [List.mapM_nil]
      exact ensures_ret ⟨hkeeps, .nil⟩
  | cons value values ih =>
      rw [List.mapM_cons]
      refine (hitem value List.mem_cons_self ghost hkeeps).bind fun result reached hresult => ?_
      have hrest := ih (fun other hother => hitem other (List.mem_cons_of_mem _ hother)) hresult.1
      refine hrest.bind fun results after hresults => ?_
      exact ensures_ret ⟨hresults.1, .cons hresult.2 hresults.2⟩

/-- The rule for retrying: nothing is known of the ghost state after an attempt that fails, so
the program has to ensure the postcondition from any. -/
theorem ensures_retry {policy : RetryPolicy σ ε} {program : Co σ ε α} {post : α → γ → Prop}
    (hprogram : ∀ reached, around.Ensures excused program post reached)
    (hpause : ∀ attempt reached,
      around.Ensures excused (policy.pause attempt) (fun _ _ => True) reached)
    (attempts : Nat) : around.Ensures excused (Co.retry policy attempts program) post ghost := by
  have hfrom : ∀ left attempt reached,
      around.Ensures excused (Co.retryFrom policy program attempt left) post reached := by
    intro left
    induction left with
    | zero =>
        intro attempt reached
        rw [Co.retryFrom]
        refine (hprogram reached).attempt (fun value after hpost => ensures_ret hpost) ?_
        intro error after hexcused
        dsimp only
        split
        · exact ensures_raise hexcused
        · exact ensures_raise hexcused
    | succ left ih =>
        intro attempt reached
        rw [Co.retryFrom]
        refine (hprogram reached).attempt (fun value after hpost => ensures_ret hpost) ?_
        intro error after hexcused
        dsimp only
        split
        · exact (hpause attempt after).bind fun _ later _ => ih (attempt + 1) later
        · exact ensures_raise hexcused
  exact hfrom attempts 1 ghost

/-! ## Runs -/

/-- A run among the surroundings ends as the program ensures. -/
theorem Ensures.exec {handler : Handler σ ε S} {view : S → γ} (hfits : around.Fits handler view)
    {program : Co σ ε α} {post : α → γ → Prop} {state : S}
    (hprogram : around.Ensures excused program post (view state)) :
    (∀ value, (Co.exec handler program state).result = .ok value →
      post value (view (Co.exec handler program state).state)) ∧
      ∀ error, (Co.exec handler program state).result = .error error → excused := by
  have hends := @Co.exec_obeys σ ε α γ (around.protocol excused post) S handler
    (fun ghost reached => view reached = ghost) ?_ program (view state) state hprogram rfl
  · obtain ⟨reached, hpost, hreached⟩ := hends
    rw [hreached]
    exact hpost
  · rintro op ghost reached rfl -
    exact ⟨hfits.answers op reached, hfits.next op reached⟩

end Surroundings

end StockMonitoring.Foundation
