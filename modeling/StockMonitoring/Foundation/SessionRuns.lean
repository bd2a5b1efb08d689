import StockMonitoring.Foundation.Sessions

set_option autoImplicit false

/-!
# Foundation: runs of sessions

What every run of sessions has in common: an ended session stays as it is and has ended by
one move of the run, and a key that a session has drawn from a sequence is free until that
session commits (`along_free`).
-/

namespace StockMonitoring.Foundation

open SessionSpec

variable {K : Type} {σ : Signature} {ε α S W C O : Type} {spec : SessionSpec K σ ε α S W C O}

/-! ## One call -/

section Calls

variable {committed next : S} {choice : C} {session after : Session K σ ε α W C}

/-- A call at the head of a session's program. -/
theorem called_perform {op : σ.Op} {rest : σ.Answer op → Co σ ε α}
    (hprogram : session.program = Co.perform op >>= rest)
    (hcalled : spec.called committed choice session = some (next, after)) :
    ∃ reply work, spec.respond op choice committed session.work = (reply, next, work) ∧
      after = { session with
        program := match reply with
          | .ok answer => rest answer
          | .error error => .raise error
        work := work
        calls := session.calls ++ [(choice, ⟨op, reply⟩)] } := by
  obtain ⟨op', resume, reply, work, _, hcall, hrespond, rfl⟩ := called_cases hcalled
  rw [hprogram] at hcall
  cases hcall
  refine ⟨reply, work, hrespond, ?_⟩
  cases reply <;> rfl

/-- A program that has nothing to call does not call. -/
theorem not_called_of_ended (hended : ¬ session.InProgress) :
    spec.called committed choice session = none := by
  cases hcalled : spec.called committed choice session with
  | none => rfl
  | some result =>
      obtain ⟨_, _, _, _, hprogress, _⟩ := called_cases hcalled
      exact absurd hprogress hended

/-- A session does not end twice. -/
theorem not_finished_of_ended (hended : ¬ session.InProgress) :
    spec.finished committed session = none := by
  cases hfinished : spec.finished committed session with
  | none => rfl
  | some result => exact absurd (finished_cases hfinished).1 hended

/-- A session that ends has ended. -/
theorem ended_of_finished (hfinished : spec.finished committed session = some (next, after)) :
    ¬ after.InProgress := by
  obtain ⟨_, ⟨value, _, _, rfl⟩ | ⟨error, _, _, rfl⟩⟩ := finished_cases hfinished <;>
    exact nofun

end Calls

/-! ## What has ended -/

section Ended

variable {system last : SessionSystem K σ ε α S W C} {moves : List (SessionMove K C O)}
  {index : Nat} {session : Session K σ ε α W C}

/-- A session that has ended stays as it is, whatever moves. -/
theorem step_ended {next : SessionSystem K σ ε α S W C} {move : SessionMove K C O}
    (hsession : system.sessions[index]? = some session) (hended : ¬ session.InProgress)
    (hstep : spec.step system move = some next) :
    next.sessions[index]? = some session ∧ move ≠ .finish index := by
  have hput : ∀ (position : Nat) (moved : S × Session K σ ε α W C), position ≠ index →
      (put system position moved).sessions[index]? = some session := by
    intro position moved hne
    simp only [put, List.getElem?_set, if_neg hne, hsession]
  cases move with
  | outside change =>
      cases hstep
      exact ⟨hsession, fun hmove => by cases hmove⟩
  | start key =>
      cases hstep
      have hlt : index < system.sessions.length := (List.getElem?_eq_some_iff.mp hsession).1
      exact ⟨(List.getElem?_append_left hlt).trans hsession, fun hmove => by cases hmove⟩
  | call position choice =>
      obtain ⟨other, hother, hcall⟩ := Option.bind_eq_some_iff.mp hstep
      obtain ⟨moved, hcalled, rfl⟩ := Option.map_eq_some_iff.mp hcall
      refine ⟨hput position moved ?_, fun hmove => by cases hmove⟩
      rintro rfl
      obtain rfl := Option.some.inj (hother.symm.trans hsession)
      rw [not_called_of_ended hended] at hcalled
      cases hcalled
  | finish position =>
      obtain ⟨other, hother, hfinish⟩ := Option.bind_eq_some_iff.mp hstep
      obtain ⟨moved, hfinished, rfl⟩ := Option.map_eq_some_iff.mp hfinish
      have hne : position ≠ index := by
        rintro rfl
        obtain rfl := Option.some.inj (hother.symm.trans hsession)
        rw [not_finished_of_ended hended] at hfinished
        cases hfinished
      refine ⟨hput position moved hne, ?_⟩
      rintro ⟨⟩
      exact hne rfl

/-- It stays through a run, which does not end it again. -/
theorem run_ended (hsession : system.sessions[index]? = some session)
    (hended : ¬ session.InProgress) (hrun : runFrom spec.step system moves = some last) :
    last.sessions[index]? = some session ∧ .finish index ∉ moves := by
  induction moves generalizing system with
  | nil =>
      cases hrun
      exact ⟨hsession, nofun⟩
  | cons move later ih =>
      obtain ⟨next, hstep, hlater⟩ := runFrom_cons_eq_some hrun
      obtain ⟨hstays, hne⟩ := step_ended hsession hended hstep
      obtain ⟨hlast, hnone⟩ := ih hstays hlater
      refine ⟨hlast, ?_⟩
      intro hmem
      rcases List.mem_cons.mp hmem with rfl | hmem
      · exact hne rfl
      · exact hnone hmem

/-- The move that ends a session leaves it ended. -/
theorem ended_of_step {next : SessionSystem K σ ε α S W C}
    (hstep : spec.step system (.finish index) = some next) :
    ∃ session, next.sessions[index]? = some session ∧ ¬ session.InProgress := by
  obtain ⟨other, hother, hfinish⟩ := Option.bind_eq_some_iff.mp hstep
  obtain ⟨⟨committed, after⟩, hfinished, rfl⟩ := Option.map_eq_some_iff.mp hfinish
  refine ⟨after, ?_, ended_of_finished hfinished⟩
  have hlt : index < system.sessions.length := (List.getElem?_eq_some_iff.mp hother).1
  simp [put, hlt]

/-- Each move that ends a session has left it ended. -/
theorem ended_of_finish_mem (hrun : runFrom spec.step system moves = some last)
    (hmem : .finish index ∈ moves) :
    ∃ session, last.sessions[index]? = some session ∧ ¬ session.InProgress := by
  induction moves generalizing system with
  | nil => cases hmem
  | cons move later ih =>
      obtain ⟨next, hstep, hlater⟩ := runFrom_cons_eq_some hrun
      rcases List.mem_cons.mp hmem with rfl | hmem
      · obtain ⟨session, hsession, hended⟩ := ended_of_step hstep
        exact ⟨session, (run_ended hsession hended hlater).1, hended⟩
      · exact ih hlater hmem

/-- A session that is ended after a step was ended before it, or the step has ended it. -/
theorem ended_before_step {next : SessionSystem K σ ε α S W C} {move : SessionMove K C O}
    (hstep : spec.step system move = some next) (hsession : next.sessions[index]? = some session)
    (hended : ¬ session.InProgress) :
    system.sessions[index]? = some session ∨ move = .finish index := by
  cases move with
  | outside change =>
      cases hstep
      exact Or.inl hsession
  | start key =>
      cases hstep
      rcases getElem?_concat_cases hsession with hold | ⟨_, rfl⟩
      · exact Or.inl hold
      · exact absurd rfl hended
  | call position choice =>
      obtain ⟨other, hother, hcall⟩ := Option.bind_eq_some_iff.mp hstep
      obtain ⟨⟨committed, after⟩, hcalled, rfl⟩ := Option.map_eq_some_iff.mp hcall
      simp only [put, List.getElem?_set] at hsession
      split at hsession
      · split at hsession
        · cases hsession
          obtain ⟨_, _, _, _, hprogress, _, _, rfl⟩ := called_cases hcalled
          exact absurd hprogress hended
        · cases hsession
      · exact Or.inl hsession
  | finish position =>
      obtain ⟨other, hother, hfinish⟩ := Option.bind_eq_some_iff.mp hstep
      obtain ⟨moved, hfinished, rfl⟩ := Option.map_eq_some_iff.mp hfinish
      by_cases hposition : position = index
      · exact Or.inr (congrArg _ hposition)
      · simp only [put, List.getElem?_set, if_neg hposition] at hsession
        exact Or.inl hsession

/-- A session that has ended had ended before the run, or a move of the run has ended it. -/
theorem finish_mem_of_ended (hrun : runFrom spec.step system moves = some last)
    (hsession : last.sessions[index]? = some session) (hended : ¬ session.InProgress) :
    system.sessions[index]? = some session ∨ .finish index ∈ moves := by
  induction moves generalizing system with
  | nil =>
      cases hrun
      exact Or.inl hsession
  | cons move later ih =>
      obtain ⟨next, hstep, hlater⟩ := runFrom_cons_eq_some hrun
      rcases ih hlater with hnext | hmem
      · rcases ended_before_step hstep hnext hended with hold | rfl
        · exact Or.inl hold
        · exact Or.inr List.mem_cons_self
      · exact Or.inr (List.mem_cons_of_mem _ hmem)

end Ended

/-! ## Keys drawn from a sequence -/

/-- The keys that sessions draw from a sequence while they run, and take when they commit. -/
structure Sequence (spec : SessionSpec K σ ε α S W C O) where
  /-- the keys a session has drawn -/
  drawn : W → List Nat
  /-- the next key of the sequence -/
  next : S → Nat
  /-- the key is in use -/
  Taken : S → Nat → Prop
  fresh : drawn spec.fresh = []
  outside : ∀ change committed, next committed ≤ next (spec.outside change committed) ∧
    ∀ key, Taken (spec.outside change committed) key → Taken committed key
  respond : ∀ op choice committed work reply after left,
    spec.respond op choice committed work = (reply, after, left) →
      next committed ≤ next after ∧
        (∀ key ∈ drawn left, key ∈ drawn work ∨ next committed ≤ key ∧ key < next after) ∧
          ∀ key, Taken after key → Taken committed key
  commit : ∀ committed work after, spec.commit committed work = .ok after →
    next committed ≤ next after ∧ ∀ key, Taken after key → Taken committed key ∨ key ∈ drawn work

namespace Sequence

variable (sequence : Sequence spec)

/-- A drawn key is behind the sequence, and free while its session is in progress. -/
def Drawn (committed : S) (session : Session K σ ε α W C) : Prop :=
  ∀ key ∈ sequence.drawn session.work, key < sequence.next committed ∧
    (session.InProgress → ¬ sequence.Taken committed key)

/-- No two sessions have drawn one key. -/
def guarantee : Guarantee spec fun _ _ => True where
  holds committed := ∀ key, sequence.Taken committed key → key < sequence.next committed
  single := sequence.Drawn
  pair session other :=
    ∀ key ∈ sequence.drawn session.work, key ∉ sequence.drawn other.work
  outside := by
    intro change committed hholds
    obtain ⟨hnext, htaken⟩ := sequence.outside change committed
    refine ⟨fun key hkey => Nat.lt_of_lt_of_le (hholds key (htaken key hkey)) hnext, ?_⟩
    intro session hdrawn key hkey
    obtain ⟨hlt, hfree⟩ := hdrawn key hkey
    exact ⟨Nat.lt_of_lt_of_le hlt hnext, fun hprogress hused =>
      hfree hprogress (htaken key hused)⟩
  single_opened committed key _ := by
    intro id hid
    change id ∈ sequence.drawn spec.fresh at hid
    rw [sequence.fresh] at hid
    cases hid
  pair_opened key other := by
    have hnone : ∀ id, id ∉ sequence.drawn (spec.opened key).work := by
      intro id hid
      change id ∈ sequence.drawn spec.fresh at hid
      rw [sequence.fresh] at hid
      cases hid
    exact ⟨fun id hid => absurd hid (hnone id), fun id _ => hnone id⟩
  called := by
    intro system index choice session next after _ _ hholds hdrawn hcalled
    obtain ⟨op, resume, reply, work, hprogress, _, hrespond, rfl⟩ := called_cases hcalled
    obtain ⟨hnext, hnew, htaken⟩ := sequence.respond _ _ _ _ _ _ _ hrespond
    refine ⟨fun key hkey => Nat.lt_of_lt_of_le (hholds key (htaken key hkey)) hnext, ?_, ?_⟩
    · intro key hkey
      rcases hnew key hkey with hold | ⟨hle, hlt⟩
      · obtain ⟨hlt, hfree⟩ := hdrawn key hold
        exact ⟨Nat.lt_of_lt_of_le hlt hnext, fun _ hused => hfree hprogress (htaken key hused)⟩
      · exact ⟨hlt, fun _ hused => absurd (hholds key (htaken key hused)) (Nat.not_lt.mpr hle)⟩
    · intro position other _ _ hother hpair hreverse
      -- what the others have drawn lies behind what is drawn now
      have hapart : ∀ key ∈ sequence.drawn work, key ∉ sequence.drawn other.work := by
        intro key hkey hused
        rcases hnew key hkey with hold | ⟨hle, _⟩
        · exact hpair key hold hused
        · exact absurd (hother key hused).1 (Nat.not_lt.mpr hle)
      refine ⟨?_, hapart, fun key hkey hused => hapart key hused hkey⟩
      intro key hkey
      obtain ⟨hlt, hfree⟩ := hother key hkey
      exact ⟨Nat.lt_of_lt_of_le hlt hnext, fun hgoes hused => hfree hgoes (htaken key hused)⟩
  finished := by
    intro system index session next after _ _ hholds hdrawn hfinished
    have hended := ended_of_finished hfinished
    obtain ⟨hprogress, ⟨value, _, hcommit, rfl⟩ | ⟨error, _, rfl, rfl⟩⟩ := finished_cases hfinished
    · obtain ⟨hnext, htaken⟩ := sequence.commit _ _ _ hcommit
      refine ⟨?_, ?_, ?_⟩
      · intro key hkey
        rcases htaken key hkey with hold | hnew
        · exact Nat.lt_of_lt_of_le (hholds key hold) hnext
        · exact Nat.lt_of_lt_of_le (hdrawn key hnew).1 hnext
      · exact fun key hkey => ⟨Nat.lt_of_lt_of_le (hdrawn key hkey).1 hnext,
          fun hgoes => absurd hgoes hended⟩
      · intro position other _ _ hother hpair hreverse
        refine ⟨?_, hpair, hreverse⟩
        intro key hkey
        obtain ⟨hlt, hfree⟩ := hother key hkey
        refine ⟨Nat.lt_of_lt_of_le hlt hnext, fun hgoes hused => ?_⟩
        rcases htaken key hused with hold | hnew
        · exact hfree hgoes hold
        · exact hpair key hnew hkey
    · refine ⟨hholds, ?_, fun position other _ _ hother hpair hreverse => ⟨hother, hpair, hreverse⟩⟩
      exact fun key hkey => ⟨(hdrawn key hkey).1, fun hgoes => absurd hgoes hended⟩

/-- The keys that a session in progress has drawn are free. -/
def Free (system : SessionSystem K σ ε α S W C) : Prop :=
  ∀ session ∈ system.sessions, session.InProgress →
    ∀ key ∈ sequence.drawn session.work, ¬ sequence.Taken system.committed key

/-- In a run that meets a condition, the drawn keys are free besides. -/
theorem along_free {condition : SessionSystem K σ ε α S W C → SessionMove K C O → Prop}
    {committed : S} {moves : List (SessionMove K C O)}
    (hbehind : ∀ key, sequence.Taken committed key → key < sequence.next committed)
    (halong : Along spec.step condition ⟨committed, []⟩ moves) :
    Along spec.step (fun system move => condition system move ∧ sequence.Free system)
      ⟨committed, []⟩ moves := by
  refine halong.of_invariant sequence.guarantee.Holds ?_ ?_
    (sequence.guarantee.holds_start hbehind)
  · intro system move next hholds _ hstep
    exact Guarantee.holds_step hholds trivial hstep
  · intro system move hholds hcondition
    refine ⟨hcondition, ?_⟩
    intro session hsession hprogress key hkey
    exact (hholds.single session hsession key hkey).2 hprogress

end Sequence

end StockMonitoring.Foundation
