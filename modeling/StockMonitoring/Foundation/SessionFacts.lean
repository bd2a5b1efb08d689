import StockMonitoring.Foundation.SessionRuns

set_option autoImplicit false

/-!
# Foundation: what a session has read

A session reads a row and acts on what it has read, while others commit.  What it has read
of an attribute that no write changes stays true as long as the row is there: another row
under the same key would have to come from a session that has drawn the key, and the key
was taken when it was read (`Lasting.along_known`).
-/

namespace StockMonitoring.Foundation

open SessionSpec

variable {K : Type} {σ : Signature} {ε α S W C O : Type} {spec : SessionSpec K σ ε α S W C O}

/-! ## A fact of each session -/

/-- What every call and every end keeps of a session, whatever is committed, holds of all
sessions of a run. -/
theorem along_own {condition : SessionSystem K σ ε α S W C → SessionMove K C O → Prop}
    (fact : Session K σ ε α W C → Prop) {committed : S} {moves : List (SessionMove K C O)}
    (hopened : ∀ key, .start key ∈ moves → fact (spec.opened key))
    (hcalled : ∀ committed choice session next after, fact session →
      spec.called committed choice session = some (next, after) → fact after)
    (hfinished : ∀ committed session next after, fact session →
      spec.finished committed session = some (next, after) → fact after)
    (halong : Along spec.step condition ⟨committed, []⟩ moves) :
    Along spec.step (fun system move => condition system move ∧
      ∀ session ∈ system.sessions, fact session) ⟨committed, []⟩ moves := by
  have hgeneral : ∀ (later : List (SessionMove K C O)) (system : SessionSystem K σ ε α S W C),
      (∀ key, .start key ∈ later → fact (spec.opened key)) →
      (∀ session ∈ system.sessions, fact session) → Along spec.step condition system later →
      Along spec.step (fun system move => condition system move ∧
        ∀ session ∈ system.sessions, fact session) system later := by
    intro later
    induction later with
    | nil => exact fun _ _ _ _ => trivial
    | cons move later ih =>
        intro system hstarts hfacts halong
        refine ⟨⟨halong.1, hfacts⟩, ?_⟩
        intro next hstep
        refine ih next (fun key hkey => hstarts key (List.mem_cons_of_mem _ hkey)) ?_
          (halong.2 next hstep)
        have hput : ∀ (index : Nat) (moved : S × Session K σ ε α W C), fact moved.2 →
            ∀ session ∈ (put system index moved).sessions, fact session := by
          intro index moved hmoved session hsession
          rcases List.mem_or_eq_of_mem_set hsession with hold | rfl
          · exact hfacts session hold
          · exact hmoved
        cases move with
        | outside change =>
            cases hstep
            exact hfacts
        | start key =>
            cases hstep
            intro session hsession
            rcases List.mem_append.mp hsession with hold | hnew
            · exact hfacts session hold
            · rw [List.mem_singleton.mp hnew]
              exact hstarts key List.mem_cons_self
        | call index choice =>
            obtain ⟨session, hsession, hcall⟩ := Option.bind_eq_some_iff.mp hstep
            obtain ⟨moved, hmoved, rfl⟩ := Option.map_eq_some_iff.mp hcall
            exact hput index moved (hcalled _ _ _ _ _
              (hfacts session (List.mem_of_getElem? hsession)) hmoved)
        | finish index =>
            obtain ⟨session, hsession, hfinish⟩ := Option.bind_eq_some_iff.mp hstep
            obtain ⟨moved, hmoved, rfl⟩ := Option.map_eq_some_iff.mp hfinish
            exact hput index moved (hfinished _ _ _ _
              (hfacts session (List.mem_of_getElem? hsession)) hmoved)
  exact hgeneral moves ⟨committed, []⟩ hopened (fun session hsession => by cases hsession) halong

/-! ## Attributes -/

/-- Something about the rows under the keys of a sequence that no session changes, and what
the sessions learn of it from their calls. -/
structure Lasting (sequence : Sequence spec) (fact : Session K σ ε α W C → Prop)
    (A : Type) where
  /-- the row with this key, if there is one, has this attribute -/
  Says : S → Nat → A → Prop
  /-- what an answered call tells -/
  tells : Event σ ε → Nat → A → Prop
  outside : ∀ change committed key value, key < sequence.next committed →
    Says committed key value → Says (spec.outside change committed) key value
  respond : ∀ op choice committed work reply after left,
    spec.respond op choice committed work = (reply, after, left) →
      ∀ key value, Says committed key value → Says after key value
  commit : ∀ committed work after, spec.commit committed work = .ok after →
    ∀ key value, key ∉ sequence.drawn work → Says committed key value → Says after key value
  told : ∀ committed choice session op resume reply after left, fact session →
    session.program = .call op resume →
    spec.respond op choice committed session.work = (reply, after, left) →
      ∀ key value, tells ⟨op, reply⟩ key value →
        sequence.Taken committed key ∧ Says committed key value

namespace Lasting

variable {sequence : Sequence spec} {fact : Session K σ ε α W C → Prop} {A : Type}
  (lasting : Lasting sequence fact A)

/-- A call of the session has told this. -/
def Learned (session : Session K σ ε α W C) (key : Nat) (value : A) : Prop :=
  ∃ call ∈ session.calls, lasting.tells call.2 key value

/-- What a session has learned is still so. -/
def Known (committed : S) (session : Session K σ ε α W C) : Prop :=
  ∀ key value, lasting.Learned session key value →
    key < sequence.next committed ∧ key ∉ sequence.drawn session.work ∧
      lasting.Says committed key value

/-- No other session in progress has drawn the key of a row that a session has read. -/
def Apart (session other : Session K σ ε α W C) : Prop :=
  ∀ key value, lasting.Learned session key value → other.InProgress →
    key ∉ sequence.drawn other.work

variable {lasting}

/-- What a session has learned after a call. -/
theorem learned_of_called {committed next : S} {choice : C} {session after : Session K σ ε α W C}
    {key : Nat} {value : A} (hfact : fact session)
    (hcalled : spec.called committed choice session = some (next, after))
    (hlearned : lasting.Learned after key value) :
    lasting.Learned session key value ∨
      sequence.Taken committed key ∧ lasting.Says committed key value := by
  obtain ⟨op, resume, reply, work, _, hprogram, hrespond, rfl⟩ := called_cases hcalled
  obtain ⟨call, hcall, htells⟩ := hlearned
  rcases List.mem_append.mp hcall with hold | hnew
  · exact Or.inl ⟨call, hold, htells⟩
  · rw [List.mem_singleton.mp hnew] at htells
    exact Or.inr (lasting.told _ _ _ _ _ _ _ _ hfact hprogram hrespond key value htells)

/-- What the sessions have learned stays so while drawn keys are free. -/
def guarantee (lasting : Lasting sequence fact A) : Guarantee spec fun system _ =>
    sequence.guarantee.Holds system ∧ ∀ session ∈ system.sessions, fact session where
  holds _ := True
  single := lasting.Known
  pair := lasting.Apart
  outside := by
    intro change committed _
    refine ⟨trivial, ?_⟩
    intro session hknown key value hlearned
    obtain ⟨hlt, hown, hsaid⟩ := hknown key value hlearned
    exact ⟨Nat.lt_of_lt_of_le hlt (sequence.outside change committed).1, hown,
      lasting.outside _ _ _ _ hlt hsaid⟩
  single_opened committed key _ := by
    rintro id value ⟨call, hcall, _⟩
    cases hcall
  pair_opened key other := by
    constructor
    · rintro id value ⟨call, hcall, _⟩
      cases hcall
    · intro id value _ _ hdrawn
      change id ∈ sequence.drawn spec.fresh at hdrawn
      rw [sequence.fresh] at hdrawn
      cases hdrawn
  called := by
    intro system index choice session next after hcondition hsession _ hknown hcalled
    obtain ⟨hkeys, hfacts⟩ := hcondition
    have hmem := List.mem_of_getElem? hsession
    have hfree : ∀ other ∈ system.sessions, other.InProgress →
        ∀ key ∈ sequence.drawn other.work, ¬ sequence.Taken system.committed key :=
      fun other hother hgoes key hkey => (hkeys.single other hother key hkey).2 hgoes
    obtain ⟨op, resume, reply, work, hprogress, _, hrespond, hafter⟩ := called_cases hcalled
    have hprogress' : session.InProgress := hprogress
    obtain ⟨hnext, hnew, _⟩ := sequence.respond _ _ _ _ _ _ _ hrespond
    have hwork : after.work = work := by rw [hafter]
    have hsaid : ∀ key value, lasting.Says system.committed key value →
        lasting.Says next key value := lasting.respond _ _ _ _ _ _ _ hrespond
    refine ⟨trivial, ?_, ?_⟩
    · intro key value hlearned
      rw [hwork]
      -- a key drawn now lies past every key that is in use
      have hdrawn : ∀ {key}, key < sequence.next system.committed →
          key ∉ sequence.drawn session.work → key ∉ sequence.drawn work := by
        intro key hlt hold hused
        rcases hnew key hused with hmine | ⟨hle, _⟩
        · exact hold hmine
        · exact absurd hlt (Nat.not_lt.mpr hle)
      rcases learned_of_called (hfacts session hmem) hcalled hlearned with hold | ⟨hused, hnow⟩
      · obtain ⟨hlt, hown, hstill⟩ := hknown key value hold
        exact ⟨Nat.lt_of_lt_of_le hlt hnext, hdrawn hlt hown, hsaid key value hstill⟩
      · have hlt := hkeys.committed key hused
        refine ⟨Nat.lt_of_lt_of_le hlt hnext, hdrawn hlt ?_, hsaid key value hnow⟩
        exact fun hmine => hfree session hmem hprogress' key hmine hused
    · intro position other _ hother hotherKnown hpair hreverse
      refine ⟨?_, ?_, ?_⟩
      · intro key value hlearned
        obtain ⟨hlt, hown, hstill⟩ := hotherKnown key value hlearned
        exact ⟨Nat.lt_of_lt_of_le hlt hnext, hown, hsaid key value hstill⟩
      · intro key value hlearned hgoes
        rcases learned_of_called (hfacts session hmem) hcalled hlearned with hold | ⟨hused, _⟩
        · exact hpair key value hold hgoes
        · exact fun hdrawn => hfree other (List.mem_of_getElem? hother) hgoes key hdrawn hused
      · intro key value hlearned _
        rw [hwork]
        intro hdrawn
        rcases hnew key hdrawn with hold | ⟨hle, _⟩
        · exact hreverse key value hlearned hprogress' hold
        · exact absurd (hotherKnown key value hlearned).1 (Nat.not_lt.mpr hle)
  finished := by
    intro system index session next after _ _ _ hknown hfinished
    have hended := ended_of_finished hfinished
    obtain ⟨hprogress, ⟨result, _, hcommit, rfl⟩ | ⟨error, _, rfl, rfl⟩⟩ :=
      finished_cases hfinished
    · have hprogress' : session.InProgress := hprogress
      have hnext := (sequence.commit _ _ _ hcommit).1
      refine ⟨trivial, ?_, ?_⟩
      · intro key value hlearned
        obtain ⟨hlt, hown, hsaid⟩ := hknown key value hlearned
        exact ⟨Nat.lt_of_lt_of_le hlt hnext, hown, lasting.commit _ _ _ hcommit _ _ hown hsaid⟩
      · intro position other _ _ hotherKnown hpair hreverse
        refine ⟨?_, hpair, fun _ _ _ hgoes => absurd hgoes hended⟩
        intro key value hlearned
        obtain ⟨hlt, hown, hsaid⟩ := hotherKnown key value hlearned
        exact ⟨Nat.lt_of_lt_of_le hlt hnext, hown, lasting.commit _ _ _ hcommit _ _
          (hreverse key value hlearned hprogress') hsaid⟩
    · exact ⟨trivial, hknown, fun position other _ _ hotherKnown hpair _ =>
        ⟨hotherKnown, hpair, fun _ _ _ hgoes => absurd hgoes hended⟩⟩

/-- In a run from a state whose keys are behind the sequence, what the sessions have learned is
still so at every move. -/
theorem along_known (lasting : Lasting sequence fact A)
    {condition : SessionSystem K σ ε α S W C → SessionMove K C O → Prop}
    {committed : S} {moves : List (SessionMove K C O)}
    (hbehind : ∀ key, sequence.Taken committed key → key < sequence.next committed)
    (halong : Along spec.step (fun system move => condition system move ∧
      ∀ session ∈ system.sessions, fact session) ⟨committed, []⟩ moves) :
    Along spec.step (fun system move => condition system move ∧
      ∀ session ∈ system.sessions, lasting.Known system.committed session)
      ⟨committed, []⟩ moves := by
  refine halong.of_invariant
    (fun system => sequence.guarantee.Holds system ∧ lasting.guarantee.Holds system) ?_ ?_
    ⟨sequence.guarantee.holds_start hbehind, lasting.guarantee.holds_start trivial⟩
  · rintro system move next ⟨hkeys, hholds⟩ ⟨_, hfacts⟩ hstep
    exact ⟨Guarantee.holds_step hkeys trivial hstep,
      Guarantee.holds_step hholds ⟨hkeys, hfacts⟩ hstep⟩
  · rintro system move ⟨_, hholds⟩ ⟨hcondition, _⟩
    exact ⟨hcondition, hholds.single⟩

end Lasting

end StockMonitoring.Foundation
