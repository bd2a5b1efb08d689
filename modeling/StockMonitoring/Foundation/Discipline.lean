import StockMonitoring.Foundation.Pool
import Mathlib.Data.List.Pairwise

set_option autoImplicit false

/-!
# Foundation: invariants of a pool, call by call

Two facts about every run of a pool.

* At most `limit` jobs of a group are in progress (`inProgress_run`).
* A `Discipline` gives every job a protocol and an assertion about the shared
  state.  Each call must keep the global invariant, the caller's assertion and
  the assertions of the jobs that can be in progress beside it.  Then every
  reachable state is sound: each suspended program still keeps to its protocol,
  and each ended job left what its protocol promises (`Discipline.sound_run`).
-/

namespace StockMonitoring.Foundation

variable {K G : Type} {σ : Signature} {ε α S C γ : Type}

namespace PoolSpec

variable [DecidableEq G] {spec : PoolSpec K G σ ε α S C}

/-! ## The semaphore -/

/-- Placing a job adds at most one to a count. -/
theorem inProgress_place_le (spec : PoolSpec K G σ ε α S C) {state : PoolState K σ ε α S}
    {index : Nat} {key : K} {status : Status σ ε α} (hjob : state.jobs[index]? = some ⟨key, status⟩)
    (reached : Co σ ε α × S) (group : G) :
    spec.inProgress (place state index key reached).jobs group ≤
      spec.inProgress state.jobs group + 1 := by
  obtain ⟨hlt, heq⟩ := List.getElem?_eq_some_iff.mp hjob
  unfold inProgress place
  rw [List.countP_set hlt]
  split <;> split <;> omega

/-- It adds none when the job was counted before, or belongs to another group. -/
theorem inProgress_place_le_self (spec : PoolSpec K G σ ε α S C) {state : PoolState K σ ε α S}
    {index : Nat} {key : K} {status : Status σ ε α} (hjob : state.jobs[index]? = some ⟨key, status⟩)
    (reached : Co σ ε α × S) {group : G}
    (hcounted : spec.group key = group → status.isRunning = true) :
    spec.inProgress (place state index key reached).jobs group ≤
      spec.inProgress state.jobs group := by
  obtain ⟨hlt, heq⟩ := List.getElem?_eq_some_iff.mp hjob
  unfold inProgress place
  rw [List.countP_set hlt, heq]
  by_cases hgroup : spec.group key = group
  · have hrunning := hcounted hgroup
    have hpos : 0 < state.jobs.countP fun job =>
        job.status.isRunning && decide (spec.group job.key = group) :=
      List.countP_pos_iff.mpr ⟨_, List.mem_of_getElem? hjob, by simp [hrunning, hgroup]⟩
    simp only [hrunning, hgroup, decide_true, Bool.and_self, if_true]
    split <;> omega
  · simp [hgroup]

theorem inProgress_step {state next : PoolState K σ ε α S} {move : Move C}
    (hstate : ∀ group, spec.inProgress state.jobs group ≤ spec.limit)
    (hstep : spec.step state move = some next) (group : G) :
    spec.inProgress next.jobs group ≤ spec.limit := by
  have hgroup := hstate group
  rcases step_cases hstep with
    ⟨index, key, choices, reached, _, hjob, hroom, _, rfl⟩ |
    ⟨index, key, op, resume, choice, choices, reached, _, hjob, _, rfl⟩
  · by_cases hsame : spec.group key = group
    · have hle := inProgress_place_le spec hjob reached group
      rw [hsame] at hroom
      omega
    · have hle := inProgress_place_le_self spec hjob reached fun h => absurd h hsame
      omega
  · have hcounted : spec.group key = group →
        (Status.running (.call op resume) : Status σ ε α).isRunning = true := fun _ => rfl
    have hle := inProgress_place_le_self spec hjob reached hcounted
    omega

theorem inProgress_gather (keys : List K) (store : S) (group : G) :
    spec.inProgress (gather keys store : PoolState K σ ε α S).jobs group = 0 := by
  unfold inProgress gather
  rw [List.countP_eq_zero]
  intro job hjob
  obtain ⟨key, _, rfl⟩ := List.mem_map.mp hjob
  simp [Status.isRunning]

theorem inProgress_run {state last : PoolState K σ ε α S} {moves : List (Move C)}
    (hstate : ∀ group, spec.inProgress state.jobs group ≤ spec.limit)
    (hrun : spec.run state moves = some last) (group : G) :
    spec.inProgress last.jobs group ≤ spec.limit :=
  run_invariant (fun reached => ∀ group, spec.inProgress reached.jobs group ≤ spec.limit)
    (fun _ _ _ hlimit hstep => inProgress_step hlimit hstep) hrun hstate group

/-- The semaphores hold in every run of a `gather`. -/
theorem inProgress_run_gather {keys : List K} {store : S} {last : PoolState K σ ε α S}
    {moves : List (Move C)} (hrun : spec.run (gather keys store) moves = some last) (group : G) :
    spec.inProgress last.jobs group ≤ spec.limit := by
  refine inProgress_run (fun other => ?_) hrun group
  have hnone : spec.inProgress (gather keys store).jobs other = 0 :=
    inProgress_gather keys store other
  omega

/-- Two jobs of one group in progress need a limit of two. -/
theorem one_lt_limit {state : PoolState K σ ε α S} {left right : Nat} {leftKey rightKey : K}
    {leftProgram rightProgram : Co σ ε α}
    (hstate : ∀ group, spec.inProgress state.jobs group ≤ spec.limit) (hne : left ≠ right)
    (hleft : state.jobs[left]? = some ⟨leftKey, .running leftProgram⟩)
    (hright : state.jobs[right]? = some ⟨rightKey, .running rightProgram⟩)
    (hgroup : spec.group leftKey = spec.group rightKey) : 1 < spec.limit := by
  obtain ⟨hlt, heq⟩ := List.getElem?_eq_some_iff.mp hleft
  obtain ⟨hlt', heq'⟩ := List.getElem?_eq_some_iff.mp hright
  let counted : Job K σ ε α → Bool := fun job =>
    job.status.isRunning && decide (spec.group job.key = spec.group leftKey)
  -- without the left job the right one is still counted
  have hothers : 0 < (state.jobs.set left ⟨leftKey, .waiting⟩).countP counted := by
    refine List.countP_pos_iff.mpr ⟨⟨rightKey, .running rightProgram⟩, ?_, ?_⟩
    · have hkept : (state.jobs.set left ⟨leftKey, .waiting⟩)[right]? =
          some ⟨rightKey, .running rightProgram⟩ := by
        rw [List.getElem?_set_ne hne, hright]
      exact List.mem_of_getElem? hkept
    · simp [counted, Status.isRunning, hgroup]
  have hcount : state.jobs.countP counted ≤ spec.limit := hstate (spec.group leftKey)
  have hleftCounted : counted state.jobs[left] = true := by
    rw [heq]; simp [counted, Status.isRunning]
  rw [List.countP_set hlt, hleftCounted] at hothers
  simp only [counted, Status.isRunning, Bool.false_and, Bool.false_eq_true, if_false,
    if_true] at hothers
  change 0 < state.jobs.countP counted - 1 + 0 at hothers
  omega

/-- After one job of an idle pool has been placed there is room for another. -/
theorem inProgress_place_lt {state : PoolState K σ ε α S}
    (hidle : ∀ group, spec.inProgress state.jobs group = 0) {index : Nat} {key other : K}
    (hjob : state.jobs[index]? = some ⟨key, .waiting⟩) (reached : Co σ ε α × S)
    (hlimit : 0 < spec.limit) (hsame : spec.group key = spec.group other → 1 < spec.limit) :
    spec.inProgress (place state index key reached).jobs (spec.group other) < spec.limit := by
  have hzero := hidle (spec.group other)
  by_cases hgroup : spec.group key = spec.group other
  · have hle := inProgress_place_le spec hjob reached (spec.group other)
    have htwo := hsame hgroup
    omega
  · have hle := inProgress_place_le_self spec hjob reached fun h => absurd h hgroup
    omega

end PoolSpec

/-! ## Disciplines -/

/-- What every job promises, and why the calls keep the promises. -/
structure Discipline (spec : PoolSpec K G σ ε α S C) (γ : Type) where
  protocol : K → Protocol σ ε α γ
  /-- the ghost state a job starts with -/
  start : K → S → γ
  global : S → Prop
  assertion : K → γ → S → Prop
  /-- what an ended job leaves -/
  ended : K → Except ε α → S → Prop
  /-- a relation between the keys of any two jobs of the pool -/
  apart : K → K → Prop
  /-- the reactions of the outside to a call that are considered -/
  admits : K → σ.Op → C → S → Prop
  obeys_start : ∀ key store, global store →
    (spec.program key).Obeys (protocol key) (start key store)
  assertion_start : ∀ key store, global store → assertion key (start key store) store
  respond_own : ∀ key op choice ghost store, global store → assertion key ghost store →
    (protocol key).pre op ghost → admits key op choice store →
    (protocol key).answers op (spec.effects.respond op choice store).1 ghost ∧
      global (spec.effects.respond op choice store).2 ∧
      assertion key ((protocol key).next op (spec.effects.respond op choice store).1 ghost)
        (spec.effects.respond op choice store).2
  respond_other : ∀ key other op choice ghost otherGhost store, global store →
    assertion key ghost store → (protocol key).pre op ghost → admits key op choice store →
    apart key other → (spec.group key = spec.group other → 1 < spec.limit) →
    assertion other otherGhost store →
    assertion other otherGhost (spec.effects.respond op choice store).2
  respond_ended : ∀ key other op choice ghost result store, global store →
    assertion key ghost store → (protocol key).pre op ghost → admits key op choice store →
    apart key other → ended other result store →
    ended other result (spec.effects.respond op choice store).2
  ended_of_post : ∀ key result ghost store, global store → assertion key ghost store →
    (protocol key).post result ghost → ended key result store

namespace Discipline

open PoolSpec

variable {spec : PoolSpec K G σ ε α S C}

/-- What a sound state says of one job. -/
def SoundJob (discipline : Discipline spec γ) (store : S) (job : Job K σ ε α) : Prop :=
  match job.status with
  | .waiting => True
  | .running program => ∃ ghost, program.Obeys (discipline.protocol job.key) ghost ∧
      discipline.assertion job.key ghost store
  | .finished result => discipline.ended job.key result store

/-- What `advance` keeps of the other jobs. -/
def Keeps (discipline : Discipline spec γ) (key : K) (store next : S) : Prop :=
  (∀ other ghost, discipline.apart key other →
      (spec.group key = spec.group other → 1 < spec.limit) →
      discipline.assertion other ghost store → discipline.assertion other ghost next) ∧
    ∀ other result, discipline.apart key other →
      discipline.ended other result store → discipline.ended other result next

theorem Keeps.trans {discipline : Discipline spec γ} {key : K} {first second third : S}
    (hfirst : discipline.Keeps key first second) (hsecond : discipline.Keeps key second third) :
    discipline.Keeps key first third := by
  refine ⟨?_, ?_⟩
  · intro other ghost hapart hgroup hassertion
    exact hsecond.1 other ghost hapart hgroup (hfirst.1 other ghost hapart hgroup hassertion)
  · intro other result hapart hended
    exact hsecond.2 other result hapart (hfirst.2 other result hapart hended)

/-- One call of one job. -/
theorem keeps_respond (discipline : Discipline spec γ) {key : K} {op : σ.Op} {choice : C}
    {ghost : γ} {store : S} (hglobal : discipline.global store)
    (hassertion : discipline.assertion key ghost store)
    (hpre : (discipline.protocol key).pre op ghost)
    (hadmits : discipline.admits key op choice store) :
    discipline.Keeps key store (spec.effects.respond op choice store).2 :=
  ⟨fun other otherGhost hapart hgroup hother =>
      discipline.respond_other key other op choice ghost otherGhost store hglobal hassertion
        hpre hadmits hapart hgroup hother,
    fun other result hapart hended =>
      discipline.respond_ended key other op choice ghost result store hglobal hassertion
        hpre hadmits hapart hended⟩

/-- The reactions to the calls that are not awaited are considered. -/
def AdmitsSync (discipline : Discipline spec γ) (key : K) (choices : List C) : Prop :=
  ∀ choice ∈ choices, ∀ op store, spec.effects.awaits op = false →
    discipline.admits key op choice store

/-- Running on to the next await keeps the discipline. -/
theorem advance_sound (discipline : Discipline spec γ) {key : K} :
    ∀ {program : Co σ ε α} {ghost : γ} {choices : List C} {store : S} {reached : Co σ ε α × S},
      discipline.global store → discipline.assertion key ghost store →
      program.Obeys (discipline.protocol key) ghost → discipline.AdmitsSync key choices →
      advance spec.effects program choices store = some reached →
      discipline.global reached.2 ∧ discipline.Keeps key store reached.2 ∧
        ∃ ghost', reached.1.Obeys (discipline.protocol key) ghost' ∧
          discipline.assertion key ghost' reached.2 := by
  intro program
  have hrefl : ∀ store : S, discipline.Keeps key store store := fun store =>
    ⟨fun _ _ _ _ h => h, fun _ _ _ h => h⟩
  induction program with
  | ret value =>
      intro ghost choices store reached hglobal hassertion hobeys hsync hadvance
      cases choices with
      | nil =>
          cases hadvance
          exact ⟨hglobal, hrefl store, ghost, hobeys, hassertion⟩
      | cons choice choices => cases hadvance
  | raise error =>
      intro ghost choices store reached hglobal hassertion hobeys hsync hadvance
      cases choices with
      | nil =>
          cases hadvance
          exact ⟨hglobal, hrefl store, ghost, hobeys, hassertion⟩
      | cons choice choices => cases hadvance
  | call op resume ih =>
      intro ghost choices store reached hglobal hassertion hobeys hsync hadvance
      unfold advance at hadvance
      split at hadvance
      · cases choices with
        | nil =>
            cases hadvance
            exact ⟨hglobal, hrefl store, ghost, hobeys, hassertion⟩
        | cons choice choices => cases hadvance
      · rename_i hawaits
        cases choices with
        | nil => cases hadvance
        | cons choice choices =>
            have hadmits := hsync choice List.mem_cons_self op store (by simpa using hawaits)
            have hsync' : discipline.AdmitsSync key choices := fun later hlater =>
              hsync later (List.mem_cons_of_mem _ hlater)
            obtain ⟨hanswers, hglobal', hassertion'⟩ :=
              discipline.respond_own key op choice ghost store hglobal hassertion hobeys.1 hadmits
            have hkeeps := discipline.keeps_respond hglobal hassertion hobeys.1 hadmits
            obtain ⟨hglobal'', hkeeps', hend⟩ :=
              ih _ hglobal' hassertion' (hobeys.2 _ hanswers) hsync' hadvance
            exact ⟨hglobal'', hkeeps.trans hkeeps', hend⟩

/-- What the program of a job has come to is sound for that job. -/
theorem soundJob_ofProgram {discipline : Discipline spec γ} {key : K} {program : Co σ ε α}
    {ghost : γ} {store : S} (hglobal : discipline.global store)
    (hobeys : program.Obeys (discipline.protocol key) ghost)
    (hassertion : discipline.assertion key ghost store) :
    discipline.SoundJob store ⟨key, .ofProgram program⟩ := by
  cases program with
  | ret value => exact discipline.ended_of_post key _ ghost store hglobal hassertion hobeys
  | raise error => exact discipline.ended_of_post key _ ghost store hglobal hassertion hobeys
  | call op resume => exact ⟨ghost, hobeys, hassertion⟩

/-! ## Sound states -/

variable [DecidableEq G]

/-- A sound state of the pool. -/
structure Sound (discipline : Discipline spec γ) (state : PoolState K σ ε α S) : Prop where
  global : discipline.global state.store
  jobs : ∀ job ∈ state.jobs, discipline.SoundJob state.store job
  apart : (state.jobs.map Job.key).Pairwise fun left right =>
    discipline.apart left right ∧ discipline.apart right left
  limit : ∀ group, spec.inProgress state.jobs group ≤ spec.limit

/-- The outside's reactions in a move are ones the discipline considers. -/
def Admitted (discipline : Discipline spec γ) (state : PoolState K σ ε α S) : Move C → Prop
  | .start index choices => ∀ key status,
      state.jobs[index]? = some ⟨key, status⟩ → discipline.AdmitsSync key choices
  | .resume index choice choices => ∀ key op resume,
      state.jobs[index]? = some ⟨key, .running (.call op resume)⟩ →
        discipline.admits key op choice state.store ∧ discipline.AdmitsSync key choices

/-- A sound state has the relation between any two of its jobs. -/
theorem Sound.apart_of_ne {discipline : Discipline spec γ} {state : PoolState K σ ε α S}
    (hsound : discipline.Sound state) {left right : Nat} {leftJob rightJob : Job K σ ε α}
    (hne : left ≠ right) (hleft : state.jobs[left]? = some leftJob)
    (hright : state.jobs[right]? = some rightJob) :
    discipline.apart leftJob.key rightJob.key := by
  obtain ⟨hlt, rfl⟩ := List.getElem?_eq_some_iff.mp hleft
  obtain ⟨hlt', rfl⟩ := List.getElem?_eq_some_iff.mp hright
  have hpairs := List.pairwise_map.mp hsound.apart
  rcases Nat.lt_or_gt_of_ne hne with hbefore | hafter
  · exact (List.pairwise_iff_getElem.mp hpairs left right hlt hlt' hbefore).1
  · exact (List.pairwise_iff_getElem.mp hpairs right left hlt' hlt hafter).2

/-- Placing one job keeps the others sound, since its calls kept their promises. -/
theorem Sound.soundJob_place {discipline : Discipline spec γ} {state : PoolState K σ ε α S}
    (hsound : discipline.Sound state) {index : Nat} {key : K} {status : Status σ ε α}
    {reached : Co σ ε α × S} (hjob : state.jobs[index]? = some ⟨key, status⟩)
    (hroom : ∀ other otherKey program, other ≠ index →
      state.jobs[other]? = some ⟨otherKey, .running program⟩ →
      spec.group key = spec.group otherKey → 1 < spec.limit)
    (hglobal : discipline.global reached.2) (hkeeps : discipline.Keeps key state.store reached.2)
    {ghost : γ} (hobeys : reached.1.Obeys (discipline.protocol key) ghost)
    (hassertion : discipline.assertion key ghost reached.2) :
    ∀ job ∈ (place state index key reached).jobs, discipline.SoundJob reached.2 job := by
  intro job hmem
  obtain ⟨position, hposition⟩ := List.getElem?_of_mem hmem
  unfold place at hposition
  rw [List.getElem?_set] at hposition
  split at hposition
  · split at hposition
    · cases hposition
      exact soundJob_ofProgram hglobal hobeys hassertion
    · cases hposition
  · rename_i hne
    have hne' : index ≠ position := hne
    have hold := hsound.jobs job (List.mem_of_getElem? hposition)
    have hapart : discipline.apart key job.key := hsound.apart_of_ne hne' hjob hposition
    obtain ⟨otherKey, otherStatus⟩ := job
    cases otherStatus with
    | waiting => trivial
    | running program =>
        obtain ⟨otherGhost, hobeys', hother⟩ := hold
        have hgroup := hroom position otherKey program (Ne.symm hne') hposition
        exact ⟨otherGhost, hobeys', hkeeps.1 otherKey otherGhost hapart hgroup hother⟩
    | finished result => exact hkeeps.2 otherKey result hapart hold

/-- The step lemma: a move keeps a sound state sound. -/
theorem sound_step {discipline : Discipline spec γ} {state next : PoolState K σ ε α S}
    {move : Move C} (hsound : discipline.Sound state) (hadmitted : discipline.Admitted state move)
    (hstep : spec.step state move = some next) : discipline.Sound next := by
  have hlimit := fun group => inProgress_step hsound.limit hstep group
  have hapart := keys_step hstep ▸ hsound.apart
  rcases step_cases hstep with
    ⟨index, key, choices, reached, rfl, hjob, hroom, hadvance, rfl⟩ |
    ⟨index, key, op, resume, choice, choices, reached, rfl, hjob, hadvance, rfl⟩
  · have hobeys := discipline.obeys_start key state.store hsound.global
    have hassertion := discipline.assertion_start key state.store hsound.global
    obtain ⟨hglobal, hkeeps, ghost, hobeys', hassertion'⟩ :=
      discipline.advance_sound hsound.global hassertion hobeys (hadmitted key _ hjob) hadvance
    refine ⟨hglobal, ?_, hapart, hlimit⟩
    refine hsound.soundJob_place hjob ?_ hglobal hkeeps hobeys' hassertion'
    -- a job of the group in progress was counted when this one entered
    intro other otherKey program _ hother hgroup
    have hcounted : 0 < spec.inProgress state.jobs (spec.group key) :=
      List.countP_pos_iff.mpr ⟨_, List.mem_of_getElem? hother, by simp [Status.isRunning, hgroup]⟩
    omega
  · have hold := hsound.jobs _ (List.mem_of_getElem? hjob)
    obtain ⟨ghost, hobeys, hassertion⟩ := hold
    obtain ⟨hadmits, hsync⟩ := hadmitted key op resume hjob
    obtain ⟨hanswers, hglobal, hassertion'⟩ :=
      discipline.respond_own key op choice ghost state.store hsound.global hassertion hobeys.1
        hadmits
    have hkeeps := discipline.keeps_respond hsound.global hassertion hobeys.1 hadmits
    obtain ⟨hglobal', hkeeps', ghost', hobeys', hassertion''⟩ :=
      discipline.advance_sound hglobal hassertion' (hobeys.2 _ hanswers) hsync hadvance
    refine ⟨hglobal', ?_, hapart, hlimit⟩
    refine hsound.soundJob_place hjob ?_ hglobal' (hkeeps.trans hkeeps') hobeys' hassertion''
    intro other otherKey program hne hother hgroup
    exact one_lt_limit hsound.limit (Ne.symm hne) hjob hother hgroup

/-- A change of the shared state between two moves keeps a sound state sound when
it keeps what the discipline says of each job. -/
theorem Sound.change {discipline : Discipline spec γ} {state : PoolState K σ ε α S}
    (hsound : discipline.Sound state) {store : S} (hglobal : discipline.global store)
    (hassertion : ∀ job ∈ state.jobs, ∀ program ghost, job.status = .running program →
      discipline.assertion job.key ghost state.store → discipline.assertion job.key ghost store)
    (hended : ∀ job ∈ state.jobs, ∀ result, job.status = .finished result →
      discipline.ended job.key result state.store → discipline.ended job.key result store) :
    discipline.Sound ⟨state.jobs, store⟩ := by
  refine ⟨hglobal, ?_, hsound.apart, hsound.limit⟩
  intro job hjob
  have hold := hsound.jobs job hjob
  obtain ⟨key, status⟩ := job
  cases status with
  | waiting => trivial
  | running program =>
      obtain ⟨ghost, hobeys, hbefore⟩ := hold
      exact ⟨ghost, hobeys, hassertion _ hjob program ghost rfl hbefore⟩
  | finished result => exact hended _ hjob result rfl hold

/-- The jobs `gather` creates are sound. -/
theorem sound_gather (discipline : Discipline spec γ) {keys : List K} {store : S}
    (hglobal : discipline.global store)
    (hapart : keys.Pairwise fun left right =>
      discipline.apart left right ∧ discipline.apart right left) :
    discipline.Sound (gather keys store) := by
  refine ⟨hglobal, ?_, ?_, ?_⟩
  · intro job hjob
    obtain ⟨key, _, rfl⟩ := List.mem_map.mp hjob
    trivial
  · rw [keys_gather]
    exact hapart
  · intro group
    have hnone : spec.inProgress (gather keys store).jobs group = 0 :=
      inProgress_gather keys store group
    omega

omit [DecidableEq G] in
/-- A discipline that considers every reaction considers every move. -/
theorem admitted_of_forall {discipline : Discipline spec γ}
    (hadmits : ∀ key op choice store, discipline.admits key op choice store)
    (state : PoolState K σ ε α S) (move : Move C) : discipline.Admitted state move := by
  cases move with
  | start index choices => exact fun key _ _ choice _ op store _ => hadmits key op choice store
  | resume index choice choices =>
      exact fun key op resume _ => ⟨hadmits key op choice state.store,
        fun later _ other store _ => hadmits key other later store⟩

/-- The run lemma for a discipline that considers every reaction. -/
theorem sound_run {discipline : Discipline spec γ}
    (hadmits : ∀ key op choice store, discipline.admits key op choice store)
    {state last : PoolState K σ ε α S} {moves : List (Move C)} (hsound : discipline.Sound state)
    (hrun : spec.run state moves = some last) : discipline.Sound last := by
  refine run_invariant discipline.Sound ?_ hrun hsound
  intro reached move next hreached hstep
  exact sound_step hreached (admitted_of_forall hadmits reached move) hstep

end Discipline

end StockMonitoring.Foundation
