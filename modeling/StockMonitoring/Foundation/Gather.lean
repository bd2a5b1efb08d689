import StockMonitoring.Foundation.Discipline
import Mathlib.Data.List.Induction
import Mathlib.Data.List.Perm.Basic
import Mathlib.Data.List.SplitLengths

set_option autoImplicit false

/-!
# Foundation: gathering the jobs of a pool

A pool whose calls all return can be run to its end (`exists_completion`), whatever it
has done so far, and by then every job has been started exactly once (`started_perm`).
Jobs that are created group by group come in the order of the groups, and the groups in
the order of their first jobs (`grouped_eq`).
-/

namespace StockMonitoring.Foundation

/-! ## Groups -/

section Groups

variable {K G : Type} [DecidableEq G]

/-- `groups[group].append(key)` on a `defaultdict(list)`. -/
def addTo (group : G) (key : K) : List (G × List K) → List (G × List K)
  | [] => [(group, [key])]
  | (other, keys) :: rest =>
      if other = group then (other, keys ++ [key]) :: rest
      else (other, keys) :: addTo group key rest

/-- The keys by their groups. -/
def grouped (group : K → G) (keys : List K) : List (G × List K) :=
  keys.foldl (fun groups key => addTo (group key) key groups) []

theorem grouped_concat (group : K → G) (keys : List K) (key : K) :
    grouped group (keys ++ [key]) = addTo (group key) key (grouped group keys) := by
  unfold grouped
  rw [List.foldl_append]
  rfl

theorem addTo_map_of_mem {members : G → List K} {group : G} (key : K) {groups : List G}
    (hgroups : groups.Nodup) (hmem : group ∈ groups) :
    addTo group key (groups.map fun other => (other, members other)) =
      groups.map fun other => (other, members other ++ if other = group then [key] else []) := by
  induction groups with
  | nil => cases hmem
  | cons first rest ih =>
      obtain ⟨hfirst, hrest⟩ := List.nodup_cons.mp hgroups
      rw [List.map_cons, List.map_cons, addTo]
      split
      · rename_i heq
        subst heq
        congr 1
        refine List.map_congr_left fun other hother => ?_
        have hne : other ≠ first := fun heq => hfirst (heq ▸ hother)
        rw [if_neg hne, List.append_nil]
      · rename_i hne
        have hlater : group ∈ rest := (List.mem_cons.mp hmem).resolve_left (Ne.symm hne)
        rw [ih hrest hlater, List.append_nil]

theorem addTo_map_of_notMem {members : G → List K} {group : G} (key : K) {groups : List G}
    (hmem : group ∉ groups) :
    addTo group key (groups.map fun other => (other, members other)) =
      (groups.map fun other => (other, members other)) ++ [(group, [key])] := by
  induction groups with
  | nil => rfl
  | cons first rest ih =>
      have hne : first ≠ group := fun heq => hmem (heq ▸ List.mem_cons_self)
      rw [List.map_cons, addTo, if_neg hne,
        ih fun hlater => hmem (List.mem_cons_of_mem _ hlater), List.cons_append]

/-- The first occurrences, after one more item. -/
theorem eraseDups_concat (groups : List G) (group : G) :
    (groups ++ [group]).eraseDups =
      if group ∈ groups then groups.eraseDups else groups.eraseDups ++ [group] := by
  rw [List.eraseDups_append, List.cons_removeAll]
  by_cases hmem : group ∈ groups <;> simp [hmem, List.removeAll, List.eraseDups_cons]

theorem nodup_eraseDups (groups : List G) : groups.eraseDups.Nodup := by
  induction groups using List.reverseRecOn with
  | nil => exact List.nodup_nil
  | append_singleton groups group ih =>
      rw [eraseDups_concat]
      split
      · exact ih
      · rename_i hnew
        refine List.pairwise_append.mpr ⟨ih, List.pairwise_singleton _ _, ?_⟩
        intro other hother last hlast heq
        obtain rfl := List.mem_singleton.mp hlast
        exact hnew (List.mem_eraseDups.mp (heq ▸ hother))

/-- The groups come in the order of their first keys, each with its keys in order. -/
theorem grouped_eq (group : K → G) (keys : List K) :
    grouped group keys = (keys.map group).eraseDups.map fun other =>
      (other, keys.filter fun key => group key == other) := by
  induction keys using List.reverseRecOn with
  | nil => rfl
  | append_singleton keys key ih =>
      have hfilter : ∀ other, (keys ++ [key]).filter (fun key => group key == other) =
          (keys.filter fun key => group key == other) ++
            if other = group key then [key] else [] := by
        intro other
        rw [List.filter_append]
        by_cases heq : other = group key
        · simp [heq]
        · simp [heq, Ne.symm heq]
      rw [grouped_concat, ih, List.map_append, List.map_singleton, eraseDups_concat]
      simp only [hfilter]
      split
      · rename_i hmem
        exact addTo_map_of_mem key (nodup_eraseDups _) (List.mem_eraseDups.mpr hmem)
      · rename_i hmem
        have hnone : keys.filter (fun other => group other == group key) = [] := by
          rw [List.filter_eq_nil_iff]
          intro other hother heq
          exact hmem (List.mem_map.mpr ⟨other, hother, beq_iff_eq.mp heq⟩)
        rw [addTo_map_of_notMem key fun hold => hmem (List.mem_eraseDups.mp hold), List.map_append,
          List.map_singleton, hnone, if_pos rfl, List.nil_append]
        congr 1
        refine List.map_congr_left fun other hother => ?_
        have hne : other ≠ group key := fun heq => hmem (heq ▸ List.mem_eraseDups.mp hother)
        rw [if_neg hne, List.append_nil]

/-- No key is lost or doubled. -/
theorem addTo_perm (group : G) (key : K) (groups : List (G × List K)) :
    ((addTo group key groups).flatMap Prod.snd).Perm (groups.flatMap Prod.snd ++ [key]) := by
  induction groups with
  | nil => exact List.Perm.refl _
  | cons first rest ih =>
      obtain ⟨other, keys⟩ := first
      rw [addTo]
      split
      · rw [List.flatMap_cons, List.flatMap_cons, List.append_assoc, List.append_assoc]
        exact List.perm_append_comm.append_left keys
      · rw [List.flatMap_cons, List.flatMap_cons, List.append_assoc]
        exact ih.append_left keys

theorem grouped_perm (group : K → G) (keys : List K) :
    ((grouped group keys).flatMap Prod.snd).Perm keys := by
  induction keys using List.reverseRecOn with
  | nil => exact List.Perm.refl _
  | append_singleton keys key ih =>
      rw [grouped_concat]
      exact (addTo_perm (group key) key _).trans (ih.append_right [key])

end Groups

/-! ## Results -/

section Results

variable {α β ε : Type}

/-- What `asyncio.gather` returns: the results in order, or what one of them raised. -/
def gathered (results : List (Except ε β)) : Except ε (List β) := results.mapM id

theorem gathered_map_ok (value : α → β) (items : List α) :
    gathered (items.map fun item => (.ok (value item) : Except ε β)) = .ok (items.map value) := by
  induction items with
  | nil => rfl
  | cons item rest ih =>
      unfold gathered at ih ⊢
      rw [List.map_cons, List.mapM_cons, ih]
      rfl

/-- Results cut by the lengths of the groups they come from. -/
theorem splitLengths_map_flatten (value : α → β) (groups : List (List α)) :
    (groups.map List.length).splitLengths (groups.flatten.map value) =
      groups.map fun group => group.map value := by
  induction groups with
  | nil => rfl
  | cons group rest ih =>
      have hsplit : (group.map value ++ rest.flatten.map value).splitAt group.length =
          (group.map value, rest.flatten.map value) := by
        rw [List.splitAt_eq, ← @List.length_map _ _ group value, List.take_left, List.drop_left]
      rw [List.map_cons, List.flatten_cons, List.map_append, List.map_cons, List.splitLengths,
        hsplit]
      exact congrArg (group.map value :: ·) ih

end Results

/-! ## The end of a pool -/

namespace PoolSpec

variable {K G : Type} [DecidableEq G] {σ : Signature} {ε α S C : Type}
  {spec : PoolSpec K G σ ε α S C}

/-- Every job has ended. -/
def Ended (state : PoolState K σ ε α S) : Prop :=
  ∀ job ∈ state.jobs, job.status.isFinished = true

variable (spec) in
/-- A program runs on to an await, and from there, as its calls return, to its end. -/
theorem exists_drive [Nonempty C] (program : Co σ ε α) (store : S) :
    ∃ choices reached, advance spec.effects program choices store = some reached ∧
      ∀ state index key job, state.jobs[index]? = some job →
        ∃ moves result last, spec.run (place state index key reached) moves = some last ∧
          last.jobs = state.jobs.set index ⟨key, .finished result⟩ := by
  obtain ⟨choice⟩ := ‹Nonempty C›
  induction program generalizing store with
  | ret value =>
      refine ⟨[], (.ret value, store), rfl, ?_⟩
      intro state index key job _
      exact ⟨[], .ok value, _, rfl, rfl⟩
  | raise error =>
      refine ⟨[], (.raise error, store), rfl, ?_⟩
      intro state index key job _
      exact ⟨[], .error error, _, rfl, rfl⟩
  | call op resume ih =>
      obtain ⟨choices, reached, hadvance, hdrive⟩ :=
        ih (spec.effects.respond op choice store).1 (spec.effects.respond op choice store).2
      cases hawaits : spec.effects.awaits op with
      | false =>
          refine ⟨choice :: choices, reached, ?_, hdrive⟩
          rw [advance_of_not_awaits hawaits]
          exact hadvance
      | true =>
          refine ⟨[], (.call op resume, store), advance_of_awaits hawaits resume store, ?_⟩
          intro state index key job hjob
          obtain ⟨moves, result, last, hrun, hjobs⟩ := hdrive state index key job hjob
          have hsuspended := place_self key (.call op resume, store) hjob
          refine ⟨.resume index choice choices :: moves, result, last, ?_, hjobs⟩
          rw [run_cons, step_resume hsuspended hadvance, Option.bind_some, place_place]
          exact hrun

/-- A job that has not ended can be brought to its end, if its group has room for it. -/
theorem exists_finish [Nonempty C] {state : PoolState K σ ε α S} {index : Nat} {job : Job K σ ε α}
    (hjob : state.jobs[index]? = some job) (hopen : job.status.isFinished = false)
    (hsuspended : spec.Suspended job)
    (hroom : job.status.isRunning = false →
      spec.inProgress state.jobs (spec.group job.key) < spec.limit) :
    ∃ moves result last, spec.run state moves = some last ∧
      last.jobs = state.jobs.set index ⟨job.key, .finished result⟩ := by
  obtain ⟨key, status⟩ := job
  cases status with
  | finished result => cases hopen
  | waiting =>
      obtain ⟨choices, reached, hadvance, hdrive⟩ :=
        exists_drive spec (spec.program key) state.store
      obtain ⟨moves, result, last, hrun, hjobs⟩ := hdrive state index key _ hjob
      refine ⟨.start index choices :: moves, result, last, ?_, hjobs⟩
      rw [run_cons, step_start hjob (hroom rfl) hadvance, Option.bind_some]
      exact hrun
  | running program =>
      obtain ⟨op, resume, rfl, _⟩ := hsuspended program rfl
      obtain ⟨choice⟩ := ‹Nonempty C›
      obtain ⟨choices, reached, hadvance, hdrive⟩ :=
        exists_drive spec (resume (spec.effects.respond op choice state.store).1)
          (spec.effects.respond op choice state.store).2
      obtain ⟨moves, result, last, hrun, hjobs⟩ := hdrive state index key _ hjob
      refine ⟨.resume index choice choices :: moves, result, last, ?_, hjobs⟩
      rw [run_cons, step_resume hjob hadvance, Option.bind_some]
      exact hrun

/-- How many jobs have not ended. -/
def remaining (jobs : List (Job K σ ε α)) : Nat :=
  jobs.countP fun job => !job.status.isFinished

/-- A job that ends is one less to wait for. -/
theorem remaining_set {jobs : List (Job K σ ε α)} {index : Nat} {job : Job K σ ε α}
    (hjob : jobs[index]? = some job) (hopen : job.status.isFinished = false) (result : Except ε α) :
    remaining (jobs.set index ⟨job.key, .finished result⟩) < remaining jobs := by
  obtain ⟨hlt, hget⟩ := List.getElem?_eq_some_iff.mp hjob
  have hcounted : 0 < remaining jobs :=
    List.countP_pos_iff.mpr ⟨job, List.mem_of_getElem? hjob, by simp [hopen]⟩
  unfold remaining at *
  rw [List.countP_set hlt, hget, if_pos (by simp [hopen]), if_neg (by simp [Status.isFinished])]
  omega

/-- Some job can always be brought to its end: one in progress, or if none is, one that
waits. -/
theorem exists_next (hlimit : 1 ≤ spec.limit) {state : PoolState K σ ε α S}
    (hopen : ¬ Ended state) :
    ∃ (index : Nat) (job : Job K σ ε α), state.jobs[index]? = some job ∧
      job.status.isFinished = false ∧
      (job.status.isRunning = false →
        spec.inProgress state.jobs (spec.group job.key) < spec.limit) := by
  by_cases hrunning : ∃ job ∈ state.jobs, job.status.isRunning = true
  · obtain ⟨job, hmem, hrunning⟩ := hrunning
    obtain ⟨index, hjob⟩ := List.getElem?_of_mem hmem
    refine ⟨index, job, hjob, ?_, fun hnot => absurd hrunning (by simp [hnot])⟩
    obtain ⟨key, status⟩ := job
    cases status <;> first | rfl | cases hrunning
  · obtain ⟨job, hmem, hnot⟩ : ∃ job ∈ state.jobs, job.status.isFinished = false := by
      simpa [Ended] using hopen
    obtain ⟨index, hjob⟩ := List.getElem?_of_mem hmem
    refine ⟨index, job, hjob, hnot, fun _ => ?_⟩
    have hidle : spec.inProgress state.jobs (spec.group job.key) = 0 := by
      refine List.countP_eq_zero.mpr fun other hother hcounted => hrunning ⟨other, hother, ?_⟩
      exact (Bool.and_eq_true_iff.mp hcounted).1
    omega

/-- From every state of a run the pool can be run to its end, if its calls return. -/
theorem exists_completion [Nonempty C] (hlimit : 1 ≤ spec.limit) {state : PoolState K σ ε α S}
    (hsuspended : ∀ job ∈ state.jobs, spec.Suspended job) :
    ∃ moves last, spec.run state moves = some last ∧ Ended last := by
  induction hcount : remaining state.jobs using Nat.strongRecOn generalizing state with
  | ind count ih =>
      by_cases hended : Ended state
      · exact ⟨[], state, rfl, hended⟩
      · obtain ⟨index, job, hjob, hopen, hroom⟩ := exists_next hlimit hended
        obtain ⟨moves, result, last, hrun, hjobs⟩ :=
          exists_finish hjob hopen (hsuspended job (List.mem_of_getElem? hjob)) hroom
        have hsuspended' : ∀ job ∈ last.jobs, spec.Suspended job :=
          run_invariant (fun state => ∀ job ∈ state.jobs, spec.Suspended job)
            (fun _ _ _ hstate hstep => suspended_step hstate hstep) hrun hsuspended
        have hfewer : remaining last.jobs < count := by
          rw [hjobs, ← hcount]
          exact remaining_set hjob hopen result
        obtain ⟨more, final, hmore, hfinal⟩ := ih _ hfewer hsuspended' rfl
        refine ⟨moves ++ more, final, ?_, hfinal⟩
        rw [run_append, hrun, Option.bind_some, hmore]

/-! ## Each job once -/

/-- The job a move starts. -/
def startedBy : Move C → Option Nat
  | .start index _ => some index
  | .resume _ _ _ => none

/-- The jobs that have been started, in the order of their starts. -/
def started (moves : List (Move C)) : List Nat := moves.filterMap startedBy

/-- After a move, no other job has begun or ended to wait. -/
theorem waiting_place {state : PoolState K σ ε α S} {index : Nat} {job : Job K σ ε α} (key : K)
    (reached : Co σ ε α × S) (hjob : state.jobs[index]? = some job) (other : Nat) :
    (∃ job, (place state index key reached).jobs[other]? = some job ∧
        job.status.isWaiting = false) ↔
      other = index ∨ ∃ job, state.jobs[other]? = some job ∧ job.status.isWaiting = false := by
  by_cases heq : other = index
  · subst heq
    rw [place_self key reached hjob]
    exact ⟨fun _ => Or.inl rfl, fun _ => ⟨_, rfl, Status.isWaiting_ofProgram _⟩⟩
  · rw [place_of_ne state (Ne.symm heq)]
    exact ⟨Or.inr, fun h => h.resolve_left heq⟩

theorem started_append (first second : List (Move C)) :
    started (first ++ second) = started first ++ started second := List.filterMap_append

/-- A job has been started once if it waits no longer, and not at all if it does. -/
theorem started_run {keys : List K} {store : S} {moves : List (Move C)}
    {last : PoolState K σ ε α S} (hrun : spec.run (gather keys store) moves = some last) :
    (started moves).Nodup ∧ ∀ index, index ∈ started moves ↔
      ∃ job, last.jobs[index]? = some job ∧ job.status.isWaiting = false := by
  induction moves using List.reverseRecOn generalizing last with
  | nil =>
      cases hrun
      refine ⟨List.nodup_nil, fun index => ?_⟩
      have hwaiting : ¬ ∃ job, (gather keys store : PoolState K σ ε α S).jobs[index]? = some job ∧
          job.status.isWaiting = false := by
        intro ⟨job, hjob, hstarted⟩
        obtain ⟨key, _, rfl⟩ := List.mem_map.mp (List.mem_of_getElem? hjob)
        cases hstarted
      exact ⟨fun hmem => absurd hmem List.not_mem_nil, fun h => absurd h hwaiting⟩
  | append_singleton moves move ih =>
      rw [run_append] at hrun
      obtain ⟨state, hbefore, hrun⟩ := Option.bind_eq_some_iff.mp hrun
      rw [run_cons] at hrun
      obtain ⟨next, hstep, hnext⟩ := Option.bind_eq_some_iff.mp hrun
      cases hnext
      obtain ⟨hnodup, hmem⟩ := ih hbefore
      unfold started at *
      rw [List.filterMap_append]
      rcases step_cases hstep with
        ⟨index, key, choices, reached, rfl, hjob, _, _, rfl⟩ |
        ⟨index, key, op, resume, choice, choices, reached, rfl, hjob, _, rfl⟩
      · -- the job that starts now waited until now
        have hnew : index ∉ moves.filterMap startedBy := by
          intro hold
          obtain ⟨job, hsame, hstarted⟩ := (hmem index).mp hold
          rw [hjob] at hsame
          cases hsame
          cases hstarted
        refine ⟨?_, fun other => ?_⟩
        · refine List.pairwise_append.mpr ⟨hnodup, List.pairwise_singleton _ _, ?_⟩
          intro other hother last hlast heq
          obtain rfl := List.mem_singleton.mp hlast
          exact hnew (heq ▸ hother)
        · rw [waiting_place key reached hjob, List.mem_append, hmem other, or_comm]
          exact or_congr_left List.mem_singleton
      · rw [show [Move.resume index choice choices].filterMap startedBy = [] from rfl,
          List.append_nil]
        refine ⟨hnodup, fun other => ?_⟩
        rw [hmem other, waiting_place key reached hjob]
        refine ⟨Or.inr, fun h => h.elim ?_ id⟩
        rintro rfl
        exact ⟨_, hjob, rfl⟩

theorem filterMap_range_getElem? (keys : List K) :
    (List.range keys.length).filterMap (keys[·]?) = keys := by
  induction keys with
  | nil => rfl
  | cons key rest ih =>
      rw [List.length_cons, List.range_succ_eq_map, List.filterMap_cons, List.filterMap_map]
      exact congrArg (key :: ·) ih

/-- When all jobs have ended, the keys of the jobs started are the keys there were. -/
theorem started_perm {keys : List K} {store : S} {moves : List (Move C)}
    {last : PoolState K σ ε α S} (hrun : spec.run (gather keys store) moves = some last)
    (hended : Ended last) : ((started moves).filterMap (keys[·]?)).Perm keys := by
  obtain ⟨hnodup, hmem⟩ := started_run hrun
  have hkeys : last.jobs.map Job.key = keys := (keys_run hrun).trans (keys_gather keys store)
  have hlength : last.jobs.length = keys.length := by rw [← hkeys, List.length_map]
  have hrange : (started moves).Perm (List.range keys.length) := by
    refine (List.perm_ext_iff_of_nodup hnodup List.nodup_range).mpr fun index => ?_
    rw [hmem index, List.mem_range, ← hlength]
    constructor
    · intro ⟨job, hjob, _⟩
      exact (List.getElem?_eq_some_iff.mp hjob).1
    · intro hlt
      refine ⟨last.jobs[index], List.getElem?_eq_getElem hlt, ?_⟩
      have hfinished := hended _ (List.getElem_mem hlt)
      revert hfinished
      cases last.jobs[index].status <;> simp [Status.isFinished, Status.isWaiting]
  have hkeysPerm := hrange.filterMap (keys[·]?)
  rw [filterMap_range_getElem?] at hkeysPerm
  exact hkeysPerm

end PoolSpec

end StockMonitoring.Foundation
