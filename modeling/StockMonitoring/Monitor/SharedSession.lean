import StockMonitoring.Monitor.Scheduler

set_option autoImplicit false

/-!
# Monitor: the one database session

`monitor/main.py` builds all repositories on a single `AsyncSession`, which admits
one operation at a time.  A check suspended in a repository method has an
operation in progress on it.

The tick never overlaps two such operations exactly when no two of the targets
that get past the registry may be in progress together
(`session_used_once_iff`): the code has no lock around the session, so two checks
in progress are enough.
-/

namespace StockMonitoring.Monitor

open StockMonitoring.Foundation StockMonitoring.Domain StockMonitoring.Application

/-- The calls that execute or flush on the session. -/
def usesSession : MonitorOp → Bool
  | .getLatest _ | .createSnapshot _ _ | .createEvent _ _ _ _ _ | .markChecked _ _ => true
  | _ => false

/-- Whether a check has an operation in progress on the session. -/
def onSession (job : Job WatchTarget monitorPort Raised (List DetectionEvent)) : Bool :=
  match job.status with
  | .running (.call op _) => usesSession op
  | _ => false

/-- The number of operations in progress on the session. -/
def sessionUsers (state : TickState) : Nat :=
  state.jobs.countP onSession

/-- No two targets that get past the registry may be checked together. -/
def NeverTogether (config : SchedulerConfig) (targets : List WatchTarget) : Prop :=
  targets.Pairwise fun left right =>
    Checkable config left → Checkable config right → ¬ MayOverlap config left right

theorem running_of_onSession {job : Job WatchTarget monitorPort Raised (List DetectionEvent)}
    (hsession : onSession job = true) :
    ∃ watchTarget program, job = ⟨watchTarget, .running program⟩ := by
  obtain ⟨watchTarget, status⟩ := job
  cases status with
  | running program => exact ⟨watchTarget, program, rfl⟩
  | waiting => cases hsession
  | finished result => cases hsession

section SharedSession

variable {config : SchedulerConfig} {targets : List WatchTarget} {store : MonitorStore}

/-- Targets that are never together never overlap on the session. -/
theorem sessionUsers_le_one {moves : List (Move Reaction)} {state : TickState}
    (hnever : NeverTogether config targets)
    (hrun : (tickPool config).run (tickStart targets store) moves = some state) :
    sessionUsers state ≤ 1 := by
  have hkeys : state.jobs.map Job.key = targets := by
    rw [PoolSpec.keys_run hrun]
    exact PoolSpec.keys_gather targets store
  rw [← hkeys] at hnever
  have hpairs := List.pairwise_iff_getElem.mp (List.pairwise_map.mp hnever)
  refine countP_le_one_iff.mpr (List.pairwise_iff_getElem.mpr ?_)
  rintro left right hlt hlt' hbefore ⟨hleft, hright⟩
  obtain ⟨leftTarget, leftProgram, hleftJob⟩ := running_of_onSession hleft
  obtain ⟨rightTarget, rightProgram, hrightJob⟩ := running_of_onSession hright
  have hapart := hpairs left right hlt hlt' hbefore
  rw [hleftJob, hrightJob] at hapart
  have hleftAt := List.getElem?_eq_some_iff.mpr ⟨hlt, hleftJob⟩
  have hrightAt := List.getElem?_eq_some_iff.mpr ⟨hlt', hrightJob⟩
  refine hapart (checkable_of_running hrun (List.mem_of_getElem? hleftAt))
    (checkable_of_running hrun (List.mem_of_getElem? hrightAt)) ?_
  exact mayOverlap_of_running hrun (Nat.ne_of_lt hbefore) hleftAt hrightAt

/-- Two targets that may overlap can be brought to mark themselves at once. -/
theorem exists_overlap (store : MonitorStore) {left right : Nat}
    {leftTarget rightTarget : WatchTarget} (hbefore : left < right)
    (hleft : targets[left]? = some leftTarget) (hright : targets[right]? = some rightTarget)
    (hleftCheckable : Checkable config leftTarget) (hrightCheckable : Checkable config rightTarget)
    (hoverlap : MayOverlap config leftTarget rightTarget) :
    ∃ moves state, (tickPool config).run (tickStart targets store) moves = some state ∧
      ¬ sessionUsers state ≤ 1 := by
  obtain ⟨leftId, hleftId⟩ := Option.isSome_iff_exists.mp hleftCheckable.1
  obtain ⟨rightId, hrightId⟩ := Option.isSome_iff_exists.mp hrightCheckable.1
  have hleftStart : (tickStart targets store).jobs[left]? = some ⟨leftTarget, .waiting⟩ :=
    PoolSpec.gather_getElem? hleft
  obtain ⟨leftMoves, leftStore, leftTime, hleftRun⟩ :=
    exists_marking hleftId hleftCheckable.2 hleftStart (first_has_room hoverlap targets store)
  let middle := PoolSpec.place (tickStart targets store) left leftTarget
    (marking leftId leftTime, leftStore)
  obtain ⟨hrightWaiting, hrightRoom⟩ := second_may_start hoverlap (Nat.ne_of_lt hbefore) hleftStart
    (PoolSpec.gather_getElem? hright) (marking leftId leftTime, leftStore)
  obtain ⟨rightMoves, rightStore, rightTime, hrightRun⟩ :=
    exists_marking hrightId hrightCheckable.2 hrightWaiting hrightRoom
  let both := PoolSpec.place middle right rightTarget (marking rightId rightTime, rightStore)
  refine ⟨leftMoves ++ rightMoves, both, ?_, ?_⟩
  · rw [PoolSpec.run_append, hleftRun, Option.bind_some]
    exact hrightRun
  · intro hle
    have hpairs := List.pairwise_iff_getElem.mp (countP_le_one_iff.mp hle)
    have hleftJob : both.jobs[left]? = some ⟨leftTarget, .running (marking leftId leftTime)⟩ :=
      (PoolSpec.place_of_ne middle (Nat.ne_of_gt hbefore) rightTarget _).trans
        (PoolSpec.place_self leftTarget _ hleftStart)
    have hrightJob : both.jobs[right]? = some ⟨rightTarget, .running (marking rightId rightTime)⟩ :=
      PoolSpec.place_self rightTarget _ hrightWaiting
    obtain ⟨hlt, hleftAt⟩ := List.getElem?_eq_some_iff.mp hleftJob
    obtain ⟨hlt', hrightAt⟩ := List.getElem?_eq_some_iff.mp hrightJob
    refine hpairs left right hlt hlt' hbefore ⟨?_, ?_⟩
    · rw [hleftAt]
      rfl
    · rw [hrightAt]
      rfl

/-- A tick never overlaps two operations on the session exactly when no two of its
checkable targets may be in progress together. -/
theorem session_used_once_iff (config : SchedulerConfig) (targets : List WatchTarget)
    (store : MonitorStore) :
    (∀ moves state, (tickPool config).run (tickStart targets store) moves = some state →
        sessionUsers state ≤ 1) ↔
      NeverTogether config targets := by
  constructor
  · intro honce
    apply List.pairwise_iff_getElem.mpr
    intro left right hlt hlt' hbefore hleft hright hoverlap
    obtain ⟨moves, state, hrun, hmany⟩ := exists_overlap store hbefore
      (List.getElem?_eq_getElem hlt) (List.getElem?_eq_getElem hlt') hleft hright hoverlap
    exact hmany (honce moves state hrun)
  · intro hnever moves state hrun
    exact sessionUsers_le_one hnever hrun

/-- Two checks of one retailer reach `mark_checked` before either has returned. -/
theorem two_checks_use_session_at_once :
    ((tickPool mainConfig).run (tickStart [delhiMilk, mumbaiMilk] emptyStore)
      [.start 0 [.returns []], .resume 0 (.returns []) [], .resume 0 (.returns []) [],
        .resume 0 (.returns []) [.returns []], .start 1 [.returns []], .resume 1 (.returns []) [],
        .resume 1 (.returns []) [], .resume 1 (.returns []) [.returns []]]).map sessionUsers =
      some 2 := rfl

end SharedSession

end StockMonitoring.Monitor
