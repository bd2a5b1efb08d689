import StockMonitoring.Monitor.RunForever

set_option autoImplicit false

/-!
# Monitor: marking a target as checked

`last_checked_at` is what keeps a target from being listed again.  A check whose
calls complete has written it by its end, with a time not before its own start,
and no other check writes it (`markingDiscipline`).  So between two ticks the target
is marked since its last start, in every run in which its checks complete
(`Attended.step`).
-/

namespace StockMonitoring.Monitor

open StockMonitoring.Foundation StockMonitoring.Domain StockMonitoring.Application
  StockMonitoring.Infrastructure.Db

/-- `last_checked_at` of a target, if it is persisted. -/
def lastChecked (store : MonitorStore) (id : Nat) : Option (Option Datetime) :=
  (store.db.watchTargets.find? id).map WatchTargetModel.lastCheckedAt

/-- The target has been marked since its last check has started. -/
def Marked (id : Nat) (store : MonitorStore) : Prop :=
  ∀ start ∈ lastStart store id, ∃ checkedAt,
    lastChecked store id = some (some checkedAt) ∧ start ≤ checkedAt

/-- Whether a call is `mark_checked`. -/
def marks : MonitorOp → Bool
  | .markChecked _ _ => true
  | _ => false

/-- Whether a call has done its work for its check: it returns, or it is a
`mark_checked` that raises with the mark written. -/
def completes (op : MonitorOp) : Reaction → Bool
  | .returns _ => true
  | .raises _ => false
  | .raisesAfter _ => marks op

/-- Whether a call returns. -/
def returned : Reaction → Bool
  | .returns _ => true
  | _ => false

/-- Whether all calls of a move do their work. -/
def moveCompletes (job : CheckJob) : Move Reaction → Bool
  | .start _ choices => choices.all returned
  | .resume _ choice choices =>
      (match job.status with
        | .running (.call op _) => completes op choice
        | _ => true) && choices.all returned

/-- Whether, in a step of a check of target `id`, the retailer is registered and the
calls do their work. -/
def checksComplete (config : LoopConfig) (id : Nat) (loop : MonitorLoop) : LoopMove → Bool
  | .check move =>
      match loop.phase.jobs[move.index]? with
      | some job => job.key.id != some id ||
          decide (job.key.retailerSlug ∈ config.factories) && moveCompletes job move
      | none => true
  | _ => true

/-- A call writes the watch targets only as `mark_checked`. -/
theorem watchTargets_respond (config : MonitorConfig) (op : MonitorOp) (reaction : Reaction)
    (store : MonitorStore) :
    (respond config op reaction store).2.db.watchTargets = store.db.watchTargets ∨
      ∃ id checkedAt, op = .markChecked id checkedAt ∧
        (respond config op reaction store).2.db.watchTargets =
          store.db.watchTargets.modify id
            (fun row => { row with lastCheckedAt := some checkedAt }) fun _ => rfl := by
  have hwork : ∀ found, (work config found op store).2.db.watchTargets = store.db.watchTargets ∨
      ∃ id checkedAt, op = .markChecked id checkedAt ∧
        (work config found op store).2.db.watchTargets =
          store.db.watchTargets.modify id
            (fun row => { row with lastCheckedAt := some checkedAt }) fun _ => rfl := by
    intro found
    cases op with
    | markChecked id checkedAt =>
        cases hfind : store.db.watchTargets.find? id with
        | none =>
            apply Or.inl
            simp only [work, SqlAlchemyWatchTargetRepository.markChecked, updateOne_of_none hfind]
        | some row =>
            refine Or.inr ⟨id, checkedAt, rfl, ?_⟩
            simp only [work, SqlAlchemyWatchTargetRepository.markChecked, updateOne_of_some hfind]
    | registryGet slug =>
        apply Or.inl
        simp only [work]
        split <;> rfl
    | _ => exact Or.inl rfl
  cases reaction with
  | returns found => exact hwork found
  | raises error => exact Or.inl rfl
  | raisesAfter error => exact hwork []

theorem persisted_respond {config : MonitorConfig} {op : MonitorOp} {reaction : Reaction}
    {store : MonitorStore} {id : Nat}
    (hpersisted : (store.db.watchTargets.find? id).isSome = true) :
    ((respond config op reaction store).2.db.watchTargets.find? id).isSome = true := by
  rcases watchTargets_respond config op reaction store with hsame | ⟨other, checkedAt, _, hmarked⟩
  · rw [hsame]
    exact hpersisted
  · rw [hmarked, Table.find?_modify]
    split
    · rw [Option.isSome_map]
      exact hpersisted
    · exact hpersisted

theorem lastChecked_respond {config : MonitorConfig} {op : MonitorOp} {reaction : Reaction}
    {store : MonitorStore} {id : Nat} (hop : ∀ checkedAt, op ≠ .markChecked id checkedAt) :
    lastChecked (respond config op reaction store).2 id = lastChecked store id := by
  unfold lastChecked
  rcases watchTargets_respond config op reaction store with hsame | ⟨other, checkedAt, rfl, hmarked⟩
  · rw [hsame]
  · have hne : id ≠ other := fun h => hop checkedAt (h ▸ rfl)
    rw [hmarked, Table.find?_modify, if_neg hne]

theorem lastStart_respond (config : MonitorConfig) (op : MonitorOp) (reaction : Reaction)
    (store : MonitorStore) (id : Nat) :
    lastStart (respond config op reaction store).2 id = lastStart store id := by
  unfold lastStart startsOf
  rw [(times_respond config op reaction store).2]

/-- Calls that do not mark the target leave it marked. -/
theorem Marked.call {config : MonitorConfig} {op : MonitorOp} {reaction : Reaction}
    {store : MonitorStore} {id : Nat} (hmarked : Marked id store)
    (hop : ∀ checkedAt, op ≠ .markChecked id checkedAt) :
    Marked id (respond config op reaction store).2 := by
  unfold Marked
  rw [lastStart_respond, lastChecked_respond hop]
  exact hmarked

/-- `mark_checked` of a persisted target writes, and returns unless the outside lets
it raise. -/
theorem respond_markChecked {config : MonitorConfig} {store : MonitorStore} {id : Nat}
    (hpersisted : (store.db.watchTargets.find? id).isSome = true) {checkedAt : Datetime}
    {reaction : Reaction} (hcompletes : completes (.markChecked id checkedAt) reaction = true) :
    lastChecked (respond config (.markChecked id checkedAt) reaction store).2 id =
      some (some checkedAt) := by
  obtain ⟨row, hrow⟩ := Option.isSome_iff_exists.mp hpersisted
  have hwork : ∀ found, lastChecked (work config found (.markChecked id checkedAt) store).2 id =
      some (some checkedAt) := by
    intro found
    simp only [work, SqlAlchemyWatchTargetRepository.markChecked, updateOne_of_some hrow,
      lastChecked, Table.find?_modify, if_true, hrow, Option.map_some]
  cases reaction with
  | returns found => exact hwork found
  | raises error => cases hcompletes
  | raisesAfter error => exact hwork []

/-! ## A tick -/

/-- What a check of target `id` keeps: the times it knows are not before its start,
and the target is marked once it has marked it or a call has failed it. -/
structure OnTime (id : Nat) (progress : CheckProgress) (store : MonitorStore) : Prop where
  times : ∀ start ∈ lastStart store id, ∀ time ∈ progress.times, start ≤ time
  marked : progress.marked.isSome = true ∨ progress.failed = true → Marked id store

/-- What every call of a tick keeps; `quiet` when the tick has no check of `id`. -/
structure Upkeep (id : Nat) (quiet : Bool) (store : MonitorStore) : Prop where
  persisted : (store.db.watchTargets.find? id).isSome = true
  past : ∀ start ∈ lastStart store id, start ≤ store.clock
  marked : quiet = true → Marked id store

/-- The reactions considered: the calls of a check of `id` complete, on time. -/
structure Considered (config : SchedulerConfig) (id : Nat) (quiet : Bool)
    (watchTarget : WatchTarget) (op : MonitorOp) (reaction : Reaction) (store : MonitorStore) :
    Prop where
  others : quiet = true → watchTarget.id ≠ some id
  registered : watchTarget.id = some id → watchTarget.retailerSlug ∈ config.factories
  completes : watchTarget.id = some id → completes op reaction = true
  stamped : watchTarget.id = some id → ∀ slug keyword found, op = .searchProduct slug keyword →
    reaction = .returns found → ∀ result ∈ found, ∀ start ∈ lastStart store id,
      start ≤ result.scrapedAt

section Calls

variable {config : SchedulerConfig} {id : Nat} {quiet : Bool} {watchTarget : WatchTarget}
  {op : MonitorOp} {reaction : Reaction} {progress : CheckProgress} {store : MonitorStore}

/-- A check marks only its own target. -/
theorem not_marks_of_ne (hallows : progress.Allows watchTarget op)
    (hne : watchTarget.id ≠ some id) (checkedAt : Datetime) : op ≠ .markChecked id checkedAt := by
  rintro rfl
  exact hne hallows.1

theorem Upkeep.call (hupkeep : Upkeep id quiet store) (hallows : progress.Allows watchTarget op)
    (hconsidered : Considered config id quiet watchTarget op reaction store) :
    Upkeep id quiet (respond config.toMonitorConfig op reaction store).2 := by
  refine ⟨persisted_respond hupkeep.persisted, ?_, ?_⟩
  · rw [lastStart_respond, (times_respond _ op reaction store).1]
    exact hupkeep.past
  · intro hquiet
    exact (hupkeep.marked hquiet).call (not_marks_of_ne hallows (hconsidered.others hquiet))

/-- Another check's call. -/
theorem OnTime.other (hontime : OnTime id progress store)
    (hop : ∀ checkedAt, op ≠ .markChecked id checkedAt) (config : MonitorConfig)
    (reaction : Reaction) : OnTime id progress (respond config op reaction store).2 := by
  refine ⟨?_, fun h => (hontime.marked h).call hop⟩
  rw [lastStart_respond]
  exact hontime.times

/-- A call of the check that learns times. -/
theorem OnTime.learn {next : CheckProgress} {learnt : List Datetime}
    (hontime : OnTime id progress store) (htimes : next.times = learnt ++ progress.times)
    (hlearnt : ∀ start ∈ lastStart store id, ∀ time ∈ learnt, start ≤ time)
    (hmarked : next.marked = progress.marked) (hfailed : next.failed = progress.failed) :
    OnTime id next store := by
  refine ⟨?_, ?_⟩
  · intro start hstart time htime
    rw [htimes] at htime
    rcases List.mem_append.mp htime with hnew | hold
    · exact hlearnt start hstart time hnew
    · exact hontime.times start hstart time hold
  · rw [hmarked, hfailed]
    exact hontime.marked

/-- A call of the check that learns no time and does not mark. -/
theorem OnTime.unchanged {next : CheckProgress} (hontime : OnTime id progress store)
    (htimes : next.times = progress.times) (hmarked : next.marked = progress.marked)
    (hfailed : next.failed = progress.failed) : OnTime id next store :=
  hontime.learn (htimes.trans (List.nil_append _).symm) (fun _ _ _ h => (by cases h)) hmarked
    hfailed

/-- The check's own call. -/
theorem OnTime.own (hontime : OnTime id progress store) (hupkeep : Upkeep id quiet store)
    (hid : watchTarget.id = some id) (hallows : progress.Allows watchTarget op)
    (hconsidered : Considered config id quiet watchTarget op reaction store) :
    OnTime id (progress.next op (respond config.toMonitorConfig op reaction store).1)
      (respond config.toMonitorConfig op reaction store).2 := by
  have hcompletes := hconsidered.completes hid
  by_cases hmark : ∃ checkedAt, op = .markChecked id checkedAt
  · obtain ⟨checkedAt, rfl⟩ := hmark
    have hwritten : lastChecked (respond config.toMonitorConfig (.markChecked id checkedAt)
        reaction store).2 id = some (some checkedAt) :=
      respond_markChecked hupkeep.persisted hcompletes
    have hmarked : Marked id
        (respond config.toMonitorConfig (.markChecked id checkedAt) reaction store).2 := by
      intro start hstart
      rw [lastStart_respond] at hstart
      exact ⟨checkedAt, hwritten, hontime.times start hstart checkedAt hallows.2.2⟩
    refine ⟨?_, fun _ => hmarked⟩
    rw [lastStart_respond]
    cases (respond config.toMonitorConfig (.markChecked id checkedAt) reaction store).1 <;>
      exact hontime.times
  · have hop : ∀ checkedAt, op ≠ .markChecked id checkedAt := fun checkedAt h =>
      hmark ⟨checkedAt, h⟩
    have hafter := hontime.other hop config.toMonitorConfig reaction
    cases reaction with
    | raises error => cases hcompletes
    | raisesAfter error =>
        cases op with
        | markChecked other checkedAt =>
            cases hid.symm.trans hallows.1
            exact absurd rfl (hop checkedAt)
        | _ => cases hcompletes
    | returns found =>
        cases op with
        | markChecked other checkedAt =>
            cases hid.symm.trans hallows.1
            exact absurd rfl (hop checkedAt)
        | registryGet slug =>
            obtain ⟨_, rfl⟩ := hallows
            have hreply : (respond config.toMonitorConfig (.registryGet watchTarget.retailerSlug)
                (.returns found) store).1 = .ok () := by
              simp only [respond, work, if_pos (hconsidered.registered hid)]
            rw [hreply]
            exact hafter.unchanged rfl rfl rfl
        | searchProduct slug keyword =>
            refine hontime.learn rfl ?_ rfl rfl
            intro start hstart time htime
            obtain ⟨result, hresult, rfl⟩ := List.mem_map.mp htime
            exact hconsidered.stamped hid slug keyword found rfl rfl result hresult start hstart
        | now =>
            refine hontime.learn (List.singleton_append).symm ?_ rfl rfl
            intro start hstart time htime
            rw [List.mem_singleton.mp htime]
            exact hupkeep.past start hstart
        | createSnapshot other result => exact hafter.unchanged rfl rfl (Bool.or_false _)
        | createEvent _ _ _ _ _ => exact hafter.unchanged rfl rfl (Bool.or_false _)
        | setLocation | closeLocationPage | getLatest | publish | dispatchDetectionEvent =>
            exact hafter.unchanged rfl rfl rfl

end Calls

/-- What the calls of a tick keep of target `id` and its check. -/
def markingDiscipline (config : SchedulerConfig) (id : Nat) (quiet : Bool) :
    Discipline (tickPool config) CheckProgress where
  protocol := checkProtocol
  start _ _ := .start
  global := Upkeep id quiet
  assertion watchTarget progress store := watchTarget.id = some id → OnTime id progress store
  ended watchTarget _ store := watchTarget.id = some id → Marked id store
  apart left right := left.id ≠ right.id
  admits := Considered config id quiet
  obeys_start watchTarget _ _ := checkWatchTarget_obeys watchTarget
  assertion_start _ _ _ _ :=
    ⟨fun _ _ _ h => (by cases h), fun h => (by rcases h with h | h <;> cases h)⟩
  respond_own _ _ _ _ _ hupkeep hontime hallows hconsidered :=
    ⟨trivial, hupkeep.call hallows hconsidered,
      fun hid => (hontime hid).own hupkeep hid hallows hconsidered⟩
  respond_other _ _ _ reaction _ _ _ _ _ hallows _ hne _ hother hid :=
    (hother hid).other (not_marks_of_ne hallows fun h => hne (h.trans hid.symm)) _ reaction
  respond_ended _ _ _ _ _ _ _ _ _ hallows _ hne hended hid :=
    (hended hid).call (not_marks_of_ne hallows fun h => hne (h.trans hid.symm))
  ended_of_post watchTarget result progress store _ hontime hpost hid := by
    cases result with
    | ok events => exact (hontime hid).marked (Or.inl hpost)
    | error error =>
        rcases hpost with hnone | hfailed
        · cases hnone.symm.trans hid
        · exact (hontime hid).marked (Or.inr hfailed)

/-! ## Along a run of the loop -/

/-- Whether the jobs of a tick hold a check of target `id`. -/
def QuietFor (id : Nat) (quiet : Bool) (jobs : List CheckJob) : Prop :=
  if quiet then ∀ job ∈ jobs, job.key.id ≠ some id else ∃ job ∈ jobs, job.key.id = some id

/-- Between ticks the target is marked; during one its check, if there is one, will
mark it. -/
def Attended (config : LoopConfig) (id : Nat) (loop : MonitorLoop) : Prop :=
  match loop.phase with
  | .sleeping _ => Upkeep id true loop.store
  | .ticking jobs => ∃ quiet, QuietFor id quiet jobs ∧
      (markingDiscipline config.toSchedulerConfig id quiet).Sound ⟨jobs, loop.store⟩
  | .stopped => True

/-- What happens outside the checks leaves what concerns target `id`. -/
structure Undisturbed (id : Nat) (store next : MonitorStore) : Prop where
  starts : lastStart next id = lastStart store id
  clock : store.clock ≤ next.clock
  checked : lastChecked next id = lastChecked store id

section Undisturbed

variable {config : LoopConfig} {id : Nat} {quiet : Bool} {store next : MonitorStore}

theorem Marked.undisturbed (hmarked : Marked id store) (hsame : Undisturbed id store next) :
    Marked id next := by
  unfold Marked
  rw [hsame.starts, hsame.checked]
  exact hmarked

theorem Upkeep.undisturbed (hupkeep : Upkeep id quiet store) (hsame : Undisturbed id store next) :
    Upkeep id quiet next := by
  refine ⟨?_, ?_, fun hquiet => (hupkeep.marked hquiet).undisturbed hsame⟩
  · have hsome := congrArg Option.isSome hsame.checked
    unfold lastChecked at hsome
    rw [Option.isSome_map, Option.isSome_map] at hsome
    rw [hsome]
    exact hupkeep.persisted
  · intro start hstart
    rw [hsame.starts] at hstart
    exact Int.le_trans (hupkeep.past start hstart) hsame.clock

/-- A tick stays sound when nothing that concerns a check past its start has changed. -/
theorem sound_undisturbed {jobs : List CheckJob}
    (hsound : (markingDiscipline config.toSchedulerConfig id quiet).Sound ⟨jobs, store⟩)
    (hupkeep : Upkeep id quiet next)
    (hsame : ∀ job ∈ jobs, job.key.id = some id → job.status ≠ .waiting →
      Undisturbed id store next) :
    (markingDiscipline config.toSchedulerConfig id quiet).Sound ⟨jobs, next⟩ := by
  refine hsound.change hupkeep ?_ ?_
  · intro job hjob program progress hstatus hontime hid
    have hjobSame := hsame job hjob hid (by rw [hstatus]; exact fun h => (by cases h))
    refine ⟨?_, fun h => ((hontime hid).marked h).undisturbed hjobSame⟩
    rw [hjobSame.starts]
    exact (hontime hid).times
  · intro job hjob result hstatus hmarked hid
    have hjobSame := hsame job hjob hid (by rw [hstatus]; exact fun h => (by cases h))
    exact (hmarked hid).undisturbed hjobSame

/-- Other processes leave `last_checked_at` of a persisted target as it is. -/
theorem undisturbed_outside {store : MonitorStore} {db : Database}
    (hkeeps : keepsOwnColumns store.db db = true)
    (hpersisted : (store.db.watchTargets.find? id).isSome = true) :
    Undisturbed id store { store with db := db } := by
  refine ⟨rfl, Int.le_refl _, ?_⟩
  obtain ⟨row, hrow⟩ := Option.isSome_iff_exists.mp hpersisted
  unfold keepsOwnColumns at hkeeps
  simp only [Bool.and_eq_true, List.all_eq_true, beq_iff_eq] at hkeeps
  have hsame := hkeeps.1.1 row (Table.mem_of_find? hrow)
  have hid : row.id = id := Table.key_of_find? hrow
  rw [hid] at hsame
  unfold lastChecked
  rw [hrow]
  exact hsame

end Undisturbed

section Attended

variable {config : LoopConfig} {id : Nat} {quiet : Bool}

theorem QuietFor.not_quiet {jobs : List CheckJob} {job : CheckJob}
    (hquiet : QuietFor id quiet jobs) (hjob : job ∈ jobs) (hid : job.key.id = some id) :
    quiet = false := by
  cases quiet with
  | false => rfl
  | true => exact absurd hid (hquiet job hjob)

theorem exists_quietFor (id : Nat) (jobs : List CheckJob) : ∃ quiet, QuietFor id quiet jobs := by
  by_cases hjob : ∃ job ∈ jobs, job.key.id = some id
  · exact ⟨false, hjob⟩
  · exact ⟨true, fun job hmem hid => hjob ⟨job, hmem, hid⟩⟩

theorem quietFor_congr {jobs next : List CheckJob}
    (hkeys : next.map Job.key = jobs.map Job.key) (hquiet : QuietFor id quiet jobs) :
    QuietFor id quiet next := by
  have hiff : (∃ job ∈ next, job.key.id = some id) ↔ ∃ job ∈ jobs, job.key.id = some id := by
    have hmap : ∀ items : List CheckJob, (∃ job ∈ items, job.key.id = some id) ↔
        ∃ key ∈ items.map Job.key, key.id = some id := by
      intro items
      simp
    rw [hmap, hmap, hkeys]
  cases quiet with
  | false => exact hiff.mpr hquiet
  | true =>
      intro job hjob hid
      obtain ⟨old, hold, holdId⟩ := hiff.mp ⟨job, hjob, hid⟩
      exact hquiet old hold holdId

/-- Noting a start keeps the tick sound: the check that starts was waiting. -/
theorem sound_noteStart {jobs : List CheckJob} {store : MonitorStore} {move : Move Reaction}
    {next : TickState}
    (hsound : (markingDiscipline config.toSchedulerConfig id quiet).Sound ⟨jobs, store⟩)
    (hquiet : QuietFor id quiet jobs)
    (hstep : (tickPool config.toSchedulerConfig).step ⟨jobs, noteStart jobs store move⟩ move =
      some next) :
    (markingDiscipline config.toSchedulerConfig id quiet).Sound
      ⟨jobs, noteStart jobs store move⟩ := by
  rcases startsOf_noteStart hstep id with ⟨job, hjob, hid, hstatus, hnoted⟩ | hnoted
  · have hnot := hquiet.not_quiet (List.mem_of_getElem? hjob) hid
    refine sound_undisturbed hsound ⟨?_, ?_, ?_⟩ ?_
    · rw [db_noteStart]
      exact hsound.global.persisted
    · intro start hstart
      unfold lastStart at hstart
      rw [hnoted] at hstart
      cases hstart
      rw [clock_noteStart]
    · intro h
      cases hnot.symm.trans h
    · intro other hother hotherId hotherStatus
      obtain ⟨position, hposition⟩ := List.getElem?_of_mem hother
      have hne : position ≠ move.index := by
        rintro rfl
        cases hposition.symm.trans hjob
        exact hotherStatus hstatus
      have hapart := hsound.apart_of_ne hne hposition hjob
      exact absurd (hotherId.trans hid.symm) hapart
  · have hsame : Undisturbed id store (noteStart jobs store move) := by
      refine ⟨congrArg List.head? hnoted, ?_, ?_⟩
      · rw [clock_noteStart]
      · unfold lastChecked
        rw [db_noteStart]
    exact sound_undisturbed hsound (hsound.global.undisturbed hsame) fun _ _ _ _ => hsame

/-- The calls of a move that complete are ones the discipline considers. -/
theorem admitted_of_completes {jobs : List CheckJob} {store : MonitorStore} {move : Move Reaction}
    (hquiet : QuietFor id quiet jobs) (hstamped : stamped jobs store move = true)
    (hcomplete : ∀ job, jobs[move.index]? = some job → job.key.id = some id →
      job.key.retailerSlug ∈ config.factories ∧ moveCompletes job move = true) :
    (markingDiscipline config.toSchedulerConfig id quiet).Admitted
      ⟨jobs, noteStart jobs store move⟩ move := by
  have hothers : ∀ key status, jobs[move.index]? = some ⟨key, status⟩ → quiet = true →
      key.id ≠ some id := by
    intro key status hjob hq hid
    cases (hquiet.not_quiet (List.mem_of_getElem? hjob) hid).symm.trans hq
  have hsync : ∀ key status (choices : List Reaction), jobs[move.index]? = some ⟨key, status⟩ →
      (key.id = some id → choices.all returned = true) →
      (markingDiscipline config.toSchedulerConfig id quiet).AdmitsSync key choices := by
    intro key status choices hjob hreturns choice hchoice op reached hawaits
    refine ⟨hothers key status hjob, fun hid => (hcomplete _ hjob hid).1, ?_, ?_⟩
    · intro hid
      have hreturned := List.all_eq_true.mp (hreturns hid) choice hchoice
      cases choice with
      | returns found => rfl
      | raises error => cases hreturned
      | raisesAfter error => cases hreturned
    · rintro _ slug keyword found rfl
      cases hawaits
  cases move with
  | start index choices =>
      intro key status hjob
      exact hsync key status choices hjob fun hid => (hcomplete _ hjob hid).2
  | resume index choice choices =>
      intro key op resume hjob
      have hcalls : key.id = some id → completes op choice = true ∧ choices.all returned = true :=
        fun hid => Bool.and_eq_true_iff.mp (hcomplete _ hjob hid).2
      refine ⟨⟨hothers key _ hjob, fun hid => (hcomplete _ hjob hid).1,
        fun hid => (hcalls hid).1, ?_⟩, hsync key _ choices hjob fun hid => (hcalls hid).2⟩
      rintro hid slug keyword found rfl rfl result hresult start hstart
      have hjob' : jobs[index]? = some ⟨key, .running (.call (.searchProduct slug keyword)
        resume)⟩ := hjob
      simp only [stamped, hjob', List.all_eq_true, Bool.and_eq_true] at hstamped
      have hresultStamped := (hstamped result hresult).2
      rw [hid, Option.bind_some] at hresultStamped
      have hhead : lastStart store id = some start := hstart
      rw [hhead] at hresultStamped
      exact of_decide_eq_true hresultStamped

/-- A move of a tick whose calls complete. -/
theorem Attended.check {loop next : MonitorLoop} {move : Move Reaction}
    (hattended : Attended config id loop)
    (hcomplete : checksComplete config id loop (.check move) = true)
    (hstep : loop.step config (.check move) = some next) : Attended config id next := by
  obtain ⟨jobs, tick, hphase, hstamped, htick, rfl⟩ := check_cases hstep
  unfold Attended at hattended
  rw [hphase] at hattended
  obtain ⟨quiet, hquiet, hsound⟩ := hattended
  have hcomplete' : ∀ job, jobs[move.index]? = some job → job.key.id = some id →
      job.key.retailerSlug ∈ config.factories ∧ moveCompletes job move = true := by
    intro job hjob hid
    have hjob' : loop.phase.jobs[move.index]? = some job := by
      rw [hphase]
      exact hjob
    simpa [checksComplete, hjob', hid] using hcomplete
  have hadmitted := admitted_of_completes hquiet hstamped hcomplete'
  have hnext := Discipline.sound_step (sound_noteStart hsound hquiet htick) hadmitted htick
  have hkeys : tick.jobs.map Job.key = jobs.map Job.key := PoolSpec.keys_step htick
  exact ⟨quiet, quietFor_congr hkeys hquiet, hnext⟩

/-- Nothing that happens outside the checks is missed. -/
theorem Attended.outside {phase : Phase} {store next : MonitorStore}
    (hattended : Attended config id ⟨phase, store⟩)
    (hsame : (store.db.watchTargets.find? id).isSome = true → Undisturbed id store next) :
    Attended config id ⟨phase, next⟩ := by
  cases phase with
  | stopped => trivial
  | sleeping wake =>
      have hupkeep : Upkeep id true store := hattended
      exact hupkeep.undisturbed (hsame hupkeep.persisted)
  | ticking jobs =>
      obtain ⟨quiet, hquiet, hsound⟩ := hattended
      have hundisturbed := hsame hsound.global.persisted
      exact ⟨quiet, hquiet, sound_undisturbed hsound (hsound.global.undisturbed hundisturbed)
        fun _ _ _ _ => hundisturbed⟩

/-- When all checks of a tick have ended the target is marked. -/
theorem upkeep_of_ended {jobs : List CheckJob} {store : MonitorStore}
    (hquiet : QuietFor id quiet jobs)
    (hsound : (markingDiscipline config.toSchedulerConfig id quiet).Sound ⟨jobs, store⟩)
    (hended : ∀ job ∈ jobs, hasEnded job = true) : Upkeep id true store := by
  refine ⟨hsound.global.persisted, hsound.global.past, fun _ => ?_⟩
  cases quiet with
  | true => exact hsound.global.marked rfl
  | false =>
      obtain ⟨job, hjob, hid⟩ := hquiet
      have hjobEnded := hended job hjob
      have hjobSound := hsound.jobs job hjob
      obtain ⟨watchTarget, status⟩ := job
      cases status with
      | waiting => cases hjobEnded
      | running program => cases hjobEnded
      | finished result => exact hjobSound hid

/-- The step lemma. -/
theorem Attended.step {loop next : MonitorLoop} {move : LoopMove}
    (hattended : Attended config id loop) (hcomplete : checksComplete config id loop move = true)
    (hstep : loop.step config move = some next) : Attended config id next := by
  cases move with
  | check move => exact hattended.check hcomplete hstep
  | elapse span =>
      cases hstep
      have hlater : loop.store.clock ≤ loop.store.clock + span :=
        Int.le_add_of_nonneg_right (Int.natCast_nonneg span)
      exact Attended.outside hattended fun _ => ⟨rfl, hlater, rfl⟩
  | outside db =>
      obtain ⟨hkeeps, rfl⟩ := outside_cases hstep
      exact Attended.outside hattended fun hpersisted => undisturbed_outside hkeeps hpersisted
  | listDueRaises =>
      cases listDueRaises_cases hstep
      trivial
  | listDue =>
      obtain ⟨wake, hphase, _, rfl⟩ := listDue_cases hstep
      unfold Attended at hattended
      rw [hphase] at hattended
      have hupkeep : Upkeep id true loop.store := hattended
      let targets := SqlAlchemyWatchTargetRepository.listDue loop.store.db loop.store.clock
      obtain ⟨quiet, hquiet⟩ := exists_quietFor id (tickStart targets loop.store).jobs
      refine ⟨quiet, hquiet, Discipline.sound_gather _ ?_ ?_⟩
      · exact ⟨hupkeep.persisted, hupkeep.past, fun _ => hupkeep.marked rfl⟩
      · exact (SqlAlchemyWatchTargetRepository.listDue_pairwise _ _).imp fun hne => ⟨hne, hne.symm⟩
  | endTick =>
      obtain ⟨jobs, hphase, hended, rfl⟩ := endTick_cases hstep
      unfold Attended at hattended
      rw [hphase] at hattended
      obtain ⟨quiet, hquiet, hsound⟩ := hattended
      exact upkeep_of_ended hquiet hsound hended

end Attended

end StockMonitoring.Monitor
