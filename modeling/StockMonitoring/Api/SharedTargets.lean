import StockMonitoring.Api.Requests
import Mathlib.Order.Bounds.Basic

set_option autoImplicit false

/-!
# Api: the shared watch targets against their active watches

`get_or_create` lowers the interval of a shared target to that of a new watch.
`delete_watch` deactivates a watch and leaves its target alone, so a target keeps the
interval of watches that are gone, and stays due when none is left.  `KeepsLeast` is
the condition on a request under which the target still follows its watches.
-/

namespace StockMonitoring.Api

open StockMonitoring.Foundation StockMonitoring.Domain StockMonitoring.Application
  StockMonitoring.Infrastructure.Db

/-! ## Targets and their watches -/

/-- The intervals of the active watches of a target. -/
def activeIntervals (db : Database) (watchTargetId : Nat) : Set Int :=
  {interval | ∃ watch ∈ db.watches.rows, watch.watchTargetId = watchTargetId ∧
    watch.isActive = true ∧ watch.intervalSeconds = interval}

/-- The targets follow their active watches. -/
structure FollowsWatches (db : Database) : Prop where
  /-- a watched target has the smallest interval of its active watches -/
  interval : ∀ target ∈ db.watchTargets.rows, (activeIntervals db target.id).Nonempty →
    IsLeast (activeIntervals db target.id) target.intervalSeconds
  /-- an unwatched target is not due -/
  due : ∀ now, ∀ watchTarget ∈ SqlAlchemyWatchTargetRepository.listDue db now,
    ∃ id, watchTarget.id = some id ∧ (activeIntervals db id).Nonempty

/-- Serving only `create_watch` and `delete_watch` requests. -/
def watchStep (tie : Nat → Nat) (db : Database) (arrival : ApiArrival) : Option Database :=
  match arrival.request with
  | .createWatch _ | .deleteWatch _ => apiStep tie db arrival
  | _ => none

/-- A request does not take the last active watch with a target's interval away. -/
def KeepsLeast (db : Database) (arrival : ApiArrival) : Prop :=
  match arrival.request with
  | .deleteWatch watchId =>
      (arrival.turns 0).failure = none → (arrival.turns 1).failure = none →
      ∀ watch, ownRow WatchModel.userId db.watches watchId arrival.userId = some watch →
        watch.isActive = true →
        ∀ target ∈ db.watchTargets.rows, target.id = watch.watchTargetId →
          ∃ other ∈ db.watches.rows, other.id ≠ watchId ∧ other.isActive = true ∧
            other.watchTargetId = watch.watchTargetId ∧
            other.intervalSeconds = target.intervalSeconds
  | _ => True

/-! ## Deactivation -/

/-- What `deactivate` leaves. -/
def deactivated (db : Database) (watchId : Nat) : Database :=
  (SqlAlchemyWatchRepository.deactivate db watchId).2

theorem deactivated_eq (db : Database) (watchId : Nat) :
    deactivated db watchId =
      { db with
        watches := db.watches.modify watchId fun row => { row with isActive := false } } := by
  change { db with watches := (updateIfAny db.watches watchId _ _).2 } = _
  rw [updateIfAny_snd]

theorem mem_deactivated {db : Database} {watchId : Nat} {row : WatchModel} :
    row ∈ (deactivated db watchId).watches.rows ↔
      (row ∈ db.watches.rows ∧ row.id ≠ watchId) ∨
        ∃ old ∈ db.watches.rows, old.id = watchId ∧ row = { old with isActive := false } := by
  rw [deactivated_eq, Table.rows_modify, List.mem_map]
  constructor
  · rintro ⟨old, hold, rfl⟩
    by_cases hid : old.id = watchId
    · exact Or.inr ⟨old, hold, hid, if_pos hid⟩
    · exact Or.inl (by rw [if_neg (show ¬ Keyed.key old = watchId from hid)]; exact ⟨hold, hid⟩)
  · rintro (⟨hrow, hid⟩ | ⟨old, hold, hid, rfl⟩)
    · exact ⟨row, hrow, if_neg hid⟩
    · exact ⟨old, hold, if_pos hid⟩

theorem foreignKeys_deactivated {db : Database} (hkeys : ForeignKeys db) (watchId : Nat) :
    ForeignKeys (deactivated db watchId) := by
  have hold : ∀ row ∈ (deactivated db watchId).watches.rows, ∃ old ∈ db.watches.rows,
      row.userId = old.userId ∧ row.productId = old.productId ∧
        row.watchTargetId = old.watchTargetId := by
    intro row hrow
    rcases mem_deactivated.mp hrow with ⟨hmem, _⟩ | ⟨old, hmem, _, rfl⟩
    · exact ⟨row, hmem, rfl, rfl, rfl⟩
    · exact ⟨old, hmem, rfl, rfl, rfl⟩
  refine { hkeys with watchUser := ?_, watchProduct := ?_, watchTarget := ?_ }
  · intro row hrow
    obtain ⟨old, hmem, huser, _, _⟩ := hold row hrow
    rw [huser]
    exact hkeys.watchUser old hmem
  · intro row hrow
    obtain ⟨old, hmem, _, hproduct, _⟩ := hold row hrow
    rw [hproduct]
    exact hkeys.watchProduct old hmem
  · intro row hrow
    obtain ⟨old, hmem, _, _, htarget⟩ := hold row hrow
    rw [htarget]
    exact hkeys.watchTarget old hmem

/-- The active watches left are the other ones. -/
theorem mem_activeIntervals_deactivated {db : Database} {watchId watchTargetId : Nat}
    {interval : Int} :
    interval ∈ activeIntervals (deactivated db watchId) watchTargetId ↔
      ∃ other ∈ db.watches.rows, other.id ≠ watchId ∧ other.watchTargetId = watchTargetId ∧
        other.isActive = true ∧ other.intervalSeconds = interval := by
  constructor
  · rintro ⟨watch, hwatch, htarget, hactive, hinterval⟩
    rcases mem_deactivated.mp hwatch with ⟨hmem, hid⟩ | ⟨old, _, _, rfl⟩
    · exact ⟨watch, hmem, hid, htarget, hactive, hinterval⟩
    · cases hactive
  · rintro ⟨other, hmem, hid, htarget, hactive, hinterval⟩
    exact ⟨other, mem_deactivated.mpr (Or.inl ⟨hmem, hid⟩), htarget, hactive, hinterval⟩

/-- The run of `delete_watch` on one's own watch. -/
theorem exec_deleteWatch (tie : Nat → Nat) {turns : Nat → ApiTurn} {db : Database}
    {row : WatchModel} {watchId userId : Nat} (hfind : db.watches.find? watchId = some row)
    (howner : row.userId = userId) (hfirst : (turns 0).failure = none) :
    (runHandler tie turns (deleteWatch watchId userId) db).ending =
      match (turns 1).failure with
      | some error => (.error error, (2, db))
      | none => (.ok (), (2, deactivated db watchId)) := by
  have hlast : askApi (.deactivate watchId) =
      askApi (.deactivate watchId) >>= fun answer => pure answer :=
    (Co.bind_ret (askApi (.deactivate watchId))).symm
  have hreply : (SqlAlchemyWatchRepository.deactivate db watchId).1 = .ok () := by
    simp only [SqlAlchemyWatchRepository.deactivate, updateIfAny_of_some hfind]
  have hwork : apiWork tie (turns 1) (.deactivate watchId) db =
      (.ok (), deactivated db watchId) := Prod.ext hreply rfl
  unfold runHandler deleteWatch
  rw [exec_ownedWatch hfind howner hfirst, Outcome.after_ending, hlast]
  cases hsecond : (turns 1).failure with
  | some error =>
      rw [exec_askApi_raises (apiRespond_of_some hsecond rfl)]
      rfl
  | none =>
      have hrespond : apiRespond tie (.deactivate watchId) (turns 1) db =
          (.ok (), deactivated db watchId) := (apiRespond_of_none hsecond).trans hwork
      rw [exec_askApi hrespond]
      rfl

/-- What `delete_watch` leaves committed. -/
theorem serve_deleteWatch (tie : Nat → Nat) {db : Database} (hkeys : ForeignKeys db)
    (userId watchId : Nat) (turns : Nat → ApiTurn) :
    ((ApiArrival.mk userId (.deleteWatch watchId) turns).serve tie db).2 =
      if (turns 0).failure = none ∧ (turns 1).failure = none ∧
          (ownRow WatchModel.userId db.watches watchId userId).isSome then
        deactivated db watchId
      else db := by
  change (commit Prod.snd db (runHandler tie turns (deleteWatch watchId userId) db)).2 = _
  cases hfirst : (turns 0).failure with
  | some error =>
      have hrun : (runHandler tie turns (deleteWatch watchId userId) db).result = .error error := by
        unfold runHandler deleteWatch ownedWatch
        rw [Co.bind_assoc, exec_askApi_raises (apiRespond_of_some hfirst rfl)]
      rw [commit_of_error hrun]
      simp
  | none =>
      cases hown : ownRow WatchModel.userId db.watches watchId userId with
      | none =>
          rcases serve_cases tie ⟨userId, .deleteWatch watchId, turns⟩ db with
            ⟨error, hserve⟩ | ⟨value, next, hsettle, _, _⟩
          · change commit Prod.snd db (runHandler tie turns (deleteWatch watchId userId) db) = _
              at hserve
            simp [hserve]
          · change settle tie turns (deleteWatch watchId userId) 0 db = _ at hsettle
            rw [settle_deleteWatch, hown] at hsettle
            cases hsettle
      | some row =>
          obtain ⟨hmem, hkey, howner⟩ := ownRow_eq_some_iff.mp hown
          have hfind := Table.find?_eq_some_iff.mpr ⟨hmem, hkey⟩
          have hrun := exec_deleteWatch tie hfind howner hfirst
          cases hsecond : (turns 1).failure with
          | some error =>
              rw [hsecond] at hrun
              rw [commit_of_error (congrArg Prod.fst hrun)]
              simp
          | none =>
              rw [hsecond] at hrun
              have hstate : (runHandler tie turns (deleteWatch watchId userId) db).state.2 =
                  deactivated db watchId := congrArg (fun ending => ending.2.2) hrun
              rw [commit_of_ok (congrArg Prod.fst hrun), hstate,
                if_pos (foreignKeys_deactivated hkeys watchId)]
              simp

/-! ## Creation -/

/-- What `create_watch` leaves committed, if it does not raise. -/
theorem serve_createWatch (tie : Nat → Nat) (db : Database) (userId : Nat)
    (body : WatchCreateSchema) (turns : Nat → ApiTurn) :
    ((ApiArrival.mk userId (.createWatch body) turns).serve tie db).2 = db ∨
      ∃ (product : ProductModel) (watchTargetId : Nat) (mid : Database),
        targetFor db body.retailerSlug body.city body.pincode product.keyword
          body.intervalSeconds = .ok (watchTargetId, mid) ∧
        ((ApiArrival.mk userId (.createWatch body) turns).serve tie db).2 =
          (SqlAlchemyWatchRepository.create mid userId product.id watchTargetId
            body.intervalSeconds).2 := by
  rcases serve_cases tie ⟨userId, .createWatch body, turns⟩ db with
    ⟨error, hserve⟩ | ⟨value, next, hsettle, _, hserve⟩
  · exact Or.inl (congrArg Prod.snd hserve)
  · right
    change settle tie turns (createWatch body userId) 0 db = _ at hsettle
    rw [settle_createWatch] at hsettle
    cases hown : ownRow ProductModel.userId db.products body.productId userId with
    | none =>
        rw [hown] at hsettle
        cases hsettle
    | some product =>
        rw [hown] at hsettle
        simp only at hsettle
        cases htarget : targetFor db body.retailerSlug body.city body.pincode product.keyword
            body.intervalSeconds with
        | error error =>
            rw [htarget] at hsettle
            cases hsettle
        | ok reached =>
            obtain ⟨watchTargetId, mid⟩ := reached
            rw [htarget] at hsettle
            have hnext := congrArg Prod.snd hsettle
            exact ⟨product, watchTargetId, mid, htarget,
              (congrArg Prod.snd hserve).trans hnext.symm⟩

/-- A new watch adds its interval to those of its target. -/
theorem activeIntervals_created (db : Database) (userId productId watchTargetId id : Nat)
    (intervalSeconds : Int) :
    activeIntervals (SqlAlchemyWatchRepository.create db userId productId watchTargetId
        intervalSeconds).2 id =
      if watchTargetId = id then insert intervalSeconds (activeIntervals db id)
      else activeIntervals db id := by
  have hrows : (SqlAlchemyWatchRepository.create db userId productId watchTargetId
      intervalSeconds).2.watches.rows = db.watches.rows ++
        [⟨db.watches.nextId, userId, productId, watchTargetId, intervalSeconds, true⟩] := rfl
  have hmem : ∀ interval, interval ∈ activeIntervals (SqlAlchemyWatchRepository.create db userId
      productId watchTargetId intervalSeconds).2 id ↔
        interval ∈ activeIntervals db id ∨ (watchTargetId = id ∧ interval = intervalSeconds) := by
    intro interval
    unfold activeIntervals
    rw [hrows]
    simp only [Set.mem_ofPred_eq, List.mem_append, List.mem_singleton, or_and_right, exists_or,
      exists_eq_left, true_and, eq_comm]
  ext interval
  rw [hmem]
  split
  · rename_i hsame
    rw [Set.mem_insert_iff]
    exact ⟨fun h => h.elim Or.inr fun hnew => Or.inl hnew.2,
      fun h => h.elim (fun hnew => Or.inr ⟨hsame, hnew⟩) Or.inl⟩
  · rename_i hother
    exact ⟨fun h => h.elim (fun hold => hold) fun hnew => absurd hnew.1 hother, Or.inl⟩

/-! ## The invariant -/

/-- Every target has an active watch and the smallest interval of its active watches. -/
def Covered (db : Database) : Prop :=
  ∀ target ∈ db.watchTargets.rows,
    IsLeast (activeIntervals db target.id) target.intervalSeconds

/-- No target was ever checked, so that each is due. -/
structure Unchecked (db : Database) : Prop where
  keys : ForeignKeys db
  unchecked : ∀ target ∈ db.watchTargets.rows, target.lastCheckedAt = none

/-- While every target is due, following the watches means being covered by them. -/
theorem followsWatches_iff {db : Database} (hunchecked : Unchecked db) :
    FollowsWatches db ↔ Covered db := by
  constructor
  · intro hfollows target htarget
    have hdue : SqlAlchemyWatchTargetRepository.isDue 0 target = true := by
      unfold SqlAlchemyWatchTargetRepository.isDue
      rw [hunchecked.unchecked target htarget]
    obtain ⟨id, hid, hwatched⟩ := hfollows.due 0 (toWatchTarget target)
      (List.mem_map_of_mem (List.mem_filter.mpr ⟨htarget, hdue⟩))
    cases hid
    exact hfollows.interval target htarget hwatched
  · intro hcovered
    refine ⟨fun target htarget _ => hcovered target htarget, ?_⟩
    intro now watchTarget hlisted
    obtain ⟨target, htarget, hid, _⟩ :=
      SqlAlchemyWatchTargetRepository.exists_row_of_mem_listDue hlisted
    exact ⟨target.id, hid, ⟨_, (hcovered target htarget).1⟩⟩

/-- No watch refers to a target that is not there yet. -/
theorem activeIntervals_nextId {db : Database} (hkeys : ForeignKeys db) :
    activeIntervals db db.watchTargets.nextId = ∅ := by
  rw [Set.eq_empty_iff_forall_notMem]
  rintro interval ⟨watch, hwatch, htarget, _⟩
  have hrefers := hkeys.watchTarget watch hwatch
  unfold Refers at hrefers
  rw [htarget, Table.find?_eq_none_of_le (Nat.le_refl _)] at hrefers
  cases hrefers

/-- A new watch keeps every target covered: its own is lowered to its interval if need be. -/
theorem covered_created {db mid : Database} (hkeys : ForeignKeys db) (hcovered : Covered db)
    {retailerSlug city pincode keyword : String} {intervalSeconds : Int}
    {watchTargetId : Nat} (userId productId : Nat)
    (htarget : targetFor db retailerSlug city pincode keyword intervalSeconds =
      .ok (watchTargetId, mid)) :
    Covered (SqlAlchemyWatchRepository.create mid userId productId watchTargetId
      intervalSeconds).2 := by
  intro target hmem
  change target ∈ mid.watchTargets.rows at hmem
  rw [activeIntervals_created]
  rcases targetFor_cases htarget with ⟨existing, hexisting, rfl, _, hmid⟩ | ⟨rfl, rfl⟩
  · by_cases hlower : intervalSeconds < existing.intervalSeconds
    · rw [if_pos hlower] at hmid
      subst hmid
      obtain ⟨old, hold, rfl⟩ := List.mem_map.mp hmem
      change IsLeast (if _ then insert _ (activeIntervals db _) else activeIntervals db _) _
      by_cases hsame : old.id = existing.id
      · obtain rfl := db.watchTargets.eq_of_key_eq hold hexisting hsame
        have hleast := (hcovered old hold).insert intervalSeconds
        rw [min_eq_left (Int.le_of_lt hlower)] at hleast
        simpa [Keyed.key] using hleast
      · have hother : ¬ existing.id = old.id := fun h => hsame h.symm
        simpa [Keyed.key, hsame, hother] using hcovered old hold
    · rw [if_neg hlower] at hmid
      subst hmid
      have hleast := hcovered target hmem
      split
      · rename_i hsame
        obtain rfl := mid.watchTargets.eq_of_key_eq hexisting hmem hsame
        have hleast' := hleast.insert intervalSeconds
        rwa [min_eq_right (Int.not_lt.mp hlower)] at hleast'
      · exact hleast
  · change IsLeast (if _ then insert _ (activeIntervals db _) else activeIntervals db _) _
    rcases List.mem_append.mp hmem with hold | hnew
    · have hlt := db.watchTargets.keys_lt target hold
      have hother : ¬ db.watchTargets.nextId = target.id := Nat.ne_of_gt hlt
      rw [if_neg hother]
      exact hcovered target hold
    · rw [List.mem_singleton.mp hnew, if_pos rfl]
      change IsLeast (insert intervalSeconds (activeIntervals db db.watchTargets.nextId)) _
      rw [activeIntervals_nextId hkeys, insert_empty_eq]
      exact isLeast_singleton

/-- No target is checked by making a watch. -/
theorem unchecked_targetFor {db mid : Database}
    (hunchecked : ∀ target ∈ db.watchTargets.rows, target.lastCheckedAt = none)
    {retailerSlug city pincode keyword : String} {intervalSeconds : Int} {watchTargetId : Nat}
    (htarget : targetFor db retailerSlug city pincode keyword intervalSeconds =
      .ok (watchTargetId, mid)) :
    ∀ target ∈ mid.watchTargets.rows, target.lastCheckedAt = none := by
  rcases targetFor_cases htarget with ⟨existing, _, _, _, rfl⟩ | ⟨_, rfl⟩
  · split
    · intro target hmem
      obtain ⟨old, hold, rfl⟩ := List.mem_map.mp hmem
      split
      · exact hunchecked old hold
      · exact hunchecked old hold
    · exact hunchecked
  · intro target hmem
    rcases List.mem_append.mp hmem with hold | hnew
    · exact hunchecked target hold
    · rw [List.mem_singleton.mp hnew]

/-- A deactivation keeps the targets covered exactly when the target of the watch has
another active watch with its interval. -/
theorem covered_deactivated_iff {db : Database} (hcovered : Covered db)
    {watch : WatchModel} (hwatch : watch ∈ db.watches.rows) :
    Covered (deactivated db watch.id) ↔
      (watch.isActive = true → ∀ target ∈ db.watchTargets.rows, target.id = watch.watchTargetId →
        ∃ other ∈ db.watches.rows, other.id ≠ watch.id ∧ other.isActive = true ∧
          other.watchTargetId = watch.watchTargetId ∧
          other.intervalSeconds = target.intervalSeconds) := by
  constructor
  · intro hafter _ target htarget hid
    obtain ⟨other, hother, hne, hsame, hactive, hinterval⟩ :=
      mem_activeIntervals_deactivated.mp (hafter target htarget).1
    exact ⟨other, hother, hne, hactive, hsame.trans hid, hinterval⟩
  · intro hkeeps target htarget
    change target ∈ db.watchTargets.rows at htarget
    obtain ⟨⟨least, hleast, hsame, hactive, hinterval⟩, hbound⟩ := hcovered target htarget
    refine ⟨mem_activeIntervals_deactivated.mpr ?_, ?_⟩
    · by_cases hid : least.id = watch.id
      · obtain rfl := db.watches.eq_of_key_eq hleast hwatch hid
        obtain ⟨other, hother, hne, hother_active, hother_target, hother_interval⟩ :=
          hkeeps hactive target htarget hsame.symm
        exact ⟨other, hother, hne, hother_target.trans hsame, hother_active, hother_interval⟩
      · exact ⟨least, hleast, hid, hsame, hactive, hinterval⟩
    · intro interval hmem
      obtain ⟨other, hother, _, hother_target, hother_active, hother_interval⟩ :=
        mem_activeIntervals_deactivated.mp hmem
      exact hbound ⟨other, hother, hother_target, hother_active, hother_interval⟩

/-! ## Runs -/

/-- A step serves a `create_watch` or a `delete_watch` request. -/
theorem watchStep_cases {tie : Nat → Nat} {db next : Database} {userId : Nat}
    {request : ApiRequest} {turns : Nat → ApiTurn}
    (hstep : watchStep tie db ⟨userId, request, turns⟩ = some next) :
    (∃ body, request = .createWatch body ∧
        next = ((ApiArrival.mk userId (.createWatch body) turns).serve tie db).2) ∨
      ∃ watchId, request = .deleteWatch watchId ∧
        next = ((ApiArrival.mk userId (.deleteWatch watchId) turns).serve tie db).2 := by
  cases request with
  | createWatch body => exact Or.inl ⟨body, rfl, (Option.some.inj hstep).symm⟩
  | deleteWatch watchId => exact Or.inr ⟨watchId, rfl, (Option.some.inj hstep).symm⟩
  | _ => cases hstep

/-- The step lemma: which requests keep the targets covered. -/
theorem watchStep_covered_iff {tie : Nat → Nat} {db next : Database} {arrival : ApiArrival}
    (hkeys : ForeignKeys db) (hcovered : Covered db)
    (hstep : watchStep tie db arrival = some next) :
    Covered next ↔ KeepsLeast db arrival := by
  obtain ⟨userId, request, turns⟩ := arrival
  rcases watchStep_cases hstep with ⟨body, rfl, rfl⟩ | ⟨watchId, rfl, rfl⟩
  · refine ⟨fun _ => trivial, fun _ => ?_⟩
    rcases serve_createWatch tie db userId body turns with
      hsame | ⟨product, watchTargetId, mid, htarget, hnext⟩
    · rw [hsame]
      exact hcovered
    · rw [hnext]
      exact covered_created hkeys hcovered userId product.id htarget
  · rw [serve_deleteWatch tie hkeys]
    by_cases hserved : (turns 0).failure = none ∧ (turns 1).failure = none ∧
        (ownRow WatchModel.userId db.watches watchId userId).isSome = true
    · obtain ⟨hfirst, hsecond, hown⟩ := hserved
      obtain ⟨watch, hown⟩ := Option.isSome_iff_exists.mp hown
      obtain ⟨hmem, hid, _⟩ := ownRow_eq_some_iff.mp hown
      change watch.id = watchId at hid
      subst hid
      rw [if_pos ⟨hfirst, hsecond, by rw [hown]; rfl⟩, covered_deactivated_iff hcovered hmem]
      constructor
      · intro hkeeps _ _ other hother hactive
        change ownRow WatchModel.userId db.watches watch.id userId = some other at hother
        rw [hown] at hother
        cases hother
        exact hkeeps hactive
      · intro hkeeps hactive
        exact hkeeps hfirst hsecond watch hown hactive
    · rw [if_neg hserved]
      refine ⟨fun _ => ?_, fun _ => hcovered⟩
      intro hfirst hsecond watch hown _
      exact absurd ⟨hfirst, hsecond, Option.isSome_iff_exists.mpr ⟨watch, hown⟩⟩ hserved

/-- No request checks a target. -/
theorem watchStep_unchecked {tie : Nat → Nat} {db next : Database} {arrival : ApiArrival}
    (hunchecked : Unchecked db) (hstep : watchStep tie db arrival = some next) :
    Unchecked next := by
  obtain ⟨userId, request, turns⟩ := arrival
  rcases watchStep_cases hstep with ⟨body, rfl, rfl⟩ | ⟨watchId, rfl, rfl⟩
  · refine ⟨serve_foreignKeys tie _ hunchecked.keys, ?_⟩
    rcases serve_createWatch tie db userId body turns with
      hsame | ⟨product, watchTargetId, mid, htarget, hnext⟩
    · rw [hsame]
      exact hunchecked.unchecked
    · have hmid := unchecked_targetFor hunchecked.unchecked htarget
      rw [hnext]
      exact hmid
  · refine ⟨serve_foreignKeys tie _ hunchecked.keys, ?_⟩
    rw [serve_deleteWatch tie hunchecked.keys]
    split
    · exact hunchecked.unchecked
    · exact hunchecked.unchecked

/-- Two users watch one target, every minute and every five minutes; the first one
deletes its watch. -/
def sharedDb : Database :=
  { Database.empty with
    users := (Table.empty.insert fun id => ⟨id, "+15550002222", none, 0⟩).insert
      fun id => ⟨id, "+15550003333", none, 0⟩
    products := (Table.empty.insert fun id => ⟨id, 1, "fresh milk", "milk", none⟩).insert
      fun id => ⟨id, 2, "fresh milk", "milk", none⟩ }

@[inherit_doc sharedDb] def sharedArrivals : List ApiArrival :=
  [⟨1, .createWatch ⟨1, "blinkit", "Delhi", "110001", 60⟩, fun _ => ⟨0, none⟩⟩,
    ⟨2, .createWatch ⟨2, "blinkit", "Delhi", "110001", 300⟩, fun _ => ⟨0, none⟩⟩,
    ⟨1, .deleteWatch 1, fun _ => ⟨0, none⟩⟩]

/-- The target stays at one minute although the only active watch asks for five. -/
theorem shared_target_keeps_interval :
    ¬ Throughout (watchStep fun key => key) FollowsWatches sharedDb sharedArrivals := by
  intro hthroughout
  let last := (runFrom (watchStep fun key => key) sharedDb sharedArrivals).getD sharedDb
  have hrun : runFrom (watchStep fun key => key) sharedDb sharedArrivals = some last := rfl
  have hfollows := hthroughout sharedArrivals [] last (List.append_nil _).symm hrun
  have htarget : (⟨1, "blinkit", "Delhi", "110001", "milk", 60, none⟩ : WatchTargetModel) ∈
      last.watchTargets.rows := by decide +kernel
  have hwatch : (⟨2, 2, 2, 1, 300, true⟩ : WatchModel) ∈ last.watches.rows := by decide +kernel
  have hleast := hfollows.interval _ htarget ⟨300, _, hwatch, rfl, rfl, rfl⟩
  obtain ⟨watch, hmem, _, hactive, hinterval⟩ := hleast.1
  revert watch
  decide +kernel

/-- In a run of `create_watch` and `delete_watch` requests the targets follow their
active watches in every state exactly when every request keeps the least interval. -/
theorem shared_targets_follow_iff {tie : Nat → Nat} {db : Database} (hkeys : ForeignKeys db)
    (htargets : db.watchTargets.rows = []) (arrivals : List ApiArrival) :
    Throughout (watchStep tie) FollowsWatches db arrivals ↔
      Along (watchStep tie) KeepsLeast db arrivals := by
  have hnone : ∀ target ∈ db.watchTargets.rows, False := by
    rw [htargets]
    exact fun target htarget => by cases htarget
  have hunchecked : Unchecked db := ⟨hkeys, fun target htarget => (hnone target htarget).elim⟩
  have hcovered : Covered db := fun target htarget => (hnone target htarget).elim
  refine throughout_iff_along (fun state arrival next => watchStep_unchecked) ?_ ?_ hunchecked
    ((followsWatches_iff hunchecked).mpr hcovered)
  · intro state arrival next hstate hfollows hstep
    rw [followsWatches_iff (watchStep_unchecked hstate hstep)]
    exact watchStep_covered_iff hstate.keys ((followsWatches_iff hstate).mp hfollows) hstep
  · intro state arrival hstuck
    obtain ⟨userId, request, turns⟩ := arrival
    cases request with
    | createWatch | deleteWatch => cases hstuck
    | _ => trivial

theorem shared_arrivals_follow_iff :
    Throughout (watchStep fun key => key) FollowsWatches sharedDb sharedArrivals ↔
      Along (watchStep fun key => key) KeepsLeast sharedDb sharedArrivals :=
  shared_targets_follow_iff (by decide) rfl sharedArrivals

end StockMonitoring.Api
