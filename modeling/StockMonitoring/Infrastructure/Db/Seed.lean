import StockMonitoring.Infrastructure.Db.RetailersAndLogs
import StockMonitoring.Foundation.SessionRuns

set_option autoImplicit false

/-!
# Infrastructure: seeding the retailers

`app/infrastructure/db/seed.py`, run by the `lifespan` of each API process on a session of
its own.  Several processes may start at once: each reads the slugs that are there and
inserts the missing ones, and the unique column refuses whoever commits second.  The
`lifespan` goes on whatever the seeding raises.  It may: a seeding that has read the slugs
leaves every supported retailer there, refused or not (`startups_seed_once`).
-/

namespace StockMonitoring.Infrastructure.Db

open StockMonitoring.Foundation StockMonitoring.Domain

/-! ## The seeding -/

/-- `SUPPORTED_RETAILERS`. -/
def supportedRetailers : List (String × String) :=
  [("blinkit", "Blinkit"), ("zepto", "Zepto"), ("instamart", "Swiggy Instamart"),
    ("bigbasket", "BigBasket")]

/-- The calls on the session. -/
inductive SeedOp where
  /-- `select(RetailerModel.slug)` -/
  | selectSlugs
  /-- `session.add` of an active retailer -/
  | add (slug name : String)

/-- What each call answers with. -/
abbrev SeedOp.Answer : SeedOp → Type
  | .selectSlugs => List String
  | .add _ _ => Unit

/-- The calls of the seeding. -/
abbrev seedPort : Signature := ⟨SeedOp, SeedOp.Answer⟩

/-- One call of the seeding. -/
abbrev askSeed (op : SeedOp) : Co seedPort Raised op.Answer := @Co.perform seedPort Raised op

/-- The loop of `ensure_retailers_seeded`. -/
def addMissing (existing : List String) : List (String × String) → Co seedPort Raised Unit
  | [] => pure ()
  | (slug, name) :: rest =>
      if slug ∈ existing then addMissing existing rest
      else do
        askSeed (.add slug name)
        addMissing existing rest

/-- `ensure_retailers_seeded`, up to its commit. -/
def ensureRetailersSeeded : Co seedPort Raised Unit := do
  let existing ← askSeed .selectSlugs
  addMissing existing supportedRetailers

namespace Retailers

/-- The slugs that are there. -/
def slugs (retailers : Retailers) : List String := retailers.rows.map RetailerModel.slug

/-- The rows without their keys. -/
def contents (retailers : Retailers) : List (String × String × Bool) :=
  retailers.rows.map fun row => (row.slug, row.name, row.isActive)

/-- Insert active retailers. -/
def inserted (table : Table RetailerModel) (added : List (String × String)) : Table RetailerModel :=
  added.foldl (fun table retailer =>
    table.insert fun id => ⟨id, retailer.1, retailer.2, true⟩) table

/-- The flush of the added retailers and the commit. -/
def commit (retailers : Retailers) (added : List (String × String)) : Except Raised Retailers :=
  if hunique : ((inserted retailers.toTable added).rows.map RetailerModel.slug).Nodup then
    .ok ⟨inserted retailers.toTable added, hunique⟩
  else .error .integrityError

end Retailers

/-- The startups of the API processes.  A select may raise; from outside come only gaps in the
sequence of the keys, as a refused commit leaves them. -/
def startups : SessionSpec Unit seedPort Raised Unit Retailers (List (String × String))
    (Option Raised) Nat where
  program _ := ensureRetailersSeeded
  fresh := []
  respond op failure committed added :=
    match op with
    | .selectSlugs =>
        (match failure with
          | some error => .error error
          | none => .ok committed.slugs, committed, added)
    | .add slug name => (.ok (), committed, added ++ [(slug, name)])
  commit := Retailers.commit
  outside key committed := ⟨committed.toTable.reserve key, committed.slugs_nodup⟩

/-- A startup. -/
abbrev Startup : Type :=
  Session Unit seedPort Raised Unit (List (String × String)) (Option Raised)

/-- The retailers and the startups. -/
abbrev StartupSystem : Type :=
  SessionSystem Unit seedPort Raised Unit Retailers (List (String × String)) (Option Raised)

/-- No call of the startup has been made to raise. -/
def Startup.Undisturbed (session : Startup) : Prop := ∀ call ∈ session.calls, call.1 = none

/-! ## What the startups promise -/

/-- The supported retailers that are not among these. -/
def missing (existing : List String) (retailers : List (String × String)) :
    List (String × String) :=
  retailers.filter fun retailer => retailer.1 ∉ existing

/-- The first rows, and behind them the supported retailers that were missing. -/
def Complete (initial committed : Retailers) : Prop :=
  committed.contents = initial.contents ++
    (missing initial.slugs supportedRetailers).map fun retailer => (retailer.1, retailer.2, true)

/-- What there is while processes start. -/
structure SeededOnce (initial : Retailers) (system : StartupSystem) : Prop where
  /-- no row is changed or removed -/
  kept : initial.rows <+: system.committed.rows
  /-- nothing has been added, or what was missing -/
  once : system.committed.contents = initial.contents ∨ Complete initial system.committed
  ended : ∀ session ∈ system.sessions, ¬ session.InProgress → Startup.Undisturbed session →
    Complete initial system.committed
  /-- a seeding that raises has lost against another -/
  raised : ∀ session ∈ system.sessions, ∀ error, session.response = some (.error error) →
    Startup.Undisturbed session → error = .integrityError
  /-- after an undisturbed startup every supported retailer is listed -/
  listed : ∀ session ∈ system.sessions, ¬ session.InProgress → Startup.Undisturbed session →
    ∀ retailer ∈ supportedRetailers,
      ∃ row ∈ SqlAlchemyRetailerRepository.listAll system.committed, row.slug = retailer.1

/-! ## The loop and the commit -/

section Loop

variable {existing : List String}

@[simp] theorem missing_nil : missing existing [] = [] := rfl

theorem missing_append (done todo : List (String × String)) :
    missing existing (done ++ todo) = missing existing done ++ missing existing todo :=
  List.filter_append ..

theorem missing_cons_of_mem {slug name : String} {rest : List (String × String)}
    (hmem : slug ∈ existing) : missing existing ((slug, name) :: rest) = missing existing rest :=
  List.filter_cons_of_neg (by simpa using hmem)

theorem missing_cons_of_not_mem {slug name : String} {rest : List (String × String)}
    (hmem : slug ∉ existing) :
    missing existing ((slug, name) :: rest) = (slug, name) :: missing existing rest :=
  List.filter_cons_of_pos (by simpa using hmem)

theorem missing_eq_nil_of_subset {retailers : List (String × String)}
    (hsubset : ∀ retailer ∈ retailers, retailer.1 ∈ existing) :
    missing existing retailers = [] := by
  refine List.filter_eq_nil_iff.mpr fun retailer hretailer => ?_
  simpa using hsubset retailer hretailer

/-- The next call of the loop adds the first missing retailer. -/
theorem addMissing_call {todo : List (String × String)} {op : SeedOp}
    {resume : Reply seedPort Raised op → Co seedPort Raised Unit}
    (hprogram : addMissing existing todo = .call op resume) :
    ∃ skipped slug name rest, todo = skipped ++ (slug, name) :: rest ∧
      missing existing skipped = [] ∧ slug ∉ existing ∧
      (Co.call op resume : Co seedPort Raised Unit) =
        (askSeed (.add slug name) >>= fun _ => addMissing existing rest) := by
  induction todo with
  | nil => cases hprogram
  | cons retailer rest ih =>
      obtain ⟨slug, name⟩ := retailer
      unfold addMissing at hprogram
      split at hprogram
      · rename_i hmem
        obtain ⟨skipped, other, otherName, later, rfl, hskipped, hother, hcall⟩ := ih hprogram
        refine ⟨(slug, name) :: skipped, other, otherName, later, rfl, ?_, hother, hcall⟩
        rw [missing_cons_of_mem hmem, hskipped]
      · rename_i hmem
        exact ⟨[], slug, name, rest, rfl, rfl, hmem, hprogram.symm⟩

/-- The loop ends when nothing is missing. -/
theorem addMissing_ret {todo : List (String × String)} {value : Unit}
    (hprogram : addMissing existing todo = .ret value) : missing existing todo = [] := by
  induction todo with
  | nil => rfl
  | cons retailer rest ih =>
      obtain ⟨slug, name⟩ := retailer
      unfold addMissing at hprogram
      split at hprogram
      · rename_i hmem
        rw [missing_cons_of_mem hmem]
        exact ih hprogram
      · cases hprogram

theorem addMissing_ne_raise {todo : List (String × String)} {error : Raised} :
    addMissing existing todo ≠ .raise error := by
  induction todo with
  | nil => exact fun hprogram => by cases hprogram
  | cons retailer rest ih =>
      obtain ⟨slug, name⟩ := retailer
      unfold addMissing
      split
      · exact ih
      · exact fun hprogram => by cases hprogram

end Loop

section Commit

variable {initial retailers next : Retailers} {added : List (String × String)}

theorem slugs_eq (retailers : Retailers) : retailers.slugs = retailers.contents.map Prod.fst := by
  unfold Retailers.slugs Retailers.contents
  rw [List.map_map]
  rfl

/-- Inserted rows are put behind the rows that are there. -/
theorem rows_inserted (table : Table RetailerModel) (added : List (String × String)) :
    ∃ rows, (Retailers.inserted table added).rows = table.rows ++ rows ∧
      rows.map (fun row => (row.slug, row.name, row.isActive)) =
        added.map fun retailer => (retailer.1, retailer.2, true) := by
  induction added generalizing table with
  | nil => exact ⟨[], (List.append_nil _).symm, rfl⟩
  | cons retailer rest ih =>
      obtain ⟨rows, hrows, hcontents⟩ :=
        ih (table.insert fun id => ⟨id, retailer.1, retailer.2, true⟩)
      refine ⟨⟨table.nextId, retailer.1, retailer.2, true⟩ :: rows, ?_, ?_⟩
      · refine hrows.trans ?_
        rw [Table.rows_insert, List.append_assoc]
        rfl
      · rw [List.map_cons, List.map_cons, hcontents]

/-- What a commit leaves. -/
theorem commit_ok (hcommit : retailers.commit added = .ok next) :
    retailers.rows <+: next.rows ∧
      next.contents = retailers.contents ++
        added.map fun retailer => (retailer.1, retailer.2, true) := by
  unfold Retailers.commit at hcommit
  split at hcommit
  · cases hcommit
    obtain ⟨rows, hrows, hcontents⟩ := rows_inserted retailers.toTable added
    refine ⟨hrows ▸ List.prefix_append _ _, ?_⟩
    unfold Retailers.contents
    change (Retailers.inserted retailers.toTable added).rows.map _ = _
    rw [hrows, List.map_append, hcontents]
  · cases hcommit

/-- A commit is refused for a slug that is there already, or added twice. -/
theorem commit_error {error : Raised} (hcommit : retailers.commit added = .error error) :
    error = .integrityError ∧ ¬ (retailers.slugs ++ added.map Prod.fst).Nodup := by
  unfold Retailers.commit at hcommit
  split at hcommit
  · cases hcommit
  · rename_i hclash
    cases hcommit
    refine ⟨rfl, fun hunique => hclash ?_⟩
    obtain ⟨rows, hrows, hcontents⟩ := rows_inserted retailers.toTable added
    have hslugs : rows.map RetailerModel.slug = added.map Prod.fst := by
      have hfirst := congrArg (List.map Prod.fst) hcontents
      rw [List.map_map, List.map_map] at hfirst
      exact hfirst
    rw [hrows, List.map_append, hslugs]
    exact hunique

theorem slugs_of_ok (hcommit : retailers.commit added = .ok next) :
    next.slugs = retailers.slugs ++ added.map Prod.fst := by
  rw [slugs_eq, (commit_ok hcommit).2, List.map_append, ← slugs_eq, List.map_map]
  rfl

/-- Where the seeding is complete, no supported retailer is missing. -/
theorem mem_slugs_of_complete (hcomplete : Complete initial retailers) :
    ∀ retailer ∈ supportedRetailers, retailer.1 ∈ retailers.slugs := by
  intro retailer hretailer
  rw [slugs_eq, hcomplete, List.map_append, List.map_map, ← slugs_eq, List.mem_append]
  by_cases hmem : retailer.1 ∈ initial.slugs
  · exact Or.inl hmem
  · refine Or.inr (List.mem_map.mpr ⟨retailer, ?_, rfl⟩)
    exact List.mem_filter.mpr ⟨hretailer, by simpa using hmem⟩

end Commit

/-! ## One startup beside the others -/

/-- What a startup has read is what is there, or the seeding is complete. -/
def StillRead (initial committed : Retailers) (existing : List String) : Prop :=
  committed.slugs = existing ∨ Complete initial committed

/-- Where a startup stands. -/
inductive Stage (initial committed : Retailers) (session : Startup) : Prop where
  | waiting (hprogress : session.response = none)
      (hprogram : session.program = ensureRetailersSeeded)
      (hwork : session.work = [])
  | adding (existing : List String) (done todo : List (String × String))
      (hprogress : session.response = none) (hsplit : supportedRetailers = done ++ todo)
      (hprogram : session.program = addMissing existing todo)
      (hwork : session.work = missing existing done)
      (hread : StillRead initial committed existing)
  /-- the select has been made to raise -/
  | disturbed (error : Raised) (hprogram : session.program = .raise error)
      (hcalls : ¬ session.Undisturbed)
  | ended (hended : ¬ session.InProgress) (hcomplete : Complete initial committed)
      (hraised : ∀ error, session.response = some (.error error) → error = .integrityError)

section Stages

variable {initial committed next : Retailers} {session after : Startup} {failure : Option Raised}

/-- Rows that say the same are at the same stage. -/
theorem Stage.congr (hsame : next.contents = committed.contents)
    (hstage : Stage initial committed session) : Stage initial next session := by
  have hcomplete : Complete initial committed → Complete initial next := fun h => hsame.trans h
  cases hstage with
  | waiting hprogress hprogram hwork => exact .waiting hprogress hprogram hwork
  | adding existing done todo hprogress hsplit hprogram hwork hread =>
      refine .adding existing done todo hprogress hsplit hprogram hwork (hread.imp ?_ hcomplete)
      intro hslugs
      rw [slugs_eq, hsame, ← slugs_eq]
      exact hslugs
  | disturbed error hprogram hcalls => exact .disturbed error hprogram hcalls
  | ended hended hdone hraised => exact .ended hended (hcomplete hdone) hraised

/-- When another startup completes the seeding, every stage is left as it is. -/
theorem Stage.of_complete (hcomplete : Complete initial next)
    (hstage : Stage initial committed session) : Stage initial next session := by
  cases hstage with
  | waiting hprogress hprogram hwork => exact .waiting hprogress hprogram hwork
  | adding existing done todo hprogress hsplit hprogram hwork _ =>
      exact .adding existing done todo hprogress hsplit hprogram hwork (Or.inr hcomplete)
  | disturbed error hprogram hcalls => exact .disturbed error hprogram hcalls
  | ended hended _ hraised => exact .ended hended hcomplete hraised

/-- A call of a startup changes no row. -/
theorem stage_called (hstage : Stage initial committed session)
    (hcalled : startups.called committed failure session = some (next, after)) :
    next = committed ∧ Stage initial next after := by
  cases hstage with
  | waiting hprogress hprogram hwork =>
      obtain ⟨reply, work, hrespond, rfl⟩ := called_perform hprogram hcalled
      cases hrespond
      refine ⟨rfl, ?_⟩
      cases failure with
      | none =>
          exact .adding committed.slugs [] supportedRetailers hprogress rfl rfl hwork (Or.inl rfl)
      | some error =>
          refine .disturbed error rfl fun hundisturbed => ?_
          have hfailure := hundisturbed _ (List.mem_append_right _ (List.mem_singleton_self _))
          cases hfailure
  | adding existing done todo hprogress hsplit hprogram hwork hread =>
      obtain ⟨op, resume, reply, work, _, hcall, hrespond, rfl⟩ := SessionSpec.called_cases hcalled
      obtain ⟨skipped, slug, name, rest, rfl, hskipped, hmem, hrest⟩ :=
        addMissing_call (hprogram.symm.trans hcall)
      cases hrest
      cases hrespond
      refine ⟨rfl, .adding existing (done ++ skipped ++ [(slug, name)]) rest hprogress ?_ rfl ?_
        hread⟩
      · rw [hsplit]
        simp only [List.append_assoc, List.singleton_append]
      · change session.work ++ [(slug, name)] = _
        rw [missing_append, missing_append, hskipped, missing_cons_of_not_mem hmem, hwork,
          List.append_nil]
        rfl
  | disturbed error hprogram hcalls =>
      obtain ⟨_, _, _, _, _, hcall, _⟩ := SessionSpec.called_cases hcalled
      rw [hprogram] at hcall
      cases hcall
  | ended hended _ _ =>
      obtain ⟨_, _, _, _, hprogress, _⟩ := SessionSpec.called_cases hcalled
      exact absurd hprogress hended

/-- A startup that has read what is there commits what is missing. -/
theorem commit_of_read {existing : List String}
    (honce : committed.contents = initial.contents ∨ Complete initial committed)
    (hread : StillRead initial committed existing)
    (hcommit : committed.commit (missing existing supportedRetailers) = .ok next) :
    Complete initial next := by
  have hnext := (commit_ok hcommit).2
  have hnothing : Complete initial committed → missing existing supportedRetailers = [] →
      Complete initial next := by
    intro hcomplete hnone
    rw [hnone, List.map_nil, List.append_nil] at hnext
    exact hnext.trans hcomplete
  rcases hread with rfl | hcomplete
  · rcases honce with hfirst | hcomplete
    · rw [slugs_eq, hfirst, ← slugs_eq] at hnext
      exact hnext
    · exact hnothing hcomplete (missing_eq_nil_of_subset (mem_slugs_of_complete hcomplete))
  · refine hnothing hcomplete (List.eq_nil_iff_forall_not_mem.mpr fun retailer hretailer => ?_)
    have hunique := next.slugs_nodup
    change next.slugs.Nodup at hunique
    rw [slugs_of_ok hcommit, List.nodup_append] at hunique
    exact hunique.2.2 _ (mem_slugs_of_complete hcomplete _ (List.mem_of_mem_filter hretailer)) _
      (List.mem_map_of_mem hretailer) rfl

/-- A startup is refused only when another has completed the seeding. -/
theorem complete_of_refused {existing : List String} {error : Raised}
    (hread : StillRead initial committed existing)
    (hcommit : committed.commit (missing existing supportedRetailers) = .error error) :
    Complete initial committed := by
  rcases hread with rfl | hcomplete
  · refine absurd ?_ (commit_error hcommit).2
    refine List.nodup_append.mpr ⟨committed.slugs_nodup, ?_, ?_⟩
    · have hsupported : (supportedRetailers.map Prod.fst).Nodup := by decide
      exact hsupported.sublist (List.filter_sublist.map _)
    · rintro slug hslug other hother rfl
      obtain ⟨retailer, hretailer, rfl⟩ := List.mem_map.mp hother
      have hnot := (List.mem_filter.mp hretailer).2
      exact absurd hslug (by simpa using hnot)
  · exact hcomplete

/-- How a startup ends, and what it leaves. -/
theorem stage_finished
    (honce : committed.contents = initial.contents ∨ Complete initial committed)
    (hstage : Stage initial committed session)
    (hfinished : startups.finished committed session = some (next, after)) :
    (next = committed ∨ committed.rows <+: next.rows ∧ Complete initial next) ∧
      Stage initial next after := by
  have hended := ended_of_finished hfinished
  obtain ⟨hprogress, hcases⟩ := SessionSpec.finished_cases hfinished
  cases hstage with
  | waiting _ hprogram _ =>
      rcases hcases with ⟨_, hret, _⟩ | ⟨_, hraise | ⟨_, hret, _⟩, _⟩
      · rw [hprogram] at hret
        cases hret
      · rw [hprogram] at hraise
        cases hraise
      · rw [hprogram] at hret
        cases hret
  | adding existing done todo _ hsplit hprogram hwork hread =>
      have hall : ∀ {value}, session.program = .ret value →
          session.work = missing existing supportedRetailers := by
        intro value hret
        rw [hsplit, missing_append, addMissing_ret (hprogram.symm.trans hret), List.append_nil]
        exact hwork
      rcases hcases with ⟨value, hret, hcommit, rfl⟩ |
        ⟨error, hraise | ⟨value, hret, hcommit⟩, rfl, rfl⟩
      · rw [hall hret] at hcommit
        have hcomplete := commit_of_read honce hread hcommit
        exact ⟨Or.inr ⟨(commit_ok hcommit).1, hcomplete⟩,
          .ended hended hcomplete fun error hresponse => by cases hresponse⟩
      · exact absurd (hprogram.symm.trans hraise) addMissing_ne_raise
      · rw [hall hret] at hcommit
        refine ⟨Or.inl rfl, .ended hended (complete_of_refused hread hcommit) ?_⟩
        intro raised hresponse
        cases hresponse
        exact (commit_error hcommit).1
  | disturbed error hprogram hcalls =>
      rcases hcases with ⟨_, hret, _⟩ | ⟨_, hraise, rfl, rfl⟩
      · rw [hprogram] at hret
        cases hret
      · exact ⟨Or.inl rfl, .disturbed error hprogram hcalls⟩
  | ended hdone _ _ => exact absurd hprogress hdone

end Stages

/-- What every startup keeps. -/
def seeding (initial : Retailers) : Guarantee startups fun _ _ => True where
  holds committed := initial.rows <+: committed.rows ∧
    (committed.contents = initial.contents ∨ Complete initial committed)
  single committed session := Stage initial committed session
  pair _ _ := True
  outside key committed hholds :=
    have hsame : (startups.outside key committed).contents = committed.contents := rfl
    ⟨hholds, fun _ hstage => hstage.congr hsame⟩
  single_opened committed _ _ := .waiting rfl rfl rfl
  pair_opened _ _ := ⟨trivial, trivial⟩
  called := by
    intro system index failure session next after _ _ hholds hstage hcalled
    obtain ⟨rfl, hafter⟩ := stage_called hstage hcalled
    exact ⟨hholds, hafter, fun _ _ _ _ hother _ _ => ⟨hother, trivial, trivial⟩⟩
  finished := by
    intro system index session next after _ _ hholds hstage hfinished
    obtain ⟨rfl | ⟨hrows, hcomplete⟩, hafter⟩ := stage_finished hholds.2 hstage hfinished
    · exact ⟨hholds, hafter, fun _ _ _ _ hother _ _ => ⟨hother, trivial, trivial⟩⟩
    · exact ⟨⟨hholds.1.trans hrows, Or.inr hcomplete⟩, hafter,
        fun _ _ _ _ hother _ _ => ⟨hother.of_complete hcomplete, trivial, trivial⟩⟩

/-- However the startups of API processes interleave, the retailers that were there stay as
they were, the missing ones are added once, and every startup that has read the table leaves
all supported retailers behind, whether or not its commit was refused. -/
theorem startups_seed_once (initial : Retailers)
    (moves : List (SessionMove Unit (Option Raised) Nat)) :
    Throughout startups.step (SeededOnce initial) ⟨initial, []⟩ moves := by
  intro earlier later reached _ hrun
  have halong : Along startups.step (fun _ _ => True) ⟨initial, []⟩ earlier :=
    along_of_forall (fun _ _ => trivial) _ earlier
  have hholds := (seeding initial).holds_run halong hrun
    ((seeding initial).holds_start ⟨List.prefix_rfl, Or.inl rfl⟩)
  have hended : ∀ session ∈ reached.sessions, ¬ session.InProgress → Startup.Undisturbed session →
      Complete initial reached.committed ∧
        ∀ error, session.response = some (.error error) → error = .integrityError := by
    intro session hsession hdone hundisturbed
    cases hholds.single session hsession with
    | waiting hprogress _ _ => exact absurd hprogress hdone
    | adding _ _ _ hprogress _ _ _ _ => exact absurd hprogress hdone
    | disturbed _ _ hcalls => exact absurd hundisturbed hcalls
    | ended _ hcomplete hraised => exact ⟨hcomplete, hraised⟩
  refine ⟨hholds.committed.1, hholds.committed.2,
    fun session hsession hdone hundisturbed => (hended session hsession hdone hundisturbed).1,
    ?_, ?_⟩
  · intro session hsession error hresponse hundisturbed
    have hdone : ¬ session.InProgress := by
      intro hprogress
      cases hprogress.symm.trans hresponse
    exact (hended session hsession hdone hundisturbed).2 error hresponse
  · intro session hsession hdone hundisturbed retailer hretailer
    have hcomplete := (hended session hsession hdone hundisturbed).1
    obtain ⟨row, hrow, hslug⟩ := List.mem_map.mp (mem_slugs_of_complete hcomplete _ hretailer)
    exact ⟨toRetailer row, List.mem_map_of_mem hrow, hslug⟩

end StockMonitoring.Infrastructure.Db
