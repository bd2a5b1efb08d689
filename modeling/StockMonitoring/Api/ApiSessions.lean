import StockMonitoring.Api.RequestEffects
import StockMonitoring.Foundation.SessionRuns

set_option autoImplicit false

/-!
# Api: the REST requests, beside each other

Every request runs on the session of `app/api/deps.py`: a statement sees what is committed
when it runs and what its own session has written, and the session commits when the
handler has returned.  The keys of new rows come from sequences, which no rollback sets
back; the constraints of the schema refuse a commit.  A request beside no other ends as
`commit` has it (`apiRequest_alone`).
-/

namespace StockMonitoring.Api

open StockMonitoring.Foundation StockMonitoring.Domain StockMonitoring.Infrastructure.Db

/-! ## What a session writes -/

/-- A write of a session. -/
inductive ApiWrite where
  | product (row : ProductModel)
  | watchTarget (row : WatchTargetModel)
  | watch (row : WatchModel)
  | channel (row : NotificationChannelModel)
  | setting (row : SettingsModel)
  | intervalSet (watchTargetId : Nat) (intervalSeconds : Int)
  | valueSet (settingId : Nat) (value : String)
  | deactivated (watchId : Nat)
  | verified (channelId : Nat)
  | productGone (productId : Nat)
  | channelGone (channelId : Nat)

namespace ApiWrite

/-- The write on the tables. -/
def apply (db : Database) : ApiWrite → Database
  | .product row => { db with products := db.products.place row }
  | .watchTarget row => { db with watchTargets := db.watchTargets.place row }
  | .watch row => { db with watches := db.watches.place row }
  | .channel row => { db with notificationChannels := db.notificationChannels.place row }
  | .setting row => { db with settings := db.settings.place row }
  | .intervalSet watchTargetId intervalSeconds =>
      SqlAlchemyWatchTargetRepository.setInterval db watchTargetId intervalSeconds
  | .valueSet settingId value => SqlAlchemySettingsRepository.setValue db settingId value
  | .deactivated watchId => (SqlAlchemyWatchRepository.deactivate db watchId).2
  | .verified channelId => (SqlAlchemyNotificationChannelRepository.markVerified db channelId).2
  | .productGone productId => (SqlAlchemyProductRepository.delete db productId).2
  | .channelGone channelId => (SqlAlchemyNotificationChannelRepository.delete db channelId).2

/-- The key of a new row leaves its sequence. -/
def reserve (db : Database) : ApiWrite → Database
  | .product row => { db with products := db.products.reserve row.id }
  | .watchTarget row => { db with watchTargets := db.watchTargets.reserve row.id }
  | .watch row => { db with watches := db.watches.reserve row.id }
  | .channel row => { db with notificationChannels := db.notificationChannels.reserve row.id }
  | .setting row => { db with settings := db.settings.reserve row.id }
  | _ => db

/-- The key of a new row is free, and the row that is verified is there. -/
def Fits (db : Database) : ApiWrite → Prop
  | .product row => ¬ Refers db.products row.id
  | .watchTarget row => ¬ Refers db.watchTargets row.id
  | .watch row => ¬ Refers db.watches row.id
  | .channel row => ¬ Refers db.notificationChannels row.id
  | .setting row => ¬ Refers db.settings row.id
  | .verified channelId => Refers db.notificationChannels channelId
  | _ => True

instance (db : Database) : (write : ApiWrite) → Decidable (write.Fits db)
  | .product row => inferInstanceAs (Decidable (¬ Refers db.products row.id))
  | .watchTarget row => inferInstanceAs (Decidable (¬ Refers db.watchTargets row.id))
  | .watch row => inferInstanceAs (Decidable (¬ Refers db.watches row.id))
  | .channel row => inferInstanceAs (Decidable (¬ Refers db.notificationChannels row.id))
  | .setting row => inferInstanceAs (Decidable (¬ Refers db.settings row.id))
  | .verified channelId => inferInstanceAs (Decidable (Refers db.notificationChannels channelId))
  | .intervalSet _ _ | .valueSet _ _ | .deactivated _ | .productGone _ | .channelGone _ =>
      isTrue trivial

end ApiWrite

/-- The database as a session with these writes sees it. -/
def shown (committed : Database) (work : List ApiWrite) : Database :=
  work.foldl ApiWrite.apply committed

/-- Each write fits after the ones before it. -/
def AllFits : Database → List ApiWrite → Prop
  | _, [] => True
  | db, write :: later => write.Fits db ∧ AllFits (write.apply db) later

instance decidableAllFits : (db : Database) → (work : List ApiWrite) → Decidable (AllFits db work)
  | _, [] => isTrue trivial
  | db, write :: later =>
      have := decidableAllFits (write.apply db) later
      inferInstanceAs (Decidable (write.Fits db ∧ AllFits (write.apply db) later))

/-- What a call that returns has written. -/
def apiWrites (db : Database) : ApiOp → List ApiWrite
  | .createProduct userId name keyword canonicalImageUrl =>
      [.product ⟨db.products.nextId, userId, name, keyword, canonicalImageUrl⟩]
  | .insertWatchTarget retailerSlug city pincode keyword intervalSeconds =>
      [.watchTarget ⟨db.watchTargets.nextId, retailerSlug, city, pincode, keyword,
        intervalSeconds, none⟩]
  | .createWatch userId productId watchTargetId intervalSeconds =>
      [.watch ⟨db.watches.nextId, userId, productId, watchTargetId, intervalSeconds, true⟩]
  | .createChannel userId type config =>
      [.channel ⟨db.notificationChannels.nextId, userId, type, config, false⟩]
  | .insertSetting userId key value => [.setting ⟨db.settings.nextId, some userId, key, value⟩]
  | .setInterval watchTargetId intervalSeconds => [.intervalSet watchTargetId intervalSeconds]
  | .setValue settingId value => [.valueSet settingId value]
  | .deactivate watchId => [.deactivated watchId]
  | .markVerified channelId => [.verified channelId]
  | .deleteProduct productId => [.productGone productId]
  | .deleteChannel channelId => [.channelGone channelId]
  | _ => []

/-- `uq_watch_target`. -/
def UniqueTargets (db : Database) : Prop := (db.watchTargets.rows.map targetKey).Nodup

instance (db : Database) : Decidable (UniqueTargets db) :=
  inferInstanceAs (Decidable (List.Nodup _))

/-- The handlers, each in its own session; `program` is the handler of a request. -/
def apiSessions {K α : Type} (tie : Nat → Nat) (program : K → Endpoint α) :
    SessionSpec K apiPort Raised α Database (List ApiWrite) ApiTurn Empty where
  program := program
  fresh := []
  respond op turn committed work :=
    match (apiRespond tie op turn (shown committed work)).1 with
    | .ok answer =>
        let writes := apiWrites (shown committed work) op
        (.ok answer, writes.foldl ApiWrite.reserve committed, work ++ writes)
    | .error error => (.error error, committed, work)
  commit committed work :=
    let left := shown committed work
    if AllFits committed work ∧ UniqueTargets left ∧ ForeignKeys left then .ok left
    else .error .integrityError
  outside change _ := nomatch change

/-- The outside has let every call return. -/
def Undisturbed {K α W : Type} (session : Session K apiPort Raised α W ApiTurn) : Prop :=
  ∀ call ∈ session.calls, call.1.failure = none

instance {K α W : Type} (session : Session K apiPort Raised α W ApiTurn) :
    Decidable (Undisturbed session) :=
  inferInstanceAs (Decidable (∀ call ∈ session.calls, call.1.failure = none))

/-! ## A request alone -/

theorem shown_append (committed : Database) (work writes : List ApiWrite) :
    shown committed (work ++ writes) = shown (shown committed work) writes := List.foldl_append

theorem allFits_append {db : Database} {work writes : List ApiWrite} :
    AllFits db (work ++ writes) ↔ AllFits db work ∧ AllFits (shown db work) writes := by
  induction work generalizing db with
  | nil => exact (iff_of_eq (true_and _)).symm
  | cons write later ih =>
      change _ ∧ AllFits _ (later ++ writes) ↔ (_ ∧ AllFits _ later) ∧ _
      rw [ih, and_assoc]
      rfl

section Reserve

variable {Row : Type} [Keyed Row] (table : Table Row) (id key : Nat) (change : Row → Row)
  (hkey : ∀ row, Keyed.key (change row) = Keyed.key row)

theorem updateOne_reserve : (updateOne (table.reserve key) id change hkey).2 =
    (updateOne table id change hkey).2.reserve key := by
  rw [updateOne_snd, updateOne_snd]
  rfl

theorem updateIfAny_reserve : (updateIfAny (table.reserve key) id change hkey).2 =
    (updateIfAny table id change hkey).2.reserve key := by
  rw [updateIfAny_snd, updateIfAny_snd]
  rfl

theorem deleteIfAny_reserve : (deleteIfAny (table.reserve key) id).2 =
    (deleteIfAny table id).2.reserve key := by
  rw [deleteIfAny_snd, deleteIfAny_snd]
  rfl

/-- A change by key that returns has found its row. -/
theorem refers_of_updateOne {table : Table Row} {id : Nat} {change : Row → Row}
    {hkey : ∀ row, Keyed.key (change row) = Keyed.key row}
    (hok : (updateOne table id change hkey).1 = .ok ()) : Refers table id := by
  cases hfind : table.find? id with
  | some row => exact Option.isSome_iff_exists.mpr ⟨row, hfind⟩
  | none =>
      rw [updateOne_of_none hfind] at hok
      cases hok

end Reserve

/-- A key may be drawn before or after another write. -/
theorem ApiWrite.reserve_apply (db : Database) (reserved write : ApiWrite) :
    reserved.reserve (write.apply db) = write.apply (reserved.reserve db) := by
  cases reserved with
  | product row =>
      cases write with
      | product other =>
          exact congrArg (fun products => { db with products := products })
            (Table.reserve_place db.products other row.id)
      | productGone productId =>
          exact congrArg (fun products => { db with products := products })
            (deleteIfAny_reserve db.products productId row.id).symm
      | _ => rfl
  | watchTarget row =>
      cases write with
      | watchTarget other =>
          exact congrArg (fun watchTargets => { db with watchTargets := watchTargets })
            (Table.reserve_place db.watchTargets other row.id)
      | _ => rfl
  | watch row =>
      cases write with
      | watch other =>
          exact congrArg (fun watches => { db with watches := watches })
            (Table.reserve_place db.watches other row.id)
      | deactivated watchId =>
          exact congrArg (fun watches => { db with watches := watches })
            (updateIfAny_reserve db.watches watchId row.id _ _).symm
      | _ => rfl
  | channel row =>
      cases write with
      | channel other =>
          exact congrArg (fun channels => { db with notificationChannels := channels })
            (Table.reserve_place db.notificationChannels other row.id)
      | verified channelId =>
          exact congrArg (fun channels => { db with notificationChannels := channels })
            (updateOne_reserve db.notificationChannels channelId row.id _ _).symm
      | channelGone channelId =>
          exact congrArg (fun channels => { db with notificationChannels := channels })
            (deleteIfAny_reserve db.notificationChannels channelId row.id).symm
      | _ => rfl
  | setting row =>
      cases write with
      | setting other =>
          exact congrArg (fun settings => { db with settings := settings })
            (Table.reserve_place db.settings other row.id)
      | _ => rfl
  | _ => rfl

theorem shown_reserve (committed : Database) (reserved : ApiWrite) (work : List ApiWrite) :
    shown (reserved.reserve committed) work = reserved.reserve (shown committed work) := by
  induction work generalizing committed with
  | nil => rfl
  | cons write later ih =>
      change shown (write.apply (reserved.reserve committed)) later = _
      rw [← ApiWrite.reserve_apply]
      exact ih _

theorem shown_reserves (committed : Database) (writes work : List ApiWrite) :
    shown (writes.foldl ApiWrite.reserve committed) work =
      writes.foldl ApiWrite.reserve (shown committed work) := by
  induction writes generalizing committed with
  | nil => rfl
  | cons reserved later ih =>
      rw [List.foldl_cons, ih, shown_reserve]
      rfl

theorem fits_reserve_iff (db : Database) (reserved write : ApiWrite) :
    write.Fits (reserved.reserve db) ↔ write.Fits db := by
  cases reserved <;> cases write <;> rfl

theorem allFits_reserve (committed : Database) (reserved : ApiWrite) (work : List ApiWrite) :
    AllFits (reserved.reserve committed) work ↔ AllFits committed work := by
  induction work generalizing committed with
  | nil => rfl
  | cons write later ih =>
      change _ ∧ AllFits (write.apply (reserved.reserve committed)) later ↔ _ ∧ _
      rw [fits_reserve_iff, ← ApiWrite.reserve_apply, ih]

theorem allFits_reserves (committed : Database) (writes work : List ApiWrite) :
    AllFits (writes.foldl ApiWrite.reserve committed) work ↔ AllFits committed work := by
  induction writes generalizing committed with
  | nil => rfl
  | cons reserved later ih => exact (ih _).trans (allFits_reserve committed reserved work)

/-- What the drawing of one key keeps, a call keeps. -/
theorem reserves_invariant {holds : Database → Prop}
    (hreserve : ∀ db (write : ApiWrite), holds db → holds (write.reserve db)) {db : Database}
    (writes : List ApiWrite) (hdb : holds db) : holds (writes.foldl ApiWrite.reserve db) := by
  induction writes generalizing db with
  | nil => exact hdb
  | cons write later ih => exact ih (hreserve db write hdb)

theorem foreignKeys_reserve {db : Database} (write : ApiWrite) (hkeys : ForeignKeys db) :
    ForeignKeys (write.reserve db) := by
  cases write <;> exact { hkeys with }

section Alone

variable {tie : Nat → Nat}

/-- What a call that has returned has written fits what it saw, and is what it leaves of it. -/
theorem shown_apiWrites {turn : ApiTurn} {op : ApiOp} {db : Database} {answer : op.Answer}
    (hok : (apiWork tie turn op db).1 = .ok answer) :
    AllFits db (apiWrites db op) ∧
      shown ((apiWrites db op).foldl ApiWrite.reserve db) (apiWrites db op) =
        (apiWork tie turn op db).2 := by
  cases op with
  | createProduct userId name keyword canonicalImageUrl =>
      let make (id : Nat) : ProductModel := ⟨id, userId, name, keyword, canonicalImageUrl⟩
      exact ⟨⟨not_refers_nextId, trivial⟩,
        congrArg (fun products => { db with products := products })
        (@Table.place_reserve_nextId _ _ db.products make fun _ => rfl)⟩
  | insertWatchTarget retailerSlug city pincode keyword intervalSeconds =>
      let make (id : Nat) : WatchTargetModel :=
        ⟨id, retailerSlug, city, pincode, keyword, intervalSeconds, none⟩
      exact ⟨⟨not_refers_nextId, trivial⟩,
        congrArg (fun watchTargets => { db with watchTargets := watchTargets })
          (@Table.place_reserve_nextId _ _ db.watchTargets make fun _ => rfl)⟩
  | createWatch userId productId watchTargetId intervalSeconds =>
      let make (id : Nat) : WatchModel :=
        ⟨id, userId, productId, watchTargetId, intervalSeconds, true⟩
      exact ⟨⟨not_refers_nextId, trivial⟩, congrArg (fun watches => { db with watches := watches })
        (@Table.place_reserve_nextId _ _ db.watches make fun _ => rfl)⟩
  | createChannel userId type config =>
      let make (id : Nat) : NotificationChannelModel := ⟨id, userId, type, config, false⟩
      exact ⟨⟨not_refers_nextId, trivial⟩,
        congrArg (fun channels => { db with notificationChannels := channels })
          (@Table.place_reserve_nextId _ _ db.notificationChannels make fun _ => rfl)⟩
  | insertSetting userId key value =>
      let make (id : Nat) : SettingsModel := ⟨id, some userId, key, value⟩
      exact ⟨⟨not_refers_nextId, trivial⟩,
        congrArg (fun settings => { db with settings := settings })
        (@Table.place_reserve_nextId _ _ db.settings make fun _ => rfl)⟩
  | markVerified channelId =>
      exact ⟨⟨refers_of_updateOne hok, trivial⟩, rfl⟩
  | setInterval | setValue | deactivate | deleteProduct | deleteChannel =>
      exact ⟨⟨trivial, trivial⟩, rfl⟩
  | _ => exact ⟨trivial, rfl⟩

/-- A call that has answered has done its work. -/
theorem apiRespond_of_ok {turn : ApiTurn} {op : ApiOp} {db : Database} {answer : op.Answer}
    (hok : (apiRespond tie op turn db).1 = .ok answer) :
    apiRespond tie op turn db = apiWork tie turn op db := by
  unfold apiRespond at hok ⊢
  cases hfailure : turn.failure with
  | none => rfl
  | some error =>
      rw [hfailure] at hok
      cases hawaits : op.awaits with
      | true =>
          rw [hawaits] at hok
          cases hok
      | false => rfl

/-- A call that raises leaves what it saw. -/
theorem apiRespond_of_error {turn : ApiTurn} {op : ApiOp} {db : Database} {error : Raised}
    (herror : (apiRespond tie op turn db).1 = .error error) :
    (apiRespond tie op turn db).2 = db := by
  have hwork : ∀ error, (apiWork tie turn op db).1 = .error error →
      (apiWork tie turn op db).2 = db := by
    intro error herror
    cases op with
    | deactivate watchId => cases (updateIfAny_fst db.watches watchId _ _).symm.trans herror
    | deleteProduct productId => cases (deleteIfAny_fst db.products productId).symm.trans herror
    | deleteChannel channelId =>
        cases (deleteIfAny_fst db.notificationChannels channelId).symm.trans herror
    | markVerified channelId =>
        exact congrArg (fun channels => { db with notificationChannels := channels })
          (updateOne_snd_of_error herror)
    | createProduct | insertWatchTarget | createWatch | createChannel | insertSetting
    | setInterval | setValue => cases herror
    | _ => rfl
  unfold apiRespond at herror ⊢
  split
  · rename_i hfailure
    rw [hfailure] at herror
    split
    · rfl
    · rename_i hawaits
      simp only [hawaits] at herror
      exact hwork error herror
  · rename_i hfailure
    rw [hfailure] at herror
    exact hwork error herror

variable {K α : Type} {program : K → Endpoint α}

/-- A session sees what the calls of its handler, one after another, leave. -/
theorem apiSessions_shows (tie : Nat → Nat) (program : K → Endpoint α) :
    (apiSessions tie program).Shows (apiEffects tie) shown AllFits := by
  refine ⟨?_, ?_⟩
  · intro op turn committed work
    cases hreply : (apiRespond tie op turn (shown committed work)).1 with
    | error error =>
        simp only [apiSessions, hreply]
        exact Prod.ext hreply (apiRespond_of_error hreply)
    | ok answer =>
        simp only [apiSessions, hreply]
        refine Prod.ext hreply ?_
        change (apiRespond tie op turn (shown committed work)).2 =
          shown _ (work ++ apiWrites (shown committed work) op)
        have hwork := apiRespond_of_ok hreply
        rw [hwork] at hreply ⊢
        rw [shown_append, shown_reserves, (shown_apiWrites hreply).2]
  · intro op turn committed work hfits
    cases hreply : (apiRespond tie op turn (shown committed work)).1 with
    | error error => simpa only [apiSessions, hreply] using hfits
    | ok answer =>
        simp only [apiSessions, hreply]
        rw [apiRespond_of_ok hreply] at hreply
        rw [allFits_reserves, allFits_append]
        exact ⟨hfits, (shown_apiWrites hreply).1⟩

/-- A call at the head of a session's program: it answers and leaves its writes, or it raises,
because the outside lets it or because of what it sees. -/
theorem called_askApi {op : ApiOp} {rest : op.Answer → Endpoint α} {turn : ApiTurn}
    {committed next : Database}
    {session after : Session K apiPort Raised α (List ApiWrite) ApiTurn}
    (hprogram : session.program = askApi op >>= rest)
    (hcalled : (apiSessions tie program).called committed turn session = some (next, after)) :
    (∃ answer, (apiWork tie turn op (shown committed session.work)).1 = .ok answer ∧
        next = (apiWrites (shown committed session.work) op).foldl ApiWrite.reserve committed ∧
        after = { session with
          program := rest answer
          work := session.work ++ apiWrites (shown committed session.work) op
          calls := session.calls ++ [(turn, ⟨op, .ok answer⟩)] }) ∨
      ∃ error, (turn.failure ≠ none ∨
          (apiWork tie turn op (shown committed session.work)).1 = .error error) ∧
        next = committed ∧
        after = { session with
          program := .raise error
          calls := session.calls ++ [(turn, ⟨op, .error error⟩)] } := by
  obtain ⟨reply, work, hrespond, rfl⟩ := called_perform hprogram hcalled
  simp only [apiSessions] at hrespond
  split at hrespond
  · rename_i answer hreply
    cases hrespond
    rw [apiRespond_of_ok hreply] at hreply
    exact Or.inl ⟨answer, hreply, rfl, rfl⟩
  · rename_i error hreply
    cases hrespond
    refine Or.inr ⟨error, ?_, rfl, rfl⟩
    cases hfailure : turn.failure with
    | some raised => exact Or.inl nofun
    | none =>
        rw [apiRespond_of_none hfailure] at hreply
        exact Or.inr hreply

/-- Where what it sees does not make a call raise, it answers or the outside has disturbed its
request. -/
theorem called_undisturbed {op : ApiOp} {rest : op.Answer → Endpoint α} {turn : ApiTurn}
    {committed next : Database}
    {session after : Session K apiPort Raised α (List ApiWrite) ApiTurn}
    (hprogram : session.program = askApi op >>= rest)
    (hanswers : ∀ error, (apiWork tie turn op (shown committed session.work)).1 ≠ .error error)
    (hcalled : (apiSessions tie program).called committed turn session = some (next, after)) :
    (∃ error, ¬ Undisturbed after ∧ after = { session with
        program := .raise error
        calls := session.calls ++ [(turn, ⟨op, .error error⟩)] }) ∨
      ∃ answer, (apiWork tie turn op (shown committed session.work)).1 = .ok answer ∧
        after = { session with
          program := rest answer
          work := session.work ++ apiWrites (shown committed session.work) op
          calls := session.calls ++ [(turn, ⟨op, .ok answer⟩)] } := by
  rcases called_askApi hprogram hcalled with ⟨answer, hanswer, _, hafter⟩ |
    ⟨error, hfailed, _, rfl⟩
  · exact Or.inr ⟨answer, hanswer, hafter⟩
  · refine Or.inl ⟨error, fun hundisturbed => ?_, rfl⟩
    rcases hfailed with hfailure | hraises
    · exact hfailure (hundisturbed _ (List.mem_append_right _ (List.mem_singleton_self _)))
    · exact hanswers error hraises

/-- A call changes no committed row. -/
theorem called_reserves {turn : ApiTurn} {committed next : Database}
    {session after : Session K apiPort Raised α (List ApiWrite) ApiTurn}
    (hcalled : (apiSessions tie program).called committed turn session = some (next, after)) :
    ∃ writes : List ApiWrite, next = writes.foldl ApiWrite.reserve committed := by
  obtain ⟨op, resume, reply, work, _, _, hrespond, _⟩ := SessionSpec.called_cases hcalled
  simp only [apiSessions] at hrespond
  split at hrespond
  · cases hrespond
    exact ⟨_, rfl⟩
  · cases hrespond
    exact ⟨[], rfl⟩

/-- A request that nothing else runs beside ends as its handler and the commit have it. -/
theorem apiRequest_alone {key : K} {turns : Nat → ApiTurn} {count : Nat} {db : Database}
    {last : SessionSystem K apiPort Raised α Database (List ApiWrite) ApiTurn}
    (hrun : runFrom (apiSessions tie program).step ⟨db, []⟩
      (.start key :: ((List.range' 0 count).map fun turn => .call 0 (turns turn)) ++
        [.finish 0]) = some last)
    (hunique : UniqueTargets (commit Prod.snd db (runHandler tie turns (program key) db)).2) :
    ∃ session, last.sessions = [session] ∧
      session.response =
        some (commit Prod.snd db (runHandler tie turns (program key) db)).1 ∧
      ∀ value, session.response = some (.ok value) →
        last.committed = (commit Prod.snd db (runHandler tie turns (program key) db)).2 := by
  obtain ⟨reached, session, after, hlast, hfits, hfinished, hending⟩ :=
    alone_finished (apiSessions_shows tie program) hrun trivial
  obtain ⟨hresult, hstate⟩ := Prod.ext_iff.mp hending
  change _ = (runHandler tie turns (program key) db).result at hresult
  change _ = (runHandler tie turns (program key) db).state at hstate
  obtain ⟨_, ⟨value, hprogram, hcommit, rfl⟩ | ⟨error, hends, _, rfl⟩⟩ :=
    SessionSpec.finished_cases hfinished
  · rw [hprogram] at hresult hstate
    have hleft : (runHandler tie turns (program key) db).state.2 = shown reached session.work :=
      (congrArg Prod.snd hstate).symm
    rw [commit_of_ok hresult.symm, hleft]
    simp only [apiSessions] at hcommit
    split at hcommit
    · rename_i hchecked
      rw [if_pos hchecked.2.2]
      exact ⟨_, hlast, rfl, fun _ _ => (Except.ok.inj hcommit).symm⟩
    · cases hcommit
  · rcases hends with hprogram | ⟨value, hprogram, hcommit⟩
    · rw [hprogram] at hresult
      rw [commit_of_error hresult.symm]
      exact ⟨_, hlast, rfl, fun _ hvalue => by cases hvalue⟩
    · rw [hprogram] at hresult hstate
      have hleft : (runHandler tie turns (program key) db).state.2 = shown reached session.work :=
        (congrArg Prod.snd hstate).symm
      rw [commit_of_ok hresult.symm, hleft] at hunique ⊢
      simp only [apiSessions] at hcommit
      split at hcommit
      · cases hcommit
      · rename_i hrefused
        cases hcommit
        by_cases hkeys : ForeignKeys (shown reached session.work)
        · rw [if_pos hkeys] at hunique
          exact absurd ⟨hfits, hunique, hkeys⟩ hrefused
        · rw [if_neg hkeys]
          exact ⟨_, hlast, rfl, fun _ hvalue => by cases hvalue⟩

end Alone

/-! ## The keys of new rows -/

section Place

variable {Row : Type} [Keyed Row] (table : Table Row) (row : Row)

theorem le_nextId_place : table.nextId ≤ (table.place row).nextId := by
  by_cases hmem : Keyed.key row ∈ table.rows.map Keyed.key
  · rw [Table.place_of_mem hmem]
  · rw [Table.nextId_place hmem]
    exact Nat.le_max_left _ _

end Place

/-- One of the tables, and the row a write adds to it. -/
structure TableOf {Row : Type} [Keyed Row] (table : Database → Table Row)
    (added : ApiWrite → Option Row) : Prop where
  adds : ∀ db write, ∀ row ∈ added write,
    table (write.apply db) = (table db).place row ∧
      table (write.reserve db) = (table db).reserve (Keyed.key row)
  others : ∀ db write, added write = none →
    table (write.reserve db) = table db ∧
      (table (write.apply db)).nextId = (table db).nextId ∧
        ∀ key, Refers (table (write.apply db)) key → Refers (table db) key
  /-- a new row has the next key -/
  writes : ∀ db op, ∀ write ∈ apiWrites db op, ∀ row ∈ added write,
    (table db).nextId ≤ Keyed.key row

namespace TableOf

variable {Row : Type} [Keyed Row] {table : Database → Table Row} {added : ApiWrite → Option Row}

/-- The keys of the rows that these writes add. -/
def drawn (added : ApiWrite → Option Row) (work : List ApiWrite) : List Nat :=
  (work.filterMap added).map Keyed.key

theorem mem_drawn {work : List ApiWrite} {key : Nat} :
    key ∈ drawn added work ↔ ∃ write ∈ work, ∃ row ∈ added write, Keyed.key row = key := by
  unfold drawn
  simp only [List.mem_map, List.mem_filterMap, Option.mem_def]
  constructor
  · rintro ⟨row, ⟨write, hwrite, hrow⟩, hkey⟩
    exact ⟨write, hwrite, row, hrow, hkey⟩
  · rintro ⟨write, hwrite, row, hrow, hkey⟩
    exact ⟨row, ⟨write, hwrite, hrow⟩, hkey⟩

/-- A write moves the sequence forward, and the keys in use are the old ones and its own. -/
theorem apply (htable : TableOf table added) (db : Database) (write : ApiWrite) :
    (table db).nextId ≤ (table (write.apply db)).nextId ∧
      ∀ key, Refers (table (write.apply db)) key → Refers (table db) key ∨
        ∃ row ∈ added write, Keyed.key row = key := by
  cases hadded : added write with
  | none =>
      obtain ⟨_, hnext, hrefers⟩ := htable.others db write hadded
      exact ⟨Nat.le_of_eq hnext.symm, fun key hkey => Or.inl (hrefers key hkey)⟩
  | some row =>
      rw [(htable.adds db write row hadded).1]
      refine ⟨le_nextId_place _ _, fun key hkey => ?_⟩
      rcases refers_of_place hkey with hold | rfl
      · exact Or.inl hold
      · exact Or.inr ⟨row, rfl, rfl⟩

/-- Drawing a key moves the sequence past it. -/
theorem reserve (htable : TableOf table added) (db : Database) (write : ApiWrite) :
    (table db).nextId ≤ (table (write.reserve db)).nextId ∧
      (∀ row ∈ added write, Keyed.key row < (table (write.reserve db)).nextId) ∧
        ∀ key, Refers (table (write.reserve db)) key → Refers (table db) key := by
  cases hadded : added write with
  | none =>
      rw [(htable.others db write hadded).1]
      exact ⟨Nat.le_refl _, fun row hrow => (by cases hrow), fun key hkey => hkey⟩
  | some row =>
      rw [(htable.adds db write row hadded).2, Table.nextId_reserve]
      refine ⟨Nat.le_max_left _ _, ?_, fun key hkey => hkey⟩
      rintro other ⟨⟩
      exact Nat.lt_of_lt_of_le (Nat.lt_succ_self _) (Nat.le_max_right _ _)

/-- What a session sees is not behind what is committed. -/
theorem shown (htable : TableOf table added) (db : Database) (work : List ApiWrite) :
    (table db).nextId ≤ (table (shown db work)).nextId ∧
      ∀ key, Refers (table (Api.shown db work)) key →
        Refers (table db) key ∨ key ∈ drawn added work := by
  induction work generalizing db with
  | nil => exact ⟨Nat.le_refl _, fun key hkey => Or.inl hkey⟩
  | cons write later ih =>
      obtain ⟨hnext, hrefers⟩ := htable.apply db write
      obtain ⟨hlater, hlaterRefers⟩ := ih (write.apply db)
      refine ⟨Nat.le_trans hnext hlater, fun key hkey => ?_⟩
      rcases hlaterRefers key hkey with hnow | hdrawn
      · rcases hrefers key hnow with hold | ⟨row, hrow, hnew⟩
        · exact Or.inl hold
        · exact Or.inr (mem_drawn.mpr ⟨write, List.mem_cons_self, row, hrow, hnew⟩)
      · obtain ⟨other, hother, hrow⟩ := mem_drawn.mp hdrawn
        exact Or.inr (mem_drawn.mpr ⟨other, List.mem_cons_of_mem _ hother, hrow⟩)

theorem reserves (htable : TableOf table added) (db : Database) (writes : List ApiWrite) :
    (table db).nextId ≤ (table (writes.foldl ApiWrite.reserve db)).nextId ∧
      (∀ key ∈ drawn added writes, key < (table (writes.foldl ApiWrite.reserve db)).nextId) ∧
        ∀ key, Refers (table (writes.foldl ApiWrite.reserve db)) key → Refers (table db) key := by
  induction writes generalizing db with
  | nil => exact ⟨Nat.le_refl _, fun key hkey => (by cases hkey), fun key hkey => hkey⟩
  | cons write later ih =>
      obtain ⟨hnext, hrow, hrefers⟩ := htable.reserve db write
      obtain ⟨hlater, hdrawn, hlaterRefers⟩ := ih (write.reserve db)
      refine ⟨Nat.le_trans hnext hlater, fun key hkey => ?_,
        fun key hkey => hrefers key (hlaterRefers key hkey)⟩
      obtain ⟨other, hother, row, hadded, rfl⟩ := mem_drawn.mp hkey
      rcases List.mem_cons.mp hother with rfl | hother
      · exact Nat.lt_of_lt_of_le (hrow row hadded) hlater
      · exact hdrawn _ (mem_drawn.mpr ⟨other, hother, row, hadded, rfl⟩)

/-- The sequence of the table. -/
def sequence {K α : Type} (htable : TableOf table added) (tie : Nat → Nat)
    (program : K → Endpoint α) : Sequence (apiSessions tie program) where
  drawn := drawn added
  next db := (table db).nextId
  Taken db := Refers (table db)
  fresh := rfl
  outside change _ := nomatch change
  respond := by
    intro op choice committed work reply after left hrespond
    simp only [apiSessions] at hrespond
    split at hrespond
    · cases hrespond
      obtain ⟨hnext, hdrawn, hrefers⟩ :=
        htable.reserves committed (apiWrites (Api.shown committed work) op)
      refine ⟨hnext, fun key hkey => ?_, hrefers⟩
      obtain ⟨write, hwrite, row, hrow, rfl⟩ := mem_drawn.mp hkey
      rcases List.mem_append.mp hwrite with hold | hnew
      · exact Or.inl (mem_drawn.mpr ⟨write, hold, row, hrow, rfl⟩)
      · exact Or.inr ⟨Nat.le_trans (htable.shown committed work).1
          (htable.writes _ op write hnew row hrow),
          hdrawn _ (mem_drawn.mpr ⟨write, hnew, row, hrow, rfl⟩)⟩
    · cases hrespond
      exact ⟨Nat.le_refl _, fun key hkey => Or.inl hkey, fun key hkey => hkey⟩
  commit := by
    intro committed work after hcommit
    simp only [apiSessions] at hcommit
    split at hcommit
    · cases hcommit
      exact htable.shown committed work
    · cases hcommit

/-- Before anything has been drawn, the keys in use are behind the sequence. -/
theorem behind (table : Database → Table Row) (db : Database) {key : Nat}
    (hkey : Refers (table db) key) : key < (table db).nextId := by
  obtain ⟨row, hrow, rfl⟩ := exists_of_refers hkey
  exact (table db).keys_lt row hrow

end TableOf

/-- The watch target a write adds. -/
def ApiWrite.addedTarget : ApiWrite → Option WatchTargetModel
  | .watchTarget row => some row
  | _ => none

/-- The watch a write adds. -/
def ApiWrite.addedWatch : ApiWrite → Option WatchModel
  | .watch row => some row
  | _ => none

/-- The setting a write adds. -/
def ApiWrite.addedSetting : ApiWrite → Option SettingsModel
  | .setting row => some row
  | _ => none

/-- The rows that a call adds have keys the sequences have not given yet. -/
theorem added_keys {db : Database} {op : ApiOp} {write : ApiWrite}
    (hwrite : write ∈ apiWrites db op) :
    (∀ row, write.addedTarget = some row → db.watchTargets.nextId ≤ row.id) ∧
      (∀ row, write.addedWatch = some row → db.watches.nextId ≤ row.id) ∧
      ∀ row, write.addedSetting = some row → db.settings.nextId ≤ row.id := by
  cases op with
  | createProduct | insertWatchTarget | createWatch | createChannel | insertSetting | setInterval
  | setValue | deactivate | markVerified | deleteProduct | deleteChannel =>
      obtain rfl := List.mem_singleton.mp hwrite
      refine ⟨?_, ?_, ?_⟩ <;> intro row hrow <;> cases hrow <;> exact Nat.le_refl _
  | _ => cases hwrite

theorem watchTargetTable : TableOf Database.watchTargets ApiWrite.addedTarget := by
  refine ⟨?_, ?_, ?_⟩
  · intro db write row hrow
    cases write <;> cases hrow
    exact ⟨rfl, rfl⟩
  · intro db write hnone
    cases write with
    | watchTarget row => cases hnone
    | intervalSet watchTargetId intervalSeconds =>
        exact ⟨rfl, rfl, fun _ => refers_of_modify (by intro _; rfl)⟩
    | _ => exact ⟨rfl, rfl, fun _ hkey => hkey⟩
  · intro db op write hwrite row hrow
    exact (added_keys hwrite).1 row hrow

theorem watchTable : TableOf Database.watches ApiWrite.addedWatch := by
  refine ⟨?_, ?_, ?_⟩
  · intro db write row hrow
    cases write <;> cases hrow
    exact ⟨rfl, rfl⟩
  · intro db write hnone
    cases write with
    | watch row => cases hnone
    | deactivated watchId =>
        have hleft : (ApiWrite.apply db (.deactivated watchId)).watches = _ :=
          updateIfAny_snd db.watches watchId _ _
        rw [hleft]
        exact ⟨rfl, rfl, fun _ => refers_of_modify _⟩
    | _ => exact ⟨rfl, rfl, fun _ hkey => hkey⟩
  · intro db op write hwrite row hrow
    exact (added_keys hwrite).2.1 row hrow

theorem settingTable : TableOf Database.settings ApiWrite.addedSetting := by
  refine ⟨?_, ?_, ?_⟩
  · intro db write row hrow
    cases write <;> cases hrow
    exact ⟨rfl, rfl⟩
  · intro db write hnone
    cases write with
    | setting row => cases hnone
    | valueSet settingId value => exact ⟨rfl, rfl, fun _ => refers_of_modify (by intro _; rfl)⟩
    | _ => exact ⟨rfl, rfl, fun _ hkey => hkey⟩
  · intro db op write hwrite row hrow
    exact (added_keys hwrite).2.2 row hrow

end StockMonitoring.Api
