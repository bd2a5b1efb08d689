import StockMonitoring.Api.AuthRequests
import StockMonitoring.Foundation.Sessions
import StockMonitoring.Infrastructure.Db.ForeignKeys

set_option autoImplicit false

/-!
# Api: the authentication requests, beside each other

Every request runs on the session of `app/api/deps.py`: a statement sees what is committed
when it runs and what its own session has flushed, and the session commits when the
handler has returned.  The keys of new rows come from sequences, which no rollback sets
back; the unique constraints refuse a commit.  A request beside no other is served as
`serve` has it (`serve_alone`).

`redemption_obeys` is what `verify_otp` promises its surroundings: a pair of tokens only
for a challenge that was read unspent, whose code was right, and that it has marked.
-/

namespace StockMonitoring.Api

open StockMonitoring.Foundation StockMonitoring.Domain StockMonitoring.Application
  StockMonitoring.Infrastructure.Db

/-! ## What a session writes -/

/-- A write that a session has flushed. -/
inductive AuthWrite where
  | challenge (row : OtpChallengeModel)
  | attempt (challengeId : Nat)
  | consume (challengeId : Nat)
  | user (row : UserModel)

namespace AuthWrite

/-- The write on the tables. -/
def apply (db : Database) : AuthWrite → Database
  | .challenge row => { db with otpChallenges := db.otpChallenges.place row }
  | .attempt challengeId => (SqlAlchemyOtpChallengeRepository.incrementAttempt db challengeId).2
  | .consume challengeId => (SqlAlchemyOtpChallengeRepository.markConsumed db challengeId).2
  | .user row => { db with users := db.users.place row }

/-- The key of a new row leaves its sequence. -/
def reserve (db : Database) : AuthWrite → Database
  | .challenge row => { db with otpChallenges := db.otpChallenges.reserve row.id }
  | .user row => { db with users := db.users.reserve row.id }
  | .attempt _ | .consume _ => db

/-- The write breaks no unique constraint. -/
def Fits (db : Database) : AuthWrite → Prop
  | .challenge row => ¬ Refers db.otpChallenges row.id
  | .user row => ¬ Refers db.users row.id ∧
      ∀ other ∈ db.users.rows, other.phoneNumber ≠ row.phoneNumber
  | .attempt _ | .consume _ => True

instance (db : Database) : (write : AuthWrite) → Decidable (write.Fits db)
  | .challenge row => inferInstanceAs (Decidable (¬ Refers db.otpChallenges row.id))
  | .user row => inferInstanceAs (Decidable (¬ Refers db.users row.id ∧
      ∀ other ∈ db.users.rows, other.phoneNumber ≠ row.phoneNumber))
  | .attempt _ | .consume _ => isTrue trivial

end AuthWrite

/-- The database as a session with these writes sees it. -/
def seen (committed : Database) (work : List AuthWrite) : Database :=
  work.foldl AuthWrite.apply committed

/-- What a call that returns has written. -/
def authWrites (turn : AuthTurn) (db : Database) : AuthOp → List AuthWrite
  | .createChallenge phoneNumber codeHash expiresAt createdAt =>
      [.challenge ⟨db.otpChallenges.nextId, phoneNumber, codeHash, expiresAt, createdAt, false, 0⟩]
  | .incrementAttempt challengeId => [.attempt challengeId]
  | .markConsumed challengeId => [.consume challengeId]
  | .getOrCreateByPhone phoneNumber =>
      if db.users.rows.any fun row => row.phoneNumber == phoneNumber then []
      else [.user ⟨db.users.nextId, phoneNumber, none, turn.now⟩]
  | .countRecent _ _ | .now | .generateOtpCode | .sendOtp _ _ | .getLatest _ | .verifyOtpCode _ _
  | .encodeToken _ _ _ => []

/-- The requests, each in its own session. -/
def authSessions (config : AuthConfig) :
    SessionSpec AuthRequest authPort Raised (Option TokenPair) Database (List AuthWrite) AuthTurn
      Database where
  program := handle config.policy
  fresh := []
  respond op turn committed work :=
    match (authRespond config op turn (seen committed work)).1 with
    | .ok answer =>
        let writes := authWrites turn (seen committed work) op
        (.ok answer, writes.foldl AuthWrite.reserve committed, work ++ writes)
    | .error error => (.error error, committed, work)
  commit committed work :=
    if ∀ write ∈ work, write.Fits committed then .ok (seen committed work)
    else .error .integrityError
  -- nothing else writes challenges or users
  outside tables committed :=
    { tables with otpChallenges := committed.otpChallenges, users := committed.users }

/-- The session of a request. -/
abbrev AuthSession : Type :=
  Session AuthRequest authPort Raised (Option TokenPair) (List AuthWrite) AuthTurn

/-- The committed database and the requests. -/
abbrev AuthSystem : Type :=
  SessionSystem AuthRequest authPort Raised (Option TokenPair) Database (List AuthWrite) AuthTurn

/-! ## What stays in the tables -/

/-- The challenge is there, and used up. -/
def ConsumedIn (db : Database) (challengeId : Nat) : Prop :=
  ∃ row ∈ db.otpChallenges.rows, row.id = challengeId ∧ row.consumed = true

/-- The challenge is there. -/
def ThereIn (db : Database) (challengeId : Nat) : Prop :=
  ∃ row ∈ db.otpChallenges.rows, row.id = challengeId

/-- Challenges stay, and stay used up. -/
def Lasts (db next : Database) : Prop :=
  (∀ challengeId, ThereIn db challengeId → ThereIn next challengeId) ∧
    ∀ challengeId, ConsumedIn db challengeId → ConsumedIn next challengeId

theorem lasts_refl (db : Database) : Lasts db db := ⟨fun _ h => h, fun _ h => h⟩

theorem Lasts.trans {first second third : Database} (hfirst : Lasts first second)
    (hsecond : Lasts second third) : Lasts first third :=
  ⟨fun id hthere => hsecond.1 id (hfirst.1 id hthere),
    fun id hconsumed => hsecond.2 id (hfirst.2 id hconsumed)⟩

/-- A change of one challenge that does not free it. -/
theorem lasts_updateOne {db : Database} {id : Nat}
    {change : OtpChallengeModel → OtpChallengeModel}
    (hkey : ∀ row, Keyed.key (change row) = Keyed.key row)
    (hkeeps : ∀ row, row.consumed = true → (change row).consumed = true) :
    Lasts db { db with otpChallenges := (updateOne db.otpChallenges id change hkey).2 } := by
  rw [updateOne_snd]
  have himage : ∀ row ∈ db.otpChallenges.rows,
      (if Keyed.key row = id then change row else row) ∈
        (db.otpChallenges.modify id change hkey).rows := fun row hrow =>
    List.mem_map.mpr ⟨row, hrow, rfl⟩
  refine ⟨?_, ?_⟩
  · rintro _ ⟨row, hrow, rfl⟩
    refine ⟨_, himage row hrow, ?_⟩
    split
    · exact hkey row
    · rfl
  · rintro _ ⟨row, hrow, rfl, hconsumed⟩
    refine ⟨_, himage row hrow, ?_⟩
    split
    · exact ⟨hkey row, hkeeps row hconsumed⟩
    · exact ⟨rfl, hconsumed⟩

theorem lasts_apply (db : Database) (write : AuthWrite) : Lasts db (write.apply db) := by
  cases write with
  | challenge row =>
      exact ⟨fun _ ⟨other, hother, hid⟩ => ⟨other, Table.mem_place hother, hid⟩,
        fun _ ⟨other, hother, hid⟩ => ⟨other, Table.mem_place hother, hid⟩⟩
  | attempt challengeId => exact lasts_updateOne (by intro _; rfl) fun _ hconsumed => hconsumed
  | consume challengeId => exact lasts_updateOne (by intro _; rfl) fun _ _ => rfl
  | user row => exact lasts_refl db

/-- What is committed a session sees. -/
theorem lasts_seen (committed : Database) (work : List AuthWrite) :
    Lasts committed (seen committed work) := by
  induction work generalizing committed with
  | nil => exact lasts_refl committed
  | cons write later ih => exact (lasts_apply committed write).trans (ih _)

theorem lasts_reserve (committed : Database) (writes : List AuthWrite) :
    Lasts committed (writes.foldl AuthWrite.reserve committed) := by
  induction writes generalizing committed with
  | nil => exact lasts_refl committed
  | cons write later ih =>
      refine Lasts.trans ?_ (ih _)
      cases write <;> exact lasts_refl committed

/-- A challenge that a session has marked is used up at its commit. -/
theorem consumedIn_seen {committed : Database} {work : List AuthWrite} {challengeId : Nat}
    (hmarked : AuthWrite.consume challengeId ∈ work) (hthere : ThereIn committed challengeId) :
    ConsumedIn (seen committed work) challengeId := by
  induction work generalizing committed with
  | nil => cases hmarked
  | cons write later ih =>
      rcases List.mem_cons.mp hmarked with rfl | hlater
      · refine (lasts_seen _ later).2 challengeId ?_
        obtain ⟨row, hrow, rfl⟩ := hthere
        refine ⟨{ row with consumed := true }, ?_, rfl, rfl⟩
        change _ ∈ (updateOne committed.otpChallenges row.id _ _).2.rows
        rw [updateOne_snd]
        exact List.mem_map.mpr ⟨row, hrow, if_pos rfl⟩
      · exact ih hlater ((lasts_apply committed write).1 challengeId hthere)

/-! ## A request alone -/

section Alone

variable {config : AuthConfig}

/-- A key may be drawn before or after another write. -/
theorem reserve_apply (db : Database) (reserved write : AuthWrite) :
    reserved.reserve (write.apply db) = write.apply (reserved.reserve db) := by
  cases reserved with
  | attempt | consume => rfl
  | user row =>
      cases write with
      | user other =>
          exact congrArg (fun users => { db with users := users })
            (Table.reserve_place db.users other row.id)
      | _ => rfl
  | challenge row =>
      cases write with
      | user other => rfl
      | challenge other =>
          exact congrArg (fun otpChallenges => { db with otpChallenges := otpChallenges })
            (Table.reserve_place db.otpChallenges other row.id)
      | attempt challengeId =>
          change { db with otpChallenges := (updateOne db.otpChallenges _ _ _).2.reserve row.id } =
            { db with otpChallenges := (updateOne (db.otpChallenges.reserve row.id) _ _ _).2 }
          rw [updateOne_snd, updateOne_snd]
          rfl
      | consume challengeId =>
          change { db with otpChallenges := (updateOne db.otpChallenges _ _ _).2.reserve row.id } =
            { db with otpChallenges := (updateOne (db.otpChallenges.reserve row.id) _ _ _).2 }
          rw [updateOne_snd, updateOne_snd]
          rfl

theorem seen_reserve (committed : Database) (reserved : AuthWrite) (work : List AuthWrite) :
    seen (reserved.reserve committed) work = reserved.reserve (seen committed work) := by
  induction work generalizing committed with
  | nil => rfl
  | cons write later ih =>
      change seen (write.apply (reserved.reserve committed)) later = _
      rw [← reserve_apply]
      exact ih _

theorem seen_reserves (committed : Database) (writes work : List AuthWrite) :
    seen (writes.foldl AuthWrite.reserve committed) work =
      writes.foldl AuthWrite.reserve (seen committed work) := by
  induction writes generalizing committed with
  | nil => rfl
  | cons reserved later ih =>
      rw [List.foldl_cons, ih, seen_reserve]
      rfl

theorem seen_append (committed : Database) (work writes : List AuthWrite) :
    seen committed (work ++ writes) = seen (seen committed work) writes := List.foldl_append

/-- What a call that has returned has written is what it leaves of what it saw. -/
theorem seen_authWrites {turn : AuthTurn} {op : AuthOp} {db : Database} {answer : op.Answer}
    (hok : (authRespond config op turn db).1 = .ok answer) :
    seen ((authWrites turn db op).foldl AuthWrite.reserve db) (authWrites turn db op) =
      (authRespond config op turn db).2 := by
  have hwork : authRespond config op turn db = authWork config turn op db := by
    unfold authRespond at hok ⊢
    cases hfailure : turn.failure with
    | none => rfl
    | some error =>
        rw [hfailure] at hok
        cases hawaits : op.awaits with
        | true =>
            rw [hawaits] at hok
            cases hok
        | false => rfl
  rw [hwork] at hok ⊢
  cases op with
  | createChallenge phoneNumber codeHash expiresAt createdAt =>
      let make (id : Nat) : OtpChallengeModel :=
        ⟨id, phoneNumber, codeHash, expiresAt, createdAt, false, 0⟩
      exact congrArg (fun otpChallenges => { db with otpChallenges := otpChallenges })
        (@Table.place_reserve_nextId _ _ db.otpChallenges make fun _ => rfl)
  | getOrCreateByPhone phoneNumber =>
      let make (id : Nat) : UserModel := ⟨id, phoneNumber, none, turn.now⟩
      simp only [authWork, SqlAlchemyUserRepository.getOrCreateByPhone, authWrites] at hok ⊢
      cases hone : scalarOneOrNone (db.users.rows.filter fun row =>
        row.phoneNumber == phoneNumber) with
      | error error =>
          rw [hone] at hok
          cases hok
      | ok found =>
          cases found with
          | some existing =>
              obtain ⟨hmem, hphone⟩ := List.mem_filter.mp (mem_of_scalarOneOrNone hone)
              rw [if_pos (List.any_eq_true.mpr ⟨existing, hmem, hphone⟩)]
              rfl
          | none =>
              have hnone := List.filter_eq_nil_iff.mp (scalarOneOrNone_eq_none hone)
              rw [if_neg (by simpa using hnone)]
              exact congrArg (fun users => { db with users := users })
                (@Table.place_reserve_nextId _ _ db.users make fun _ => rfl)
  | _ => rfl

/-- A call that raises leaves what it saw. -/
theorem authRespond_of_error {turn : AuthTurn} {op : AuthOp} {db : Database} {error : Raised}
    (herror : (authRespond config op turn db).1 = .error error) :
    (authRespond config op turn db).2 = db := by
  have hwork : ∀ error, (authWork config turn op db).1 = .error error →
      (authWork config turn op db).2 = db := by
    intro error herror
    cases op with
    | incrementAttempt challengeId =>
        exact congrArg (fun otpChallenges => { db with otpChallenges := otpChallenges })
          (updateOne_snd_of_error herror)
    | markConsumed challengeId =>
        exact congrArg (fun otpChallenges => { db with otpChallenges := otpChallenges })
          (updateOne_snd_of_error herror)
    | getOrCreateByPhone phoneNumber =>
        simp only [authWork, SqlAlchemyUserRepository.getOrCreateByPhone] at herror ⊢
        split
        · rfl
        · rfl
        · rename_i hone
          rw [hone] at herror
          cases herror
    | _ => cases herror
  unfold authRespond at herror ⊢
  split
  · rename_i hfailure
    rw [hfailure] at herror
    split
    · rfl
    · rename_i hawaits
      simp only [hawaits] at herror
      exact hwork error herror
  · rename_i hfailure
    rw [hfailure] at herror
    exact hwork error herror

/-- No write of the session breaks a unique constraint. -/
def AllFit (committed : Database) (work : List AuthWrite) : Prop :=
  ∀ write ∈ work, write.Fits committed

theorem fits_reserve (committed : Database) (writes : List AuthWrite) (write : AuthWrite) :
    write.Fits (writes.foldl AuthWrite.reserve committed) ↔ write.Fits committed := by
  induction writes generalizing committed with
  | nil => rfl
  | cons reserved later ih =>
      refine (ih _).trans ?_
      cases reserved <;> cases write <;> rfl

theorem mem_users_seen {committed : Database} {row : UserModel} (work : List AuthWrite)
    (hrow : row ∈ committed.users.rows) : row ∈ (seen committed work).users.rows := by
  induction work generalizing committed with
  | nil => exact hrow
  | cons write later ih =>
      refine ih ?_
      cases write with
      | user other => exact Table.mem_place hrow
      | _ => exact hrow

/-- A new row breaks no constraint if nothing has been committed since. -/
theorem fits_authWrites (turn : AuthTurn) (op : AuthOp) (committed : Database)
    (work : List AuthWrite) : AllFit committed (authWrites turn (seen committed work) op) := by
  intro write hwrite
  cases op with
  | createChallenge phoneNumber codeHash expiresAt createdAt =>
      obtain rfl := List.mem_singleton.mp hwrite
      intro hrefers
      obtain ⟨row, hrow, hkey⟩ := exists_of_refers hrefers
      obtain ⟨other, hother, hid⟩ := (lasts_seen committed work).1 _ ⟨row, hrow, hkey⟩
      exact Nat.ne_of_lt ((seen committed work).otpChallenges.keys_lt other hother) hid
  | getOrCreateByPhone phoneNumber =>
      simp only [authWrites] at hwrite
      split at hwrite
      · cases hwrite
      · rename_i hnone
        obtain rfl := List.mem_singleton.mp hwrite
        refine ⟨?_, ?_⟩
        · intro hrefers
          obtain ⟨row, hrow, hkey⟩ := exists_of_refers hrefers
          exact Nat.ne_of_lt ((seen committed work).users.keys_lt row (mem_users_seen work hrow))
            hkey
        · intro other hother hphone
          exact hnone (List.any_eq_true.mpr ⟨other, mem_users_seen work hother, by simp [hphone]⟩)
  | incrementAttempt challengeId =>
      obtain rfl := List.mem_singleton.mp hwrite
      trivial
  | markConsumed challengeId =>
      obtain rfl := List.mem_singleton.mp hwrite
      trivial
  | _ => cases hwrite

/-- A session sees what the calls of the service, one after another, leave. -/
theorem authSessions_shows (config : AuthConfig) :
    (authSessions config).Shows (authEffects config) seen AllFit := by
  refine ⟨?_, ?_⟩
  · intro op turn committed work
    cases hreply : (authRespond config op turn (seen committed work)).1 with
    | error error =>
        simp only [authSessions, hreply]
        exact Prod.ext hreply (authRespond_of_error hreply)
    | ok answer =>
        simp only [authSessions, hreply]
        refine Prod.ext hreply ?_
        change _ = seen _ (work ++ authWrites turn (seen committed work) op)
        rw [seen_append, seen_reserves, seen_authWrites hreply]
        rfl
  · intro op turn committed work hfits
    cases hreply : (authRespond config op turn (seen committed work)).1 with
    | error error => simpa only [authSessions, hreply] using hfits
    | ok answer =>
        simp only [authSessions, hreply]
        intro write hwrite
        rw [fits_reserve]
        rcases List.mem_append.mp hwrite with hold | hnew
        · exact hfits write hold
        · exact fits_authWrites turn op committed work write hnew

/-- A request that nothing else runs beside is served as `serve` has it. -/
theorem serve_alone {request : AuthRequest} {turns : Nat → AuthTurn} {count : Nat} {db : Database}
    {last : AuthSystem}
    (hrun : runFrom (authSessions config).step ⟨db, []⟩
      (.start request :: ((List.range' 0 count).map fun turn => .call 0 (turns turn)) ++
        [.finish 0]) = some last) :
    ∃ session, last.sessions = [session] ∧
      session.response = some (serve config db ⟨request, turns⟩).result ∧
      ∀ tokens, session.response = some (.ok tokens) →
        last.committed = (serve config db ⟨request, turns⟩).after := by
  have hnone : AllFit db [] := fun write hwrite => by cases hwrite
  obtain ⟨reached, session, after, hlast, hfits, hfinished, hending⟩ :=
    alone_finished (authSessions_shows config) hrun hnone
  obtain ⟨committed, sessions⟩ := last
  cases hlast
  obtain ⟨hresult, hstate⟩ := Prod.ext_iff.mp hending
  have hcommit : (authSessions config).commit reached session.work =
      .ok (seen reached session.work) := if_pos hfits
  obtain ⟨_, ⟨value, hprogram, hcommitted, rfl⟩ | ⟨error, hends, _, rfl⟩⟩ :=
    SessionSpec.finished_cases hfinished
  · rw [hprogram] at hresult hstate
    obtain rfl := Except.ok.inj (hcommit.symm.trans hcommitted)
    refine ⟨_, rfl, congrArg some hresult, fun _ _ => ?_⟩
    exact (congrArg Prod.snd hstate).trans (afterSession_of_ok hresult.symm).symm
  · rcases hends with hprogram | ⟨value, _, hrefused⟩
    · rw [hprogram] at hresult
      exact ⟨_, rfl, congrArg some hresult, fun _ htokens => by cases htokens⟩
    · rw [hcommit] at hrefused
      cases hrefused

end Alone

/-! ## The order of calls of a request -/

/-- The request is a verification that the challenge, as it was read, would accept. -/
def Accepts (policy : AuthPolicy) (challenge : OtpChallenge) : AuthRequest → Prop
  | .otpVerify _ code => challenge.consumed = false ∧
      challenge.attemptCount < policy.otpMaxAttempts ∧
        Core.verifyOtpCode code challenge.codeHash = true
  | .otpRequest _ => False

/-- How far a request has come. -/
structure Redemption where
  /-- it has made a call -/
  begun : Bool
  /-- the challenge it has read -/
  found : Option OtpChallenge
  /-- the challenge it has marked consumed -/
  marked : Option Nat

/-- Before the first call. -/
def Redemption.start : Redemption := ⟨false, none, none⟩

/-- After a reply. -/
def Redemption.next (progress : Redemption) (op : AuthOp) (reply : Reply authPort Raised op) :
    Redemption :=
  match op, reply with
  | .getLatest _, .ok found => ⟨true, found, progress.marked⟩
  | .markConsumed challengeId, .ok _ => ⟨true, progress.found, some challengeId⟩
  | _, _ => { progress with begun := true }

/-- The protocol of a request. -/
def redemption (policy : AuthPolicy) (request : AuthRequest) :
    Protocol authPort Raised (Option TokenPair) Redemption where
  pre op progress :=
    match op with
    | .getLatest _ => progress.begun = false
    | .markConsumed challengeId => ∃ challenge ∈ progress.found,
        challenge.id = some challengeId ∧ Accepts policy challenge request
    | _ => True
  answers op reply _ :=
    match op, reply with
    | .verifyOtpCode code codeHash, reply => reply = .ok (Core.verifyOtpCode code codeHash)
    | _, _ => True
  next op reply progress := progress.next op reply
  post result progress :=
    match result with
    | .ok (some _) => ∃ challenge ∈ progress.found, ∃ challengeId ∈ progress.marked,
        challenge.id = some challengeId ∧ Accepts policy challenge request
    | _ => True

section Obeys

variable {policy : AuthPolicy} {request : AuthRequest} {progress : Redemption}

/-- A call, and the rest after its answer. -/
theorem redemption_askAuth {op : AuthOp} {rest : op.Answer → Auth (Option TokenPair)}
    (hpre : (redemption policy request).pre op progress)
    (hrest : ∀ answer, (redemption policy request).answers op (.ok answer) progress →
      (rest answer).Obeys (redemption policy request) (progress.next op (.ok answer))) :
    (askAuth op >>= rest).Obeys (redemption policy request) progress :=
  Co.obeys_perform hpre hrest fun _ _ => trivial

theorem requestOtp_obeys (phoneNumber : String) :
    (requestOtp policy phoneNumber >>= fun _ => pure none).Obeys (redemption policy request)
      progress := by
  unfold requestOtp
  rw [bind_assoc]
  refine redemption_askAuth trivial fun recentCount _ => ?_
  split
  · exact trivial
  · simp only [bind_assoc]
    refine redemption_askAuth trivial fun now _ => ?_
    refine redemption_askAuth trivial fun code _ => ?_
    refine redemption_askAuth trivial fun _ _ => ?_
    exact redemption_askAuth trivial fun _ _ => trivial

theorem issueToken_obeys {userId : Nat} {expiresDelta : Timedelta} {tokenType : String}
    {rest : String → Auth (Option TokenPair)}
    (hrest : ∀ token, (rest token).Obeys (redemption policy request)
      { progress with begun := true }) :
    (issueToken policy userId expiresDelta tokenType >>= rest).Obeys (redemption policy request)
      progress := by
  unfold issueToken
  rw [bind_assoc]
  refine redemption_askAuth trivial fun now _ => ?_
  exact redemption_askAuth trivial fun token _ => hrest token

/-- The right code: the challenge is marked before any token is issued. -/
theorem acceptOtp_obeys {phoneNumber : String} {challenge : OtpChallenge} {challengeId : Nat}
    (hfound : progress.found = some challenge) (hid : challenge.id = some challengeId)
    (haccepts : Accepts policy challenge request) :
    (acceptOtp policy phoneNumber challengeId >>= fun tokens => pure (some tokens)).Obeys
      (redemption policy request) progress := by
  unfold acceptOtp
  simp only [bind_assoc]
  refine redemption_askAuth ⟨challenge, hfound, hid, haccepts⟩ fun _ _ => ?_
  refine redemption_askAuth trivial fun user _ => ?_
  cases user.id with
  | none => exact trivial
  | some userId =>
      simp only [bind_assoc]
      refine issueToken_obeys fun accessToken => ?_
      refine issueToken_obeys fun refreshToken => ?_
      exact ⟨challenge, hfound, challengeId, rfl, hid, haccepts⟩

theorem verifyChallenge_obeys {phoneNumber code : String} {challenge : OtpChallenge}
    (hfound : progress.found = some challenge) (now : Datetime) :
    (verifyChallenge policy phoneNumber code (some challenge) now >>= fun tokens =>
      pure (some tokens)).Obeys (redemption policy (.otpVerify phoneNumber code)) progress := by
  unfold verifyChallenge
  simp only
  split
  · exact trivial
  · rename_i hspent
    unfold isSpent at hspent
    simp only [Bool.or_eq_true, decide_eq_true_eq, not_or, not_le, Bool.not_eq_true] at hspent
    cases hid : challenge.id with
    | none => exact trivial
    | some challengeId =>
        simp only [bind_assoc]
        refine redemption_askAuth trivial fun isRight hright => ?_
        cases isRight with
        | false =>
            simp only [Bool.false_eq_true, if_false, bind_assoc]
            exact redemption_askAuth trivial fun _ _ => trivial
        | true =>
            exact acceptOtp_obeys hfound hid ⟨hspent.1.1, hspent.2,
              (Except.ok.inj hright).symm⟩

/-- Every request keeps to its protocol. -/
theorem redemption_obeys (policy : AuthPolicy) (request : AuthRequest) :
    (handle policy request).Obeys (redemption policy request) .start := by
  cases request with
  | otpRequest phoneNumber => exact requestOtp_obeys phoneNumber
  | otpVerify phoneNumber code =>
      unfold handle verifyOtp
      simp only [bind_assoc]
      refine redemption_askAuth rfl fun found _ => ?_
      refine redemption_askAuth trivial fun now _ => ?_
      cases found with
      | none => exact trivial
      | some challenge => exact verifyChallenge_obeys rfl now

end Obeys

end StockMonitoring.Api
