import StockMonitoring.Api.TokenCalls
import Mathlib.Data.List.Pairwise

set_option autoImplicit false

/-!
# Api: where a token comes from

Every token that `verify_access_token` accepts goes back, refresh token by refresh token,
to a verification with the code of the newest challenge of a phone number, by the only
user of that number (`token_provenance`).  The induction is over the calls of a run: what
a refresh accepts was issued before it.
-/

namespace StockMonitoring.Api

open StockMonitoring.Foundation StockMonitoring.Domain StockMonitoring.Application
  StockMonitoring.Infrastructure.Db

/-! ## The run -/

/-- No call reads an earlier time than a call before it. -/
def TimesNondecreasing (arrivals : List TokenArrival) : Prop :=
  arrivals.Pairwise fun first second => ∀ turn later,
    (first.turns turn).now ≤ (second.turns later).now

/-- When the challenges were created. -/
def creationTimes (db : Database) : List Datetime :=
  db.otpChallenges.rows.map OtpChallengeModel.createdAt

/-- One of the calls has issued this token. -/
def Issued (calls : List TokenServed) (token : String) : Prop :=
  ∃ call ∈ calls, ∃ issue ∈ call.issued, issue.token = token

/-- The token that a call presents. -/
def TokenCall.presented : TokenCall → Option String
  | .refresh refreshToken => some refreshToken
  | .verifyAccessToken token => some token
  | .requestOtp _ | .verifyOtp _ _ => none

/-- A token that decodes under the secret of the service has been issued before. -/
def Unforgeable (config : TokenConfig) (arrivals : List TokenArrival) : Prop :=
  ∀ first arrival second, arrivals = first ++ arrival :: second →
    ∀ token ∈ arrival.call.presented, ∀ decoded,
      config.jwtDecode token config.policy.jwtSecret config.policy.jwtAlgorithm
        (arrival.turns 0).now = .ok decoded →
      Issued (serveCalls config .empty first) token

/-! ## Provenance -/

/-- The phone number has one user. -/
def OnlyUser (db : Database) (phoneNumber : String) (userId : Nat) : Prop :=
  ∃ row, db.users.rows.filter (fun row => row.phoneNumber == phoneNumber) = [row] ∧
    row.id = userId

/-- The most recently created challenge for a phone number. -/
structure MostRecent (db : Database) (phoneNumber : String) (row : OtpChallengeModel) : Prop where
  mem : row ∈ db.otpChallenges.rows
  number : row.phoneNumber = phoneNumber
  last : ∀ other ∈ db.otpChallenges.rows, other.phoneNumber = phoneNumber → other ≠ row →
    other.createdAt < row.createdAt ∧ other.id < row.id

/-- The code is that of the most recent challenge, which is open. -/
def HasRightCode (served : TokenServed) (phoneNumber code : String) : Prop :=
  ∃ row, MostRecent served.before phoneNumber row ∧ Core.hashOtpCode code = row.codeHash ∧
    row.consumed = false ∧ (served.arrival.turns 1).now ≤ row.expiresAt

/-- A call goes back to a verification for the user, whichever of the calls before it has
issued the refresh token it presents, and so on. -/
inductive Descends (db : Database) (userId : Nat) : List TokenServed → TokenServed → Prop where
  | verified {earlier : List TokenServed} {served : TokenServed} {phoneNumber code : String}
      (hcall : served.arrival.call = .verifyOtp phoneNumber code)
      (hresult : ∃ pair, served.result = .ok (.tokens pair))
      (hright : HasRightCode served phoneNumber code)
      (hleft : OnlyUser served.after phoneNumber userId)
      (hstill : OnlyUser db phoneNumber userId) : Descends db userId earlier served
  | refreshed {earlier : List TokenServed} {served : TokenServed} {refreshToken : String}
      (hcall : served.arrival.call = .refresh refreshToken)
      (hresult : ∃ pair, served.result = .ok (.tokens pair))
      (hissued : Issued earlier refreshToken)
      (htype : ∀ source ∈ earlier, ∀ issue ∈ source.issued, issue.token = refreshToken →
        issue.payload.type = "refresh" ∧ (served.arrival.turns 0).now ≤ issue.payload.exp)
      (hsources : ∀ before source after, earlier = before ++ source :: after →
        (∃ issue ∈ source.issued, issue.token = refreshToken) → Descends db userId before source) :
      Descends db userId earlier served

/-! ## What the calls do to the tables -/

/-- The keys and creation times of the challenges. -/
def stamps (db : Database) : List (Nat × Datetime) :=
  db.otpChallenges.rows.map fun row => (row.id, row.createdAt)

section Tables

variable {config : TokenConfig} {db next : Database} {arrival : TokenArrival}
  {phoneNumber other : String} {userId : Nat}

theorem stamps_markConsumed (db : Database) (challengeId : Nat) :
    stamps (SqlAlchemyOtpChallengeRepository.markConsumed db challengeId).2 = stamps db ∧
      (SqlAlchemyOtpChallengeRepository.markConsumed db challengeId).2.users = db.users := by
  exact ⟨SqlAlchemyOtpChallengeRepository.map_rows_markConsumed (fun _ => rfl) db challengeId, rfl⟩

/-- The user that `get_or_create_by_phone` answers with is the only one of the number, and
no other number gains or loses one. -/
theorem getOrCreateByPhone_onlyUser {user : User} {now : Datetime}
    (hreply : SqlAlchemyUserRepository.getOrCreateByPhone db phoneNumber now = (.ok user, next)) :
    (∀ userId, user.id = some userId → OnlyUser next phoneNumber userId) ∧
      (∀ other userId, OnlyUser db other userId → OnlyUser next other userId) ∧
      next.otpChallenges = db.otpChallenges := by
  unfold SqlAlchemyUserRepository.getOrCreateByPhone at hreply
  match hrows : db.users.rows.filter fun row => row.phoneNumber == phoneNumber with
  | [] =>
      simp only [hrows, scalarOneOrNone, Prod.mk.injEq, Except.ok.injEq] at hreply
      obtain ⟨rfl, rfl⟩ := hreply
      refine ⟨?_, ?_, rfl⟩
      · rintro userId ⟨⟩
        refine ⟨⟨db.users.nextId, phoneNumber, none, now⟩, ?_, rfl⟩
        rw [Table.filter_insert_of_test (beq_self_eq_true phoneNumber), hrows, List.nil_append]
      · rintro other userId ⟨row, hone, hid⟩
        refine ⟨row, ?_, hid⟩
        rw [Table.filter_insert, hone]
        rw [beq_eq_false_iff_ne]
        rintro rfl
        rw [hrows] at hone
        cases hone
  | [row] =>
      simp only [hrows, scalarOneOrNone, Prod.mk.injEq, Except.ok.injEq] at hreply
      obtain ⟨rfl, rfl⟩ := hreply
      refine ⟨?_, fun _ _ honly => honly, rfl⟩
      rintro userId ⟨⟩
      exact ⟨row, hrows, rfl⟩
  | _ :: _ :: _ =>
      simp only [hrows, scalarOneOrNone, Prod.mk.injEq] at hreply
      cases hreply.1

/-- The tables after a call: at most one challenge is new, and a number with one user keeps
that one. -/
structure Kept (db next : Database) (now : Datetime) : Prop where
  stamped : stamps next = stamps db ∨ stamps next = stamps db ++ [(db.otpChallenges.nextId, now)]
  users : ∀ phoneNumber userId, OnlyUser db phoneNumber userId → OnlyUser next phoneNumber userId

theorem kept_of_eq {now : Datetime} (hsame : next = db) : Kept db next now := by
  rw [hsame]
  exact ⟨Or.inl rfl, fun _ _ honly => honly⟩

theorem kept_serveCall (config : TokenConfig) (db : Database) (arrival : TokenArrival) :
    Kept db (serveCall config db arrival).after (arrival.turns 1).now := by
  obtain ⟨call, turns⟩ := arrival
  cases call with
  | refresh refreshToken => exact kept_of_eq rfl
  | verifyAccessToken token => exact kept_of_eq rfl
  | requestOtp phoneNumber =>
      change Kept db (serve config.toAuthConfig db ⟨.otpRequest phoneNumber, turns⟩).after _
      cases hresult : (serve config.toAuthConfig db ⟨.otpRequest phoneNumber, turns⟩).result with
      | error error => exact kept_of_eq (afterSession_of_error hresult)
      | ok result =>
          obtain ⟨_, codeHash, expiresAt, hafter⟩ := serve_requested hresult
          rw [hafter]
          exact ⟨Or.inr (List.map_append ..), fun _ _ honly => honly⟩
  | verifyOtp phoneNumber code =>
      change Kept db (serve config.toAuthConfig db ⟨.otpVerify phoneNumber code, turns⟩).after _
      cases hresult :
        (serve config.toAuthConfig db ⟨.otpVerify phoneNumber code, turns⟩).result with
      | error error => exact kept_of_eq (afterSession_of_error hresult)
      | ok result =>
          obtain ⟨row, user, _, _, _, _, huser, _⟩ := serve_verified hresult
          obtain ⟨hmarked, husers⟩ := stamps_markConsumed db row.id
          obtain ⟨_, hothers, hchallenges⟩ := getOrCreateByPhone_onlyUser huser
          have hstamps : stamps _ = stamps _ :=
            congrArg (fun table => table.rows.map fun row => (row.id, row.createdAt)) hchallenges
          refine ⟨Or.inl (hstamps.trans hmarked), ?_⟩
          intro phoneNumber' userId honly
          refine hothers phoneNumber' userId ?_
          unfold OnlyUser
          rw [husers]
          exact honly

end Tables

/-! ## The newest challenge -/

section Newest

variable {config : TokenConfig} {db : Database} {phoneNumber : String}

/-- One challenge was inserted before another, and created no later. -/
def Before (first second : Nat × Datetime) : Prop := first.1 < second.1 ∧ first.2 ≤ second.2

/-- What an entry of the stamps is. -/
theorem lt_nextId_of_mem_stamps {stamp : Nat × Datetime} (hstamp : stamp ∈ stamps db) :
    stamp.1 < db.otpChallenges.nextId := by
  obtain ⟨row, hrow, rfl⟩ := List.mem_map.mp hstamp
  exact db.otpChallenges.keys_lt row hrow

/-- Challenges are inserted in the order of their creation. -/
theorem stamps_inOrder {arrivals : List TokenArrival} (hclock : TimesNondecreasing arrivals) :
    (stamps (databaseAfter config .empty arrivals)).Pairwise Before ∧
      ∀ stamp ∈ stamps (databaseAfter config .empty arrivals),
        ∃ arrival ∈ arrivals, ∃ turn, stamp.2 = (arrival.turns turn).now := by
  induction arrivals using List.reverseRecOn with
  | nil => exact ⟨List.Pairwise.nil, fun stamp hstamp => by cases hstamp⟩
  | append_singleton arrivals arrival ih =>
      obtain ⟨hearlier, _, hlast⟩ := List.pairwise_append.mp hclock
      obtain ⟨horder, hread⟩ := ih hearlier
      have hread' : ∀ stamp ∈ stamps (databaseAfter config .empty arrivals),
          ∃ before ∈ arrivals ++ [arrival], ∃ turn, stamp.2 = (before.turns turn).now := by
        intro stamp hstamp
        obtain ⟨before, hbefore, turn, htime⟩ := hread stamp hstamp
        exact ⟨before, List.mem_append_left _ hbefore, turn, htime⟩
      rw [databaseAfter_append]
      change (stamps
        (serveCall config (databaseAfter config .empty arrivals) arrival).after).Pairwise
        Before ∧ ∀ stamp ∈ stamps (serveCall config (databaseAfter config .empty arrivals)
          arrival).after, _
      rcases (kept_serveCall config (databaseAfter config .empty arrivals) arrival).stamped with
        hsame | hnew
      · rw [hsame]
        exact ⟨horder, hread'⟩
      · rw [hnew]
        refine ⟨List.pairwise_append.mpr ⟨horder, List.pairwise_singleton _ _, ?_⟩, ?_⟩
        · intro stamp hstamp last hmem
          rw [List.mem_singleton.mp hmem]
          obtain ⟨before, hbefore, turn, htime⟩ := hread stamp hstamp
          refine ⟨lt_nextId_of_mem_stamps hstamp, ?_⟩
          rw [htime]
          exact hlast before hbefore arrival (List.mem_singleton_self _) turn 1
        · intro stamp hstamp
          rcases List.mem_append.mp hstamp with hold | hlatest
          · exact hread' stamp hold
          · rw [List.mem_singleton.mp hlatest]
            exact ⟨arrival, List.mem_append_right _ (List.mem_singleton_self _), 1, rfl⟩

theorem stamps_kept (db : Database) (arrivals : List TokenArrival) :
    stamps db <+: stamps (databaseAfter config db arrivals) := by
  refine @databaseAfter_invariant config db (fun next => stamps db <+: stamps next) ?_ arrivals
    List.prefix_rfl
  intro next arrival hkept
  rcases (kept_serveCall config next arrival).stamped with hsame | hnew
  · rw [hsame]
    exact hkept
  · rw [hnew]
    exact hkept.trans (List.prefix_append _ _)

theorem creationTimes_eq (db : Database) : creationTimes db = (stamps db).map Prod.snd := by
  unfold creationTimes stamps
  rw [List.map_map]
  rfl

/-- Creation times that are distinct at the end were distinct before. -/
theorem creationTimes_nodup {first second : List TokenArrival}
    (hdistinct : (creationTimes (databaseAfter config .empty (first ++ second))).Nodup) :
    (creationTimes (databaseAfter config .empty first)).Nodup := by
  rw [databaseAfter_append, creationTimes_eq] at hdistinct
  rw [creationTimes_eq]
  exact hdistinct.sublist ((stamps_kept _ second).sublist.map Prod.snd)

/-- `get_latest` finds the most recent challenge. -/
theorem mostRecent_of_getLatest {tie : Nat → Nat} {row : OtpChallengeModel}
    (horder : (stamps db).Pairwise Before) (hdistinct : (creationTimes db).Nodup)
    (hlatest : SqlAlchemyOtpChallengeRepository.getLatest tie db phoneNumber =
      some (toOtpChallenge row)) :
    MostRecent db phoneNumber row := by
  obtain ⟨found, hnewest, hsame⟩ := Option.map_eq_some_iff.mp hlatest
  obtain rfl : found = row := by
    obtain ⟨⟩ := found
    obtain ⟨⟩ := row
    simpa [toOtpChallenge] using hsame
  obtain ⟨hmem, hphone⟩ := List.mem_filter.mp (mem_of_newest hnewest)
  refine ⟨hmem, by simpa using hphone, ?_⟩
  intro other hother hotherPhone hne
  have hnot := not_newer_of_newest hnewest
    (List.mem_filter.mpr ⟨hother, by simpa using hotherPhone⟩)
  have hle : other.createdAt ≤ found.createdAt := by
    by_contra hgt
    exact hnot (Or.inl (Int.not_le.mp hgt))
  have htimes : other.createdAt ≠ found.createdAt := fun heq =>
    hne (List.inj_on_of_nodup_map hdistinct hother hmem heq)
  have hlt : other.createdAt < found.createdAt := lt_of_le_of_ne hle htimes
  refine ⟨hlt, ?_⟩
  let ordered (first second : OtpChallengeModel) : Prop :=
    (first.id < second.id ∧ first.createdAt ≤ second.createdAt) ∨
      (second.id < first.id ∧ second.createdAt ≤ first.createdAt)
  have hsymm : Std.Symm ordered := ⟨fun _ _ h => h.symm⟩
  have hrows : db.otpChallenges.rows.Pairwise ordered := (List.pairwise_map.mp horder).imp Or.inl
  rcases hrows.forall hother hmem hne with ⟨hid, _⟩ | ⟨_, htime⟩
  · exact hid
  · exact absurd hlt (Int.not_lt.mpr htime)

end Newest

/-! ## Following the refresh tokens back -/

/-- What a token says, the service encodes, and it is about this user. -/
structure IssuedTo (config : TokenConfig) (userId : Nat) (issue : Issue) : Prop where
  sub : issue.payload.sub = toString userId
  token : config.jwtEncode issue.payload config.policy.jwtSecret config.policy.jwtAlgorithm =
    issue.token

/-- Every token that one of the calls has issued goes back to a verification. -/
def Grounded (config : TokenConfig) (db : Database) (calls : List TokenServed) : Prop :=
  ∀ before source after, calls = before ++ source :: after → ∀ issue ∈ source.issued,
    ∃ userId, IssuedTo config userId issue ∧ Descends db userId before source

/-- Where an accepted token comes from: whichever call has issued it, it was issued as what it
is accepted for, has not expired, and goes back to a verification for the user. -/
structure Provenance (db : Database) (userId : Nat) (earlier : List TokenServed)
    (token tokenType : String) (now : Datetime) : Prop where
  issued : Issued earlier token
  typed : ∀ source ∈ earlier, ∀ issue ∈ source.issued, issue.token = token →
    issue.payload.type = tokenType ∧ now ≤ issue.payload.exp
  descends : ∀ before source after, earlier = before ++ source :: after →
    (∃ issue ∈ source.issued, issue.token = token) → Descends db userId before source

section Provenance

variable {config : TokenConfig} {db : Database} {calls : List TokenServed}

/-- An access token and a refresh token that the service issues to a user. -/
theorem issuedTo_pair {userId : Nat} {now later : Datetime} {issue : Issue}
    (hissue : issue ∈ [accessIssue config.toAuthConfig userId now,
      refreshIssue config.toAuthConfig userId later]) : IssuedTo config userId issue := by
  rcases List.mem_cons.mp hissue with rfl | hsecond
  · exact ⟨rfl, rfl⟩
  · rw [List.mem_singleton.mp hsecond]
    exact ⟨rfl, rfl⟩

theorem grounded_nil : Grounded config db [] := by
  intro before source after hsplit
  cases before <;> cases hsplit

/-- One more call. -/
theorem Grounded.concat (hgrounded : Grounded config db calls) {served : TokenServed}
    (hserved : ∀ issue ∈ served.issued,
      ∃ userId, IssuedTo config userId issue ∧ Descends db userId calls served) :
    Grounded config db (calls ++ [served]) := by
  intro before source after hsplit
  rcases List.eq_nil_or_concat after with rfl | ⟨later, last, rfl⟩
  · obtain ⟨rfl, hsame⟩ := List.append_inj' hsplit rfl
    cases hsame
    exact hserved
  · rw [List.concat_eq_append, ← List.cons_append, ← List.append_assoc] at hsplit
    exact hgrounded before source later (List.append_inj' hsplit rfl).1

/-- An accepted token that was issued has a provenance. -/
theorem Grounded.provenance (hgrounded : Grounded config db calls) (hjwt : JwtLaw config)
    {token tokenType : String} {now : Datetime} {accepted : Int}
    (hissued : Issued calls token)
    (hverify : verifyToken config token tokenType now = .ok accepted) :
    ∃ userId : Nat, accepted = userId ∧ Provenance db userId calls token tokenType now := by
  have hevery : ∀ before source after, calls = before ++ source :: after →
      ∀ issue ∈ source.issued, issue.token = token →
        ∃ userId : Nat, accepted = userId ∧
          (issue.payload.type = tokenType ∧ now ≤ issue.payload.exp) ∧
            Descends db userId before source := by
    rintro before source after hsplit issue hissue rfl
    obtain ⟨userId, hto, hdescends⟩ := hgrounded before source after hsplit issue hissue
    obtain ⟨haccepted, htype⟩ := verifyToken_issued hjwt hto.token hto.sub hverify
    exact ⟨userId, haccepted, htype, hdescends⟩
  obtain ⟨source, hsource, issue, hissue, htoken⟩ := hissued
  obtain ⟨before, after, hsplit⟩ := List.append_of_mem hsource
  obtain ⟨userId, haccepted, _, _⟩ := hevery before source after hsplit issue hissue htoken
  refine ⟨userId, haccepted, ⟨source, hsource, issue, hissue, htoken⟩, ?_, ?_⟩
  · intro other hother otherIssue hotherIssue hsame
    obtain ⟨left, right, hcalls⟩ := List.append_of_mem hother
    obtain ⟨_, _, htype, _⟩ := hevery left other right hcalls otherIssue hotherIssue hsame
    exact htype
  · rintro left other right hcalls ⟨otherIssue, hotherIssue, hsame⟩
    obtain ⟨otherId, hotherId, _, hdescends⟩ :=
      hevery left other right hcalls otherIssue hotherIssue hsame
    obtain rfl : userId = otherId := Int.ofNat.inj (haccepted.symm.trans hotherId)
    exact hdescends

/-- A verification that returns is for the only user of its number, with the code of the most
recent challenge. -/
theorem descends_verifyOtp {arrival : TokenArrival} {phoneNumber code : String}
    {found last : Database} (horder : (stamps found).Pairwise Before)
    (hdistinct : (creationTimes found).Nodup)
    (hcall : arrival.call = .verifyOtp phoneNumber code)
    (hlast : ∀ userId, OnlyUser (serveCall config found arrival).after phoneNumber userId →
      OnlyUser last phoneNumber userId) :
    ∀ issue ∈ (serveCall config found arrival).issued,
      ∃ userId, IssuedTo config userId issue ∧
        Descends last userId calls (serveCall config found arrival) := by
  obtain ⟨call, turns⟩ := arrival
  cases hcall
  change ∀ issue ∈ (serve config.toAuthConfig found ⟨.otpVerify phoneNumber code, turns⟩).issues, _
  cases hresult : (serve config.toAuthConfig found ⟨.otpVerify phoneNumber code, turns⟩).result with
  | error error =>
      intro issue hissue
      unfold AuthServed.issues at hissue
      rw [hresult] at hissue
      cases hissue
  | ok result =>
      obtain ⟨row, user, userId, hlatest, hspent, hright, huser, hid, hissues, rfl⟩ :=
        serve_verified hresult
      have honly := (getOrCreateByPhone_onlyUser huser).1 userId hid
      unfold isSpent at hspent
      simp only [Bool.or_eq_false_iff, decide_eq_false_iff_not, Int.not_lt] at hspent
      have hdescends : Descends last userId calls
          (serveCall config found ⟨.verifyOtp phoneNumber code, turns⟩) :=
        .verified rfl ⟨_, congrArg (Except.map answerOf) hresult⟩
          ⟨row, mostRecent_of_getLatest horder hdistinct hlatest, beq_iff_eq.mp hright,
            hspent.1.1, hspent.1.2⟩ honly (hlast userId honly)
      rw [hissues]
      exact fun issue hissue => ⟨userId, issuedTo_pair hissue, hdescends⟩

/-- A refresh that returns goes on from the token it has accepted. -/
theorem descends_refresh {arrival : TokenArrival} {refreshToken : String} {found : Database}
    (hgrounded : Grounded config db calls) (hjwt : JwtLaw config)
    (hcall : arrival.call = .refresh refreshToken)
    (hissued : ∀ accepted, verifyToken config refreshToken "refresh" (arrival.turns 0).now =
      .ok accepted → Issued calls refreshToken) :
    ∀ issue ∈ (serveCall config found arrival).issued,
      ∃ userId, IssuedTo config userId issue ∧
        Descends db userId calls (serveCall config found arrival) := by
  obtain ⟨call, turns⟩ := arrival
  cases hcall
  change ∀ issue ∈ (refreshIssues config refreshToken (turns 0).now (turns 1).now
    (turns 2).now).toOption.elim [] fun issues => [issues.1, issues.2], _
  cases hverify : verifyToken config refreshToken "refresh" (turns 0).now with
  | error error =>
      intro issue hissue
      unfold refreshIssues at hissue
      rw [hverify] at hissue
      cases hissue
  | ok accepted =>
      obtain ⟨userId, rfl, hprovenance⟩ :=
        hgrounded.provenance hjwt (hissued accepted hverify) hverify
      have hpair : refreshIssues config refreshToken (turns 0).now (turns 1).now (turns 2).now =
          .ok (accessIssue config.toAuthConfig userId (turns 1).now,
            refreshIssue config.toAuthConfig userId (turns 2).now) := by
        unfold refreshIssues
        rw [hverify]
        rfl
      have hresult : ∃ pair, (serveCall config found ⟨.refresh refreshToken, turns⟩).result =
          .ok (.tokens pair) := by
        refine ⟨⟨(accessIssue config.toAuthConfig userId (turns 1).now).token,
          (refreshIssue config.toAuthConfig userId (turns 2).now).token⟩, ?_⟩
        change (refresh config refreshToken (turns 0).now (turns 1).now (turns 2).now).map
          TokenAnswer.tokens = _
        unfold refresh
        rw [hpair]
        rfl
      have hdescends : Descends db userId calls
          (serveCall config found ⟨.refresh refreshToken, turns⟩) :=
        .refreshed rfl hresult hprovenance.issued hprovenance.typed hprovenance.descends
      rw [hpair]
      exact fun issue hissue => ⟨userId, issuedTo_pair hissue, hdescends⟩

end Provenance

/-! ## Whole runs -/

section Runs

variable {config : TokenConfig} {arrivals : List TokenArrival}

/-- A call that a token verifies has presented a token that was issued. -/
theorem Unforgeable.issued (hunforgeable : Unforgeable config arrivals)
    {first second : List TokenArrival} {arrival : TokenArrival}
    (hsplit : arrivals = first ++ arrival :: second) {token tokenType : String} {accepted : Int}
    (hpresented : arrival.call.presented = some token)
    (hverify : verifyToken config token tokenType (arrival.turns 0).now = .ok accepted) :
    Issued (serveCalls config .empty first) token := by
  obtain ⟨sub, hdecode, _⟩ := verifyToken_eq_ok_iff.mp hverify
  exact hunforgeable first arrival second hsplit token hpresented _ hdecode

/-- The run lemma: every token that a run issues goes back to a verification. -/
theorem grounded_run (hjwt : JwtLaw config) (hclock : TimesNondecreasing arrivals)
    (hdistinct : (creationTimes (databaseAfter config .empty arrivals)).Nodup)
    (hunforgeable : Unforgeable config arrivals) {first second : List TokenArrival}
    (hsplit : arrivals = first ++ second) :
    Grounded config (databaseAfter config .empty arrivals) (serveCalls config .empty first) := by
  induction first using List.reverseRecOn generalizing second with
  | nil => exact grounded_nil
  | append_singleton first arrival ih =>
      have hrest : arrivals = first ++ arrival :: second := by
        rw [hsplit, List.append_assoc]
        rfl
      have hgrounded := ih hrest
      rw [serveCalls_append]
      refine hgrounded.concat ?_
      have horder := (@stamps_inOrder config first (List.pairwise_append.mp (hrest ▸ hclock)).1).1
      have htimes := @creationTimes_nodup config first (arrival :: second) (hrest ▸ hdistinct)
      cases hcall : arrival.call with
      | requestOtp phoneNumber =>
          intro issue hissue
          unfold serveCall at hissue
          rw [hcall] at hissue
          cases hissue
      | verifyAccessToken token =>
          intro issue hissue
          unfold serveCall at hissue
          rw [hcall] at hissue
          cases hissue
      | refresh refreshToken =>
          exact descends_refresh hgrounded hjwt hcall fun accepted hverify =>
            hunforgeable.issued hrest (by rw [hcall]; rfl) hverify
      | verifyOtp phoneNumber code =>
          refine descends_verifyOtp horder htimes hcall ?_
          intro userId honly
          rw [hrest, databaseAfter_append]
          exact databaseAfter_invariant
            (fun db later hdb =>
              (kept_serveCall config db later).users phoneNumber userId hdb) second
            honly

/-- What a call that returns has verified. -/
theorem verified_of_result {db : Database} {arrival : TokenArrival} {answer : TokenAnswer}
    {token : String} (hresult : (serveCall config db arrival).result = .ok answer) :
    (arrival.call = .verifyAccessToken token → ∃ accepted, answer = .user accepted ∧
        verifyToken config token "access" (arrival.turns 0).now = .ok accepted) ∧
      (arrival.call = .refresh token → ∃ accepted,
        verifyToken config token "refresh" (arrival.turns 0).now = .ok accepted) := by
  obtain ⟨call, turns⟩ := arrival
  constructor
  · rintro rfl
    change (verifyToken config token "access" (turns 0).now).map TokenAnswer.user = _ at hresult
    cases hverify : verifyToken config token "access" (turns 0).now with
    | error error =>
        rw [hverify] at hresult
        cases hresult
    | ok accepted =>
        rw [hverify] at hresult
        cases hresult
        exact ⟨accepted, rfl, rfl⟩
  · rintro rfl
    change (refresh config token (turns 0).now (turns 1).now (turns 2).now).map
      TokenAnswer.tokens = _ at hresult
    cases hverify : verifyToken config token "refresh" (turns 0).now with
    | error error =>
        unfold refresh refreshIssues at hresult
        rw [hverify] at hresult
        cases hresult
    | ok accepted => exact ⟨accepted, rfl⟩

end Runs

/-- Every token that `verify_access_token` accepts was issued as an access token, has not
expired, and goes back to a verification for its user; refresh tokens and access tokens are
not accepted in each other's place. -/
theorem token_provenance (config : TokenConfig) (arrivals : List TokenArrival)
    (hjwt : JwtLaw config) (hclock : TimesNondecreasing arrivals)
    (hdistinct : (creationTimes (databaseAfter config .empty arrivals)).Nodup)
    (hunforgeable : Unforgeable config arrivals) :
    (∀ earlier served later token (accepted : Int),
      serveCalls config .empty arrivals = earlier ++ served :: later →
      served.arrival.call = .verifyAccessToken token → served.result = .ok (.user accepted) →
        ∃ userId : Nat, accepted = userId ∧
          Provenance (databaseAfter config .empty arrivals) userId earlier token "access"
            (served.arrival.turns 0).now) ∧
      ∀ served ∈ serveCalls config .empty arrivals, ∀ answer, served.result = .ok answer →
        ∀ source ∈ serveCalls config .empty arrivals, ∀ issue ∈ source.issued,
          (served.arrival.call = .verifyAccessToken issue.token →
            issue.payload.type ≠ "refresh") ∧
          (served.arrival.call = .refresh issue.token → issue.payload.type ≠ "access") := by
  refine ⟨?_, ?_⟩
  · intro earlier served later token accepted hsplit hcall hresult
    obtain ⟨first, second, harrivals, rfl, hserved⟩ := serveCalls_split hsplit
    rw [hserved] at hresult
    obtain ⟨_, hanswer, hverify⟩ := (verified_of_result hresult).1 hcall
    cases hanswer
    have hissued := hunforgeable.issued harrivals (by rw [hcall]; rfl) hverify
    exact (grounded_run hjwt hclock hdistinct hunforgeable harrivals).provenance hjwt hissued
      hverify
  · intro served hserved answer hresult source hsource issue hissue
    obtain ⟨earlier, later, hsplit⟩ := List.append_of_mem hserved
    obtain ⟨first, _, _, _, hcall⟩ := serveCalls_split hsplit
    rw [hcall] at hresult
    obtain ⟨haccess, hrefresh⟩ := @verified_of_result config _ _ _ issue.token hresult
    obtain ⟨before, after, hrun⟩ := List.append_of_mem hsource
    have hgrounded := grounded_run hjwt hclock hdistinct hunforgeable
      (List.append_nil arrivals).symm
    obtain ⟨userId, hto, _⟩ := hgrounded before source after hrun issue hissue
    constructor
    · intro hpresented
      obtain ⟨_, _, hverify⟩ := haccess hpresented
      rw [(verifyToken_issued hjwt hto.token hto.sub hverify).2.1]
      decide
    · intro hpresented
      obtain ⟨_, hverify⟩ := hrefresh hpresented
      rw [(verifyToken_issued hjwt hto.token hto.sub hverify).2.1]
      decide

/-! ## Signed tokens -/

/-- The parts of a token that are signed. -/
def signedParts (payload : TokenPayload) : List (List Char) :=
  [payload.exp.repr.toList, payload.sub.toList, payload.type.toList]

/-- The signature of parts. -/
def signatureOf (secret : String) (parts : List (List Char)) : List Char :=
  (Core.hashOtpCode (secret ++ String.ofList (['.'].intercalate parts))).toList

/-- Parts and their signature, with dots between them; no token for claims with a dot. -/
def signedEncode (payload : TokenPayload) (secret _algorithm : String) : String :=
  if '.' ∈ payload.sub.toList ∨ '.' ∈ payload.type.toList then ""
  else
    String.ofList (['.'].intercalate
      (signedParts payload ++ [signatureOf secret (signedParts payload)]))

/-- The parts again, if the signature is theirs and they have not expired. -/
def signedDecode (token secret _algorithm : String) (now : Datetime) :
    Except String DecodedToken :=
  match token.toList.splitOn '.' with
  | [exp, sub, type, signature] =>
      if signature ≠ signatureOf secret [exp, sub, type] then
        .error "Signature verification failed"
      else
        match (String.ofList exp).toInt? with
        | none => .error "Expiration Time claim (exp) must be an integer."
        | some exp =>
            if exp ≤ now then .error "Signature has expired"
            else .ok ⟨some (String.ofList sub), some (String.ofList type)⟩
  | _ => .error "Not enough segments"

/-- The default service with signed tokens. -/
def signedConfig : TokenConfig where
  policy := ⟨"change-me", "HS256", 15, 30, 300, 5, 5⟩
  tie key := key
  jwtEncode := signedEncode
  jwtDecode := signedDecode

theorem jwtEncode_signedConfig : signedConfig.jwtEncode = signedEncode := rfl

theorem jwtDecode_signedConfig : signedConfig.jwtDecode = signedDecode := rfl

theorem hexDigit_ne_dot (value : Nat) : Core.hexDigit value ≠ '.' := by
  unfold Core.hexDigit
  by_cases hlt : value < 16
  · revert value
    decide
  · rw [List.getD_eq_getElem?_getD, List.getElem?_eq_none (by simpa using hlt)]
    decide

theorem dot_not_mem_signatureOf (secret : String) (parts : List (List Char)) :
    '.' ∉ signatureOf secret parts := by
  unfold signatureOf Core.hashOtpCode Core.hexOf
  rw [String.toList_ofList, List.mem_flatMap]
  rintro ⟨byte, _, hdigit⟩
  simp only [List.mem_cons, List.not_mem_nil, or_false] at hdigit
  rcases hdigit with hhigh | hlow
  · exact hexDigit_ne_dot _ hhigh.symm
  · exact hexDigit_ne_dot _ hlow.symm

theorem dot_not_mem_natRepr (n : Nat) : '.' ∉ n.repr.toList := by
  intro hmem
  rw [Nat.toList_repr] at hmem
  exact absurd (Nat.isDigit_of_mem_toDigits (by decide) (by decide) hmem) (by decide)

theorem dot_not_mem_intRepr (n : Int) : '.' ∉ n.repr.toList := by
  cases n with
  | ofNat m => exact dot_not_mem_natRepr m
  | negSucc m =>
      change '.' ∉ ("-" ++ m.succ.repr).toList
      rw [String.toList_append, List.mem_append]
      rintro (hsign | hdigits)
      · exact absurd hsign (by decide)
      · exact dot_not_mem_natRepr _ hdigits

/-- A token decodes to its claims until it has expired. -/
theorem signedDecode_encode {payload : TokenPayload} (secret algorithm : String) (now : Datetime)
    (hsub : '.' ∉ payload.sub.toList) (htype : '.' ∉ payload.type.toList) :
    signedDecode (signedEncode payload secret algorithm) secret algorithm now =
      if payload.exp ≤ now then .error "Signature has expired"
      else .ok ⟨some payload.sub, some payload.type⟩ := by
  have hparts : ∀ part ∈ signedParts payload ++ [signatureOf secret (signedParts payload)],
      '.' ∉ part := by
    intro part hpart
    simp only [signedParts, List.cons_append, List.nil_append, List.mem_cons, List.not_mem_nil,
      or_false] at hpart
    rcases hpart with rfl | rfl | rfl | rfl
    · exact dot_not_mem_intRepr _
    · exact hsub
    · exact htype
    · exact dot_not_mem_signatureOf _ _
  unfold signedEncode
  rw [if_neg (not_or.mpr ⟨hsub, htype⟩)]
  unfold signedDecode
  rw [String.toList_ofList, List.splitOn_intercalate '.' hparts (by simp)]
  simp only [signedParts, List.cons_append, List.nil_append, ne_eq, not_true_eq_false, if_false,
    String.ofList_toList, Int.toInt?_repr]

theorem jwtLaw_signedConfig : JwtLaw signedConfig := by
  intro payload secret algorithm now decoded hdecode
  rw [jwtDecode_signedConfig, jwtEncode_signedConfig] at hdecode
  by_cases hdots : '.' ∈ payload.sub.toList ∨ '.' ∈ payload.type.toList
  · have hempty : "".toList.splitOn '.' = [[]] := by decide
    unfold signedEncode signedDecode at hdecode
    rw [if_pos hdots, hempty] at hdecode
    cases hdecode
  · obtain ⟨hsub, htype⟩ := not_or.mp hdots
    rw [signedDecode_encode secret algorithm now hsub htype] at hdecode
    split at hdecode
    · cases hdecode
    · rename_i hexp
      cases hdecode
      exact ⟨rfl, rfl, Int.le_of_lt (Int.not_le.mp hexp)⟩

/-- The service accepts a token that it has issued until it has expired. -/
theorem verifyToken_signed {userId : Nat} {expiresDelta : Timedelta} {tokenType : String}
    {now later : Datetime} (htype : '.' ∉ tokenType.toList) (hlater : later < now + expiresDelta) :
    verifyToken signedConfig
      (issueAt signedConfig.toAuthConfig userId expiresDelta tokenType now).token tokenType later =
        .ok userId := by
  let payload : TokenPayload := ⟨userId.repr, tokenType, now, now + expiresDelta⟩
  have htoken : (issueAt signedConfig.toAuthConfig userId expiresDelta tokenType now).token =
      signedEncode payload signedConfig.policy.jwtSecret signedConfig.policy.jwtAlgorithm := rfl
  have hdecode : signedDecode
      (signedEncode payload signedConfig.policy.jwtSecret signedConfig.policy.jwtAlgorithm)
      signedConfig.policy.jwtSecret signedConfig.policy.jwtAlgorithm later =
        .ok ⟨some userId.repr, some tokenType⟩ := by
    rw [@signedDecode_encode payload _ _ later (dot_not_mem_natRepr userId) htype,
      if_neg (Int.not_le.mpr hlater)]
  rw [← htoken, ← jwtDecode_signedConfig] at hdecode
  exact verifyToken_eq_ok_iff.mpr ⟨userId.repr, hdecode, intOf_repr userId⟩

/-- A call all of whose clock readings are `now`. -/
def callAt (now : Datetime) (call : TokenCall) : TokenArrival :=
  ⟨call, fun _ => ⟨now, ⟨123456, by decide⟩, none⟩⟩

/-- A code is requested and verified, and the refresh token is used once. -/
def refreshedOnce : List TokenArrival :=
  [callAt 0 (.requestOtp "+15550001111"), callAt 1 (.verifyOtp "+15550001111" "123456"),
    callAt 2 (.refresh (refreshIssue signedConfig.toAuthConfig 1 1).token)]

/-- The access token of the refresh. -/
def refreshedToken : String := (accessIssue signedConfig.toAuthConfig 1 2).token

/-- The verification is for the first user. -/
theorem verified_refreshedOnce :
    let found := databaseAfter signedConfig .empty (refreshedOnce.take 1)
    let served := serveCall signedConfig found (callAt 1 (.verifyOtp "+15550001111" "123456"))
    refreshIssue signedConfig.toAuthConfig 1 1 ∈ served.issued ∧
      creationTimes served.after = [0] := by
  intro found served
  have hrun : served.issued.map (fun issue => issue.payload.sub) = ["1", "1"] ∧
      creationTimes served.after = [0] := by decide +kernel
  obtain ⟨hsubs, htimes⟩ := hrun
  refine ⟨?_, htimes⟩
  change refreshIssue signedConfig.toAuthConfig 1 1 ∈ (serve signedConfig.toAuthConfig found
    ⟨.otpVerify "+15550001111" "123456", fun _ => ⟨1, ⟨123456, by decide⟩, none⟩⟩).issues
  change (serve signedConfig.toAuthConfig found ⟨.otpVerify "+15550001111" "123456",
    fun _ => ⟨1, ⟨123456, by decide⟩, none⟩⟩).issues.map (fun issue => issue.payload.sub) =
      _ at hsubs
  cases hresult : (serve signedConfig.toAuthConfig found
      ⟨.otpVerify "+15550001111" "123456", fun _ => ⟨1, ⟨123456, by decide⟩, none⟩⟩).result with
  | error error =>
      unfold AuthServed.issues at hsubs
      rw [hresult] at hsubs
      cases hsubs
  | ok result =>
      obtain ⟨_, _, userId, _, _, _, _, _, hissues, _⟩ := serve_verified hresult
      rw [hissues] at hsubs ⊢
      have hsub : userId.repr = (1 : Nat).repr := (List.cons.inj hsubs).1
      obtain rfl := Nat.repr_injective hsub
      exact List.mem_cons_of_mem _ (List.mem_singleton_self _)

theorem unforgeable_refreshedOnce :
    Unforgeable signedConfig (refreshedOnce ++ [callAt 3 (.verifyAccessToken refreshedToken)]) := by
  have hverified : Issued (serveCalls signedConfig .empty (refreshedOnce.take 2))
      (refreshIssue signedConfig.toAuthConfig 1 1).token :=
    ⟨_, List.mem_cons_of_mem _ List.mem_cons_self, _, verified_refreshedOnce.1, rfl⟩
  have hrefreshed : Issued (serveCalls signedConfig .empty refreshedOnce) refreshedToken := by
    have hverify : verifyToken signedConfig (refreshIssue signedConfig.toAuthConfig 1 1).token
        "refresh" 2 = .ok (1 : Nat) := verifyToken_signed (by decide) (by decide)
    refine ⟨serveCall signedConfig (databaseAfter signedConfig .empty (refreshedOnce.take 2))
      (callAt 2 (.refresh (refreshIssue signedConfig.toAuthConfig 1 1).token)), ?_,
      accessIssue signedConfig.toAuthConfig 1 2, ?_, rfl⟩
    · exact List.mem_cons_of_mem _ (List.mem_cons_of_mem _ List.mem_cons_self)
    · change _ ∈ (refreshIssues signedConfig (refreshIssue signedConfig.toAuthConfig 1 1).token 2 2
        2).toOption.elim [] fun issues => [issues.1, issues.2]
      unfold refreshIssues
      rw [hverify]
      exact List.mem_cons_self
  intro first arrival second hsplit token htoken decoded _
  match first, hsplit with
  | [], hsplit =>
      cases hsplit
      cases htoken
  | [_], hsplit =>
      cases hsplit
      cases htoken
  | [_, _], hsplit =>
      cases hsplit
      cases htoken
      exact hverified
  | [_, _, _], hsplit =>
      cases hsplit
      cases htoken
      exact hrefreshed
  | _ :: _ :: _ :: _ :: rest, hsplit =>
      have hlength := congrArg List.length hsplit
      simp [refreshedOnce] at hlength

/-- The access token goes back through the refresh to the verification. -/
theorem refreshed_token_goes_back :
    let arrivals := refreshedOnce ++ [callAt 3 (.verifyAccessToken refreshedToken)]
    (serveCall signedConfig (databaseAfter signedConfig .empty refreshedOnce)
        (callAt 3 (.verifyAccessToken refreshedToken))).result = .ok (.user 1) ∧
      Provenance (databaseAfter signedConfig .empty arrivals) 1
        (serveCalls signedConfig .empty refreshedOnce) refreshedToken "access" 3 := by
  intro arrivals
  have hresult : (serveCall signedConfig (databaseAfter signedConfig .empty refreshedOnce)
      (callAt 3 (.verifyAccessToken refreshedToken))).result = .ok (.user 1) := by
    have hverify : verifyToken signedConfig refreshedToken "access" 3 = .ok (1 : Nat) :=
      verifyToken_signed (by decide) (by decide)
    exact congrArg (Except.map TokenAnswer.user) hverify
  have hclock : TimesNondecreasing arrivals := by
    simp [TimesNondecreasing, arrivals, refreshedOnce, callAt]
  have hdistinct : (creationTimes (databaseAfter signedConfig .empty arrivals)).Nodup :=
    (congrArg List.Nodup verified_refreshedOnce.2).mpr (List.nodup_singleton 0)
  obtain ⟨userId, huser, hprovenance⟩ :=
    (token_provenance signedConfig arrivals jwtLaw_signedConfig hclock hdistinct
      unforgeable_refreshedOnce).1 _ _ _ _ _ (serveCalls_append refreshedOnce _) rfl hresult
  obtain rfl : 1 = userId := Int.ofNat.inj huser
  exact ⟨hresult, hprovenance⟩

end StockMonitoring.Api
