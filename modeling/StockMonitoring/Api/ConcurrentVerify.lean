import StockMonitoring.Api.AuthSessions
import StockMonitoring.Api.BruteForce

set_option autoImplicit false

/-!
# Api: a challenge under concurrent verifications

`verify_otp` reads the `consumed` flag once, in `get_latest`, and sets it later; nothing
looks at it again.  Two requests that both read a challenge before either commits both
redeem it.  Where no request with the right code reads a challenge while another one that
has read it with the right code is under way, a challenge is redeemed once
(`challenge_redeemed_once`).
-/

namespace StockMonitoring.Api

open StockMonitoring.Foundation StockMonitoring.Domain StockMonitoring.Application
  StockMonitoring.Infrastructure.Db

/-! ## Reading and redeeming -/

/-- The challenge a call has found. -/
def foundOf : Event authPort Raised → Option OtpChallenge
  | ⟨.getLatest _, .ok found⟩ => found
  | _ => none

/-- The challenge a request has read. -/
def challengeOf (session : AuthSession) : Option OtpChallenge :=
  session.calls.findSome? fun call => foundOf call.2

/-- The request has read this challenge. -/
def HasRead (session : AuthSession) (challengeId : Nat) : Prop :=
  ∃ challenge ∈ challengeOf session, challenge.id = some challengeId

/-- The request has returned a pair of tokens. -/
def Returned (session : AuthSession) : Prop := ∃ tokens, session.response = some (.ok (some tokens))

/-- The request has returned a pair of tokens for this challenge. -/
def Redeems (session : AuthSession) (challengeId : Nat) : Prop :=
  Returned session ∧ HasRead session challengeId

/-- No challenge is redeemed by two requests. -/
def SingleUse (system : AuthSystem) : Prop :=
  ∀ (index position : Nat) session other, index ≠ position →
    system.sessions[index]? = some session → system.sessions[position]? = some other →
    ∀ challengeId, Redeems session challengeId → ¬ Redeems other challengeId

/-- The request has not ended and has not been turned away. -/
def UnderWay (session : AuthSession) : Prop :=
  session.InProgress ∧
    match session.program with
    | .raise _ => False
    | _ => True

/-- The request has read this challenge unspent and has the right code. -/
def MayRedeem (policy : AuthPolicy) (session : AuthSession) (challengeId : Nat) : Prop :=
  ∃ challenge ∈ challengeOf session, challenge.id = some challengeId ∧
    Accepts policy challenge session.key

/-- No request reads a challenge that it accepts while another one under way has read it and
accepts it. -/
def ReadsAlone (config : AuthConfig) (system : AuthSystem) :
    SessionMove AuthRequest AuthTurn Database → Prop
  | .call index turn => ∀ session ∈ system.sessions[index]?,
      match session.program with
      | .call (.getLatest phoneNumber) _ => turn.failure = none →
          ∀ challenge ∈ SqlAlchemyOtpChallengeRepository.getLatest config.tie
            (seen system.committed session.work) phoneNumber,
          Accepts config.policy challenge session.key → ∀ challengeId ∈ challenge.id,
            ∀ other ∈ system.sessions.eraseIdx index, UnderWay other →
              ¬ MayRedeem config.policy other challengeId
      | _ => True
  | _ => True

section Decidable

variable (config : AuthConfig) (policy : AuthPolicy) (system : AuthSystem) (session : AuthSession)

instance (challenge : OtpChallenge) :
    (request : AuthRequest) → Decidable (Accepts policy challenge request)
  | .otpVerify _ code => inferInstanceAs (Decidable (challenge.consumed = false ∧
      challenge.attemptCount < policy.otpMaxAttempts ∧
        Core.verifyOtpCode code challenge.codeHash = true))
  | .otpRequest _ => isFalse nofun

instance (challengeId : Nat) : Decidable (MayRedeem policy session challengeId) :=
  inferInstanceAs (Decidable (∃ challenge ∈ challengeOf session,
    challenge.id = some challengeId ∧ Accepts policy challenge session.key))

instance : Decidable (UnderWay session) := by
  unfold UnderWay
  cases session.program <;> infer_instance

instance : (move : SessionMove AuthRequest AuthTurn Database) →
    Decidable (ReadsAlone config system move)
  | .call index turn => by
      unfold ReadsAlone
      refine @Option.decidableForallMem _ _ (fun session => ?_) _
      split <;> infer_instance
  | .outside _ | .start _ | .finish _ => isTrue trivial

end Decidable

/-! ## What a call does -/

section Calls

variable {config : AuthConfig} {committed next : Database} {turn : AuthTurn}
  {session after other : AuthSession}

theorem respond_cases {op : AuthOp} {work left : List AuthWrite} {reply : Reply authPort Raised op}
    (hrespond : (authSessions config).respond op turn committed work = (reply, next, left)) :
    reply = (authRespond config op turn (seen committed work)).1 ∧ Lasts committed next ∧
      ((∃ answer, reply = .ok answer) ∧ left = work ++ authWrites turn (seen committed work) op ∨
        (∃ error, reply = .error error) ∧ left = work) := by
  unfold authSessions at hrespond
  dsimp only at hrespond
  split at hrespond
  · rename_i answer hreply
    cases hrespond
    exact ⟨hreply.symm, lasts_reserve committed _, Or.inl ⟨⟨answer, rfl⟩, rfl⟩⟩
  · rename_i error hreply
    cases hrespond
    exact ⟨hreply.symm, lasts_refl _, Or.inr ⟨⟨error, rfl⟩, rfl⟩⟩

/-- The comparison of a code is what it is. -/
theorem answers_respond {progress : Redemption} (op : AuthOp) (turn : AuthTurn)
    (committed : Database) (work : List AuthWrite) :
    (redemption config.policy session.key).answers op
      ((authSessions config).respond op turn committed work).1 progress := by
  cases op with
  | verifyOtpCode code codeHash =>
      have hreply : (authRespond config (.verifyOtpCode code codeHash) turn
          (seen committed work)).1 = .ok (Core.verifyOtpCode code codeHash) := by
        unfold authRespond
        cases turn.failure <;> rfl
      change ((authSessions config).respond (.verifyOtpCode code codeHash) turn committed work).1 =
        .ok (Core.verifyOtpCode code codeHash)
      unfold authSessions
      dsimp only
      rw [hreply]
  | _ => exact trivial

/-- What a request has read after a call. -/
theorem challengeOf_concat {call : AuthTurn × Event authPort Raised}
    (hcalls : after.calls = session.calls ++ [call]) :
    challengeOf after = (challengeOf session).or (foundOf call.2) := by
  unfold challengeOf
  rw [hcalls, List.findSome?_append]
  simp

/-- The call behind a challenge. -/
theorem foundOf_eq_some {event : Event authPort Raised} {challenge : OtpChallenge}
    (hfound : foundOf event = some challenge) :
    ∃ phoneNumber, event = ⟨.getLatest phoneNumber, .ok (some challenge)⟩ := by
  unfold foundOf at hfound
  split at hfound
  · cases hfound
    exact ⟨_, rfl⟩
  · cases hfound

/-- A lookup that answers has read the database of its session. -/
theorem getLatest_of_reply {db : Database} {phoneNumber : String} {found : Option OtpChallenge}
    (hreply : (authRespond config (.getLatest phoneNumber) turn db).1 = .ok found) :
    turn.failure = none ∧
      SqlAlchemyOtpChallengeRepository.getLatest config.tie db phoneNumber = found := by
  unfold authRespond at hreply
  cases hfailure : turn.failure with
  | none =>
      rw [hfailure] at hreply
      cases hreply
      exact ⟨rfl, rfl⟩
  | some error =>
      rw [hfailure] at hreply
      cases hreply

end Calls

/-! ## What one request keeps -/

/-- How far a request has come. -/
def progressOf (config : AuthConfig) (session : AuthSession) : Redemption :=
  session.ghost (redemption config.policy session.key) .start

/-- What holds of a request: it marks what it has read, and has used up what it redeems. -/
structure Traced (config : AuthConfig) (committed : Database) (session : AuthSession) : Prop where
  obeys : session.program.Obeys (redemption config.policy session.key) (progressOf config session)
  found : (progressOf config session).found = challengeOf session
  fresh : (progressOf config session).begun = false → session.calls = [] ∧ session.work = []
  located : ∀ challengeId, HasRead session challengeId → ThereIn committed challengeId
  marked : ∀ challengeId ∈ (progressOf config session).marked,
    AuthWrite.consume challengeId ∈ session.work
  redeemed : Returned session → ∀ challengeId, HasRead session challengeId →
    MayRedeem config.policy session challengeId ∧ ConsumedIn committed challengeId

section Single

variable {config : AuthConfig} {committed next : Database} {turn : AuthTurn}
  {session after other : AuthSession}

theorem begun_next (progress : Redemption) (op : AuthOp) (reply : Reply authPort Raised op) :
    (progress.next op reply).begun = true := by
  unfold Redemption.next
  split <;> rfl

/-- What a request has marked after a call, it had marked before or marks by the call. -/
theorem marked_next {progress : Redemption} {op : AuthOp} {reply : Reply authPort Raised op}
    {challengeId : Nat} (hmarked : challengeId ∈ (progress.next op reply).marked) :
    challengeId ∈ progress.marked ∨
      (op = .markConsumed challengeId ∧ ∃ answer, reply = .ok answer) := by
  unfold Redemption.next at hmarked
  split at hmarked
  · exact Or.inl hmarked
  · rename_i answer
    cases hmarked
    exact Or.inr ⟨rfl, answer, rfl⟩
  · exact Or.inl hmarked

/-- A request reads once, before it does anything else. -/
theorem found_next {progress : Redemption} {op : AuthOp} {reply : Reply authPort Raised op}
    (hpre : (redemption config.policy session.key).pre op progress)
    (hfound : progress.found = challengeOf session)
    (hfresh : progress.begun = false → session.calls = [] ∧ session.work = []) :
    (progress.next op reply).found = (challengeOf session).or (foundOf ⟨op, reply⟩) := by
  cases op with
  | getLatest phoneNumber =>
      have hnone : challengeOf session = none := by
        unfold challengeOf
        rw [(hfresh hpre).1]
        rfl
      cases reply with
      | ok found => rw [hnone]; rfl
      | error error => rw [hnone]; exact hfound.trans hnone
  | markConsumed challengeId => cases reply <;> exact hfound.trans (Option.or_none ..).symm
  | _ => exact hfound.trans (Option.or_none ..).symm

/-- The step lemma for one request. -/
theorem Traced.called (htraced : Traced config committed session)
    (hcalled : (authSessions config).called committed turn session = some (next, after)) :
    Lasts committed next ∧ Traced config next after := by
  have hobeys := SessionSpec.obeys_called htraced.obeys
    (fun op _ => answers_respond op turn committed session.work) hcalled
  obtain ⟨op, resume, reply, work, hprogress, hprogram, hrespond, hafter⟩ :=
    SessionSpec.called_cases hcalled
  have hpre : (redemption config.policy session.key).pre op (progressOf config session) :=
    Co.pre_of_obeys htraced.obeys hprogram
  have hkey : after.key = session.key := by rw [hafter]
  have hcalls : after.calls = session.calls ++ [(turn, ⟨op, reply⟩)] := by rw [hafter]
  have hwork : after.work = work := by rw [hafter]
  have hnext : progressOf config after = (progressOf config session).next op reply := by
    unfold progressOf
    rw [hkey]
    exact SessionSpec.ghost_concat (redemption config.policy session.key) Redemption.start hcalls
  have hread := challengeOf_concat hcalls
  obtain ⟨hreply, hlasts, hwrites⟩ := respond_cases hrespond
  refine ⟨hlasts, ?_, ?_, ?_, ?_, ?_, ?_⟩
  · unfold progressOf
    rw [hkey]
    exact hobeys
  · rw [hnext, hread]
    exact found_next hpre htraced.found htraced.fresh
  · intro hbegun
    rw [hnext, begun_next] at hbegun
    cases hbegun
  · rintro challengeId ⟨challenge, hchallenge, hid⟩
    rw [hread, Option.mem_def, Option.or_eq_some_iff] at hchallenge
    rcases hchallenge with hold | ⟨_, hnew⟩
    · exact hlasts.1 challengeId (htraced.located challengeId ⟨challenge, hold, hid⟩)
    · obtain ⟨phoneNumber, hcall⟩ := foundOf_eq_some hnew
      cases hcall
      rw [(htraced.fresh hpre).2] at hreply
      obtain ⟨_, hlatest⟩ := getLatest_of_reply hreply.symm
      obtain ⟨row, hrow, rfl⟩ := row_of_getLatest hlatest
      cases hid
      exact hlasts.1 row.id ⟨row, hrow, rfl⟩
  · intro challengeId hmarked
    rw [hnext] at hmarked
    rw [hwork]
    rcases marked_next hmarked with hold | ⟨rfl, answer, rfl⟩
    · have hin := htraced.marked challengeId hold
      rcases hwrites with ⟨_, rfl⟩ | ⟨_, rfl⟩
      · exact List.mem_append_left _ hin
      · exact hin
    · rcases hwrites with ⟨_, rfl⟩ | ⟨⟨error, herror⟩, _⟩
      · exact List.mem_append_right _ (List.mem_singleton_self _)
      · cases herror
  · rintro ⟨tokens, hreturned⟩
    rw [hafter, hprogress] at hreturned
    cases hreturned

/-- A request that returns tokens has used its challenge up. -/
theorem Traced.finished (htraced : Traced config committed session)
    (hfinished : (authSessions config).finished committed session = some (next, after)) :
    Lasts committed next ∧ Traced config next after := by
  obtain ⟨_, ⟨value, hprogram, hcommit, rfl⟩ | ⟨error, _, rfl, rfl⟩⟩ :=
    SessionSpec.finished_cases hfinished
  · have hnext : next = seen committed session.work := by
      unfold authSessions at hcommit
      dsimp only at hcommit
      split at hcommit
      · cases hcommit
        rfl
      · cases hcommit
    have hlasts : Lasts committed next := hnext ▸ lasts_seen committed session.work
    refine ⟨hlasts, htraced.obeys, htraced.found, htraced.fresh, ?_, htraced.marked, ?_⟩
    · exact fun challengeId hread => hlasts.1 challengeId (htraced.located challengeId hread)
    · rintro ⟨tokens, hreturned⟩ challengeId hread
      cases hreturned
      have hpost := htraced.obeys
      rw [hprogram] at hpost
      obtain ⟨challenge, hfound, marked, hmarked, hid, haccepts⟩ := hpost
      rw [htraced.found] at hfound
      obtain ⟨other, hother, hotherId⟩ := hread
      obtain rfl := Option.mem_unique hother hfound
      obtain rfl : challengeId = marked := Option.some.inj (hotherId.symm.trans hid)
      refine ⟨⟨other, hfound, hid, haccepts⟩, ?_⟩
      rw [hnext]
      exact consumedIn_seen (htraced.marked challengeId hmarked)
        (htraced.located challengeId ⟨other, hfound, hid⟩)
  · refine ⟨lasts_refl _, htraced.obeys, htraced.found, htraced.fresh, htraced.located,
      htraced.marked, ?_⟩
    rintro ⟨tokens, hreturned⟩
    cases hreturned

theorem traced_opened (config : AuthConfig) (committed : Database) (request : AuthRequest) :
    Traced config committed ((authSessions config).opened request) := by
  refine ⟨redemption_obeys config.policy request, rfl, fun _ => ⟨rfl, rfl⟩, ?_, ?_, ?_⟩
  · rintro challengeId ⟨challenge, hchallenge, _⟩
    cases hchallenge
  · intro challengeId hmarked
    cases hmarked
  · rintro ⟨tokens, hreturned⟩
    cases hreturned

/-! ## What two requests keep -/

/-- The request has read this challenge, accepts it and has not failed. -/
def Holds (policy : AuthPolicy) (session : AuthSession) (challengeId : Nat) : Prop :=
  (UnderWay session ∨ Returned session) ∧ MayRedeem policy session challengeId

/-- What a request redeems it holds. -/
theorem Traced.holds (htraced : Traced config committed session) {challengeId : Nat}
    (hredeems : Redeems session challengeId) : Holds config.policy session challengeId :=
  ⟨Or.inr hredeems.1, (htraced.redeemed hredeems.1 challengeId hredeems.2).1⟩

/-- A request comes to hold a challenge only by reading it. -/
theorem holds_called {challengeId : Nat}
    (hcalled : (authSessions config).called committed turn session = some (next, after))
    (hholds : Holds config.policy after challengeId) :
    Holds config.policy session challengeId ∨
      ∃ phoneNumber resume, session.program = .call (.getLatest phoneNumber) resume ∧
        turn.failure = none ∧
          ∃ challenge ∈ SqlAlchemyOtpChallengeRepository.getLatest config.tie
            (seen committed session.work) phoneNumber,
          challenge.id = some challengeId ∧ Accepts config.policy challenge session.key := by
  obtain ⟨op, resume, reply, work, hprogress, hprogram, hrespond, hafter⟩ :=
    SessionSpec.called_cases hcalled
  have hcalls : after.calls = session.calls ++ [(turn, ⟨op, reply⟩)] := by rw [hafter]
  obtain ⟨_, challenge, hchallenge, hid, haccepts⟩ := hholds
  have hkey : after.key = session.key := by rw [hafter]
  rw [hkey] at haccepts
  rw [challengeOf_concat hcalls, Option.mem_def, Option.or_eq_some_iff] at hchallenge
  rcases hchallenge with hold | ⟨_, hnew⟩
  · refine Or.inl ⟨Or.inl ⟨hprogress, ?_⟩, challenge, hold, hid, haccepts⟩
    rw [hprogram]
    trivial
  · obtain ⟨phoneNumber, hcall⟩ := foundOf_eq_some hnew
    cases hcall
    obtain ⟨hfailure, hlatest⟩ := getLatest_of_reply (respond_cases hrespond).1.symm
    exact Or.inr ⟨phoneNumber, resume, hprogram, hfailure, challenge, hlatest, hid, haccepts⟩

/-- A request that ends holds what it held. -/
theorem holds_finished {challengeId : Nat}
    (hfinished : (authSessions config).finished committed session = some (next, after))
    (hholds : Holds config.policy after challengeId) :
    Holds config.policy session challengeId := by
  obtain ⟨hprogress, ⟨value, hprogram, _, rfl⟩ | ⟨error, _, _, rfl⟩⟩ :=
    SessionSpec.finished_cases hfinished
  · refine ⟨Or.inl ⟨hprogress, ?_⟩, hholds.2⟩
    rw [hprogram]
    trivial
  · obtain ⟨⟨hunder, _⟩ | ⟨tokens, hreturned⟩, _⟩ := hholds
    · cases hunder
    · cases hreturned

/-- What is used up nobody reads as unspent. -/
theorem not_accepts_of_consumed {db : Database} {phoneNumber : String} {challenge : OtpChallenge}
    {challengeId : Nat} {request : AuthRequest} (hconsumed : ConsumedIn db challengeId)
    (hlatest : SqlAlchemyOtpChallengeRepository.getLatest config.tie db phoneNumber =
      some challenge)
    (hid : challenge.id = some challengeId) : ¬ Accepts config.policy challenge request := by
  intro haccepts
  obtain ⟨row, hrow, rfl⟩ := row_of_getLatest hlatest
  obtain ⟨other, hother, rfl, hused⟩ := hconsumed
  obtain rfl := Table.eq_of_key_eq db.otpChallenges hrow hother (Option.some.inj hid)
  cases request with
  | otpRequest phoneNumber => exact haccepts
  | otpVerify phoneNumber code =>
      have hunused : row.consumed = false := haccepts.1
      rw [hused] at hunused
      cases hunused

end Single

/-! ## Whole runs -/

/-- Why requests that read alone do not share a challenge. -/
def challengeHeld (config : AuthConfig) :
    Interference (authSessions config) (ReadsAlone config) where
  single := Traced config
  pair session other := ∀ challengeId, Holds config.policy session challengeId →
    ¬ Holds config.policy other challengeId
  keeps := Lasts
  keeps_refl := lasts_refl
  outside_keeps _ _ := lasts_refl _
  single_keeps committed next session hkeeps htraced :=
    { htraced with
      located := fun challengeId hread => hkeeps.1 challengeId (htraced.located challengeId hread)
      redeemed := fun hreturned challengeId hread =>
        ⟨(htraced.redeemed hreturned challengeId hread).1,
          hkeeps.2 challengeId (htraced.redeemed hreturned challengeId hread).2⟩ }
  single_opened := traced_opened config
  pair_opened := by
    intro key other
    have hnot : ∀ challengeId, ¬ Holds config.policy ((authSessions config).opened key)
        challengeId := by
      rintro challengeId ⟨_, challenge, hchallenge, _⟩
      cases hchallenge
    exact ⟨fun challengeId hholds => absurd hholds (hnot challengeId),
      fun challengeId _ => hnot challengeId⟩
  single_called system index turn session next after _ _ htraced hcalled := htraced.called hcalled
  pair_called := by
    intro system index turn session next after other position halone hsession htraced hcalled hne
      hposition hother hpair _
    have hnot : ∀ challengeId, Holds config.policy after challengeId →
        ¬ Holds config.policy other challengeId := by
      intro challengeId hafter hholds
      rcases holds_called hcalled hafter with hold |
        ⟨phoneNumber, resume, hprogram, hfailure, challenge, hlatest, hid, haccepts⟩
      · exact hpair challengeId hold hholds
      · have hreads := halone session hsession
        rw [hprogram] at hreads
        obtain ⟨hunder | hreturned, hmay⟩ := hholds
        · exact hreads hfailure challenge hlatest haccepts challengeId hid other
            (List.mem_eraseIdx_iff_getElem?.mpr ⟨position, hne, hposition⟩) hunder hmay
        · obtain ⟨read, hread, hreadId, _⟩ := hmay
          have hconsumed := (hother.redeemed hreturned challengeId ⟨read, hread, hreadId⟩).2
          exact not_accepts_of_consumed ((lasts_seen _ session.work).2 challengeId hconsumed)
            hlatest hid haccepts
    exact ⟨hnot, fun challengeId hholds hafter => hnot challengeId hafter hholds⟩
  single_finished _ _ _ _ htraced hfinished := htraced.finished hfinished
  pair_finished _ _ _ _ _ _ hfinished _ hpair hreverse :=
    ⟨fun challengeId hafter => hpair challengeId (holds_finished hfinished hafter),
      fun challengeId hholds hafter =>
        hreverse challengeId hholds (holds_finished hfinished hafter)⟩

/-- If every request that accepts the challenge it reads reads it while no other request
under way accepts it, then no challenge is redeemed by two requests. -/
theorem challenge_redeemed_once (config : AuthConfig) (committed : Database)
    (moves : List (SessionMove AuthRequest AuthTurn Database)) (last : AuthSystem)
    (halone : Along (authSessions config).step (ReadsAlone config) ⟨committed, []⟩ moves)
    (hrun : runFrom (authSessions config).step ⟨committed, []⟩ moves = some last) :
    SingleUse last := by
  have hholds := (challengeHeld config).holds_run halone hrun
    ((challengeHeld config).holds_start committed)
  intro index position session other hne hsession hother challengeId hfirst hsecond
  exact hholds.pair index position session other hne hsession hother challengeId
    ((hholds.single session (List.mem_of_getElem? hsession)).holds hfirst)
    ((hholds.single other (List.mem_of_getElem? hother)).holds hsecond)

/-- One user with an open challenge for the code 123456. -/
def openChallenge : Database :=
  { Database.empty with
    users := Table.empty.insert fun id => ⟨id, "+15550001111", none, 0⟩
    otpChallenges := Table.empty.insert fun id =>
      ⟨id, "+15550001111", Core.hashOtpCode "123456", 300000000, 0, false, 0⟩ }

/-- Calls of a request that all return at one time. -/
def callsAt (now : Datetime) (index count : Nat) :
    List (SessionMove AuthRequest AuthTurn Database) :=
  List.replicate count (.call index ⟨now, ⟨0, by decide⟩, none⟩)

/-- The code is given twice, the second time after the first request has ended. -/
theorem repeated_code_is_refused :
    let moves : List (SessionMove AuthRequest AuthTurn Database) :=
      [.start (.otpVerify "+15550001111" "123456"), .start (.otpVerify "+15550001111" "123456")] ++
        callsAt 1 0 9 ++ [.finish 0] ++ callsAt 2 1 2 ++ [.finish 1]
    ∃ last, runFrom (authSessions defaultConfig).step ⟨openChallenge, []⟩ moves = some last ∧
      last.sessions.map (fun session => session.response) = [some (.ok (some ⟨"1", "1"⟩)),
        some (.error (.invalidOtp "OTP is invalid, expired, or exhausted"))] ∧
      SingleUse last := by
  intro moves
  have hreached : ((runFrom (authSessions defaultConfig).step ⟨openChallenge, []⟩ moves).map
      fun last => last.sessions.map fun session => session.response) =
        some [some (.ok (some ⟨"1", "1"⟩)),
          some (.error (.invalidOtp "OTP is invalid, expired, or exhausted"))] := by
    decide +kernel
  obtain ⟨last, hrun, hresponses⟩ := Option.map_eq_some_iff.mp hreached
  exact ⟨last, hrun, hresponses, challenge_redeemed_once defaultConfig openChallenge moves last
    (by decide +kernel) hrun⟩

/-- The code is given twice, and both requests read the challenge before either commits. -/
theorem racing_verifications_both_redeem :
    let moves : List (SessionMove AuthRequest AuthTurn Database) :=
      [.start (.otpVerify "+15550001111" "123456"), .start (.otpVerify "+15550001111" "123456")] ++
        callsAt 1 0 1 ++ callsAt 1 1 1 ++ callsAt 2 0 8 ++ [.finish 0] ++ callsAt 3 1 8 ++
          [.finish 1]
    ∃ last, runFrom (authSessions defaultConfig).step ⟨openChallenge, []⟩ moves = some last ∧
      ¬ SingleUse last := by
  intro moves
  have hreached : ((runFrom (authSessions defaultConfig).step ⟨openChallenge, []⟩ moves).map
      fun last => last.sessions.map fun session =>
        (session.response, (challengeOf session).bind OtpChallenge.id)) =
        some [(some (.ok (some ⟨"1", "1"⟩)), some 1), (some (.ok (some ⟨"1", "1"⟩)), some 1)] := by
    decide +kernel
  obtain ⟨last, hrun, hresponses⟩ := Option.map_eq_some_iff.mp hreached
  refine ⟨last, hrun, ?_⟩
  intro hsingle
  obtain ⟨session, hsession, hfirst⟩ := Option.map_eq_some_iff.mp
    (List.getElem?_map.symm.trans (congrArg (·[0]?) hresponses))
  obtain ⟨other, hother, hsecond⟩ := Option.map_eq_some_iff.mp
    (List.getElem?_map.symm.trans (congrArg (·[1]?) hresponses))
  obtain ⟨hreturned, hread⟩ := Prod.ext_iff.mp hfirst
  obtain ⟨hotherReturned, hotherRead⟩ := Prod.ext_iff.mp hsecond
  exact hsingle 0 1 session other (by decide) hsession hother 1
    ⟨⟨_, hreturned⟩, Option.bind_eq_some_iff.mp hread⟩
    ⟨⟨_, hotherReturned⟩, Option.bind_eq_some_iff.mp hotherRead⟩

end StockMonitoring.Api
