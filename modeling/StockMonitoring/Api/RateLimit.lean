import StockMonitoring.Api.BruteForce
import StockMonitoring.Api.TokenProvenance
import StockMonitoring.Foundation.Series

set_option autoImplicit false

/-!
# Api: the hourly cap on one-time codes

`request_otp` counts the challenges since a cutoff an hour before one clock reading and
stamps the new challenge with a later one.  So the cap holds in every window of an hour,
wherever it begins (`hourly_cap_slides`); a request that raises leaves no challenge
behind, and only a full hour makes the service refuse one.
-/

namespace StockMonitoring.Api

open StockMonitoring.Foundation StockMonitoring.Domain StockMonitoring.Application
  StockMonitoring.Infrastructure.Db

/-! ## Challenges within an hour -/

/-- When the committed challenges of a phone number were created. -/
def challengeTimes (db : Database) (phoneNumber : String) : List Datetime :=
  (db.otpChallenges.rows.filter fun row => row.phoneNumber == phoneNumber).map
    OtpChallengeModel.createdAt

/-- How many challenges of a number were created in the hour that begins at `start`. -/
def createdWithinHour (db : Database) (phoneNumber : String) (start : Datetime) : Nat :=
  countWithin (seconds 3600) start (challengeTimes db phoneNumber)

/-- No number has more challenges in an hour than the policy allows. -/
def CapKept (policy : AuthPolicy) (db : Database) : Prop :=
  ∀ phoneNumber start, createdWithinHour db phoneNumber start ≤ policy.otpMaxPerHour

/-- The phone number a request is about. -/
def AuthRequest.phoneNumber : AuthRequest → String
  | .otpRequest phoneNumber => phoneNumber
  | .otpVerify phoneNumber _ => phoneNumber

/-- The service has refused the request: no call it made has raised the error. -/
def AuthServed.Refused (served : AuthServed) : Prop :=
  ∃ message, served.result = .error (.rateLimitExceeded message) ∧
    ∀ event ∈ served.trace, event.reply ≠ .error (.rateLimitExceeded message)

/-- The clock does not go back, within a request or from one to the next. -/
structure ClockRuns (arrivals : List AuthArrival) : Prop where
  within : ∀ arrival ∈ arrivals, ∀ turn later, turn ≤ later →
    (arrival.turns turn).now ≤ (arrival.turns later).now
  across : arrivals.Pairwise fun first second => ∀ turn later,
    (first.turns turn).now ≤ (second.turns later).now

/-- Every challenge was created by the time of the arrival's clock readings. -/
def Past (db : Database) (arrival : AuthArrival) : Prop :=
  ∀ phoneNumber, ∀ time ∈ challengeTimes db phoneNumber, ∀ turn, time ≤ (arrival.turns turn).now

/-! ## Serving a request -/

section Serve

variable {config : AuthConfig} {db : Database} {phoneNumber code : String} {turns : Nat → AuthTurn}

theorem countRecent_eq (db : Database) (phoneNumber : String) (now : Datetime) :
    SqlAlchemyOtpChallengeRepository.countRecent db phoneNumber 3600 now =
      countSince (now - seconds 3600) (challengeTimes db phoneNumber) := by
  unfold SqlAlchemyOtpChallengeRepository.countRecent countSince challengeTimes
  rw [List.countP_map, List.countP_eq_length_filter, List.filter_filter]
  congr 1
  refine List.filter_congr fun row _ => ?_
  exact Bool.and_comm _ _

/-- `count_recent` counts the challenges of the hour up to its clock reading. -/
theorem countRecent_eq_createdWithinHour {arrival : AuthArrival} (hpast : Past db arrival) :
    SqlAlchemyOtpChallengeRepository.countRecent db phoneNumber 3600 (arrival.turns 0).now =
      createdWithinHour db phoneNumber ((arrival.turns 0).now - seconds 3600) := by
  rw [countRecent_eq]
  refine (countWithin_eq_countSince fun time htime => ?_).symm
  rw [Int.sub_add_cancel]
  exact hpast phoneNumber time htime 0

/-- Marking a challenge leaves every number and creation time. -/
theorem challengeTimes_of_entries {next : Database}
    (hentries : next.otpChallenges.rows.map (fun row => (row.phoneNumber, row.createdAt)) =
      db.otpChallenges.rows.map fun row => (row.phoneNumber, row.createdAt)) (other : String) :
    challengeTimes next other = challengeTimes db other := by
  have hread : ∀ db : Database, challengeTimes db other =
      ((db.otpChallenges.rows.map fun row => (row.phoneNumber, row.createdAt)).filter
        fun entry => entry.1 == other).map Prod.snd := by
    intro db
    unfold challengeTimes
    rw [List.filter_map, List.map_map]
    rfl
  rw [hread, hread, hentries]

/-- A new challenge counts for its number. -/
theorem challengeTimes_create (db : Database) (phoneNumber codeHash : String)
    (expiresAt createdAt : Datetime) (other : String) :
    challengeTimes (SqlAlchemyOtpChallengeRepository.create db phoneNumber codeHash expiresAt
        createdAt).2 other =
      if phoneNumber == other then challengeTimes db other ++ [createdAt]
      else challengeTimes db other := by
  unfold challengeTimes SqlAlchemyOtpChallengeRepository.create
  cases hother : phoneNumber == other with
  | true =>
      rw [Table.filter_insert_of_test hother, List.map_append]
      rfl
  | false =>
      rw [Table.filter_insert hother]
      rfl

/-- What a request leaves of the challenges: those that were there, and one more only after
a count below the cap. -/
theorem challengeTimes_serve (config : AuthConfig) (db : Database) (arrival : AuthArrival) :
    (∀ other, challengeTimes (serve config db arrival).after other = challengeTimes db other) ∨
      ∃ phoneNumber,
        SqlAlchemyOtpChallengeRepository.countRecent db phoneNumber 3600 (arrival.turns 0).now <
          config.policy.otpMaxPerHour ∧
        ∀ other, challengeTimes (serve config db arrival).after other =
          if phoneNumber == other then challengeTimes db other ++ [(arrival.turns 1).now]
          else challengeTimes db other := by
  obtain ⟨request, turns⟩ := arrival
  cases hresult : (serve config db ⟨request, turns⟩).result with
  | error error =>
      left
      intro other
      exact congrArg (challengeTimes · other) (afterSession_of_error hresult)
  | ok result =>
      cases request with
      | otpVerify phoneNumber code =>
          left
          obtain ⟨row, user, _, _, _, _, huser, _⟩ := serve_verified hresult
          obtain ⟨_, _, hchallenges⟩ := getOrCreateByPhone_onlyUser huser
          apply challengeTimes_of_entries
          rw [hchallenges]
          exact SqlAlchemyOtpChallengeRepository.map_rows_markConsumed (fun _ => rfl) db row.id
      | otpRequest phoneNumber =>
          right
          obtain ⟨hfew, codeHash, expiresAt, hafter⟩ := serve_requested hresult
          refine ⟨phoneNumber, hfew, fun other => ?_⟩
          rw [hafter]
          exact challengeTimes_create db phoneNumber codeHash expiresAt _ other

/-- A request whose clock readings do not go back keeps the cap. -/
theorem capKept_serve {arrival : AuthArrival} (hcap : CapKept config.policy db)
    (hclock : (arrival.turns 0).now ≤ (arrival.turns 1).now) :
    CapKept config.policy (serve config db arrival).after := by
  intro other start
  unfold createdWithinHour
  rcases challengeTimes_serve config db arrival with hsame | ⟨phoneNumber, hfew, hnew⟩
  · rw [hsame]
    exact hcap other start
  · rw [hnew]
    split
    · rename_i heq
      obtain rfl := beq_iff_eq.mp heq
      rw [countRecent_eq] at hfew
      refine countWithin_concat_le (hcap phoneNumber) hfew ?_ start
      rw [Int.sub_add_cancel]
      exact hclock
    · exact hcap other start

/-- After a request, no challenge lies in the future of a later one. -/
theorem past_serve {arrival next : AuthArrival} (hpast : Past db next)
    (hclock : ∀ turn later, (arrival.turns turn).now ≤ (next.turns later).now) :
    Past (serve config db arrival).after next := by
  intro phoneNumber time htime turn
  rcases challengeTimes_serve config db arrival with hsame | ⟨_, _, hnew⟩
  · rw [hsame] at htime
    exact hpast phoneNumber time htime turn
  · rw [hnew] at htime
    split at htime
    · rcases List.mem_append.mp htime with hold | hcreated
      · exact hpast phoneNumber time hold turn
      · rw [List.mem_singleton.mp hcreated]
        exact hclock 1 turn
    · exact hpast phoneNumber time htime turn

end Serve

/-! ## Refusals -/

/-- The errors that `verify_otp` raises itself. -/
def VerifyRaises (error : Raised) : Prop :=
  error = .assertionError ∨ ∃ message, error = .invalidOtp message

theorem verifyOtp_raisesOnly (policy : AuthPolicy) (phoneNumber code : String) :
    (handle policy (.otpVerify phoneNumber code)).RaisesOnly VerifyRaises := by
  change (verifyOtp policy phoneNumber code >>= fun tokens => pure (some tokens)).RaisesOnly _
  unfold verifyOtp
  simp only [bind_assoc]
  refine Co.raisesOnly_perform fun latest => Co.raisesOnly_perform fun now => ?_
  cases latest with
  | none => exact Or.inr ⟨_, rfl⟩
  | some challenge =>
      simp only [verifyChallenge]
      split
      · exact Or.inr ⟨_, rfl⟩
      · cases challenge.id with
        | none => exact Or.inl rfl
        | some challengeId =>
            simp only [bind_assoc]
            refine Co.raisesOnly_perform fun isRight => ?_
            split
            · unfold acceptOtp issueToken
              simp only [bind_assoc]
              refine Co.raisesOnly_perform fun _ => Co.raisesOnly_perform fun user => ?_
              cases user.id with
              | none => exact Or.inl rfl
              | some userId =>
                  simp only [bind_assoc]
                  refine Co.raisesOnly_perform fun _ => Co.raisesOnly_perform fun accessToken => ?_
                  exact Co.raisesOnly_perform fun _ => Co.raisesOnly_perform fun _ => trivial
            · simp only [bind_assoc]
              exact Co.raisesOnly_perform fun _ => Or.inr ⟨_, rfl⟩

/-- What `request_otp` does below the cap raises nothing of its own. -/
theorem requestOtp_raisesOnly (phoneNumber : String) (expiresIn : Timedelta) :
    Co.RaisesOnly (fun _ => False)
      (askAuth .now >>= fun now => askAuth .generateOtpCode >>= fun code =>
        askAuth (.createChallenge phoneNumber (Core.hashOtpCode code) (now + expiresIn) now) >>=
          fun _ => askAuth (.sendOtp phoneNumber code) >>= fun _ =>
            (pure none : Auth (Option TokenPair))) := by
  refine Co.raisesOnly_perform fun now => Co.raisesOnly_perform fun code => ?_
  exact Co.raisesOnly_perform fun _ => Co.raisesOnly_perform fun _ => trivial

/-- A request is refused only when `count_recent` has reached the cap. -/
theorem serve_refused {config : AuthConfig} {db : Database} {arrival : AuthArrival}
    (hrefused : (serve config db arrival).Refused) :
    config.policy.otpMaxPerHour ≤ SqlAlchemyOtpChallengeRepository.countRecent db
      arrival.request.phoneNumber 3600 (arrival.turns 0).now := by
  obtain ⟨message, hresult, hown⟩ := hrefused
  obtain ⟨request, turns⟩ := arrival
  let handler := (authEffects config).scripted turns
  cases request with
  | otpVerify phoneNumber code =>
      rcases Co.raised_of_raisesOnly (verifyOtp_raisesOnly config.policy phoneNumber code) hresult
        with (hraised | ⟨_, hraised⟩) | ⟨event, hevent, hraised⟩
      · cases hraised
      · cases hraised
      · exact absurd hraised (hown event hevent)
  | otpRequest phoneNumber =>
      by_contra hfew
      change ¬ config.policy.otpMaxPerHour ≤ SqlAlchemyOtpChallengeRepository.countRecent db
        phoneNumber 3600 (turns 0).now at hfew
      change (Co.exec handler (requestOtp config.policy phoneNumber >>= fun _ => pure none)
        (0, db)).result = _ at hresult
      change ∀ event ∈ (Co.exec handler (requestOtp config.policy phoneNumber >>= fun _ =>
        pure none) (0, db)).trace, _ at hown
      unfold requestOtp at hresult hown
      rw [bind_assoc] at hresult hown
      rcases Co.exec_perform_of_error hresult with hcalled | ⟨recentCount, _, hreply, hexec, hlater⟩
      · rw [hcalled] at hown
        exact hown _ List.mem_cons_self rfl
      · obtain ⟨_, hwork, _⟩ := authWork_of_answer hreply
        have hcounted : SqlAlchemyOtpChallengeRepository.countRecent db phoneNumber 3600
          (turns 0).now = recentCount := Except.ok.inj (congrArg Prod.fst hwork)
        rw [hcounted] at hfew
        rw [hexec, Outcome.after_trace] at hown
        simp only [hfew, if_false, bind_assoc] at hlater hown
        rcases Co.raised_of_raisesOnly
          (requestOtp_raisesOnly phoneNumber (seconds config.policy.otpTtlSeconds)) hlater
          with hnever | ⟨event, hevent, hraised⟩
        · exact hnever
        · exact hown event (List.mem_cons_of_mem _ hevent) hraised

/-! ## The cap -/

section Run

variable {config : AuthConfig}

/-- The cap over a run, from any state that keeps it and has no challenge in the future. -/
theorem cap_of_run {arrivals : List AuthArrival} (hclock : ClockRuns arrivals) {db : Database}
    (hcap : CapKept config.policy db) (hpast : ∀ arrival ∈ arrivals, Past db arrival) :
    ∀ served ∈ serveAll config db arrivals,
      CapKept config.policy served.after ∧
        (served.Refused → config.policy.otpMaxPerHour ≤
          createdWithinHour served.before served.arrival.request.phoneNumber
            ((served.arrival.turns 0).now - seconds 3600)) := by
  induction arrivals generalizing db with
  | nil =>
      intro served hserved
      cases hserved
  | cons arrival later ih =>
      obtain ⟨hacross, hlater⟩ := List.pairwise_cons.mp hclock.across
      have hkept : CapKept config.policy (serve config db arrival).after :=
        capKept_serve hcap (hclock.within arrival List.mem_cons_self 0 1 (by omega))
      intro served hserved
      rcases List.mem_cons.mp hserved with rfl | hrest
      · refine ⟨hkept, fun hrefused => ?_⟩
        have hfull := serve_refused hrefused
        rw [countRecent_eq_createdWithinHour (hpast arrival List.mem_cons_self)] at hfull
        exact hfull
      · have hclock' : ClockRuns later :=
          ⟨fun other hother => hclock.within other (List.mem_cons_of_mem _ hother), hlater⟩
        refine ih hclock' hkept (fun next hnext => ?_) served hrest
        exact past_serve (hpast next (List.mem_cons_of_mem _ hnext)) (hacross next hnext)

/-- In every run of requests the cap holds in every hour after each of them, and a request
is refused only when the hour before it is full. -/
theorem hourly_cap_slides (config : AuthConfig) {arrivals : List AuthArrival}
    (hclock : ClockRuns arrivals) :
    ∀ served ∈ serveAll config .empty arrivals,
      CapKept config.policy served.after ∧
        (served.Refused → config.policy.otpMaxPerHour ≤
          createdWithinHour served.before served.arrival.request.phoneNumber
            ((served.arrival.turns 0).now - seconds 3600)) := by
  refine cap_of_run hclock ?_ ?_
  · intro phoneNumber start
    exact Nat.zero_le _
  · intro arrival _ phoneNumber time htime
    cases htime

end Run

/-- The last of six requests at one time, with a cap of five. -/
theorem six_requests_in_an_hour :
    ∃ served, (serveAll defaultConfig .empty
        (List.replicate 6 (arrivalAt 0 (.otpRequest "+15550005555"))))[5]? = some served ∧
      CapKept defaultConfig.policy served.after ∧
        (served.Refused → defaultConfig.policy.otpMaxPerHour ≤
          createdWithinHour served.before served.arrival.request.phoneNumber
            ((served.arrival.turns 0).now - seconds 3600)) := by
  have hclock : ClockRuns (List.replicate 6 (arrivalAt 0 (.otpRequest "+15550005555"))) := by
    refine ⟨?_, ?_⟩
    · intro arrival harrival turn later _
      rw [List.eq_of_mem_replicate harrival]
      exact Int.le_refl 0
    · rw [List.pairwise_replicate]
      exact Or.inr fun _ _ => Int.le_refl 0
  obtain ⟨served, hserved⟩ : ∃ served, (serveAll defaultConfig .empty
      (List.replicate 6 (arrivalAt 0 (.otpRequest "+15550005555"))))[5]? = some served := ⟨_, rfl⟩
  have hcap := hourly_cap_slides defaultConfig hclock served (List.mem_of_getElem? hserved)
  exact ⟨served, hserved, hcap⟩

end StockMonitoring.Api
