import StockMonitoring.Api.AuthTrace
import StockMonitoring.Foundation.Lists
import Mathlib.Data.List.Induction

set_option autoImplicit false

/-!
# Api: guessing a one-time code

`verify_otp` counts a wrong code on the challenge and then raises, so the session of
the request is discarded and the count with it: in every committed database the
count of every challenge is zero (`serve_uncounted`).  The bound on wrong codes that
`otp_max_attempts` stands for holds exactly in the runs in which it is never put to
the test (`bruteForceBounded_iff`).
-/

namespace StockMonitoring.Api

open StockMonitoring.Foundation StockMonitoring.Domain StockMonitoring.Application
  StockMonitoring.Infrastructure.Db

/-! ## The bound on wrong codes and its condition -/

/-- The request compared a wrong code with the hash of challenge `id`. -/
def AuthServed.missed (id : Nat) (served : AuthServed) : Bool :=
  served.resolved == some id && served.compared == some false

/-- In the requests served in a run no challenge is compared with more wrong codes than the
policy allows, and once it was, every later code for it is refused without a comparison. -/
def BruteForceBounded (policy : AuthPolicy) (served : List AuthServed) : Prop :=
  ∀ id, served.countP (AuthServed.missed id) ≤ policy.otpMaxAttempts ∧
    ∀ earlier request later, served = earlier ++ request :: later →
      policy.otpMaxAttempts ≤ earlier.countP (AuthServed.missed id) →
      request.resolved = some id →
      (∃ message, request.result = .error (.invalidOtp message)) ∧ request.compared = none

/-- The challenge the request finds, when it has neither been used nor expired. -/
def openTarget (config : AuthConfig) (db : Database) (arrival : AuthArrival) :
    Option OtpChallenge :=
  (target config db arrival).filter fun challenge =>
    !(challenge.consumed || decide (challenge.expiresAt < (arrival.turns 1).now))

/-- Whether the code of the request is the challenge's. -/
def codeIsRight (arrival : AuthArrival) (challenge : OtpChallenge) : Bool :=
  match arrival.request with
  | .otpVerify _ code => Core.verifyOtpCode code challenge.codeHash
  | .otpRequest _ => false

/-- The request sends a wrong code for challenge `id`, which is open. -/
def guessesWrong (config : AuthConfig) (id : Nat) (served : AuthServed) : Bool :=
  match openTarget config served.before served.arrival with
  | some challenge => challenge.id == some id && !codeIsRight served.arrival challenge
  | none => false

/-- No request resolves to an open challenge for which as many wrong codes as the
policy allows were sent before. -/
def Sparing (config : AuthConfig) (served : List AuthServed) : Prop :=
  ∀ earlier request later, served = earlier ++ request :: later →
    ∀ challenge, openTarget config request.before request.arrival = some challenge →
      ∀ id, challenge.id = some id →
        earlier.countP (guessesWrong config id) < config.policy.otpMaxAttempts

/-! ## The committed counts -/

/-- No challenge has a wrong code counted. -/
def Uncounted (db : Database) : Prop :=
  ∀ row ∈ db.otpChallenges.rows, row.attemptCount = 0

/-- A handler that has counted a wrong code does not return. -/
def countingProtocol (α : Type) : Protocol authPort Raised α Bool where
  pre _ _ := True
  answers _ _ _ := True
  next op _ counted :=
    match op with
    | .incrementAttempt _ => true
    | _ => counted
  post result counted :=
    match result with
    | .ok _ => counted = false
    | .error _ => True

theorem counting_of_avoids {α : Type} {program : Auth α}
    (havoids : program.Obeys (avoiding guards α) ()) :
    program.Obeys (countingProtocol α) false := by
  refine Co.obeys_of_obeys (fun _ counted => counted = false) (fun _ _ _ _ _ => trivial)
    (fun _ _ _ _ _ _ => trivial) ?_ ?_ rfl havoids
  · intro op reply _ counted hcounted hop
    cases op <;> first | exact hcounted | cases hop
  · intro result _ counted hcounted _
    cases result with
    | ok value => exact hcounted
    | error error => trivial

theorem counting_askAuth {α : Type} {op : AuthOp} {rest : op.Answer → Auth α}
    (hop : ∀ id, op ≠ .incrementAttempt id)
    (hrest : ∀ answer, (rest answer).Obeys (countingProtocol α) false) :
    (askAuth op >>= rest).Obeys (countingProtocol α) false := by
  refine Co.obeys_perform trivial ?_ fun _ _ => trivial
  intro answer _
  have hnext : (countingProtocol α).next op (.ok answer) false = false := by
    cases op with
    | incrementAttempt id => exact absurd rfl (hop id)
    | _ => rfl
  rw [hnext]
  exact hrest answer

theorem handle_counting (policy : AuthPolicy) (request : AuthRequest) :
    (handle policy request).Obeys (countingProtocol _) false := by
  cases request with
  | otpRequest phoneNumber => exact counting_of_avoids (handle_otpRequest_avoids policy phoneNumber)
  | otpVerify phoneNumber code =>
      change (verifyOtp policy phoneNumber code >>= fun tokens => pure (some tokens)).Obeys _ _
      unfold verifyOtp
      simp only [bind_assoc]
      refine counting_askAuth (fun _ h => by cases h) fun latest => ?_
      refine counting_askAuth (fun _ h => by cases h) fun now => ?_
      cases latest with
      | none => trivial
      | some challenge =>
          by_cases hspent : isSpent policy challenge now = true
          · rw [verifyChallenge_of_spent hspent]
            trivial
          · cases hid : challenge.id with
            | none =>
                simp only [verifyChallenge, hspent, hid]
                trivial
            | some id =>
                rw [verifyChallenge_of_not_spent hspent hid, bind_assoc]
                refine counting_askAuth (fun _ h => by cases h) fun isRight => ?_
                cases isRight with
                | true =>
                    exact counting_of_avoids
                      (acceptOtp_avoids policy phoneNumber id fun _ => trivial)
                | false =>
                    refine ⟨trivial, ?_⟩
                    intro reply _
                    cases reply <;> trivial

/-- Every call but the counting one keeps the counts at zero. -/
theorem uncounted_authWork {config : AuthConfig} {turn : AuthTurn} {op : AuthOp} {db : Database}
    (hop : ∀ id, op ≠ .incrementAttempt id) (hdb : Uncounted db) :
    Uncounted (authWork config turn op db).2 := by
  cases op with
  | incrementAttempt id => exact absurd rfl (hop id)
  | createChallenge phoneNumber codeHash expiresAt createdAt =>
      intro row hrow
      rcases List.mem_append.mp hrow with hold | hnew
      · exact hdb row hold
      · rw [List.mem_singleton.mp hnew]
  | markConsumed id =>
      simp only [authWork, SqlAlchemyOtpChallengeRepository.markConsumed]
      cases hfind : db.otpChallenges.find? id with
      | none =>
          rw [updateOne_of_none hfind]
          exact hdb
      | some found =>
          rw [updateOne_of_some hfind]
          intro row hrow
          obtain ⟨old, hold, rfl⟩ := List.mem_map.mp hrow
          split <;> exact hdb old hold
  | getOrCreateByPhone phoneNumber =>
      simp only [authWork, SqlAlchemyUserRepository.getOrCreateByPhone]
      split <;> exact hdb
  | _ => exact hdb

/-- No committed database has a wrong code counted. -/
theorem serve_uncounted (config : AuthConfig) (db : Database) (arrival : AuthArrival)
    (hdb : Uncounted db) : Uncounted (serve config db arrival).after := by
  let handler := (authEffects config).scripted arrival.turns
  have hcall : ∀ op counted (state : Nat × Database), (counted = false → Uncounted state.2) →
      True → True ∧ ((countingProtocol (Option TokenPair)).next op (handler op state).1 counted =
        false → Uncounted (handler op state).2.2) := by
    intro op counted state hstate _
    refine ⟨trivial, ?_⟩
    intro hnext
    have hop : ∀ id, op ≠ .incrementAttempt id := by
      rintro id rfl
      cases hnext
    have hcounted : counted = false := by
      cases op <;> first | exact hnext | cases hnext
    have hwork : Uncounted (authWork config (arrival.turns state.1) op state.2).2 :=
      uncounted_authWork hop (hstate hcounted)
    simp only [handler, Effects.scripted, authEffects, authRespond]
    split
    · split
      · exact hstate hcounted
      · exact hwork
    · exact hwork
  have hstart : false = false → Uncounted ((0, db) : Nat × Database).2 := fun _ => hdb
  obtain ⟨counted, hpost, hview⟩ := Co.exec_obeys hcall
    (handle_counting config.policy arrival.request) hstart
  unfold serve afterSession
  simp only
  split
  · rename_i value hresult
    have hreturned : counted = false := by
      rw [hresult] at hpost
      exact hpost
    exact hview hreturned
  · exact hdb

/-! ## The bound -/

section Bound

variable {config : AuthConfig} {db : Database} {arrival : AuthArrival} {id : Nat}

/-- With nothing counted and a positive maximum, `verify_otp` turns away just the
challenges that are not open. -/
theorem openTarget_eq (hdb : Uncounted db) (hmax : config.policy.otpMaxAttempts ≠ 0) :
    openTarget config db arrival = (target config db arrival).filter fun challenge =>
      !isSpent config.policy challenge (arrival.turns 1).now := by
  unfold openTarget
  cases htarget : target config db arrival with
  | none => rfl
  | some challenge =>
      have hattempts : challenge.attemptCount = 0 := by
        obtain ⟨request, turns⟩ := arrival
        cases request with
        | otpRequest phoneNumber => cases htarget
        | otpVerify phoneNumber code =>
            unfold target at htarget
            split at htarget
            · obtain ⟨row, hrow, rfl⟩ := row_of_getLatest htarget
              exact hdb row hrow
            · cases htarget
      have hspent : isSpent config.policy challenge (arrival.turns 1).now =
          (challenge.consumed || decide (challenge.expiresAt < (arrival.turns 1).now)) := by
        have hbelow : ¬ config.policy.otpMaxAttempts ≤ challenge.attemptCount := by omega
        simp [isSpent, hbelow]
      rw [Option.filter_some, Option.filter_some, hspent]

/-- The request that shows a comparison is one for an open challenge. -/
theorem compared_eq (hdb : Uncounted db) (hmax : config.policy.otpMaxAttempts ≠ 0) :
    (serve config db arrival).compared =
      (openTarget config db arrival).map (codeIsRight arrival) := by
  obtain ⟨request, turns⟩ := arrival
  cases request with
  | otpRequest phoneNumber =>
      obtain ⟨_, hcompared, htarget⟩ := serve_otpRequest config db
        ⟨.otpRequest phoneNumber, turns⟩ rfl
      rw [hcompared]
      unfold openTarget
      rw [htarget]
      rfl
  | otpVerify phoneNumber code =>
      obtain ⟨_, hcompared, _⟩ := serve_otpVerify config db ⟨.otpVerify phoneNumber code, turns⟩ rfl
      rw [hcompared, openTarget_eq hdb hmax]
      rfl

/-- What a request has shown is what it asked for. -/
theorem missed_eq_guessesWrong (hdb : Uncounted db) (hmax : config.policy.otpMaxAttempts ≠ 0)
    (id : Nat) :
    (serve config db arrival).missed id = guessesWrong config id (serve config db arrival) := by
  have hcompared : (serve config db arrival).compared =
      (openTarget config db arrival).map (codeIsRight arrival) := compared_eq hdb hmax
  have hresolved := resolved_eq config db arrival
  unfold AuthServed.missed
  rw [hcompared, hresolved]
  change _ = match openTarget config db arrival with
    | some challenge => challenge.id == some id && !codeIsRight arrival challenge
    | none => false
  cases hopen : openTarget config db arrival with
  | none => simp
  | some challenge =>
      have htarget : target config db arrival = some challenge :=
        (Option.filter_eq_some_iff.mp hopen).1
      rw [htarget]
      cases codeIsRight arrival challenge <;> simp

end Bound

section Run

variable {config : AuthConfig} {served : List AuthServed}

/-- A run of served requests that found no count. -/
def FoundUncounted (config : AuthConfig) (served : List AuthServed) : Prop :=
  ∀ request ∈ served, request = serve config request.before request.arrival ∧
    Uncounted request.before

theorem countP_missed (hserved : FoundUncounted config served)
    (hmax : config.policy.otpMaxAttempts ≠ 0) (id : Nat) :
    served.countP (AuthServed.missed id) = served.countP (guessesWrong config id) := by
  apply List.countP_congr
  intro request hrequest
  obtain ⟨hserve, hdb⟩ := hserved request hrequest
  have hsame : (serve config request.before request.arrival).missed id =
      guessesWrong config id (serve config request.before request.arrival) :=
    missed_eq_guessesWrong hdb hmax id
  rw [← hserve] at hsame
  rw [hsame]

/-- A run in which the policy allows no wrong code compares none. -/
theorem bounded_of_no_attempts (hserved : FoundUncounted config served)
    (hmax : config.policy.otpMaxAttempts = 0) : BruteForceBounded config.policy served := by
  have hnone : ∀ request ∈ served, ∀ id, request.resolved = some id →
      (∃ message, request.result = .error (.invalidOtp message)) ∧ request.compared = none := by
    intro request hrequest id hresolved
    obtain ⟨hserve, _⟩ := hserved request hrequest
    rw [hserve, resolved_eq] at hresolved
    obtain ⟨challenge, htarget, _⟩ := Option.bind_eq_some_iff.mp hresolved
    have hspent : isSpent config.policy challenge (request.arrival.turns 1).now = true := by
      simp [isSpent, hmax]
    have hturned := invalidOtp_of_spent htarget hspent
    rw [← hserve] at hturned
    exact hturned
  intro id
  refine ⟨?_, ?_⟩
  · have hcount : served.countP (AuthServed.missed id) = 0 := by
      apply List.countP_eq_zero.mpr
      intro request hrequest hmissed
      obtain ⟨hresolved, hcompared⟩ := Bool.and_eq_true_iff.mp hmissed
      have hturned := hnone request hrequest id (beq_iff_eq.mp hresolved)
      rw [hturned.2] at hcompared
      cases hcompared
    omega
  · intro earlier request later hsplit _ hresolved
    refine hnone request ?_ id hresolved
    rw [hsplit]
    exact List.mem_append_right _ List.mem_cons_self

/-- A sparing run keeps the bound. -/
theorem bounded_of_sparing (hserved : FoundUncounted config served)
    (hmax : config.policy.otpMaxAttempts ≠ 0) (hsparing : Sparing config served) :
    BruteForceBounded config.policy served := by
  have hearlier : ∀ earlier request later, served = earlier ++ request :: later →
      FoundUncounted config earlier ∧ request = serve config request.before request.arrival ∧
        Uncounted request.before := by
    intro earlier request later hsplit
    refine ⟨fun other hother => hserved other ?_, hserved request ?_⟩
    · rw [hsplit]
      exact List.mem_append_left _ hother
    · rw [hsplit]
      exact List.mem_append_right _ List.mem_cons_self
  intro id
  refine ⟨?_, ?_⟩
  · apply countP_le_of_splits
    intro earlier request later hsplit hmissed
    obtain ⟨hfound, hserve, hdb⟩ := hearlier earlier request later hsplit
    rw [countP_missed hfound hmax]
    rw [hserve, missed_eq_guessesWrong hdb hmax, ← hserve] at hmissed
    unfold guessesWrong at hmissed
    split at hmissed
    · rename_i challenge hopen
      have hid := beq_iff_eq.mp (Bool.and_eq_true_iff.mp hmissed).1
      exact hsparing earlier request later hsplit challenge hopen id hid
    · cases hmissed
  · intro earlier request later hsplit hmany hresolved
    obtain ⟨hfound, hserve, hdb⟩ := hearlier earlier request later hsplit
    rw [countP_missed hfound hmax] at hmany
    rw [hserve, resolved_eq] at hresolved
    obtain ⟨challenge, htarget, hid⟩ := Option.bind_eq_some_iff.mp hresolved
    have hspent : isSpent config.policy challenge (request.arrival.turns 1).now = true := by
      by_contra hnot
      have hopen : openTarget config request.before request.arrival = some challenge := by
        rw [openTarget_eq hdb hmax, htarget, Option.filter_some]
        simp [hnot]
      have hfew := hsparing earlier request later hsplit challenge hopen id hid
      omega
    have hturned := invalidOtp_of_spent htarget hspent
    rw [← hserve] at hturned
    exact hturned

/-- A run that keeps the bound is sparing: the next wrong code would be compared. -/
theorem sparing_of_bounded (hserved : FoundUncounted config served)
    (hmax : config.policy.otpMaxAttempts ≠ 0) (hbounded : BruteForceBounded config.policy served) :
    Sparing config served := by
  intro earlier request later hsplit challenge hopen id hid
  by_contra hmany
  have hfound : FoundUncounted config earlier := by
    intro other hother
    apply hserved other
    rw [hsplit]
    exact List.mem_append_left _ hother
  have hrequest : request ∈ served := by
    rw [hsplit]
    exact List.mem_append_right _ List.mem_cons_self
  obtain ⟨hserve, hdb⟩ := hserved request hrequest
  have htarget : target config request.before request.arrival = some challenge :=
    (Option.filter_eq_some_iff.mp hopen).1
  have hresolved : request.resolved = some id := by
    rw [hserve, resolved_eq, htarget]
    exact hid
  have hcount : config.policy.otpMaxAttempts ≤ earlier.countP (AuthServed.missed id) := by
    rw [countP_missed hfound hmax]
    omega
  have hnone := ((hbounded id).2 earlier request later hsplit hcount hresolved).2
  rw [hserve, compared_eq hdb hmax, hopen] at hnone
  cases hnone

end Run

/-- The bound holds in a run of requests exactly when no request resolves to an open
challenge for which the allowed number of wrong codes was sent before, or when the
policy allows none. -/
theorem bruteForceBounded_iff (config : AuthConfig) (arrivals : List AuthArrival) :
    BruteForceBounded config.policy (serveAll config .empty arrivals) ↔
      config.policy.otpMaxAttempts = 0 ∨ Sparing config (serveAll config .empty arrivals) := by
  have hserved : FoundUncounted config (serveAll config .empty arrivals) :=
    serveAll_invariant (serve_uncounted config) fun _ h => (by cases h)
  by_cases hmax : config.policy.otpMaxAttempts = 0
  · exact ⟨fun _ => Or.inl hmax, fun _ => bounded_of_no_attempts hserved hmax⟩
  · constructor
    · intro hbounded
      exact Or.inr (sparing_of_bounded hserved hmax hbounded)
    · rintro (hzero | hsparing)
      · exact absurd hzero hmax
      · exact bounded_of_sparing hserved hmax hsparing

/-- The policy `get_auth_service` builds the service with. -/
def defaultConfig : AuthConfig :=
  ⟨⟨"change-me", "HS256", 15, 30, 300, 5, 5⟩, fun key => key, fun payload _ _ => payload.sub⟩

/-- A request all of whose calls return at `now`. -/
def arrivalAt (now : Datetime) (request : AuthRequest) : AuthArrival :=
  ⟨request, fun _ => ⟨now, 123456, none⟩⟩

/-- Six wrong codes are compared with one challenge. -/
theorem six_wrong_codes_are_compared :
    ¬ BruteForceBounded defaultConfig.policy (serveAll defaultConfig .empty
      (arrivalAt 0 (.otpRequest "+15550001111") ::
        List.replicate 6 (arrivalAt 1 (.otpVerify "+15550001111" "000000")))) := by
  intro hbounded
  have hcount := (hbounded 1).1
  revert hcount
  decide +kernel

end StockMonitoring.Api
