import StockMonitoring.Application.AuthService
import Mathlib.Data.List.DropRight
import Std.Data.String.ToInt

set_option autoImplicit false

/-!
# Application: tokens

The token half of `app/application/auth_service.py`: `verify_access_token` and `refresh`.
They are not coroutines, so what they do is a function of the clock readings they make.
`jwt.decode` is a parameter; what is relied on of it is `JwtLaw`.
-/

namespace StockMonitoring.Application

open StockMonitoring.Foundation StockMonitoring.Domain

/-! ## Decoding -/

/-- The claims the service reads off a decoded token. -/
structure DecodedToken where
  sub : Option String
  type : Option String
  deriving DecidableEq

/-- The service with both directions of its token library. -/
structure TokenConfig extends AuthConfig where
  /-- `jwt.decode`, with what the clock says; or the text of the `PyJWTError` -/
  jwtDecode : String → String → String → Datetime → Except String DecodedToken

/-- What decodes under the secret it was encoded with has the claims of its payload and has
not expired. -/
def JwtLaw (config : TokenConfig) : Prop :=
  ∀ payload secret algorithm now decoded,
    config.jwtDecode (config.jwtEncode payload secret algorithm) secret algorithm now =
        .ok decoded →
      decoded.sub = some payload.sub ∧ decoded.type = some payload.type ∧ now ≤ payload.exp

/-- ASCII white space. -/
def isSpace (c : Char) : Bool :=
  (decide (9 ≤ c.toNat) && decide (c.toNat ≤ 13)) ||
    (decide (28 ≤ c.toNat) && decide (c.toNat ≤ 32))

/-- The characters of a text without the white space around it. -/
def stripped (text : String) : List Char :=
  (text.toList.dropWhile isSpace).rdropWhile isSpace

/-- `int` of a text: a sign and ASCII digits, single underscores between them. -/
def intOf (text : String) : Option Int :=
  match stripped text with
  | '+' :: digits => (String.ofList digits).toNat?.map Int.ofNat
  | characters => (String.ofList characters).toInt?

theorem stripped_of_no_space {text : String} (hnone : ∀ c ∈ text.toList, isSpace c = false) :
    stripped text = text.toList := by
  have hleft : text.toList.dropWhile isSpace = text.toList := by
    rw [List.dropWhile_eq_self_iff]
    intro hpos
    rw [hnone _ (List.getElem_mem hpos)]
    exact Bool.false_ne_true
  unfold stripped
  rw [hleft, List.rdropWhile_eq_self_iff]
  intro hne
  rw [hnone _ (List.getLast_mem hne)]
  exact Bool.false_ne_true

/-- A digit is a character from 48 to 57. -/
theorem toNat_of_isDigit {c : Char} (hdigit : c.isDigit = true) : 48 ≤ c.toNat ∧ c.toNat ≤ 57 := by
  unfold Char.isDigit at hdigit
  rw [Bool.and_eq_true, decide_eq_true_eq, decide_eq_true_eq] at hdigit
  exact hdigit

/-- `int(str(n))` is `n`. -/
theorem intOf_repr (n : Nat) : intOf n.repr = some (n : Int) := by
  have hdigits : ∀ c ∈ n.repr.toList, 48 ≤ c.toNat ∧ c.toNat ≤ 57 := by
    intro c hc
    rw [Nat.toList_repr] at hc
    exact toNat_of_isDigit (Nat.isDigit_of_mem_toDigits (by decide) (by decide) hc)
  have hstripped : stripped n.repr = n.repr.toList := by
    refine stripped_of_no_space fun c hc => ?_
    obtain ⟨hlow, _⟩ := hdigits c hc
    unfold isSpace
    simp only [Bool.or_eq_false_iff, Bool.and_eq_false_iff, decide_eq_false_iff_not, not_le]
    omega
  unfold intOf
  rw [hstripped]
  split
  · rename_i digits hplus
    obtain ⟨hlow, _⟩ := hdigits '+' (hplus ▸ List.mem_cons_self)
    exact absurd hlow (by decide)
  · rw [String.ofList_toList]
    exact Nat.toInt?_repr n

/-! ## The service -/

/-- A token that has been issued, with what it says. -/
structure Issue where
  payload : TokenPayload
  token : String

/-- `_issue_token` at a clock reading. -/
def issueAt (config : AuthConfig) (userId : Int) (expiresDelta : Timedelta) (tokenType : String)
    (now : Datetime) : Issue :=
  let payload : TokenPayload := ⟨toString userId, tokenType, now, now + expiresDelta⟩
  ⟨payload, config.jwtEncode payload config.policy.jwtSecret config.policy.jwtAlgorithm⟩

/-- The access token of a pair. -/
def accessIssue (config : AuthConfig) (userId : Int) (now : Datetime) : Issue :=
  issueAt config userId (seconds (config.policy.accessTokenExpireMinutes * 60)) "access" now

/-- The refresh token of a pair. -/
def refreshIssue (config : AuthConfig) (userId : Int) (now : Datetime) : Issue :=
  issueAt config userId (seconds (config.policy.refreshTokenExpireDays * 86400)) "refresh" now

/-- `_verify_token`. -/
def verifyToken (config : TokenConfig) (token expectedType : String) (now : Datetime) :
    Except Raised Int :=
  match config.jwtDecode token config.policy.jwtSecret config.policy.jwtAlgorithm now with
  | .error message => .error (.invalidToken message)
  | .ok payload =>
      if payload.type ≠ some expectedType then
        .error (.invalidToken s!"Expected a {expectedType} token")
      else
        match payload.sub with
        | none => .error (.keyError "sub")
        | some sub =>
            match intOf sub with
            | none => .error (.valueError s!"invalid literal for int() with base 10: '{sub}'")
            | some userId => .ok userId

/-- `verify_access_token`. -/
def verifyAccessToken (config : TokenConfig) (token : String) (now : Datetime) :
    Except Raised Int :=
  verifyToken config token "access" now

/-- The tokens that `refresh` issues, access token first. -/
def refreshIssues (config : TokenConfig) (refreshToken : String)
    (now accessNow refreshNow : Datetime) :
    Except Raised (Issue × Issue) := do
  let userId ← verifyToken config refreshToken "refresh" now
  pure (accessIssue config.toAuthConfig userId accessNow,
    refreshIssue config.toAuthConfig userId refreshNow)

/-- `refresh`. -/
def refresh (config : TokenConfig) (refreshToken : String) (now accessNow refreshNow : Datetime) :
    Except Raised TokenPair :=
  (refreshIssues config refreshToken now accessNow refreshNow).map fun issues =>
    ⟨issues.1.token, issues.2.token⟩

section Verify

variable {config : TokenConfig} {token expectedType : String} {now : Datetime} {userId : Int}

/-- What a token says that the service accepts. -/
theorem verifyToken_eq_ok_iff :
    verifyToken config token expectedType now = .ok userId ↔
      ∃ sub, config.jwtDecode token config.policy.jwtSecret config.policy.jwtAlgorithm now =
        .ok ⟨some sub, some expectedType⟩ ∧ intOf sub = some userId := by
  unfold verifyToken
  constructor
  · intro hverify
    split at hverify
    · cases hverify
    · rename_i payload hdecode
      obtain ⟨sub, type⟩ := payload
      split at hverify
      · cases hverify
      · rename_i htype
        obtain rfl := not_not.mp htype
        cases sub with
        | none => cases hverify
        | some sub =>
            cases hint : intOf sub with
            | none =>
                simp only [hint] at hverify
                cases hverify
            | some parsed =>
                simp only [hint] at hverify
                cases hverify
                exact ⟨sub, hdecode, hint⟩
  · rintro ⟨sub, hdecode, hint⟩
    simp only [hdecode, ne_eq, not_true_eq_false, if_false, hint]

/-- The service accepts an issued token only as what it was issued, for whom it was issued,
and before it has expired. -/
theorem verifyToken_issued (hjwt : JwtLaw config) {issue : Issue} {n : Nat}
    (htoken : config.jwtEncode issue.payload config.policy.jwtSecret config.policy.jwtAlgorithm =
      token)
    (hsub : issue.payload.sub = toString n)
    (hverify : verifyToken config token expectedType now = .ok userId) :
    userId = n ∧ issue.payload.type = expectedType ∧ now ≤ issue.payload.exp := by
  obtain ⟨sub, hdecode, hint⟩ := verifyToken_eq_ok_iff.mp hverify
  rw [← htoken] at hdecode
  obtain ⟨hsame, htype, hexp⟩ := hjwt _ _ _ _ _ hdecode
  obtain rfl : sub = n.repr := (Option.some.inj hsame).trans hsub
  rw [intOf_repr] at hint
  exact ⟨(Option.some.inj hint).symm, (Option.some.inj htype).symm, hexp⟩

end Verify

end StockMonitoring.Application
