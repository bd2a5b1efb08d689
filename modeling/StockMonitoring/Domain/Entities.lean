import Mathlib.Data.Rat.Defs

set_option autoImplicit false

/-!
# Domain: enumerations, entities and exceptions

The types of `app/domain/enums.py`, `app/domain/entities.py` and
`app/application/exceptions.py`.

* A `datetime` is a number of microseconds since the epoch; every datetime the
  application creates is in UTC.
* A `float` (prices, discounts) is the rational number it denotes; what lies beyond
  the range or the precision of a `float` is left out.
* An entity's `id` is `none` until the entity is persisted, as in the source.
-/

namespace StockMonitoring.Domain

/-! ## Time -/

/-- A point in time, in microseconds. -/
abbrev Datetime : Type := Int

/-- A span of time, in microseconds. -/
abbrev Timedelta : Type := Int

/-- `timedelta(seconds=n)`. -/
def seconds (n : Int) : Timedelta := n * 1000000

/-! ## Exceptions -/

/-- What the modelled code raises or lets through. -/
inductive Raised where
  /-- `RateLimitExceededError` -/
  | rateLimitExceeded (message : String)
  /-- `InvalidOtpError` -/
  | invalidOtp (message : String)
  /-- `InvalidTokenError` -/
  | invalidToken (message : String)
  /-- a builtin `ValueError` -/
  | valueError (message : String)
  /-- a builtin `TypeError` -/
  | typeError (message : String)
  /-- a builtin `KeyError` -/
  | keyError (message : String)
  /-- a builtin `OverflowError` -/
  | overflowError (message : String)
  /-- a failed `assert` -/
  | assertionError
  /-- SQLAlchemy: `scalar_one` found no row -/
  | noResultFound
  /-- SQLAlchemy: `scalar_one` or `scalar_one_or_none` found several rows -/
  | multipleResultsFound
  /-- SQLAlchemy: a statement breaks a constraint of the schema -/
  | integrityError
  /-- FastAPI: `HTTPException` -/
  | httpException (statusCode : Nat) (detail : String)
  /-- whatever a browser, a broker, an HTTP client or a database driver raises -/
  | external (message : String)
  deriving DecidableEq, Repr

/-! ## Datetime arithmetic -/

/-- `datetime.min`. -/
def datetimeMin : Datetime := seconds (-62135596800)

/-- `datetime.max`. -/
def datetimeMax : Datetime := seconds 253402300800 - 1

/-- A number of days. -/
def daysOf (n : Int) : Timedelta := seconds (n * 86400)

/-- `timedelta(days=n)`. -/
def timedeltaDays (n : Int) : Except Raised Timedelta :=
  if -999999999 ≤ n ∧ n ≤ 999999999 then .ok (daysOf n)
  else if -2147483648 ≤ n ∧ n ≤ 2147483647 then
    .error (.overflowError s!"days={n}; must have magnitude <= 999999999")
  else .error (.overflowError "Python int too large to convert to C int")

/-- `moment - span`. -/
def datetimeSub (moment : Datetime) (span : Timedelta) : Except Raised Datetime :=
  if datetimeMin ≤ moment - span ∧ moment - span ≤ datetimeMax then .ok (moment - span)
  else .error (.overflowError "date value out of range")

/-- `now - timedelta(days=n)`. -/
def daysBefore (now : Datetime) (n : Int) : Except Raised Datetime := do
  let span ← timedeltaDays n
  datetimeSub now span

/-- Python has a timedelta of `n` days and a datetime that long before `now`. -/
def HasDaysBefore (now : Datetime) (n : Int) : Prop :=
  (-999999999 ≤ n ∧ n ≤ 999999999) ∧
    datetimeMin ≤ now - daysOf n ∧ now - daysOf n ≤ datetimeMax

instance (now : Datetime) (n : Int) : Decidable (HasDaysBefore now n) :=
  inferInstanceAs (Decidable (_ ∧ _))

theorem daysBefore_of_has {now : Datetime} {n : Int} (hhas : HasDaysBefore now n) :
    daysBefore now n = .ok (now - daysOf n) := by
  unfold daysBefore timedeltaDays
  rw [if_pos hhas.1]
  exact if_pos hhas.2

/-- Where there is no such datetime the subtraction raises an `OverflowError`. -/
theorem daysBefore_of_not {now : Datetime} {n : Int} (hnot : ¬ HasDaysBefore now n) :
    ∃ message, daysBefore now n = .error (.overflowError message) := by
  unfold daysBefore timedeltaDays
  by_cases hspan : -999999999 ≤ n ∧ n ≤ 999999999
  · rw [if_pos hspan]
    exact ⟨_, if_neg fun hrange => hnot ⟨hspan, hrange⟩⟩
  · rw [if_neg hspan]
    split
    · exact ⟨_, rfl⟩
    · exact ⟨_, rfl⟩

/-! ## Enumerations -/

/-- Product availability status. -/
inductive Availability where
  | available
  | outOfStock
  | lowStock
  deriving DecidableEq, Repr

/-- `Availability.value`. -/
def Availability.value : Availability → String
  | .available => "available"
  | .outOfStock => "out_of_stock"
  | .lowStock => "low_stock"

/-- Kinds of detection event. -/
inductive EventType where
  | stockAvailable
  | outOfStock
  | lowStock
  | priceChanged
  | newVariant
  | etaChanged
  | storeChanged
  deriving DecidableEq, Repr

/-- `EventType.value`. -/
def EventType.value : EventType → String
  | .stockAvailable => "stock_available"
  | .outOfStock => "out_of_stock"
  | .lowStock => "low_stock"
  | .priceChanged => "price_changed"
  | .newVariant => "new_variant"
  | .etaChanged => "eta_changed"
  | .storeChanged => "store_changed"

theorem EventType.value_injective {left right : EventType} (heq : left.value = right.value) :
    left = right := by
  cases left <;> cases right <;> first | rfl | exact absurd heq (by decide)

/-- Notification delivery channels. -/
inductive NotificationChannelType where
  | telegram
  | discord
  | email
  | push
  deriving DecidableEq, Repr

/-- `NotificationChannelType.value`. -/
def NotificationChannelType.value : NotificationChannelType → String
  | .telegram => "telegram"
  | .discord => "discord"
  | .email => "email"
  | .push => "push"

/-- `NotificationChannelType(value)`, which raises a `ValueError` for other texts. -/
def NotificationChannelType.ofValue (value : String) : Except Raised NotificationChannelType :=
  match [telegram, discord, email, push].find? fun type => type.value == value with
  | some type => .ok type
  | none => .error (.valueError ("'" ++ value ++ "' is not a valid NotificationChannelType"))

/-! ## Entities -/

/-- Geographic location context for monitoring. -/
structure LocationContext where
  city : String
  pincode : String
  deriving DecidableEq, Repr

/-- Result of a single product scrape from a retailer. -/
structure ProviderProductResult where
  retailerSlug : String
  keyword : String
  productName : String
  availability : Availability
  price : Option Rat
  mrp : Option Rat
  discountPct : Option Rat
  etaMinutes : Option Int
  storeName : Option String
  imageUrl : Option String
  quantityLabel : Option String
  variants : List String
  productUrl : Option String
  scrapedAt : Datetime
  deriving DecidableEq

/-- A product that a user is watching. -/
structure Product where
  id : Option Nat
  userId : Nat
  name : String
  keyword : String
  canonicalImageUrl : Option String
  deriving DecidableEq

/-- A product watch target in a specific location. -/
structure WatchTarget where
  id : Option Nat
  retailerSlug : String
  city : String
  pincode : String
  keyword : String
  intervalSeconds : Int
  deriving DecidableEq

/-- A point-in-time snapshot of product availability and price. -/
structure Snapshot where
  id : Option Nat
  watchTargetId : Nat
  timestamp : Datetime
  availability : Availability
  price : Option Rat
  mrp : Option Rat
  discountPct : Option Rat
  etaMinutes : Option Int
  storeName : Option String
  imageUrl : Option String
  quantityLabel : Option String
  variants : List String
  productUrl : Option String
  deriving DecidableEq

/-- A detected change event from watching a product. -/
structure DetectionEvent where
  id : Option Nat
  watchTargetId : Nat
  snapshotId : Nat
  previousSnapshotId : Option Nat
  eventType : EventType
  createdAt : Datetime
  deriving DecidableEq

/-- A user's watch for a product at a location. -/
structure Watch where
  id : Option Nat
  userId : Nat
  productId : Nat
  watchTargetId : Nat
  intervalSeconds : Int
  isActive : Bool
  deriving DecidableEq

/-- A user's notification delivery channel; `config` is its JSON object. -/
structure NotificationChannel where
  id : Option Nat
  userId : Nat
  type : NotificationChannelType
  config : List (String × String)
  isVerified : Bool
  deriving DecidableEq

/-- Log of a sent notification. -/
structure NotificationLog where
  id : Option Nat
  userId : Nat
  detectionEventId : Nat
  channelId : Nat
  status : String
  sentAt : Datetime
  dedupKey : String
  deriving DecidableEq

/-- A registered user identified by phone number. -/
structure User where
  id : Option Nat
  phoneNumber : String
  email : Option String
  createdAt : Datetime
  deriving DecidableEq

/-- A one-time-password challenge issued for phone verification. -/
structure OtpChallenge where
  id : Option Nat
  phoneNumber : String
  codeHash : String
  expiresAt : Datetime
  createdAt : Datetime
  consumed : Bool
  attemptCount : Nat
  deriving DecidableEq

/-- A JWT access/refresh token pair issued after successful authentication. -/
structure TokenPair where
  accessToken : String
  refreshToken : String
  deriving DecidableEq

/-- Context needed by a notification sender to compose a message. -/
structure NotificationContext where
  keyword : String
  retailerSlug : String
  eventType : EventType
  snapshot : Snapshot
  deriving DecidableEq

end StockMonitoring.Domain
