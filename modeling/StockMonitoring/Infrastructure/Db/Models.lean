import StockMonitoring.Foundation.Table
import StockMonitoring.Domain.Entities

set_option autoImplicit false

/-!
# Infrastructure: the database

The row types of `app/infrastructure/db/models.py` and the tables the modelled
code reads or writes.  A row has its primary key; enumeration columns hold the
enumeration, which every writer of the column stores through `.value`.
-/

namespace StockMonitoring.Infrastructure.Db

open StockMonitoring.Foundation StockMonitoring.Domain

/-- User account model. -/
structure UserModel where
  id : Nat
  phoneNumber : String
  email : Option String
  createdAt : Datetime
  deriving DecidableEq

/-- OTP challenge for phone authentication. -/
structure OtpChallengeModel where
  id : Nat
  phoneNumber : String
  codeHash : String
  expiresAt : Datetime
  createdAt : Datetime
  consumed : Bool
  attemptCount : Nat
  deriving DecidableEq

/-- Products that users watch. -/
structure ProductModel where
  id : Nat
  userId : Nat
  name : String
  keyword : String
  canonicalImageUrl : Option String
  deriving DecidableEq

/-- Cross-user scrape targets. -/
structure WatchTargetModel where
  id : Nat
  retailerSlug : String
  city : String
  pincode : String
  keyword : String
  intervalSeconds : Int
  lastCheckedAt : Option Datetime
  deriving DecidableEq

/-- User watches tied to products and locations. -/
structure WatchModel where
  id : Nat
  userId : Nat
  productId : Nat
  watchTargetId : Nat
  intervalSeconds : Int
  isActive : Bool
  deriving DecidableEq

/-- Snapshot of product availability at a location. -/
structure SnapshotModel where
  id : Nat
  watchTargetId : Nat
  timestamp : Datetime
  availability : Availability
  price : Option Rat
  mrp : Option Rat
  discountPct : Option Rat
  etaMinutes : Option Int
  storeName : Option String
  imageUrl : Option String
  quantityLabel : Option String
  variants : List String
  productUrl : Option String
  deriving DecidableEq

/-- Event detected when a snapshot differs from the previous one. -/
structure DetectionEventModel where
  id : Nat
  watchTargetId : Nat
  snapshotId : Nat
  previousSnapshotId : Option Nat
  eventType : EventType
  createdAt : Datetime
  deriving DecidableEq

/-- A user's notification channel. -/
structure NotificationChannelModel where
  id : Nat
  userId : Nat
  type : NotificationChannelType
  configJson : List (String × String)
  isVerified : Bool
  deriving DecidableEq

/-- Log of sent notifications. -/
structure NotificationLogModel where
  id : Nat
  userId : Nat
  detectionEventId : Nat
  channelId : Nat
  status : String
  sentAt : Datetime
  dedupKey : String
  deriving DecidableEq

/-- User-specific settings, stored as key/value rows; a JSON value is its text. -/
structure SettingsModel where
  id : Nat
  userId : Option Nat
  key : String
  valueJson : String
  deriving DecidableEq

instance : Keyed UserModel := ⟨UserModel.id⟩
instance : Keyed OtpChallengeModel := ⟨OtpChallengeModel.id⟩
instance : Keyed ProductModel := ⟨ProductModel.id⟩
instance : Keyed WatchTargetModel := ⟨WatchTargetModel.id⟩
instance : Keyed WatchModel := ⟨WatchModel.id⟩
instance : Keyed SnapshotModel := ⟨SnapshotModel.id⟩
instance : Keyed DetectionEventModel := ⟨DetectionEventModel.id⟩
instance : Keyed NotificationChannelModel := ⟨NotificationChannelModel.id⟩
instance : Keyed NotificationLogModel := ⟨NotificationLogModel.id⟩
instance : Keyed SettingsModel := ⟨SettingsModel.id⟩

/-- The tables. -/
structure Database where
  users : Table UserModel
  otpChallenges : Table OtpChallengeModel
  watchTargets : Table WatchTargetModel
  watches : Table WatchModel
  snapshots : Table SnapshotModel
  detectionEvents : Table DetectionEventModel
  notificationChannels : Table NotificationChannelModel
  notificationLogs : Table NotificationLogModel
  products : Table ProductModel
  settings : Table SettingsModel

/-- The schema without rows. -/
def Database.empty : Database :=
  ⟨.empty, .empty, .empty, .empty, .empty, .empty, .empty, .empty, .empty, .empty⟩

end StockMonitoring.Infrastructure.Db
