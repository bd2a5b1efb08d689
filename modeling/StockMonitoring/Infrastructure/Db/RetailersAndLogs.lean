import StockMonitoring.Foundation.Ordering
import StockMonitoring.Domain.Entities

set_option autoImplicit false

/-!
# Infrastructure: retailers and system logs

The two tables of `app/infrastructure/db/models.py` that no other table refers to, with
their repositories.
-/

namespace StockMonitoring.Infrastructure.Db

open StockMonitoring.Foundation StockMonitoring.Domain

/-! ## Rows and entities -/

/-- Supported retailer configurations. -/
structure RetailerModel where
  id : Nat
  slug : String
  name : String
  isActive : Bool
  deriving DecidableEq

/-- System-level log entry; `context` is its JSON object. -/
structure SystemLogModel where
  id : Nat
  level : String
  message : String
  context : List (String × String)
  createdAt : Datetime
  deriving DecidableEq

instance : Keyed RetailerModel := ⟨RetailerModel.id⟩
instance : Keyed SystemLogModel := ⟨SystemLogModel.id⟩

/-- The retailers, with their unique column. -/
structure Retailers extends Table RetailerModel where
  slugs_nodup : (rows.map RetailerModel.slug).Nodup

/-- A supported retailer configuration. -/
structure Retailer where
  id : Option Nat
  slug : String
  name : String
  isActive : Bool
  deriving DecidableEq

/-- A system-level log entry (e.g. an unhandled request error). -/
structure SystemLog where
  id : Option Nat
  level : String
  message : String
  context : List (String × String)
  createdAt : Datetime
  deriving DecidableEq

/-! ## Repositories -/

/-- `_to_retailer`. -/
def toRetailer (model : RetailerModel) : Retailer :=
  ⟨some model.id, model.slug, model.name, model.isActive⟩

/-- `list_all`. -/
def SqlAlchemyRetailerRepository.listAll (retailers : Retailers) : List Retailer :=
  retailers.rows.map toRetailer

/-- The entity of a log row. -/
def toSystemLog (model : SystemLogModel) : SystemLog :=
  ⟨some model.id, model.level, model.message, model.context, model.createdAt⟩

namespace SqlAlchemySystemLogRepository

/-- `create`. -/
def create (logs : Table SystemLogModel) (level message : String)
    (context : List (String × String)) (createdAt : Datetime) :
    SystemLog × Table SystemLogModel :=
  (toSystemLog ⟨logs.nextId, level, message, context, createdAt⟩,
    logs.insert fun id => ⟨id, level, message, context, createdAt⟩)

/-- The rows `list_recent` selects: newest `created_at` first, at most `limit`. -/
def recent (tie : Nat → Nat) (logs : Table SystemLogModel) (limit : Nat) : List SystemLogModel :=
  (orderDesc tie SystemLogModel.createdAt logs.rows).take limit

/-- `list_recent`. -/
def listRecent (tie : Nat → Nat) (logs : Table SystemLogModel) (limit : Nat) : List SystemLog :=
  (recent tie logs limit).map toSystemLog

end SqlAlchemySystemLogRepository

end StockMonitoring.Infrastructure.Db
