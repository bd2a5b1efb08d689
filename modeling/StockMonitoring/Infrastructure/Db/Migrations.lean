import StockMonitoring.Foundation.TimeColumns
import Mathlib.Data.List.Nodup

set_option autoImplicit false

/-!
# Infrastructure: the migration to aware columns

`alembic/versions/0002_datetime_timezone_aware.py` on the columns that `0001_initial_schema.py`
creates.  Each migration runs in one session; its time zone is a fixed offset, in microseconds
ahead of UTC.
-/

namespace StockMonitoring.Infrastructure.Db

open StockMonitoring.Foundation

/-- A table and one of its columns. -/
abbrev ColumnName : Type := String × String

/-- The `DateTime` columns of revision 0001, with their `timezone`. -/
def createdColumns : List (ColumnName × Bool) :=
  [(("users", "created_at"), true),
    (("otp_challenges", "expires_at"), true),
    (("otp_challenges", "created_at"), true),
    (("watch_targets", "last_checked_at"), true),
    (("snapshots", "timestamp"), true),
    (("detection_events", "created_at"), true),
    (("notification_logs", "sent_at"), true),
    (("system_logs", "created_at"), true)]

/-- `COLUMNS` of revision 0002. -/
def dateTimeColumns : List ColumnName :=
  [("users", "created_at"), ("otp_challenges", "expires_at"), ("otp_challenges", "created_at"),
    ("watch_targets", "last_checked_at"), ("snapshots", "timestamp"),
    ("detection_events", "created_at"), ("notification_logs", "sent_at"),
    ("system_logs", "created_at")]

/-- The schema of revision 0001, with rows in its tables. -/
def createdSchema (stored : ColumnName → List (Option Int)) : TimeSchema ColumnName :=
  fun name => (createdColumns.lookup name).map fun timezone => ⟨timezone, stored name⟩

/-- `ALTER COLUMN … TYPE timestamptz USING … AT TIME ZONE 'UTC'`. -/
def toAware (offset : Int) (column : TimeColumn) : TimeColumn :=
  column.atTimeZoneUtc.assign offset true

/-- `ALTER COLUMN … TYPE timestamp`. -/
def toNaive (offset : Int) (column : TimeColumn) : TimeColumn := column.assign offset false

/-- `upgrade` of revision 0002. -/
def upgrade (offset : Int) (schema : TimeSchema ColumnName) : Option (TimeSchema ColumnName) :=
  dateTimeColumns.foldlM (TimeSchema.alter (toAware offset)) schema

/-- `downgrade` of revision 0002. -/
def downgrade (offset : Int) (schema : TimeSchema ColumnName) : Option (TimeSchema ColumnName) :=
  dateTimeColumns.foldlM (TimeSchema.alter (toNaive offset)) schema

/-- The instant in a row of a column. -/
def instantAt (schema : TimeSchema ColumnName) (name : ColumnName) (index : Nat) : Option Int :=
  (schema name).bind fun column => column.instantAt index

/-- The migration goes through and the row has the instant it had. -/
def KeepsInstant (migration : TimeSchema ColumnName → Option (TimeSchema ColumnName))
    (schema : TimeSchema ColumnName) (name : ColumnName) (index : Nat) : Prop :=
  ∃ after, migration schema = some after ∧ instantAt after name index = instantAt schema name index

/-! ## What the migrations do -/

/-- Every column of the list is there. -/
def HasColumns (schema : TimeSchema ColumnName) : Prop :=
  ∀ name ∈ dateTimeColumns, (schema name).isSome = true

theorem hasColumns_createdSchema (stored : ColumnName → List (Option Int)) :
    HasColumns (createdSchema stored) := by
  have hcreated : ∀ name ∈ dateTimeColumns, (createdColumns.lookup name).isSome = true := by decide
  intro name hname
  rw [createdSchema, Option.isSome_map]
  exact hcreated name hname

theorem nodup_dateTimeColumns : dateTimeColumns.Nodup := by decide

section Alter

variable {schema : TimeSchema ColumnName} {name : ColumnName} {index : Nat} {instant : Int}

/-- Altering all columns alters each. -/
theorem alter_all (hthere : HasColumns schema) (change : TimeColumn → TimeColumn) :
    ∃ after, dateTimeColumns.foldlM (TimeSchema.alter change) schema = some after ∧
      HasColumns after ∧ ∀ name ∈ dateTimeColumns, after name = (schema name).map change := by
  refine ⟨_, TimeSchema.foldlM_alter nodup_dateTimeColumns hthere, ?_, ?_⟩
  · intro name hname
    dsimp only
    rw [if_pos hname, Option.isSome_map]
    exact hthere name hname
  · intro name hname
    exact if_pos hname

theorem exists_column (hinstant : instantAt schema name index = some instant) :
    ∃ column, schema name = some column ∧ column.instantAt index = some instant :=
  Option.bind_eq_some_iff.mp hinstant

/-- The upgrade shifts instants by the offset of the session. -/
theorem instantAt_upgrade (hthere : HasColumns schema) (hname : name ∈ dateTimeColumns)
    (hinstant : instantAt schema name index = some instant) (offset : Int) :
    ∃ after, upgrade offset schema = some after ∧
      instantAt after name index = some (instant - offset) := by
  obtain ⟨after, hafter, _, hchange⟩ := alter_all hthere (toAware offset)
  obtain ⟨column, hcolumn, hvalue⟩ := exists_column hinstant
  refine ⟨after, hafter, ?_⟩
  rw [instantAt, hchange name hname, hcolumn, Option.map_some, Option.bind_some]
  exact TimeColumn.instantAt_assign_utc hvalue

/-- The downgrade loses the offset of the session, which the upgrade does not give back. -/
theorem instantAt_downgrade_upgrade (hthere : HasColumns schema) (hname : name ∈ dateTimeColumns)
    (hinstant : instantAt schema name index = some instant) (offset : Int) :
    ∃ after, ((downgrade offset schema).bind (upgrade offset)) = some after ∧
      instantAt after name index = some (instant + offset) := by
  obtain ⟨down, hdown, hleft, hnaive⟩ := alter_all hthere (toNaive offset)
  obtain ⟨up, hup, _, haware⟩ := alter_all hleft (toAware offset)
  obtain ⟨column, hcolumn, hvalue⟩ := exists_column hinstant
  refine ⟨up, ?_, ?_⟩
  · rw [downgrade, hdown, Option.bind_some]
    exact hup
  · rw [instantAt, haware name hname, hnaive name hname, hcolumn, Option.map_some,
      Option.map_some, Option.bind_some]
    exact TimeColumn.instantAt_utc_assign hvalue

theorem keepsInstant_iff {migration : TimeSchema ColumnName → Option (TimeSchema ColumnName)}
    {moved : Int} (hinstant : instantAt schema name index = some instant)
    (hmigration : ∃ after, migration schema = some after ∧
      instantAt after name index = some moved) :
    KeepsInstant migration schema name index ↔ moved = instant := by
  obtain ⟨after, hafter, hmoved⟩ := hmigration
  constructor
  · rintro ⟨other, hother, hkept⟩
    rw [hafter] at hother
    cases hother
    rw [hmoved, hinstant] at hkept
    exact Option.some.inj hkept
  · intro hsame
    exact ⟨after, hafter, by rw [hmoved, hinstant, hsame]⟩

end Alter

/-- The migrations keep the stored instants exactly in a session on UTC. -/
theorem migration_keeps_instants_iff (offset : Int) (stored : ColumnName → List (Option Int)) :
    ∀ name ∈ dateTimeColumns, ∀ index instant,
      instantAt (createdSchema stored) name index = some instant →
        (KeepsInstant (upgrade offset) (createdSchema stored) name index ↔ offset = 0) ∧
        (KeepsInstant (fun schema => (downgrade offset schema).bind (upgrade offset))
          (createdSchema stored) name index ↔ offset = 0) := by
  intro name hname index instant hinstant
  have hthere := hasColumns_createdSchema stored
  have hup := instantAt_upgrade hthere hname hinstant offset
  have hdown := instantAt_downgrade_upgrade hthere hname hinstant offset
  rw [keepsInstant_iff hinstant hup, keepsInstant_iff hinstant hdown]
  constructor <;> omega

/-- A user who registered on 14 November 2023, at 22:13:20 UTC, and a snapshot of that time. -/
def novemberRows (_ : ColumnName) : List (Option Int) := [some 1700000000000000]

/-- In a session on UTC the snapshot keeps its time. -/
theorem snapshot_keeps_instant :
    KeepsInstant (upgrade 0) (createdSchema novemberRows) ("snapshots", "timestamp") 0 ∧
      KeepsInstant (fun schema => (downgrade 0 schema).bind (upgrade 0))
        (createdSchema novemberRows) ("snapshots", "timestamp") 0 := by
  have hkeeps := migration_keeps_instants_iff 0 novemberRows ("snapshots", "timestamp")
    (by decide) 0 1700000000000000 (by decide)
  exact ⟨hkeeps.1.mpr rfl, hkeeps.2.mpr rfl⟩

/-- In a session on Indian time the upgrade moves the registration five and a half hours back,
and a downgrade with an upgrade moves it as far ahead. -/
theorem registration_moves_in_kolkata :
    (∃ after, upgrade 19800000000 (createdSchema novemberRows) = some after ∧
      instantAt after ("users", "created_at") 0 = some 1699980200000000) ∧
    (∃ after, (downgrade 19800000000 (createdSchema novemberRows)).bind (upgrade 19800000000) =
        some after ∧
      instantAt after ("users", "created_at") 0 = some 1700019800000000) ∧
    ¬KeepsInstant (upgrade 19800000000) (createdSchema novemberRows) ("users", "created_at") 0 := by
  have hthere := hasColumns_createdSchema novemberRows
  have hname : ("users", "created_at") ∈ dateTimeColumns := by decide
  have hinstant : instantAt (createdSchema novemberRows) ("users", "created_at") 0 =
      some 1700000000000000 := by decide
  have hup := instantAt_upgrade hthere hname hinstant 19800000000
  have hdown := instantAt_downgrade_upgrade hthere hname hinstant 19800000000
  refine ⟨hup, hdown, ?_⟩
  rw [keepsInstant_iff hinstant hup]
  decide

end StockMonitoring.Infrastructure.Db
