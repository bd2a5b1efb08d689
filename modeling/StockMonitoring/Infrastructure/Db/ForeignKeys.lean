import StockMonitoring.Infrastructure.Db.Models

set_option autoImplicit false

/-!
# Infrastructure: the foreign keys of the schema

The `ForeignKey` columns of `app/infrastructure/db/models.py`.  No column has an
`ondelete` rule, so the engine refuses to delete a row that is still referred to.
-/

namespace StockMonitoring.Infrastructure.Db

open StockMonitoring.Foundation

/-- The table has a row with this key. -/
def Refers {Row : Type} [Keyed Row] (table : Table Row) (id : Nat) : Prop :=
  (table.find? id).isSome = true

instance {Row : Type} [Keyed Row] (table : Table Row) (id : Nat) : Decidable (Refers table id) :=
  inferInstanceAs (Decidable (_ = true))

section Refers

variable {Row : Type} [Keyed Row] {table : Table Row} {id other : Nat}

theorem refers_of_mem {row : Row} (hrow : row ∈ table.rows) : Refers table (Keyed.key row) := by
  unfold Refers
  rw [Table.find?_eq_some_iff.mpr ⟨hrow, rfl⟩]
  rfl

theorem exists_of_refers (hrefers : Refers table id) :
    ∃ row ∈ table.rows, Keyed.key row = id := by
  obtain ⟨row, hfind⟩ := Option.isSome_iff_exists.mp hrefers
  exact ⟨row, Table.find?_eq_some_iff.mp hfind⟩

/-- No row is referred to before it is there. -/
theorem not_refers_nextId : ¬ Refers table table.nextId := by
  unfold Refers
  rw [Table.find?_eq_none_of_le (Nat.le_refl _)]
  exact Bool.false_ne_true

/-- An insertion keeps what there is to refer to. -/
theorem refers_insert {make : Nat → Row} {hkey : ∀ id, Keyed.key (make id) = id}
    (hrefers : Refers table other) : Refers (table.insert make hkey) other := by
  unfold Refers at *
  rw [Table.find?_insert]
  split
  · rfl
  · exact hrefers

/-- The new row is there to refer to. -/
theorem refers_insert_nextId {make : Nat → Row} {hkey : ∀ id, Keyed.key (make id) = id} :
    Refers (table.insert make hkey) table.nextId := by
  unfold Refers
  rw [Table.find?_insert, if_pos rfl]
  rfl

/-- A change keeps what there is to refer to. -/
theorem refers_modify {change : Row → Row} (hkey : ∀ row, Keyed.key (change row) = Keyed.key row)
    (hrefers : Refers table other) : Refers (table.modify id change hkey) other := by
  unfold Refers at *
  rw [Table.find?_modify]
  split
  · rw [Option.isSome_map]
    exact hrefers
  · exact hrefers

/-- A change adds nothing to refer to. -/
theorem refers_of_modify {change : Row → Row}
    (hkey : ∀ row, Keyed.key (change row) = Keyed.key row)
    (hrefers : Refers (table.modify id change hkey) other) : Refers table other := by
  unfold Refers at *
  rw [Table.find?_modify] at hrefers
  split at hrefers
  · rw [Option.isSome_map] at hrefers
    exact hrefers
  · exact hrefers

/-- After a deletion the others are still referred to. -/
theorem refers_delete_iff
    (hrefers : Refers table other) : Refers (table.delete id) other ↔ other ≠ id := by
  unfold Refers at *
  rw [Table.find?_delete]
  by_cases hsame : other = id
  · simp [hsame]
  · simp [hsame, hrefers]

/-- A row whose key is free is placed at the end. -/
theorem rows_place_of_free {row : Row} (hfree : ¬ Refers table (Keyed.key row)) :
    (table.place row).rows = table.rows ++ [row] := by
  refine Table.rows_place fun hmem => hfree ?_
  obtain ⟨other, hother, hkey⟩ := List.mem_map.mp hmem
  exact hkey ▸ refers_of_mem hother

/-- A placed row keeps what there is to refer to. -/
theorem refers_place {row : Row} (hrefers : Refers table id) : Refers (table.place row) id := by
  obtain ⟨other, hother, rfl⟩ := exists_of_refers hrefers
  exact refers_of_mem (Table.mem_place hother)

/-- A placed row is the only new one to refer to. -/
theorem refers_of_place {row : Row} (hrefers : Refers (table.place row) id) :
    Refers table id ∨ id = Keyed.key row := by
  obtain ⟨other, hother, rfl⟩ := exists_of_refers hrefers
  by_cases hmem : Keyed.key row ∈ table.rows.map Keyed.key
  · rw [Table.place_of_mem hmem] at hother
    exact Or.inl (refers_of_mem hother)
  · rw [Table.rows_place hmem] at hother
    rcases List.mem_append.mp hother with hold | hnew
    · exact Or.inl (refers_of_mem hold)
    · exact Or.inr (congrArg Keyed.key (List.mem_singleton.mp hnew))

end Refers

/-- A nullable column refers to a row of the table or to none. -/
def RefersIfAny {Row : Type} [Keyed Row] (table : Table Row) : Option Nat → Prop
  | none => True
  | some id => Refers table id

instance {Row : Type} [Keyed Row] (table : Table Row) :
    (id : Option Nat) → Decidable (RefersIfAny table id)
  | none => isTrue trivial
  | some id => inferInstanceAs (Decidable (Refers table id))

/-- Every foreign key refers to an existing row. -/
structure ForeignKeys (db : Database) : Prop where
  productUser : ∀ row ∈ db.products.rows, Refers db.users row.userId
  watchUser : ∀ row ∈ db.watches.rows, Refers db.users row.userId
  watchProduct : ∀ row ∈ db.watches.rows, Refers db.products row.productId
  watchTarget : ∀ row ∈ db.watches.rows, Refers db.watchTargets row.watchTargetId
  snapshotTarget : ∀ row ∈ db.snapshots.rows, Refers db.watchTargets row.watchTargetId
  eventTarget : ∀ row ∈ db.detectionEvents.rows, Refers db.watchTargets row.watchTargetId
  eventSnapshot : ∀ row ∈ db.detectionEvents.rows, Refers db.snapshots row.snapshotId
  eventPrevious : ∀ row ∈ db.detectionEvents.rows, RefersIfAny db.snapshots row.previousSnapshotId
  channelUser : ∀ row ∈ db.notificationChannels.rows, Refers db.users row.userId
  logUser : ∀ row ∈ db.notificationLogs.rows, Refers db.users row.userId
  logEvent : ∀ row ∈ db.notificationLogs.rows, Refers db.detectionEvents row.detectionEventId
  logChannel : ∀ row ∈ db.notificationLogs.rows, Refers db.notificationChannels row.channelId
  settingUser : ∀ row ∈ db.settings.rows, RefersIfAny db.users row.userId

/-- Watch targets may change as long as they stay. -/
theorem ForeignKeys.withTargets {db : Database} {table : Table WatchTargetModel}
    (hkeys : ForeignKeys db) (hstay : ∀ id, Refers db.watchTargets id → Refers table id) :
    ForeignKeys { db with watchTargets := table } :=
  { hkeys with
    watchTarget := fun row hrow => hstay _ (hkeys.watchTarget row hrow)
    snapshotTarget := fun row hrow => hstay _ (hkeys.snapshotTarget row hrow)
    eventTarget := fun row hrow => hstay _ (hkeys.eventTarget row hrow) }

/-- A new watch refers to what is there. -/
theorem ForeignKeys.withWatch {db : Database} {table : Table WatchModel} {row : WatchModel}
    (hkeys : ForeignKeys db) (hrows : ∀ other ∈ table.rows, other ∈ db.watches.rows ∨ other = row)
    (huser : Refers db.users row.userId) (hproduct : Refers db.products row.productId)
    (htarget : Refers db.watchTargets row.watchTargetId) :
    ForeignKeys { db with watches := table } := by
  refine { hkeys with watchUser := ?_, watchProduct := ?_, watchTarget := ?_ } <;>
    intro other hother <;> rcases hrows other hother with hold | rfl
  · exact hkeys.watchUser other hold
  · exact huser
  · exact hkeys.watchProduct other hold
  · exact hproduct
  · exact hkeys.watchTarget other hold
  · exact htarget

instance decidableForeignKeys (db : Database) : Decidable (ForeignKeys db) :=
  decidable_of_iff
    ((∀ row ∈ db.products.rows, Refers db.users row.userId) ∧
      (∀ row ∈ db.watches.rows, Refers db.users row.userId ∧
        Refers db.products row.productId ∧ Refers db.watchTargets row.watchTargetId) ∧
      (∀ row ∈ db.snapshots.rows, Refers db.watchTargets row.watchTargetId) ∧
      (∀ row ∈ db.detectionEvents.rows, Refers db.watchTargets row.watchTargetId ∧
        Refers db.snapshots row.snapshotId ∧ RefersIfAny db.snapshots row.previousSnapshotId) ∧
      (∀ row ∈ db.notificationChannels.rows, Refers db.users row.userId) ∧
      (∀ row ∈ db.notificationLogs.rows, Refers db.users row.userId ∧
        Refers db.detectionEvents row.detectionEventId ∧
        Refers db.notificationChannels row.channelId) ∧
      (∀ row ∈ db.settings.rows, RefersIfAny db.users row.userId))
    ⟨fun ⟨hproducts, hwatches, hsnapshots, hevents, hchannels, hlogs, hsettings⟩ =>
      ⟨hproducts, fun row hrow => (hwatches row hrow).1, fun row hrow => (hwatches row hrow).2.1,
        fun row hrow => (hwatches row hrow).2.2, hsnapshots, fun row hrow => (hevents row hrow).1,
        fun row hrow => (hevents row hrow).2.1, fun row hrow => (hevents row hrow).2.2, hchannels,
        fun row hrow => (hlogs row hrow).1, fun row hrow => (hlogs row hrow).2.1,
        fun row hrow => (hlogs row hrow).2.2, hsettings⟩,
     fun h => ⟨h.productUser,
        fun row hrow => ⟨h.watchUser row hrow, h.watchProduct row hrow, h.watchTarget row hrow⟩,
        h.snapshotTarget,
        fun row hrow => ⟨h.eventTarget row hrow, h.eventSnapshot row hrow,
          h.eventPrevious row hrow⟩,
        h.channelUser,
        fun row hrow => ⟨h.logUser row hrow, h.logEvent row hrow, h.logChannel row hrow⟩,
        h.settingUser⟩⟩

end StockMonitoring.Infrastructure.Db
