import Mathlib.Logic.Function.Basic
import Mathlib.Tactic.TypeStar

set_option autoImplicit false

/-!
# Foundation: columns of timestamps

PostgreSQL's `timestamptz` holds instants, its `timestamp` wall times.  `AT TIME ZONE 'UTC'`
turns each into the other; so does an assignment to a column of the other type, in the time zone
of the session.  Both are counted in microseconds from the same origin, so that an instant and
its wall time in UTC are one number.
-/

namespace StockMonitoring.Foundation

/-- A column: of `timestamptz` or of `timestamp`, with its values; `none` is NULL. -/
structure TimeColumn where
  timezone : Bool
  values : List (Option Int)
  deriving DecidableEq

namespace TimeColumn

/-- `AT TIME ZONE 'UTC'`: the wall times of instants, the instants of wall times. -/
def atTimeZoneUtc (column : TimeColumn) : TimeColumn :=
  ⟨!column.timezone, column.values⟩

/-- An assignment to a column of the type, in a session `offset` ahead of UTC. -/
def assign (offset : Int) (timezone : Bool) (column : TimeColumn) : TimeColumn :=
  if column.timezone = timezone then column
  else if timezone then ⟨true, column.values.map (Option.map (· - offset))⟩
  else ⟨false, column.values.map (Option.map (· + offset))⟩

/-- The instant of a row, where the column holds instants. -/
def instantAt (column : TimeColumn) (index : Nat) : Option Int :=
  if column.timezone then column.values[index]?.join else none

variable {column : TimeColumn} {offset : Int} {index : Nat} {instant : Int}

theorem timezone_of_instantAt (hinstant : column.instantAt index = some instant) :
    column.timezone = true ∧ column.values[index]? = some (some instant) := by
  unfold instantAt at hinstant
  split at hinstant
  · rename_i htimezone
    exact ⟨htimezone, Option.join_eq_some_iff.mp hinstant⟩
  · cases hinstant

/-- Instants that go through UTC wall times come back in the session's time zone. -/
theorem instantAt_assign_utc (hinstant : column.instantAt index = some instant) :
    (column.atTimeZoneUtc.assign offset true).instantAt index = some (instant - offset) := by
  obtain ⟨htimezone, hvalue⟩ := timezone_of_instantAt hinstant
  simp [atTimeZoneUtc, assign, instantAt, htimezone, hvalue]

/-- Instants that become wall times of the session come back as if these were UTC. -/
theorem instantAt_utc_assign (hinstant : column.instantAt index = some instant) :
    (((column.assign offset false).atTimeZoneUtc).assign offset true).instantAt index =
      some (instant + offset) := by
  obtain ⟨htimezone, hvalue⟩ := timezone_of_instantAt hinstant
  simp [atTimeZoneUtc, assign, instantAt, htimezone, hvalue]

end TimeColumn

/-! ## Altering columns -/

/-- The columns of timestamps that there are, by name. -/
abbrev TimeSchema (K : Type) : Type := K → Option TimeColumn

variable {K : Type} [DecidableEq K]

/-- One column is altered; `none` when there is none of that name. -/
def TimeSchema.alter (change : TimeColumn → TimeColumn) (schema : TimeSchema K) (name : K) :
    Option (TimeSchema K) :=
  (schema name).map fun column => Function.update schema name (some (change column))

/-- Columns that are altered one after the other are altered each by itself. -/
theorem TimeSchema.foldlM_alter {change : TimeColumn → TimeColumn} {names : List K}
    (hnodup : names.Nodup) {schema : TimeSchema K}
    (hthere : ∀ name ∈ names, (schema name).isSome = true) :
    names.foldlM (TimeSchema.alter change) schema =
      some fun name => if name ∈ names then (schema name).map change else schema name := by
  induction names generalizing schema with
  | nil => simp
  | cons first names ih =>
      obtain ⟨hfirst, hrest⟩ := List.nodup_cons.mp hnodup
      obtain ⟨column, hcolumn⟩ := Option.isSome_iff_exists.mp (hthere first List.mem_cons_self)
      have hleft : ∀ name ∈ names,
          (Function.update schema first (some (change column)) name).isSome = true := by
        intro name hname
        have hne : name ≠ first := by
          rintro rfl
          exact hfirst hname
        rw [Function.update_of_ne hne]
        exact hthere name (List.mem_cons_of_mem _ hname)
      rw [List.foldlM_cons, TimeSchema.alter, hcolumn, Option.map_some, Option.bind_eq_bind,
        Option.bind_some, ih hrest hleft]
      congr 1
      funext name
      by_cases hsame : name = first
      · rw [hsame, if_neg hfirst, Function.update_self, if_pos List.mem_cons_self, hcolumn,
          Option.map_some]
      · rw [Function.update_of_ne hsame]
        simp [hsame]

end StockMonitoring.Foundation
