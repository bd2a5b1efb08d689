import Mathlib.Data.List.MinMax
import Mathlib.Data.List.Nodup

set_option autoImplicit false

/-!
# Foundation: tables with a generated primary key

A table is the list of its rows in insertion order together with the next key
the database will hand out.  That keys are unique and below the next one is
part of the type, so an inserted row is fresh by construction and a lookup by
key has at most one answer.

`newest` is `ORDER BY stamp DESC LIMIT 1`.  SQL leaves the choice among rows
with an equal stamp to the engine; `tie` stands for that choice.
-/

namespace StockMonitoring.Foundation

/-- Rows that carry their primary key. -/
class Keyed (Row : Type) where
  key : Row → Nat

/-- A table with a generated primary key. -/
structure Table (Row : Type) [Keyed Row] where
  rows : List Row
  nextId : Nat
  keys_nodup : (rows.map Keyed.key).Nodup
  keys_lt : ∀ row ∈ rows, Keyed.key row < nextId

namespace Table

variable {Row : Type} [Keyed Row]

/-- The table without rows. -/
def empty : Table Row := ⟨[], 1, List.nodup_nil, by simp⟩

@[simp] theorem rows_empty : (empty : Table Row).rows = [] := rfl

/-! ## Insertion -/

/-- Insert the row `make` builds from the generated key. -/
def insert (table : Table Row) (make : Nat → Row)
    (hkey : ∀ id, Keyed.key (make id) = id := by intro _; rfl) : Table Row where
  rows := table.rows ++ [make table.nextId]
  nextId := table.nextId + 1
  keys_nodup := by
    rw [List.map_append, List.map_singleton, hkey]
    refine List.Nodup.append table.keys_nodup (List.nodup_singleton _) ?_
    intro id hold hnew
    obtain ⟨row, hrow, rfl⟩ := List.mem_map.mp hold
    have hlt := table.keys_lt row hrow
    rw [List.mem_singleton] at hnew
    omega
  keys_lt := by
    intro row hrow
    rcases List.mem_append.mp hrow with hold | hnew
    · exact Nat.lt_succ_of_lt (table.keys_lt row hold)
    · rw [List.mem_singleton.mp hnew, hkey]
      exact Nat.lt_succ_self _

@[simp] theorem rows_insert (table : Table Row) (make : Nat → Row)
    (hkey : ∀ id, Keyed.key (make id) = id) :
    (table.insert make hkey).rows = table.rows ++ [make table.nextId] := rfl

@[simp] theorem nextId_insert (table : Table Row) (make : Nat → Row)
    (hkey : ∀ id, Keyed.key (make id) = id) :
    (table.insert make hkey).nextId = table.nextId + 1 := rfl

/-! ## Insertion under a key that was drawn before -/

/-- Draw a key: no later insertion generates it. -/
def reserve (table : Table Row) (id : Nat) : Table Row where
  rows := table.rows
  nextId := max table.nextId (id + 1)
  keys_nodup := table.keys_nodup
  keys_lt := fun row hrow => Nat.lt_of_lt_of_le (table.keys_lt row hrow) (Nat.le_max_left _ _)

@[simp] theorem rows_reserve (table : Table Row) (id : Nat) :
    (table.reserve id).rows = table.rows := rfl

@[simp] theorem nextId_reserve (table : Table Row) (id : Nat) :
    (table.reserve id).nextId = max table.nextId (id + 1) := rfl

/-- Insert a row under its own key; a row whose key is there already is left out. -/
def place (table : Table Row) (row : Row) : Table Row :=
  if hkey : Keyed.key row ∈ table.rows.map Keyed.key then table
  else
    { rows := table.rows ++ [row]
      nextId := max table.nextId (Keyed.key row + 1)
      keys_nodup := by
        rw [List.map_append, List.map_singleton]
        exact List.Nodup.append table.keys_nodup (List.nodup_singleton _)
          (List.disjoint_singleton.mpr hkey)
      keys_lt := by
        intro other hother
        rcases List.mem_append.mp hother with hold | hnew
        · exact Nat.lt_of_lt_of_le (table.keys_lt other hold) (Nat.le_max_left _ _)
        · rw [List.mem_singleton.mp hnew]
          exact Nat.lt_of_lt_of_le (Nat.lt_succ_self _) (Nat.le_max_right _ _) }

/-- Tables with the same rows and the same next key are one table. -/
theorem eq_of_rows {left right : Table Row} (hrows : left.rows = right.rows)
    (hnext : left.nextId = right.nextId) : left = right := by
  cases left
  cases right
  cases hrows
  cases hnext
  rfl

section Place

variable {table : Table Row} {row : Row}

theorem place_of_mem (hmem : Keyed.key row ∈ table.rows.map Keyed.key) :
    table.place row = table := dif_pos hmem

theorem rows_place (hnew : Keyed.key row ∉ table.rows.map Keyed.key) :
    (table.place row).rows = table.rows ++ [row] := by
  unfold place
  rw [dif_neg hnew]

theorem nextId_place (hnew : Keyed.key row ∉ table.rows.map Keyed.key) :
    (table.place row).nextId = max table.nextId (Keyed.key row + 1) := by
  unfold place
  rw [dif_neg hnew]

/-- A key may be drawn before or after another row is placed. -/
theorem reserve_place (table : Table Row) (row : Row) (id : Nat) :
    (table.place row).reserve id = (table.reserve id).place row := by
  by_cases hmem : Keyed.key row ∈ table.rows.map Keyed.key
  · rw [place_of_mem hmem, place_of_mem (show _ ∈ (table.reserve id).rows.map _ from hmem)]
  · have hmem' : Keyed.key row ∉ (table.reserve id).rows.map Keyed.key := hmem
    refine eq_of_rows ?_ ?_
    · rw [rows_reserve, rows_place hmem, rows_place hmem', rows_reserve]
    · rw [nextId_place hmem', nextId_reserve, nextId_reserve, nextId_place hmem]
      omega

/-- Placing a row under the next key, once it has been drawn, is inserting it. -/
theorem place_reserve_nextId (table : Table Row) {make : Nat → Row}
    (hkey : ∀ id, Keyed.key (make id) = id) :
    (table.reserve table.nextId).place (make table.nextId) = table.insert make hkey := by
  have hfresh : Keyed.key (make table.nextId) ∉
      (table.reserve table.nextId).rows.map Keyed.key := by
    intro hmem
    obtain ⟨row, hrow, hsame⟩ := List.mem_map.mp hmem
    have hlt := table.keys_lt row hrow
    rw [hsame, hkey] at hlt
    exact Nat.lt_irrefl _ hlt
  refine eq_of_rows ?_ ?_
  · rw [rows_place hfresh, rows_reserve, rows_insert]
  · rw [nextId_place hfresh, nextId_reserve, hkey, nextId_insert]
    omega

end Place

/-- A row that is there stays. -/
theorem mem_place {table : Table Row} {row other : Row} (hother : other ∈ table.rows) :
    other ∈ (table.place row).rows := by
  unfold place
  split
  · exact hother
  · exact List.mem_append_left _ hother

/-- A placed row is the only new one. -/
theorem mem_of_mem_place {table : Table Row} {row other : Row}
    (hother : other ∈ (table.place row).rows) : other ∈ table.rows ∨ other = row := by
  unfold place at hother
  split at hother
  · exact Or.inl hother
  · exact (List.mem_append.mp hother).imp_right List.mem_singleton.mp

/-! ## Update by key -/

/-- Replace the row with key `id` by its image under `change`. -/
def modify (table : Table Row) (id : Nat) (change : Row → Row)
    (hkey : ∀ row, Keyed.key (change row) = Keyed.key row := by intro _; rfl) :
    Table Row where
  rows := table.rows.map fun row => if Keyed.key row = id then change row else row
  nextId := table.nextId
  keys_nodup := by
    have hsame : (table.rows.map fun row => if Keyed.key row = id then change row else row).map
        Keyed.key = table.rows.map Keyed.key := by
      rw [List.map_map]
      apply List.map_congr_left
      intro row _
      simp only [Function.comp_apply]
      split
      · exact hkey row
      · rfl
    rw [hsame]
    exact table.keys_nodup
  keys_lt := by
    intro row hrow
    obtain ⟨old, hold, rfl⟩ := List.mem_map.mp hrow
    have hlt := table.keys_lt old hold
    split
    · rw [hkey]; exact hlt
    · exact hlt

@[simp] theorem rows_modify (table : Table Row) (id : Nat) (change : Row → Row)
    (hkey : ∀ row, Keyed.key (change row) = Keyed.key row) :
    (table.modify id change hkey).rows =
      table.rows.map fun row => if Keyed.key row = id then change row else row := rfl

@[simp] theorem nextId_modify (table : Table Row) (id : Nat) (change : Row → Row)
    (hkey : ∀ row, Keyed.key (change row) = Keyed.key row) :
    (table.modify id change hkey).nextId = table.nextId := rfl

/-- A row of a changed table is one of the old rows, changed or not. -/
theorem exists_of_mem_modify {table : Table Row} {id : Nat} {change : Row → Row}
    (hkey : ∀ row, Keyed.key (change row) = Keyed.key row) {row : Row}
    (hrow : row ∈ (table.modify id change hkey).rows) :
    ∃ old ∈ table.rows, row = old ∨ row = change old := by
  obtain ⟨old, hold, rfl⟩ := List.mem_map.mp hrow
  refine ⟨old, hold, ?_⟩
  split
  · exact Or.inr rfl
  · exact Or.inl rfl

/-! ## Deletion by key -/

/-- Delete the row with key `id`. -/
def delete (table : Table Row) (id : Nat) : Table Row where
  rows := table.rows.filter fun row => Keyed.key row != id
  nextId := table.nextId
  keys_nodup := table.keys_nodup.sublist (List.filter_sublist.map _)
  keys_lt := fun row hrow => table.keys_lt row (List.mem_of_mem_filter hrow)

@[simp] theorem rows_delete (table : Table Row) (id : Nat) :
    (table.delete id).rows = table.rows.filter fun row => Keyed.key row != id := rfl

/-! ## What a query of other rows sees -/

section Filter

variable {table : Table Row} {test : Row → Bool}

/-- A query does not see an inserted row that it does not select. -/
theorem filter_insert {make : Nat → Row} {hkey : ∀ id, Keyed.key (make id) = id}
    (hnew : test (make table.nextId) = false) :
    (table.insert make hkey).rows.filter test = table.rows.filter test := by
  rw [rows_insert, List.filter_append, List.filter_cons_of_neg (by simp [hnew]), List.filter_nil,
    List.append_nil]

/-- A query sees an inserted row that it selects at the end. -/
theorem filter_insert_of_test {make : Nat → Row} {hkey : ∀ id, Keyed.key (make id) = id}
    (hnew : test (make table.nextId) = true) :
    (table.insert make hkey).rows.filter test =
      table.rows.filter test ++ [make table.nextId] := by
  rw [rows_insert, List.filter_append, List.filter_cons_of_pos hnew, List.filter_nil]

end Filter

/-! ## Lookup by key -/

/-- `SELECT ... WHERE id = ...`. -/
def find? (table : Table Row) (id : Nat) : Option Row :=
  table.rows.find? fun row => Keyed.key row == id

theorem key_of_find? {table : Table Row} {id : Nat} {row : Row}
    (hfind : table.find? id = some row) : Keyed.key row = id := by
  simpa using List.find?_some hfind

theorem mem_of_find? {table : Table Row} {id : Nat} {row : Row}
    (hfind : table.find? id = some row) : row ∈ table.rows :=
  List.mem_of_find?_eq_some hfind

/-- Two rows of one table with one key are one row. -/
theorem eq_of_key_eq (table : Table Row) {left right : Row}
    (hleft : left ∈ table.rows) (hright : right ∈ table.rows)
    (hkey : Keyed.key left = Keyed.key right) : left = right :=
  List.inj_on_of_nodup_map table.keys_nodup hleft hright hkey

/-- A query does not see the change of a row that it does not select, before or after. -/
theorem filter_modify {table : Table Row} {test : Row → Bool} {row : Row} {change : Row → Row}
    (hkey : ∀ row, Keyed.key (change row) = Keyed.key row) (hrow : row ∈ table.rows)
    (hbefore : test row = false) (hafter : test (change row) = false) :
    (table.modify (Keyed.key row) change hkey).rows.filter test = table.rows.filter test := by
  have hone : ∀ other ∈ table.rows, Keyed.key other = Keyed.key row →
      test other = false ∧ test (change other) = false := by
    intro other hother hid
    rw [table.eq_of_key_eq hother hrow hid]
    exact ⟨hbefore, hafter⟩
  rw [rows_modify, List.filter_map]
  have htest : table.rows.filter
      (test ∘ fun other => if Keyed.key other = Keyed.key row then change other else other) =
        table.rows.filter test := by
    apply List.filter_congr
    intro other hother
    simp only [Function.comp_apply]
    split
    · rename_i hid
      rw [(hone other hother hid).1, (hone other hother hid).2]
    · rfl
  rw [htest]
  have hsame : ∀ other ∈ table.rows.filter test,
      (if Keyed.key other = Keyed.key row then change other else other) = other := by
    intro other hother
    obtain ⟨hmem, hselected⟩ := List.mem_filter.mp hother
    apply if_neg
    intro hid
    rw [(hone other hmem hid).1] at hselected
    cases hselected
  exact (List.map_congr_left hsame).trans (List.map_id _)

/-- A query does not see the deletion of a row that it does not select. -/
theorem filter_delete {table : Table Row} {test : Row → Bool} {row : Row} (hrow : row ∈ table.rows)
    (hgone : test row = false) :
    (table.delete (Keyed.key row)).rows.filter test = table.rows.filter test := by
  rw [rows_delete, List.filter_filter]
  apply List.filter_congr
  intro other hother
  by_cases hid : Keyed.key other = Keyed.key row
  · rw [table.eq_of_key_eq hother hrow hid, hgone, Bool.false_and]
  · simp [hid]

theorem find?_eq_some_iff {table : Table Row} {id : Nat} {row : Row} :
    table.find? id = some row ↔ row ∈ table.rows ∧ Keyed.key row = id := by
  constructor
  · intro hfind
    exact ⟨mem_of_find? hfind, key_of_find? hfind⟩
  · rintro ⟨hmem, rfl⟩
    cases hfind : table.find? (Keyed.key row) with
    | none =>
        have hnone := List.find?_eq_none.mp hfind row hmem
        simp at hnone
    | some found =>
        congr 1
        exact table.eq_of_key_eq (mem_of_find? hfind) hmem (key_of_find? hfind)

theorem find?_eq_none_of_le {table : Table Row} {id : Nat} (hid : table.nextId ≤ id) :
    table.find? id = none := by
  apply List.find?_eq_none.mpr
  intro row hrow
  have hlt := table.keys_lt row hrow
  have hne : Keyed.key row ≠ id := by omega
  simpa using hne

theorem find?_delete (table : Table Row) (id other : Nat) :
    (table.delete id).find? other = if other = id then none else table.find? other := by
  split
  · rename_i hother
    apply List.find?_eq_none.mpr
    intro row hrow hkey
    have hne := (List.mem_filter.mp hrow).2
    simp_all
  · rename_i hother
    cases hfind : table.find? other with
    | none =>
        apply List.find?_eq_none.mpr
        intro row hrow
        exact List.find?_eq_none.mp hfind row (List.mem_of_mem_filter hrow)
    | some row =>
        obtain ⟨hmem, hrow⟩ := find?_eq_some_iff.mp hfind
        apply find?_eq_some_iff.mpr
        exact ⟨List.mem_filter.mpr ⟨hmem, by simpa [hrow] using hother⟩, hrow⟩

theorem find?_insert (table : Table Row) (make : Nat → Row)
    (hkey : ∀ id, Keyed.key (make id) = id) (other : Nat) :
    (table.insert make hkey).find? other =
      if other = table.nextId then some (make table.nextId) else table.find? other := by
  have hrows : (table.insert make hkey).find? other =
      (table.find? other).or (if Keyed.key (make table.nextId) == other then
        some (make table.nextId) else none) := by
    unfold find?
    rw [rows_insert, List.find?_append, List.find?_singleton]
  rw [hrows, hkey]
  by_cases hother : other = table.nextId
  · rw [hother, find?_eq_none_of_le (Nat.le_refl _)]
    simp
  · have hne : ¬ table.nextId = other := fun h => hother h.symm
    simp [hother, hne]

/-- Changing a row that is not there changes nothing. -/
theorem modify_of_find?_eq_none {table : Table Row} {id : Nat} (hfind : table.find? id = none)
    {change : Row → Row} (hkey : ∀ row, Keyed.key (change row) = Keyed.key row) :
    table.modify id change hkey = table := by
  have hsame : ∀ row ∈ table.rows, (if Keyed.key row = id then change row else row) = row := by
    intro row hrow
    have hother : Keyed.key row ≠ id := by simpa using List.find?_eq_none.mp hfind row hrow
    exact if_neg hother
  have hrows : (table.modify id change hkey).rows = table.rows := by
    rw [rows_modify]
    exact (List.map_congr_left hsame).trans (List.map_id _)
  exact eq_of_rows hrows rfl

theorem find?_modify (table : Table Row) (id other : Nat) (change : Row → Row)
    (hkey : ∀ row, Keyed.key (change row) = Keyed.key row) :
    (table.modify id change hkey).find? other =
      if other = id then (table.find? other).map change else table.find? other := by
  cases hfind : table.find? other with
  | none =>
      have hnone : (table.modify id change hkey).find? other = none := by
        apply List.find?_eq_none.mpr
        intro row hrow
        obtain ⟨old, hold, rfl⟩ := List.mem_map.mp hrow
        have hold' := List.find?_eq_none.mp hfind old hold
        split
        · rw [hkey]; exact hold'
        · exact hold'
      rw [hnone]
      split <;> rfl
  | some row =>
      obtain ⟨hmem, hrow⟩ := find?_eq_some_iff.mp hfind
      have himage : (table.modify id change hkey).find? other =
          some (if Keyed.key row = id then change row else row) := by
        rw [find?_eq_some_iff]
        refine ⟨List.mem_map.mpr ⟨row, hmem, rfl⟩, ?_⟩
        split
        · rw [hkey]; exact hrow
        · exact hrow
      rw [himage, hrow]
      split <;> rfl

end Table

/-! ## The newest row -/

section Newest

variable {Row : Type} [Keyed Row]

/-- `row` comes before `other` in `ORDER BY stamp DESC`, ties left to the engine. -/
def Newer (tie : Nat → Nat) (stamp : Row → Int) (row other : Row) : Prop :=
  stamp other < stamp row ∨
    stamp other = stamp row ∧ tie (Keyed.key other) < tie (Keyed.key row)

instance decidableNewer (tie : Nat → Nat) (stamp : Row → Int) (row other : Row) :
    Decidable (Newer tie stamp row other) :=
  inferInstanceAs (Decidable (_ ∨ _ ∧ _))

/-- `ORDER BY stamp DESC LIMIT 1`. -/
def newest (tie : Nat → Nat) (stamp : Row → Int) (rows : List Row) : Option Row :=
  rows.foldl (List.argAux (Newer tie stamp)) none

variable {tie : Nat → Nat} {stamp : Row → Int} {rows : List Row}

theorem newer_irrefl (row : Row) : ¬ Newer tie stamp row row := by
  rintro (hlt | ⟨_, hlt⟩)
  · exact Int.lt_irrefl _ hlt
  · exact Nat.lt_irrefl _ hlt

theorem newer_trans {first second third : Row} (hfirst : Newer tie stamp first second)
    (hsecond : Newer tie stamp second third) : Newer tie stamp first third := by
  unfold Newer at *
  omega

/-- What comes before a row comes before all that do not come before that row. -/
theorem newer_of_not_newer {first second third : Row} (hfirst : Newer tie stamp first second)
    (hsecond : ¬ Newer tie stamp third second) : Newer tie stamp first third := by
  unfold Newer at *
  omega

@[simp] theorem newest_nil : newest tie stamp ([] : List Row) = none := rfl

theorem newest_concat_eq (rows : List Row) (row : Row) :
    newest tie stamp (rows ++ [row]) =
      match newest tie stamp rows with
      | none => some row
      | some best => if Newer tie stamp row best then some row else some best := by
  unfold newest
  rw [List.foldl_concat]
  cases rows.foldl (List.argAux (Newer tie stamp)) none <;> rfl

theorem newest_eq_none_iff : newest tie stamp rows = none ↔ rows = [] := by
  unfold newest
  rw [List.foldl_argAux_eq_none]
  exact and_iff_left rfl

theorem mem_of_newest {row : Row} (hnewest : newest tie stamp rows = some row) :
    row ∈ rows := by
  induction rows using List.reverseRecOn with
  | nil => cases hnewest
  | append_singleton rows last ih =>
      rw [newest_concat_eq] at hnewest
      split at hnewest
      · cases hnewest
        exact List.mem_append_right _ (List.mem_singleton_self _)
      · rename_i best hbest
        split at hnewest
        · cases hnewest
          exact List.mem_append_right _ (List.mem_singleton_self _)
        · cases hnewest
          exact List.mem_append_left _ (ih hbest)

/-- No row comes before the newest. -/
theorem not_newer_of_newest {row other : Row} (hnewest : newest tie stamp rows = some row)
    (hother : other ∈ rows) : ¬ Newer tie stamp other row :=
  List.not_of_mem_foldl_argAux (Newer tie stamp) ⟨newer_irrefl⟩ ⟨fun _ _ _ => newer_trans⟩ hother
    hnewest

/-- Appending a row either makes it the newest or leaves the newest as it was. -/
theorem newest_concat (row : Row) :
    newest tie stamp (rows ++ [row]) = some row ∨
      newest tie stamp (rows ++ [row]) = newest tie stamp rows := by
  rw [newest_concat_eq]
  cases newest tie stamp rows with
  | none => exact Or.inl rfl
  | some best =>
      by_cases hnewer : Newer tie stamp row best
      · exact Or.inl (if_pos hnewer)
      · exact Or.inr (if_neg hnewer)

/-- The appended row is the newest exactly when it comes before every row there was. -/
theorem newest_concat_eq_self_iff {row : Row} (hfresh : row ∉ rows) :
    newest tie stamp (rows ++ [row]) = some row ↔ ∀ old ∈ rows, Newer tie stamp row old := by
  rw [newest_concat_eq]
  cases hbest : newest tie stamp rows with
  | none =>
      rw [newest_eq_none_iff] at hbest
      simp [hbest]
  | some best =>
      have hmem := mem_of_newest hbest
      by_cases hnewer : Newer tie stamp row best
      · simp only [hnewer, if_true, true_iff]
        intro old hold
        exact newer_of_not_newer hnewer (not_newer_of_newest hbest hold)
      · simp only [hnewer, if_false, Option.some.injEq]
        constructor
        · rintro rfl
          exact absurd hmem hfresh
        · intro hall
          exact absurd (hall best hmem) hnewer

/-- A row stamped after all others is the newest. -/
theorem newest_concat_of_lt {row : Row} (hlt : ∀ old ∈ rows, stamp old < stamp row) :
    newest tie stamp (rows ++ [row]) = some row := by
  have hfresh : row ∉ rows := fun hmem => Int.lt_irrefl _ (hlt row hmem)
  exact (newest_concat_eq_self_iff hfresh).mpr fun old hold => Or.inl (hlt old hold)

end Newest

end StockMonitoring.Foundation
