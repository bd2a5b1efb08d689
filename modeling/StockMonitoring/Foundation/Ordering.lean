import StockMonitoring.Foundation.Table
import Mathlib.Data.List.Sort

set_option autoImplicit false

/-!
# Foundation: ordered queries

`ORDER BY stamp DESC` and `ORDER BY stamp ASC`, with `tie` for the engine's choice
among rows with an equal stamp, and a stable sort by a key.  A limit keeps the first
rows of an ordered query, so with a row it keeps every row that comes before it
(`mem_take_of_newer`).
-/

namespace StockMonitoring.Foundation

/-! ## Sorting by a key -/

section SortBy

variable {α : Type} (key : α → Int)

/-- A stable sort by a key, smallest first. -/
def sortBy (items : List α) : List α :=
  items.insertionSort fun item other => key item ≤ key other

instance totalKeyLe : Std.Total fun item other : α => key item ≤ key other :=
  ⟨fun item other => Int.le_total (key item) (key other)⟩

instance transKeyLe : IsTrans α fun item other => key item ≤ key other :=
  ⟨fun _ _ _ => Int.le_trans⟩

theorem sortBy_perm (items : List α) : (sortBy key items).Perm items :=
  List.perm_insertionSort _ items

@[simp] theorem mem_sortBy {items : List α} {item : α} : item ∈ sortBy key items ↔ item ∈ items :=
  (sortBy_perm key items).mem_iff

theorem sortBy_pairwise (items : List α) :
    (sortBy key items).Pairwise fun item other => key item ≤ key other :=
  List.pairwise_insertionSort _ items

variable {key}

/-- Sorting a list whose items have different keys gives the one increasing list of them. -/
theorem filter_sortBy_eq {test : α → Bool} {items increasing : List α}
    (hincreasing : increasing.Pairwise fun item other => key item < key other)
    (hperm : (items.filter test).Perm increasing) :
    (sortBy key items).filter test = increasing := by
  have hsorted : ((sortBy key items).filter test).Pairwise fun item other =>
      key item ≤ key other := (sortBy_pairwise key items).filter _
  have hperm' : ((sortBy key items).filter test).Perm increasing :=
    ((sortBy_perm key items).filter test).trans hperm
  refine List.Perm.eq_of_pairwise ?_ hsorted (hincreasing.imp fun h => Int.le_of_lt h) hperm'
  intro item other hitem hother hle hge
  have hkeys : (increasing.map key).Nodup :=
    List.pairwise_map.mpr (hincreasing.imp fun h => Int.ne_of_lt h)
  exact List.inj_on_of_nodup_map hkeys (hperm'.subset hitem) hother (Int.le_antisymm hle hge)

end SortBy

/-! ## Ordered queries -/

section Order

variable {Row : Type} [Keyed Row] (tie : Nat → Nat) (stamp : Row → Int)

/-- `ORDER BY stamp DESC`. -/
def orderDesc (rows : List Row) : List Row :=
  rows.insertionSort fun row other => ¬ Newer tie stamp other row

/-- `ORDER BY stamp ASC`. -/
def orderAsc (rows : List Row) : List Row :=
  orderDesc tie (fun row => -stamp row) rows

instance totalNotNewer : Std.Total fun row other : Row => ¬ Newer tie stamp other row := by
  constructor
  intro row other
  unfold Newer
  omega

instance transNotNewer : IsTrans Row fun row other => ¬ Newer tie stamp other row := by
  constructor
  intro first second third hfirst hsecond
  unfold Newer at *
  omega

theorem orderDesc_perm (rows : List Row) : (orderDesc tie stamp rows).Perm rows :=
  List.perm_insertionSort _ rows

@[simp] theorem mem_orderDesc {rows : List Row} {row : Row} :
    row ∈ orderDesc tie stamp rows ↔ row ∈ rows :=
  (orderDesc_perm tie stamp rows).mem_iff

@[simp] theorem mem_orderAsc {rows : List Row} {row : Row} :
    row ∈ orderAsc tie stamp rows ↔ row ∈ rows :=
  mem_orderDesc tie _

/-- No row comes before one that is listed earlier. -/
theorem orderDesc_pairwise (rows : List Row) :
    (orderDesc tie stamp rows).Pairwise fun row other => ¬ Newer tie stamp other row :=
  List.pairwise_insertionSort _ rows

/-- Rows that are already in ascending order stay as they are. -/
theorem orderAsc_eq_self {rows : List Row}
    (hincreasing : rows.Pairwise fun row other => stamp row < stamp other) :
    orderAsc tie stamp rows = rows := by
  refine List.Pairwise.insertionSort_eq (hincreasing.imp ?_)
  intro row other hlt hnewer
  simp only [Newer] at hnewer
  omega

variable {tie stamp}

/-- A limit that keeps a row keeps the rows stamped after it. -/
theorem mem_take_of_newer {rows : List Row} {limit : Nat} {row other : Row}
    (hrow : row ∈ (orderDesc tie stamp rows).take limit) (hother : other ∈ rows)
    (hlt : stamp row < stamp other) : other ∈ (orderDesc tie stamp rows).take limit := by
  have hlisted := (mem_orderDesc tie stamp).mpr hother
  rw [← List.take_append_drop limit (orderDesc tie stamp rows), List.mem_append] at hlisted
  rcases hlisted with hkept | hcut
  · exact hkept
  · have hordered := orderDesc_pairwise tie stamp rows
    rw [← List.take_append_drop limit (orderDesc tie stamp rows)] at hordered
    exact absurd (Or.inl hlt) ((List.pairwise_append.mp hordered).2.2 row hrow other hcut)

end Order

end StockMonitoring.Foundation
