import Mathlib.Data.List.Forall2
import Mathlib.Data.List.Induction
import Mathlib.Data.List.Nodup

set_option autoImplicit false

/-!
# Foundation: facts about lists

Lists related pairwise, lower bounds, and counts.
-/

namespace StockMonitoring.Foundation

variable {α β : Type}

/-- Of two lists related pairwise, every entry of the first has its partner. -/
theorem exists_partner {related : α → β → Prop} {left : List α} {right : List β}
    (hrelated : List.Forall₂ related left right) {entry : α} (hentry : entry ∈ left) :
    ∃ partner ∈ right, related entry partner := by
  induction hrelated with
  | nil => cases hentry
  | cons hhead _ ih =>
      rcases List.mem_cons.mp hentry with rfl | hlater
      · exact ⟨_, List.mem_cons_self, hhead⟩
      · obtain ⟨partner, hpartner, hlater⟩ := ih hlater
        exact ⟨partner, List.mem_cons_of_mem _ hpartner, hlater⟩

/-- A list related to another by a function is its image. -/
theorem eq_map_of_forall₂ {f : α → β} {left : List α} {right : List β}
    (hrelated : List.Forall₂ (fun entry image => image = f entry) left right) :
    right = left.map f := by
  induction hrelated with
  | nil => rfl
  | cons hhead _ ih => rw [List.map_cons, hhead, ih]

/-- A list is cut in only one way at the first of its marks. -/
theorem append_mark_inj {mark : α} {before other after rest : List α} (hbefore : mark ∉ before)
    (hother : mark ∉ other) (heq : before ++ mark :: after = other ++ mark :: rest) :
    before = other ∧ after = rest := by
  induction before generalizing other with
  | nil =>
      cases other with
      | nil => exact ⟨rfl, (List.cons.inj heq).2⟩
      | cons head tail => exact absurd List.mem_cons_self ((List.cons.inj heq).1 ▸ hother)
  | cons head tail ih =>
      cases other with
      | nil => exact absurd List.mem_cons_self ((List.cons.inj heq).1 ▸ hbefore)
      | cons head' tail' =>
          obtain ⟨rfl, htail⟩ := List.cons.inj heq
          obtain ⟨rfl, hafter⟩ := ih (fun hmem => hbefore (List.mem_cons_of_mem _ hmem))
            (fun hmem => hother (List.mem_cons_of_mem _ hmem)) htail
          exact ⟨rfl, hafter⟩

/-- An entry of a list in which one entry was changed. -/
theorem getElem?_modify_cases {items : List α} {change : α → α} {index position : Nat} {entry : α}
    (hentry : (items.modify index change)[position]? = some entry) :
    (position = index ∧ ∃ old, items[index]? = some old ∧ entry = change old) ∨
      (position ≠ index ∧ items[position]? = some entry) := by
  by_cases hposition : position = index
  · subst hposition
    rw [List.getElem?_modify_eq] at hentry
    obtain ⟨old, hold, rfl⟩ := Option.map_eq_some_iff.mp hentry
    exact Or.inl ⟨rfl, old, hold, rfl⟩
  · rw [List.getElem?_modify_ne _ _ (Ne.symm hposition)] at hentry
    exact Or.inr ⟨hposition, hentry⟩

/-- An entry of a list with one more at the end. -/
theorem getElem?_concat_cases {items : List α} {item entry : α} {index : Nat}
    (hentry : (items ++ [item])[index]? = some entry) :
    items[index]? = some entry ∨ (index = items.length ∧ entry = item) := by
  rw [List.getElem?_append] at hentry
  split at hentry
  · exact Or.inl hentry
  · rename_i hge
    have hzero : index - items.length = 0 := by
      have hlt := (List.getElem?_eq_some_iff.mp hentry).1
      simp only [List.length_singleton] at hlt
      omega
    rw [hzero] at hentry
    cases hentry
    exact Or.inr ⟨by omega, rfl⟩

/-- The images of a list are pairwise different when no value is taken twice. -/
theorem nodup_map_iff_countP_le_one [DecidableEq β] {value : α → β} {items : List α} :
    (items.map value).Nodup ↔ ∀ key, items.countP (fun item => value item == key) ≤ 1 := by
  rw [List.nodup_iff_count_le_one]
  refine forall_congr' fun key => ?_
  rw [List.count_eq_countP, List.countP_map]
  rfl

/-- A count is bounded if every entry that counts finds it below the bound. -/
theorem countP_le_of_splits {test : α → Bool} {bound : Nat} {items : List α}
    (hsplits : ∀ earlier item later, items = earlier ++ item :: later → test item = true →
      earlier.countP test < bound) : items.countP test ≤ bound := by
  induction items using List.reverseRecOn with
  | nil => exact Nat.zero_le _
  | append_singleton items item ih =>
      have hearlier : items.countP test ≤ bound := by
        apply ih
        intro earlier other later hitems
        exact hsplits earlier other (later ++ [item]) (by rw [hitems]; simp)
      rw [List.countP_append, List.countP_singleton]
      split
      · rename_i hitem
        exact hsplits items item [] rfl hitem
      · exact hearlier

/-- If all entries after one that passes a test pass it too, the list is its failing
entries followed by its passing ones. -/
theorem filter_not_append_filter {test : α → Bool} {items : List α}
    (hupward : items.Pairwise fun item other => test item = true → test other = true) :
    items.filter (fun item => !test item) ++ items.filter test = items := by
  induction items with
  | nil => rfl
  | cons item rest ih =>
      obtain ⟨hitem, hrest⟩ := List.pairwise_cons.mp hupward
      cases htest : test item with
      | false =>
          rw [List.filter_cons_of_pos (by simp [htest]), List.filter_cons_of_neg (by simp [htest]),
            List.cons_append, ih hrest]
      | true =>
          have hall : ∀ other ∈ rest, test other = true := fun other hother =>
            hitem other hother htest
          have hnone : rest.filter (fun other => !test other) = [] := by
            rw [List.filter_eq_nil_iff]
            intro other hother
            simp [hall other hother]
          rw [List.filter_cons_of_neg (by simp [htest]), List.filter_cons_of_pos htest, hnone,
            List.nil_append, List.filter_eq_self.mpr hall]

/-! ## Properties of the entries and of each two of them -/

/-- Each entry has a property, and each two at different places are related. -/
structure Placed (single : α → Prop) (pair : α → α → Prop) (items : List α) : Prop where
  single : ∀ item ∈ items, single item
  pair : ∀ (left right : Nat) item other, left ≠ right → items[left]? = some item →
    items[right]? = some other → pair item other

theorem placed_nil (single : α → Prop) (pair : α → α → Prop) : Placed single pair [] :=
  ⟨fun item hitem => (by cases hitem), fun _ _ _ _ _ hitem => (by simp at hitem)⟩

/-- One entry is replaced. -/
theorem Placed.set {single later : α → Prop} {pair : α → α → Prop} {items : List α} {index : Nat}
    {item after : α} (hplaced : Placed single pair items) (hitem : items[index]? = some item)
    (hafter : later after)
    (hothers : ∀ (position : Nat) other, position ≠ index → items[position]? = some other →
      single other → pair item other → pair other item →
        later other ∧ pair after other ∧ pair other after) :
    Placed later pair (items.set index after) := by
  have hkept : ∀ (position : Nat) other, position ≠ index → items[position]? = some other →
      later other ∧ pair after other ∧ pair other after := by
    intro position other hne hother
    exact hothers position other hne hother (hplaced.single other (List.mem_of_getElem? hother))
      (hplaced.pair index position item other hne.symm hitem hother)
      (hplaced.pair position index other item hne hother hitem)
  refine ⟨?_, ?_⟩
  · intro other hmem
    obtain ⟨position, hother⟩ := List.getElem?_of_mem hmem
    simp only [List.getElem?_set] at hother
    split at hother
    · split at hother
      · cases hother
        exact hafter
      · cases hother
    · rename_i hne
      exact (hkept position other (Ne.symm hne) hother).1
  · intro left right first second hne hleft hright
    simp only [List.getElem?_set] at hleft hright
    split at hleft
    · rename_i hindex
      split at hleft
      · cases hleft
        rw [if_neg (hindex ▸ hne)] at hright
        exact (hkept right second (hindex ▸ hne.symm) hright).2.1
      · cases hleft
    · rename_i hleftNe
      split at hright
      · rename_i hindex
        split at hright
        · cases hright
          exact (hkept left first (Ne.symm hleftNe) hleft).2.2
        · cases hright
      · exact hplaced.pair left right first second hne hleft hright

/-- One entry is added. -/
theorem Placed.concat {single later : α → Prop} {pair : α → α → Prop} {items : List α} {item : α}
    (hplaced : Placed single pair items) (hitem : later item)
    (hothers : ∀ other ∈ items, single other → later other ∧ pair item other ∧ pair other item) :
    Placed later pair (items ++ [item]) := by
  have hkept : ∀ other ∈ items, later other ∧ pair item other ∧ pair other item :=
    fun other hother => hothers other hother (hplaced.single other hother)
  refine ⟨?_, ?_⟩
  · intro other hmem
    rcases List.mem_append.mp hmem with hold | hnew
    · exact (hkept other hold).1
    · rw [List.mem_singleton.mp hnew]
      exact hitem
  · intro left right first second hne hleft hright
    rcases getElem?_concat_cases hleft with hfirst | ⟨hlast, rfl⟩
    · rcases getElem?_concat_cases hright with hsecond | ⟨_, rfl⟩
      · exact hplaced.pair left right first second hne hfirst hsecond
      · exact (hkept first (List.mem_of_getElem? hfirst)).2.2
    · rcases getElem?_concat_cases hright with hsecond | ⟨hlast', rfl⟩
      · exact (hkept second (List.mem_of_getElem? hsecond)).2.1
      · exact absurd (hlast.trans hlast'.symm) hne

end StockMonitoring.Foundation
