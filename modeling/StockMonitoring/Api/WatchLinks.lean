import StockMonitoring.Api.RequestEffects
import StockMonitoring.Api.SharedTargets

set_option autoImplicit false

/-!
# Api: what an active watch is linked to

A watch names a product and a watch target, and the target carries a copy of the
product's keyword.  A product is deleted only when no active watch is on it, and a target
is never deleted and keeps its key; so the links of the active watches stay
(`linked_of_effect`), whether or not the engine enforces the foreign keys.
-/

namespace StockMonitoring.Api

open StockMonitoring.Foundation StockMonitoring.Domain StockMonitoring.Application
  StockMonitoring.Infrastructure.Db

/-- The watch is on a product of its own user and on a target with the product's keyword. -/
def LinkedWatch (db : Database) (watch : WatchModel) : Prop :=
  ∃ product ∈ db.products.rows, product.id = watch.productId ∧ product.userId = watch.userId ∧
    ∃ target ∈ db.watchTargets.rows, target.id = watch.watchTargetId ∧
      target.keyword = product.keyword

/-- The active watches are linked, and no two targets have one key. -/
structure Linked (db : Database) : Prop where
  /-- `uq_watch_target` -/
  targetKeys : (db.watchTargets.rows.map targetKey).Nodup
  watch : ∀ watch ∈ db.watches.rows, watch.isActive = true → LinkedWatch db watch

section Effects

variable {db mid next : Database} {retailerSlug city pincode keyword : String}
  {intervalSeconds : Int} {watchTargetId userId : Nat}

/-- `get_or_create` keeps every target and its keyword, and gives one with the keyword. -/
theorem targetFor_keyword
    (htarget : targetFor db retailerSlug city pincode keyword intervalSeconds =
      .ok (watchTargetId, mid)) :
    (∀ target ∈ db.watchTargets.rows, ∃ kept ∈ mid.watchTargets.rows, kept.id = target.id ∧
        kept.keyword = target.keyword) ∧
      ∃ target ∈ mid.watchTargets.rows, target.id = watchTargetId ∧ target.keyword = keyword := by
  rcases targetFor_cases htarget with ⟨existing, hmem, rfl, rfl, rfl⟩ | ⟨rfl, rfl⟩
  · have hkept : ∀ target ∈ db.watchTargets.rows,
        ∃ kept ∈ (if intervalSeconds < existing.intervalSeconds then
            SqlAlchemyWatchTargetRepository.setInterval db existing.id intervalSeconds
          else db).watchTargets.rows, kept.id = target.id ∧ kept.keyword = target.keyword := by
      intro target htarget
      split
      · refine ⟨_, List.mem_map_of_mem htarget, ?_⟩
        split <;> exact ⟨rfl, rfl⟩
      · exact ⟨target, htarget, rfl, rfl⟩
    exact ⟨hkept, hkept existing hmem⟩
  · refine ⟨fun target htarget => ⟨target, List.mem_append_left _ htarget, rfl, rfl⟩, ?_⟩
    exact ⟨_, List.mem_append_right _ List.mem_cons_self, rfl, rfl⟩

/-- A link outlives what keeps the product and the target. -/
theorem LinkedWatch.mono {watch : WatchModel} (hlinked : LinkedWatch db watch)
    (hproducts : ∀ product ∈ db.products.rows, product.id = watch.productId →
      product ∈ next.products.rows)
    (htargets : ∀ target ∈ db.watchTargets.rows, ∃ kept ∈ next.watchTargets.rows,
      kept.id = target.id ∧ kept.keyword = target.keyword) : LinkedWatch next watch := by
  obtain ⟨product, hproduct, hid, howner, target, htarget, htargetId, hkeyword⟩ := hlinked
  obtain ⟨kept, hkept, hkeptId, hkeptKeyword⟩ := htargets target htarget
  exact ⟨product, hproducts product hproduct hid, hid, howner, kept, hkept,
    hkeptId.trans htargetId, hkeptKeyword.trans hkeyword⟩

/-- Every effect keeps the active watches linked. -/
theorem linked_of_effect (hlinked : Linked db) (heffect : Effect userId db next) :
    Linked next := by
  have hsame : ∀ target ∈ db.watchTargets.rows, ∃ kept ∈ db.watchTargets.rows,
      kept.id = target.id ∧ kept.keyword = target.keyword :=
    fun target htarget => ⟨target, htarget, rfl, rfl⟩
  cases heffect with
  | nothing => exact hlinked
  | productCreated name keyword canonicalImageUrl =>
      refine ⟨hlinked.targetKeys, fun watch hwatch hactive => ?_⟩
      exact (hlinked.watch watch hwatch hactive).mono
        (fun product hproduct _ => List.mem_append_left _ hproduct) hsame
  | productDeleted deleted hmem howner hunwatched =>
      refine ⟨hlinked.targetKeys, fun watch hwatch hactive => ?_⟩
      refine (hlinked.watch watch hwatch hactive).mono (fun product hproduct hid => ?_) hsame
      -- an active watch on the deleted product would have been listed
      have hother : Keyed.key product ≠ deleted.id := by
        intro heq
        have hlisted : watch ∈ db.watches.rows.filter
            (fun row => row.productId == deleted.id && row.isActive) := by
          refine List.mem_filter.mpr ⟨hwatch, ?_⟩
          have hproductId : watch.productId = deleted.id := hid.symm.trans heq
          rw [hproductId, beq_self_eq_true, hactive]
          rfl
        rw [List.map_eq_nil_iff.mp hunwatched] at hlisted
        cases hlisted
      exact List.mem_filter.mpr ⟨hproduct, by simpa using hother⟩
  | watchCreated product hmem howner _ _ _ _ _ mid htarget =>
      obtain ⟨hkept, target, htargetMem, htargetId, hkeyword⟩ := targetFor_keyword htarget
      have hkeys := targetKeys_targetFor hlinked.targetKeys htarget
      obtain ⟨table, rfl⟩ := exists_targetFor_eq htarget
      refine ⟨hkeys, fun watch hwatch hactive => ?_⟩
      rcases List.mem_append.mp hwatch with hold | hnew
      · exact (hlinked.watch watch hold hactive).mono (fun _ hproduct _ => hproduct) hkept
      · rw [List.mem_singleton.mp hnew]
        exact ⟨product, hmem, rfl, howner, target, htargetMem, htargetId, hkeyword⟩
  | watchDeactivated watch hmem howner =>
      refine ⟨hlinked.targetKeys, fun other hother hactive => ?_⟩
      obtain ⟨old, hold, rfl | rfl⟩ := Table.exists_of_mem_modify (by intro _; rfl) hother
      · exact hlinked.watch other hold hactive
      · cases hactive
  | channelCreated type config => exact ⟨hlinked.targetKeys, hlinked.watch⟩
  | channelVerified channel hmem howner => exact ⟨hlinked.targetKeys, hlinked.watch⟩
  | channelDeleted channel hmem howner => exact ⟨hlinked.targetKeys, hlinked.watch⟩
  | settingSet key value _ hset =>
      rcases withSetting_cases hset with ⟨existing, _, _, _, rfl⟩ | rfl
      · exact ⟨hlinked.targetKeys, hlinked.watch⟩
      · exact ⟨hlinked.targetKeys, hlinked.watch⟩

/-- Every request keeps the active watches linked. -/
theorem linked_serve (tie : Nat → Nat) (arrival : ApiArrival) (hlinked : Linked db) :
    Linked (arrival.serve tie db).2 :=
  linked_of_effect hlinked (effect_of_serve tie arrival db)

end Effects

/-- From a database without watches and targets, any run of requests leads only to states in
which no two targets have one key and every active watch is on a product of its own user and
on a target with the product's keyword. -/
theorem active_watches_stay_linked {tie : Nat → Nat} {db : Database}
    (hwatches : db.watches.rows = []) (htargets : db.watchTargets.rows = [])
    (arrivals : List ApiArrival) : Throughout (apiStep tie) Linked db arrivals := by
  refine throughout_of_invariant ?_ arrivals ⟨?_, ?_⟩
  · intro state arrival next hstate hstep
    cases hstep
    exact linked_serve tie arrival hstate
  · rw [htargets]
    exact List.nodup_nil
  · rw [hwatches]
    exact fun watch hwatch => by cases hwatch

/-- Two users who share a target, from the start on. -/
theorem shared_target_stays_linked :
    Throughout (apiStep fun key => key) Linked sharedDb sharedArrivals :=
  active_watches_stay_linked (by decide) (by decide) sharedArrivals

end StockMonitoring.Api
